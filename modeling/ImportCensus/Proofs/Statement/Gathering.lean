import ImportCensus.Proofs.Statement.Scanner
import Mathlib.Data.List.Basic
import Mathlib.Data.List.Find
import Mathlib.Data.List.Induction
/-!
# What a matching line gives out

The fragments of a text, said by the positions of its lines.  A line that belongs to the wanted
package gives one fragment: itself if it holds the keyword, and otherwise the text gathered from
the lines before it.  That text has two parts:

* the *held* line, which stands at the place that `IsHeld` describes;
* the *open* lines, which come after the last line without the keyword and belong to other
  packages.

`Tracks` is the invariant that ties both to the state of the scanner.
-/

namespace ImportCensus.Statement

def lineIs (p : Text → Bool) (lines : List Text) (k : Nat) : Bool :=
  lines[k]?.any p

/-- The last line without the keyword. -/
def lastOther? (before : List Text) : Option Nat :=
  (List.range before.length).reverse.find? (lineIs (!mentionsImport ·) before)

/-- Where the lines begin that come after the last one without the keyword. -/
def openFrom (before : List Text) : Nat :=
  match lastOther? before with
  | some j => j + 1
  | none => 0

/-- The lines after the last one without the keyword that belong to other packages. -/
def openLines (package : PackageFilter) (before : List Text) : List Text :=
  (before.drop (openFrom before)).filter package.opens

/-- Line `k`, one without the keyword and of another package, is still held after the lines
`before`. -/
structure IsHeld (package : PackageFilter) (before : List Text) (k : Nat) : Prop where
  passes : lineIs package.passes before k = true
  /-- It begins the text or follows a line that opens a statement. -/
  first : k = 0 ∨ lineIs package.opens before (k - 1) = true
  /-- No line after it gives gathered text out. -/
  kept : ∀ m, k < m → lineIs package.closes before m = false
  /-- No statement is opened between it and the last line without the keyword. -/
  last : ∃ j, lastOther? before = some j ∧ k ≤ j ∧
    ∀ m, k < m → m < j → lineIs package.opens before m = false

section Lines

variable {package : PackageFilter} {before : List Text} {line : Text} {p : Text → Bool} {k : Nat}

theorem lineIs_iff : lineIs p before k = true ↔ ∃ l, before[k]? = some l ∧ p l = true := by
  cases h : before[k]? <;> simp [lineIs, h]

theorem lt_length_of_lineIs (h : lineIs p before k = true) : k < before.length := by
  obtain ⟨l, hl, -⟩ := lineIs_iff.1 h
  exact (List.getElem?_eq_some_iff.1 hl).1

theorem lineIs_eq_false_of_le (h : before.length ≤ k) : lineIs p before k = false := by
  rw [lineIs, List.getElem?_eq_none h, Option.any_none]

theorem lineIs_concat_of_lt (h : k < before.length) :
    lineIs p (before ++ [line]) k = lineIs p before k := by
  rw [lineIs, List.getElem?_append_left h, lineIs]

@[simp] theorem lineIs_concat_self : lineIs p (before ++ [line]) before.length = p line := by
  simp [lineIs]

theorem lineIs_concat_of_not (h : p line = false) :
    lineIs p (before ++ [line]) k = lineIs p before k := by
  rcases Nat.lt_trichotomy k before.length with hk | rfl | hk
  · exact lineIs_concat_of_lt hk
  · rw [lineIs_concat_self, h, lineIs_eq_false_of_le (Nat.le_refl _)]
  · rw [lineIs_eq_false_of_le (by simp; omega), lineIs_eq_false_of_le hk.le]

theorem other_of_passes (h : lineIs package.passes before k = true) :
    lineIs (!mentionsImport ·) before k = true := by
  obtain ⟨l, hl, hp⟩ := lineIs_iff.1 h
  exact lineIs_iff.2 ⟨l, hl, by simp [(PackageFilter.passes_iff.mp hp).1]⟩

theorem not_opens_of_other (h : lineIs (!mentionsImport ·) before k = true) :
    lineIs package.opens before k = false := by
  obtain ⟨l, hl, ho⟩ := lineIs_iff.1 h
  rw [Bool.not_eq_true'] at ho
  simp [lineIs, hl, PackageFilter.opens, ho]

theorem lastOther?_concat :
    lastOther? (before ++ [line]) =
      if mentionsImport line then lastOther? before else some before.length := by
  unfold lastOther?
  rw [List.length_append, List.length_singleton, List.range_succ, List.reverse_append,
    List.reverse_singleton, List.singleton_append, List.find?_cons, lineIs_concat_self]
  cases mentionsImport line
  · rfl
  · simp only [Bool.not_true, if_true]
    apply List.find?_congr
    intro m hm
    exact lineIs_concat_of_lt (by simpa using hm)

theorem lt_length_of_lastOther? {j : Nat} (h : lastOther? before = some j) :
    j < before.length := by
  simpa using List.mem_of_find?_eq_some h

theorem exists_lastOther? (h : lineIs (!mentionsImport ·) before k = true) :
    ∃ j, lastOther? before = some j ∧ k ≤ j := by
  induction before using List.reverseRecOn generalizing k with
  | nil => cases h
  | append_singleton before line ih =>
    rw [lastOther?_concat]
    have hk := lt_length_of_lineIs h
    rw [List.length_append, List.length_singleton] at hk
    cases hl : mentionsImport line with
    | false => exact ⟨before.length, rfl, by omega⟩
    | true =>
      have hne : k ≠ before.length := by
        rintro rfl
        simp [hl] at h
      exact ih (by rwa [lineIs_concat_of_lt (by omega)] at h)

end Lines

/-! ## The open lines -/

section Open

variable {package : PackageFilter} {before : List Text} {line : Text}

theorem openFrom_le : openFrom before ≤ before.length := by
  unfold openFrom
  cases h : lastOther? before with
  | none => exact Nat.zero_le _
  | some j => exact lt_length_of_lastOther? h

theorem openLines_concat_of_mentions (h : mentionsImport line = true) :
    openLines package (before ++ [line]) =
      openLines package before ++ [line].filter package.opens := by
  have hfrom : openFrom (before ++ [line]) = openFrom before := by
    simp only [openFrom, lastOther?_concat, h, if_true]
  rw [openLines, hfrom, List.drop_append_of_le_length openFrom_le, List.filter_append, openLines]

theorem openLines_concat_of_other (h : mentionsImport line = false) :
    openLines package (before ++ [line]) = [] := by
  have hfrom : openFrom (before ++ [line]) = (before ++ [line]).length := by
    simp [openFrom, lastOther?_concat, h]
  rw [openLines, hfrom, List.drop_length, List.filter_nil]

theorem openLines_eq_nil_iff :
    openLines package before = [] ↔
      ∀ m, openFrom before ≤ m → lineIs package.opens before m = false := by
  rw [openLines, List.filter_eq_nil_iff]
  constructor
  · intro h m hm
    by_contra ho
    rw [Bool.not_eq_false] at ho
    obtain ⟨l, hl, ho⟩ := lineIs_iff.1 ho
    refine h l (List.mem_iff_getElem?.2 ⟨m - openFrom before, ?_⟩) ho
    rw [List.getElem?_drop, Nat.add_sub_cancel' hm, hl]
  · intro h l hl ho
    obtain ⟨i, hi⟩ := List.mem_iff_getElem?.1 hl
    rw [List.getElem?_drop] at hi
    have hnot := h (openFrom before + i) (Nat.le_add_right _ _)
    rw [lineIs_iff.2 ⟨l, hi, ho⟩] at hnot
    cases hnot

theorem mentionsImport_flatten_openLines (h : openLines package before ≠ []) :
    mentionsImport (openLines package before).flatten = true := by
  obtain ⟨l, ls, hl⟩ := List.exists_cons_of_ne_nil h
  have hmem : l ∈ openLines package before := by simp [hl]
  have hopens := PackageFilter.opens_iff.mp (List.mem_filter.1 hmem).2
  rw [hl, List.flatten_cons]
  exact mentionsImport_of_isInfix (List.prefix_append _ _).isInfix hopens.1

end Open

/-! ## The held line -/

section Held

variable {package : PackageFilter} {before : List Text} {line : Text} {k : Nat}

theorem isHeld_iff : IsHeld package before k ↔
    lineIs package.passes before k = true ∧
      (k = 0 ∨ lineIs package.opens before (k - 1) = true) ∧
      (∀ m, k < m → lineIs package.closes before m = false) ∧
      ∃ j, lastOther? before = some j ∧ k ≤ j ∧
        ∀ m, k < m → m < j → lineIs package.opens before m = false :=
  ⟨fun ⟨hp, hf, hk, hl⟩ => ⟨hp, hf, hk, hl⟩, fun ⟨hp, hf, hk, hl⟩ => ⟨hp, hf, hk, hl⟩⟩

instance : Decidable (IsHeld package before k) :=
  decidable_of_iff
    (lineIs package.passes before k = true ∧
      (k = 0 ∨ lineIs package.opens before (k - 1) = true) ∧
      (∀ m < before.length, k < m → lineIs package.closes before m = false) ∧
      ∃ j < before.length, lastOther? before = some j ∧ k ≤ j ∧
        ∀ m < j, k < m → lineIs package.opens before m = false) <| by
    rw [isHeld_iff]
    refine and_congr_right' (and_congr_right' (and_congr ⟨fun h m hkm => ?_, fun h m _ => h m⟩ ?_))
    · by_cases hm : m < before.length
      · exact h m hm hkm
      · exact lineIs_eq_false_of_le (by omega)
    · constructor
      · rintro ⟨j, -, hj, hkj, ho⟩
        exact ⟨j, hj, hkj, fun m hkm hmj => ho m hmj hkm⟩
      · rintro ⟨j, hj, hkj, ho⟩
        exact ⟨j, lt_length_of_lastOther? hj, hj, hkj, fun m hmj hkm => ho m hkm hmj⟩

/-- At most one line is held. -/
theorem IsHeld.unique {k' : Nat} (h : IsHeld package before k) (h' : IsHeld package before k') :
    k = k' := by
  -- The later of two held lines would follow a line that opens a statement behind the other.
  have key : ∀ {a b}, IsHeld package before a → IsHeld package before b → ¬ a < b := by
    intro a b ha hb hab
    obtain ⟨j, hj, hbj, -⟩ := hb.last
    obtain ⟨j', hj', -, hopen⟩ := ha.last
    obtain rfl : j = j' := Option.some.inj (hj.symm.trans hj')
    rcases hb.first with rfl | hfirst
    · omega
    · by_cases hne : a = b - 1
      · rw [← hne, not_opens_of_other (other_of_passes ha.passes)] at hfirst
        cases hfirst
      · rw [hopen (b - 1) (by omega) (by omega)] at hfirst
        cases hfirst
  have hkk' := key h h'
  have hk'k := key h' h
  omega

theorem isHeld_concat_of_mentions (h : mentionsImport line = true) :
    IsHeld package (before ++ [line]) k ↔ IsHeld package before k := by
  have hpasses : package.passes line = false := by simp [PackageFilter.passes, h]
  have hcloses : package.closes line = false := by simp [PackageFilter.closes, h]
  simp only [isHeld_iff, lineIs_concat_of_not hpasses, lineIs_concat_of_not hcloses,
    lastOther?_concat, h, if_true]
  refine and_congr_right fun hk => and_congr ?_ (and_congr_right' ?_)
  · have hlt := lt_length_of_lineIs hk
    rcases Nat.eq_zero_or_pos k with rfl | hpos
    · simp
    · rw [lineIs_concat_of_lt (by omega)]
  · refine exists_congr fun j => and_congr_right fun hj => and_congr_right' ?_
    have hlt := lt_length_of_lastOther? hj
    constructor
    · intro ho m hkm hmj
      rw [← ho m hkm hmj, lineIs_concat_of_lt (by omega)]
    · intro ho m hkm hmj
      rw [← ho m hkm hmj, lineIs_concat_of_lt (by omega)]

/-- After a line that gives gathered text out no line is held. -/
theorem not_isHeld_concat_of_closes (h : package.closes line = true) :
    ¬ IsHeld package (before ++ [line]) k := by
  intro hk
  have hpasses : package.passes line = false := by
    simp [PackageFilter.passes, PackageFilter.closes_iff.mp h]
  have hp := hk.passes
  rw [lineIs_concat_of_not hpasses] at hp
  have hc := hk.kept before.length (lt_length_of_lineIs hp)
  rw [lineIs_concat_self, h] at hc
  cases hc

/-- Whether the next line without the keyword may be held: the text begins, or a statement has
just been opened. -/
def awaits (package : PackageFilter) (before : List Text) : Prop :=
  before.length = 0 ∨ lineIs package.opens before (before.length - 1) = true

instance : Decidable (awaits package before) :=
  inferInstanceAs (Decidable (_ ∨ _))

/-- A line without the keyword and of another package is held where one may be, and leaves the
line held that was, if no statement has been opened since. -/
theorem isHeld_concat_of_passes (h : package.passes line = true) :
    IsHeld package (before ++ [line]) k ↔
      (k = before.length ∧ awaits package before) ∨
        (IsHeld package before k ∧ openLines package before = []) := by
  obtain ⟨hm, ha⟩ := PackageFilter.passes_iff.mp h
  have hopens : package.opens line = false := by simp [PackageFilter.opens, hm]
  have hcloses : package.closes line = false := by simp [PackageFilter.closes, ha]
  have hlast : lastOther? (before ++ [line]) = some before.length := by
    rw [lastOther?_concat, if_neg (by simp [hm])]
  simp only [isHeld_iff, lineIs_concat_of_not hopens, lineIs_concat_of_not hcloses, hlast,
    Option.some.injEq, exists_eq_left']
  constructor
  · rintro ⟨hp, hf, hk, hle, ho⟩
    rcases Nat.lt_or_eq_of_le hle with hlt | rfl
    · rw [lineIs_concat_of_lt hlt] at hp
      have hall : ∀ m, k < m → lineIs package.opens before m = false := by
        intro m hkm
        rcases Nat.lt_or_ge m before.length with hmn | hmn
        · exact ho m hkm hmn
        · exact lineIs_eq_false_of_le hmn
      obtain ⟨j, hj, hkj⟩ := exists_lastOther? (other_of_passes hp)
      refine Or.inr ⟨⟨hp, hf, hk, j, hj, hkj, fun m hkm _ => hall m hkm⟩, ?_⟩
      rw [openLines_eq_nil_iff]
      intro m hfrom
      simp only [openFrom, hj] at hfrom
      exact hall m (by omega)
    · exact Or.inl ⟨rfl, hf⟩
  · rintro (⟨rfl, hf⟩ | ⟨⟨hp, hf, hk, j, hj, hkj, ho⟩, hnil⟩)
    · exact ⟨by rw [lineIs_concat_self, h], hf, fun m hlt => lineIs_eq_false_of_le hlt.le,
        Nat.le_refl _, fun m hlt hgt => absurd hlt (by omega)⟩
    · have hlt := lt_length_of_lineIs hp
      refine ⟨by rwa [lineIs_concat_of_lt hlt], hf, hk, hlt.le, fun m hkm _ => ?_⟩
      rcases Nat.lt_trichotomy m j with hmj | rfl | hmj
      · exact ho m hkm hmj
      · exact not_opens_of_other (List.find?_some hj)
      · rw [openLines_eq_nil_iff] at hnil
        exact hnil m (by simp only [openFrom, hj]; omega)

def heldText (package : PackageFilter) (before : List Text) : Text :=
  ((List.range before.length).find? (IsHeld package before ·)).elim [] (before.getD · [])

theorem heldText_of_isHeld (h : IsHeld package before k) :
    heldText package before = before.getD k [] := by
  unfold heldText
  cases hf : (List.range before.length).find? (IsHeld package before ·) with
  | none =>
    have hnone := List.find?_eq_none.1 hf k (List.mem_range.2 (lt_length_of_lineIs h.passes))
    simp [h] at hnone
  | some k' =>
    have hk' : IsHeld package before k' := by simpa using List.find?_some hf
    rw [hk'.unique h, Option.elim_some]

theorem heldText_of_not_isHeld (h : ∀ k, ¬ IsHeld package before k) :
    heldText package before = [] := by
  unfold heldText
  rw [List.find?_eq_none.2 fun k _ => by simp [h k], Option.elim_none]

theorem heldText_concat_congr
    (h : ∀ k, IsHeld package (before ++ [line]) k ↔ IsHeld package before k) :
    heldText package (before ++ [line]) = heldText package before := by
  by_cases hk : ∃ k, IsHeld package before k
  · obtain ⟨k, hk⟩ := hk
    rw [heldText_of_isHeld hk, heldText_of_isHeld ((h k).2 hk), List.getD_eq_getElem?_getD,
      List.getElem?_append_left (lt_length_of_lineIs hk.passes), ← List.getD_eq_getElem?_getD]
  · rw [not_exists] at hk
    rw [heldText_of_not_isHeld hk, heldText_of_not_isHeld fun k => mt (h k).1 (hk k)]

theorem heldText_concat_of_passes (hp : package.passes line = true) :
    heldText package (before ++ [line]) =
      (if openLines package before = [] then heldText package before else []) ++
        if awaits package before then line else [] := by
  have hiff : ∀ k, IsHeld package (before ++ [line]) k ↔
      (k = before.length ∧ awaits package before) ∨
        (IsHeld package before k ∧ openLines package before = []) :=
    fun _ => isHeld_concat_of_passes hp
  by_cases hw : awaits package before
  · have hself := (hiff before.length).2 (Or.inl ⟨rfl, hw⟩)
    have hold : openLines package before = [] → heldText package before = [] := by
      intro ho
      apply heldText_of_not_isHeld
      intro k hk
      have heq := hself.unique ((hiff k).2 (Or.inr ⟨hk, ho⟩))
      exact absurd (lt_length_of_lineIs hk.passes) (by omega)
    rw [heldText_of_isHeld hself, if_pos hw]
    split_ifs with ho <;> simp [*]
  · rw [if_neg hw, List.append_nil]
    split_ifs with ho
    · apply heldText_concat_congr
      intro k
      rw [hiff k]
      simp [hw, ho]
    · apply heldText_of_not_isHeld
      intro k
      rw [hiff k]
      simp [hw, ho]

theorem mentionsImport_heldText : mentionsImport (heldText package before) = false := by
  by_cases hk : ∃ k, IsHeld package before k
  · obtain ⟨k, hk⟩ := hk
    obtain ⟨l, hl, hp⟩ := lineIs_iff.1 (other_of_passes hk.passes)
    rw [heldText_of_isHeld hk, List.getD_eq_getElem?_getD, hl]
    simpa using hp
  · rw [heldText_of_not_isHeld (not_exists.1 hk), mentionsImport_nil]

end Held

/-! ## The fragments of a text -/

/-- The fragment that a line gives, when the lines `before` come before it. -/
def fragmentAt? (package : PackageFilter) (before : List Text) (line : Text) : Option Fragment :=
  if package.admits line then
    some (if mentionsImport line then .captured line
      else .raw (heldText package before ++ (openLines package before).flatten))
  else none

def givenFragments (package : PackageFilter) (lines : List Text) : List Fragment :=
  lines.zipIdx.filterMap fun (line, i) => fragmentAt? package (lines.take i) line

/-- The state of the scanner after the lines `before`. -/
structure Tracks (package : PackageFilter) (before : List Text) (s : Scanner) : Prop where
  buffer : s.buffer = heldText package before ++ (openLines package before).flatten
  continuing : s.continuing = true ↔ awaits package before
  fragments : s.fragments = givenFragments package before

section Run

variable {package : PackageFilter} {before : List Text} {line : Text} {s : Scanner}

theorem givenFragments_concat :
    givenFragments package (before ++ [line]) =
      givenFragments package before ++ (fragmentAt? package before line).toList := by
  unfold givenFragments
  rw [List.zipIdx_append, List.filterMap_append]
  congr 1
  · apply List.filterMap_congr
    rintro ⟨l, i⟩ hl
    have hi : i < before.length := by simpa using (List.mem_zipIdx hl).2.1
    simp only
    rw [List.take_append_of_le_length hi.le]
  · cases h : fragmentAt? package before line <;> simp [h]

theorem awaits_concat : awaits package (before ++ [line]) ↔ package.opens line = true := by
  simp [awaits]

theorem Tracks.fresh_eq (h : Tracks package before s) :
    s.fresh = if openLines package before = [] then heldText package before else [] := by
  unfold Scanner.fresh
  rw [h.buffer]
  -- the held line has no keyword and open lines have, so the keyword tells what is in the buffer
  split_ifs with hm ho ho
  · rw [ho, List.flatten_nil, List.append_nil, mentionsImport_heldText] at hm
    cases hm
  · rfl
  · rw [ho, List.flatten_nil, List.append_nil]
  · exact absurd (mentionsImport_of_isInfix (List.suffix_append _ _).isInfix
      (mentionsImport_flatten_openLines ho)) hm

theorem Tracks.captured (h : Tracks package before s) (hi : mentionsImport line = true)
    (ha : package.admits line = true) : Tracks package (before ++ [line]) (s.step package line) := by
  have hopens : package.opens line = false := by simp [PackageFilter.opens, ha]
  rw [Scanner.step_captured hi ha]
  refine ⟨?_, ?_, ?_⟩
  · rw [heldText_concat_congr fun _ => isHeld_concat_of_mentions hi,
      openLines_concat_of_mentions hi, List.filter_cons_of_neg (by simp [hopens]),
      List.filter_nil, List.append_nil]
    exact h.buffer
  · simp [awaits_concat, hopens]
  · rw [givenFragments_concat, ← h.fragments]
    simp [fragmentAt?, hi, ha]

theorem Tracks.opens (h : Tracks package before s) (ho : package.opens line = true) :
    Tracks package (before ++ [line]) (s.step package line) := by
  obtain ⟨hi, ha⟩ := PackageFilter.opens_iff.mp ho
  rw [Scanner.step_opens ho]
  refine ⟨?_, ?_, ?_⟩
  · rw [heldText_concat_congr fun _ => isHeld_concat_of_mentions hi,
      openLines_concat_of_mentions hi, List.filter_cons_of_pos ho, List.filter_nil,
      List.flatten_concat, ← List.append_assoc, ← h.buffer]
  · simp [awaits_concat, ho]
  · rw [givenFragments_concat, ← h.fragments]
    simp [fragmentAt?, ha]

theorem Tracks.closes (h : Tracks package before s) (hc : package.closes line = true) :
    Tracks package (before ++ [line]) (s.step package line) := by
  obtain ⟨hi, ha⟩ := PackageFilter.closes_iff.mp hc
  rw [Scanner.step_closes hc]
  refine ⟨?_, ?_, ?_⟩
  · rw [heldText_of_not_isHeld fun _ => not_isHeld_concat_of_closes hc,
      openLines_concat_of_other hi]
    rfl
  · simp [awaits_concat, PackageFilter.opens, hi]
  · rw [givenFragments_concat, ← h.fragments]
    simp [fragmentAt?, hi, ha, h.buffer]

theorem Tracks.passes (h : Tracks package before s) (hp : package.passes line = true) :
    Tracks package (before ++ [line]) (s.step package line) := by
  obtain ⟨hi, ha⟩ := PackageFilter.passes_iff.mp hp
  rw [Scanner.step_passes hp]
  refine ⟨?_, ?_, ?_⟩
  · rw [openLines_concat_of_other hi, List.flatten_nil, List.append_nil,
      heldText_concat_of_passes hp, ← h.fresh_eq]
    simp only [h.continuing]
  · simp [awaits_concat, PackageFilter.opens, hi]
  · rw [givenFragments_concat, ← h.fragments]
    simp [fragmentAt?, ha]

theorem Tracks.step (h : Tracks package before s) :
    Tracks package (before ++ [line]) (s.step package line) := by
  rcases Scanner.line_kinds package line with ⟨hi, ha⟩ | ho | hc | hp
  · exact h.captured hi ha
  · exact h.opens ho
  · exact h.closes hc
  · exact h.passes hp

theorem tracks_run (package : PackageFilter) (lines : List Text) :
    Tracks package lines (Scanner.run {} package lines) := by
  -- what a line gives depends on the lines before it, so the last line is split off
  induction lines using List.reverseRecOn with
  | nil => exact ⟨rfl, by simp [awaits], rfl⟩
  | append_singleton before line ih =>
    rw [Scanner.run_concat]
    exact ih.step

end Run

/-- Every line of the wanted package gives one fragment, in the order of the lines, and no other
line gives any; and where a line is held it is the only one. -/
theorem fragments_eq_givenFragments (package : PackageFilter) (text : Text) :
    fragments package text = givenFragments package (Text.lines text) ∧
      ∀ before k k', IsHeld package before k → IsHeld package before k' → k = k' :=
  ⟨(tracks_run package (Text.lines text)).fragments, fun _ _ _ h h' => h.unique h'⟩

/-- Of a statement over several lines only the first line after the keyword is kept. -/
example : givenFragments none ["import \x7b", "  a,", "  b", "\x7d from 'pkg'"] = [.raw "  a,"] := by
  decide

end ImportCensus.Statement
