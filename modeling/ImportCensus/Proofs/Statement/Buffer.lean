import ImportCensus.Proofs.Statement.Scanner
import Mathlib.Data.List.Basic
import Mathlib.Data.List.Induction
/-!
# What the scanner holds

The scanner may be given another filter with every line.  Whatever it is given, its buffer is put
together from at most one line without the keyword and the lines that have opened statements after
it, and the keyword is found in the buffer only if it is found in one of them.
-/

namespace ImportCensus.Statement

structure Reading where
  package : PackageFilter
  line : Text

namespace Reading

def opens (r : Reading) : Bool :=
  r.package.opens r.line

def joined (readings : List Reading) : Text :=
  (readings.map Reading.line).flatten

theorem opens_iff {r : Reading} :
    r.opens = true ↔ mentionsImport r.line = true ∧ r.package.admits r.line = false :=
  PackageFilter.opens_iff

@[simp] theorem joined_nil : joined [] = [] := rfl

@[simp] theorem joined_append (readings readings' : List Reading) :
    joined (readings ++ readings') = joined readings ++ joined readings' := by
  simp [joined]

@[simp] theorem joined_singleton (r : Reading) : joined [r] = r.line := by
  simp [joined]

end Reading

namespace Scanner

/-- Reads lines one after another, each under its own filter. -/
def feed (s : Scanner) (readings : List Reading) : Scanner :=
  readings.foldl (fun s r => s.step r.package r.line) s

theorem feed_concat (s : Scanner) (readings : List Reading) (r : Reading) :
    s.feed (readings ++ [r]) = (s.feed readings).step r.package r.line := by
  simp [feed]

/-- What is known of a scanner after it has read some lines: its buffer is put together from the
line that it holds, if any, and from the lines that have opened statements since. -/
structure IsFilled (fed : List Reading) (s : Scanner) (held opened : List Reading) : Prop where
  continuing : s.continuing = true ↔ fed = [] ∨ ∃ r, fed.getLast? = some r ∧ r.opens = true
  buffer : s.buffer = Reading.joined (held ++ opened)
  sublist : (held ++ opened).Sublist fed
  atMostOne : held.length ≤ 1
  held_other : ∀ r ∈ held, mentionsImport r.line = false
  opened_opens : ∀ r ∈ opened, r.opens = true
  /-- Where a line may be gathered, no other one is held alone. -/
  vacant : s.continuing = true → opened = [] → held = []
  /-- A line without the keyword leaves no open statement behind. -/
  settled : ∀ r, fed.getLast? = some r → mentionsImport r.line = false → opened = []

variable {fed held opened : List Reading} {s : Scanner} {r : Reading}

theorem joined_of_length_le_one (h : held.length ≤ 1) :
    Reading.joined held = [] ∨ ∃ r ∈ held, Reading.joined held = r.line := by
  match held, h with
  | [], _ => exact Or.inl rfl
  | [r], _ => exact Or.inr ⟨r, List.mem_singleton_self r, Reading.joined_singleton r⟩

theorem mentionsImport_joined_of_mem (h : r ∈ opened) (hr : r.opens = true) :
    mentionsImport (Reading.joined opened) = true := by
  have hline : mentionsImport r.line = true := (Reading.opens_iff.mp hr).1
  obtain ⟨before, after, rfl⟩ := List.append_of_mem h
  refine mentionsImport_of_isInfix ⟨Reading.joined before, Reading.joined after, ?_⟩ hline
  simp [Reading.joined]

namespace IsFilled

/-- The keyword does not arise where two lines meet. -/
theorem mentionsImport_buffer_iff (h : IsFilled fed s held opened) :
    mentionsImport s.buffer = true ↔ opened ≠ [] := by
  rw [h.buffer]
  constructor
  · rintro hmentions rfl
    rw [List.append_nil] at hmentions
    rcases joined_of_length_le_one h.atMostOne with hnil | ⟨r, hr, hline⟩
    · rw [hnil, mentionsImport_nil] at hmentions
      cases hmentions
    · rw [hline, h.held_other r hr] at hmentions
      cases hmentions
  · intro hne
    obtain ⟨r, hr⟩ := List.exists_mem_of_ne_nil opened hne
    rw [Reading.joined_append]
    exact mentionsImport_of_isInfix (List.suffix_append _ _).isInfix
      (mentionsImport_joined_of_mem hr (h.opened_opens r hr))

theorem start : IsFilled [] {} [] [] where
  continuing := by simp
  buffer := rfl
  sublist := List.Sublist.slnil
  atMostOne := Nat.zero_le 1
  held_other := by simp
  opened_opens := by simp
  vacant := fun _ _ => rfl
  settled := by simp

/-- What is left in the buffer when stale text is gone is the line that is held, unless statements
have been opened since. -/
theorem fresh_eq (h : IsFilled fed s held opened) :
    s.fresh = if opened = [] then Reading.joined held else [] := by
  have hmentions := h.mentionsImport_buffer_iff
  rw [fresh]
  by_cases hopened : opened = []
  · rw [if_neg (by simp [hmentions, hopened]), if_pos hopened, h.buffer, hopened, List.append_nil]
  · rw [if_pos (hmentions.mpr hopened), if_neg hopened]

theorem continuing_concat {continues : Bool} (h : continues = r.opens) :
    continues = true ↔
      fed ++ [r] = [] ∨ ∃ r', (fed ++ [r]).getLast? = some r' ∧ r'.opens = true := by
  simp [h]

theorem captured (h : IsFilled fed s held opened) (hi : mentionsImport r.line = true)
    (ha : r.package.admits r.line = true) :
    IsFilled (fed ++ [r]) (s.step r.package r.line) held opened := by
  rw [step_captured hi ha]
  exact {
    continuing := continuing_concat (by simp [Reading.opens, PackageFilter.opens, ha])
    buffer := h.buffer
    sublist := h.sublist.trans (List.sublist_append_left _ _)
    atMostOne := h.atMostOne
    held_other := h.held_other
    opened_opens := h.opened_opens
    vacant := by simp
    settled := by simp [hi] }

theorem opens (h : IsFilled fed s held opened) (ho : r.opens = true) :
    IsFilled (fed ++ [r]) (s.step r.package r.line) held (opened ++ [r]) := by
  rw [step_opens ho]
  exact {
    continuing := continuing_concat ho.symm
    buffer := by simp [h.buffer]
    sublist := by simpa using h.sublist.append (List.Sublist.refl [r])
    atMostOne := h.atMostOne
    held_other := h.held_other
    opened_opens := by
      intro r' hr'
      rcases List.mem_append.mp hr' with hr' | hr'
      · exact h.opened_opens r' hr'
      · rwa [List.mem_singleton.mp hr']
    vacant := by simp
    settled := by simp [(Reading.opens_iff.mp ho).1] }

theorem closes (hc : r.package.closes r.line = true) :
    IsFilled (fed ++ [r]) (s.step r.package r.line) [] [] := by
  have hi : mentionsImport r.line = false := (PackageFilter.closes_iff.mp hc).1
  rw [step_closes hc]
  exact {
    continuing := continuing_concat (by simp [Reading.opens, PackageFilter.opens, hi])
    buffer := rfl
    sublist := List.nil_sublist _
    atMostOne := Nat.zero_le 1
    held_other := by simp
    opened_opens := by simp
    vacant := by simp
    settled := by simp }

theorem exists_held (h : IsFilled fed s held opened) (hi : mentionsImport r.line = false) :
    ∃ held', held'.Sublist (fed ++ [r]) ∧ held'.length ≤ 1 ∧
      (∀ r' ∈ held', mentionsImport r'.line = false) ∧
      s.fresh ++ (if s.continuing then r.line else []) = Reading.joined held' := by
  rw [h.fresh_eq]
  cases hcontinuing : s.continuing with
  | true =>
    -- no other line is held alone, so this one is all that the buffer has
    refine ⟨[r], List.sublist_append_right fed [r], Nat.le_refl 1, by simpa using hi, ?_⟩
    by_cases hopened : opened = []
    · simp [hopened, h.vacant hcontinuing hopened]
    · simp [hopened]
  | false =>
    by_cases hopened : opened = []
    · have hsub : held.Sublist fed := (List.sublist_append_left held opened).trans h.sublist
      exact ⟨held, hsub.trans (List.sublist_append_left _ _), h.atMostOne, h.held_other,
        by simp [hopened]⟩
    · exact ⟨[], List.nil_sublist _, Nat.zero_le 1, by simp, by simp [hopened]⟩

theorem passes (h : IsFilled fed s held opened) (hp : r.package.passes r.line = true) :
    ∃ held', IsFilled (fed ++ [r]) (s.step r.package r.line) held' [] := by
  have hi : mentionsImport r.line = false := (PackageFilter.passes_iff.mp hp).1
  obtain ⟨held', hsub, hone, hother, hbuffer⟩ := h.exists_held hi
  rw [step_passes hp]
  exact ⟨held', {
    continuing := continuing_concat (by simp [Reading.opens, PackageFilter.opens, hi])
    buffer := by simpa using hbuffer
    sublist := by simpa using hsub
    atMostOne := hone
    held_other := hother
    opened_opens := by simp
    vacant := by simp
    settled := by simp }⟩

theorem step (h : IsFilled fed s held opened) (r : Reading) :
    ∃ held' opened', IsFilled (fed ++ [r]) (s.step r.package r.line) held' opened' := by
  rcases line_kinds r.package r.line with ⟨hi, ha⟩ | ho | hc | hp
  · exact ⟨held, opened, h.captured hi ha⟩
  · exact ⟨held, opened ++ [r], h.opens ho⟩
  · exact ⟨[], [], closes hc⟩
  · obtain ⟨held', h'⟩ := h.passes hp
    exact ⟨held', [], h'⟩

end IsFilled

theorem exists_isFilled (fed : List Reading) :
    ∃ held opened, IsFilled fed (feed {} fed) held opened := by
  induction fed using List.reverseRecOn with
  | nil => exact ⟨[], [], IsFilled.start⟩
  | append_singleton fed r ih =>
    obtain ⟨held, opened, h⟩ := ih
    rw [feed_concat]
    exact h.step r

/-- After any lines under any filters: the next line without the keyword is gathered exactly if no
line was read yet or the last one opens a statement; the buffer is at most one line without the
keyword and then lines that open statements, in their order, and holds the keyword only if there
are such lines; and after a line without the keyword it is empty or one line, and does not hold
the keyword. -/
theorem feed_spec (fed : List Reading) :
    ((feed {} fed).continuing = true ↔ fed = [] ∨ ∃ r, fed.getLast? = some r ∧
      mentionsImport r.line = true ∧ r.package.admits r.line = false) ∧
    (∃ held opened : List Reading, held.length ≤ 1 ∧
      (∀ r ∈ held, mentionsImport r.line = false) ∧
      (∀ r ∈ opened, mentionsImport r.line = true ∧ r.package.admits r.line = false) ∧
      (held ++ opened).Sublist fed ∧
      (feed {} fed).buffer = ((held ++ opened).map Reading.line).flatten ∧
      (mentionsImport (feed {} fed).buffer = true ↔ opened ≠ [])) ∧
    ∀ r, fed.getLast? = some r → mentionsImport r.line = false →
      mentionsImport (feed {} fed).buffer = false ∧
        ((feed {} fed).buffer = [] ∨ ∃ r' ∈ fed, (feed {} fed).buffer = r'.line) := by
  obtain ⟨held, opened, h⟩ := exists_isFilled fed
  refine ⟨?_, ⟨held, opened, h.atMostOne, h.held_other,
    fun r hr => Reading.opens_iff.mp (h.opened_opens r hr), h.sublist, h.buffer,
    h.mentionsImport_buffer_iff⟩, fun r hr hi => ?_⟩
  · simp only [h.continuing, Reading.opens_iff]
  · obtain rfl := h.settled r hr hi
    have hbuffer := h.buffer
    have hsub := h.sublist
    rw [List.append_nil] at hbuffer hsub
    refine ⟨by simpa using h.mentionsImport_buffer_iff, ?_⟩
    rw [hbuffer]
    exact (joined_of_length_le_one h.atMostOne).imp id fun ⟨r', hr', hline⟩ =>
      ⟨r', hsub.mem hr', hline⟩

/-- Text that would be the keyword if its lines were put together is never gathered. -/
example : (feed {} [⟨none, "imp"⟩, ⟨none, "ort"⟩]).buffer = "imp".toList := by
  decide

end Scanner

end ImportCensus.Statement
