import ImportCensus.Text.Lines
import Mathlib.Data.List.Infix
/-!
# Cutting and joining

A list is cut at every place where one element stands behind another, different one.  As the two
differ, two such places never overlap, and cutting is the only way to undo joining with the pair.
The lines of a text are what it gives when it is cut like this, or else at single line feeds.  A
map that leaves the elements in place at which a list is cut maps each part on its own.
-/

namespace ImportCensus.Text

/-! ## Joining -/

section Joining

variable {α : Type} {sep : List α} {parts before after : List (List α)}

theorem intercalate_append (hbefore : before ≠ []) (hafter : after ≠ []) :
    sep.intercalate (before ++ after) =
      sep.intercalate before ++ sep ++ sep.intercalate after := by
  induction before with
  | nil => exact absurd rfl hbefore
  | cons first before ih =>
    by_cases hnil : before = []
    · rw [hnil, List.singleton_append, List.intercalate_cons_of_ne_nil hafter,
        List.intercalate_singleton]
    · have hne : before ++ after ≠ [] := List.append_ne_nil_of_left_ne_nil hnil after
      rw [List.cons_append, List.intercalate_cons_of_ne_nil hne, ih hnil,
        List.intercalate_cons_of_ne_nil hnil]
      simp only [List.append_assoc]

/-- Every separator behind the last part makes one more part, an empty one. -/
theorem intercalate_append_replicate_nil (hne : parts ≠ []) (n : Nat) :
    sep.intercalate (parts ++ List.replicate n []) =
      sep.intercalate parts ++ (List.replicate n sep).flatten := by
  induction n with
  | zero => simp
  | succ n ih =>
    have hmore : parts ++ List.replicate n [] ≠ [] := List.append_ne_nil_of_left_ne_nil hne _
    rw [List.replicate_succ', ← List.append_assoc, intercalate_append hmore (by simp), ih,
      List.intercalate_singleton, List.append_nil, List.replicate_succ', List.flatten_concat,
      List.append_assoc]

end Joining

/-! ## One element -/

section Singles

variable {α : Type} {sep : α}

theorem splitOn_append [DecidableEq α] (s t : List α) :
    splitOn sep (s ++ sep :: t) = splitOn sep s ++ splitOn sep t := by
  rw [splitOn_eq_iff]
  refine ⟨?_, fun part hpart => ?_, ?_⟩
  · simp [splitOn_ne_nil]
  · rcases List.mem_append.mp hpart with hpart | hpart
    · exact not_mem_of_mem_splitOn hpart
    · exact not_mem_of_mem_splitOn hpart
  · rw [List.append_cons, intercalate_append (splitOn_ne_nil s) (splitOn_ne_nil t),
      intercalate_splitOn, intercalate_splitOn]

end Singles

/-! ## Pairs -/

section Pairs

variable {α : Type} [DecidableEq α] {a b x y : α} {s p rest part : List α} {parts : List (List α)}

/-- The parts of a list between the places where `b` stands behind `a`. -/
def splitPair (a b : α) : List α → List (List α)
  | [] => [[]]
  | [x] => [[x]]
  | x :: y :: rest =>
    if x = a ∧ y = b then [] :: splitPair a b rest
    else
      match splitPair a b (y :: rest) with
      | [] => [[x]]
      | part :: parts => (x :: part) :: parts

omit [DecidableEq α] in
theorem pair_isPrefix_iff : [a, b] <+: x :: y :: rest ↔ x = a ∧ y = b := by
  simp [List.cons_prefix_cons, eq_comm]

theorem splitPair_pair (rest : List α) :
    splitPair a b (a :: b :: rest) = [] :: splitPair a b rest := by
  simp [splitPair]

theorem splitPair_cons (h : ¬ [a, b] <+: x :: rest) (hs : splitPair a b rest = part :: parts) :
    splitPair a b (x :: rest) = (x :: part) :: parts := by
  cases rest with
  | nil =>
    obtain ⟨rfl, rfl⟩ := List.cons.inj hs
    rfl
  | cons y rest =>
    rw [pair_isPrefix_iff] at h
    rw [splitPair, if_neg h, hs]

@[elab_as_elim]
theorem pairInduction (a b : α) {motive : List α → Prop} (nil : motive [])
    (pair : ∀ rest, motive rest → motive (a :: b :: rest))
    (other : ∀ x rest, ¬ [a, b] <+: x :: rest → motive rest → motive (x :: rest)) (s : List α) :
    motive s := by
  induction s using splitPair.induct a b with
  | case1 => exact nil
  | case2 x => exact other x [] (by simp) nil
  | case3 x y rest hpair ih =>
    obtain ⟨rfl, rfl⟩ := hpair
    exact pair rest ih
  | case4 x y rest hpair _ ih => exact other x (y :: rest) (mt pair_isPrefix_iff.mp hpair) ih
  | case5 x y rest hpair _ _ _ ih => exact other x (y :: rest) (mt pair_isPrefix_iff.mp hpair) ih

theorem exists_splitPair_eq_cons (a b : α) (s : List α) :
    ∃ part parts, splitPair a b s = part :: parts := by
  induction s using pairInduction a b with
  | nil => exact ⟨[], [], rfl⟩
  | pair rest _ => exact ⟨[], _, splitPair_pair rest⟩
  | other x rest h ih =>
    obtain ⟨part, parts, hs⟩ := ih
    exact ⟨x :: part, parts, splitPair_cons h hs⟩

theorem intercalate_splitPair (s : List α) : [a, b].intercalate (splitPair a b s) = s := by
  induction s using pairInduction a b with
  | nil => rfl
  | pair rest ih =>
    obtain ⟨part, parts, hs⟩ := exists_splitPair_eq_cons a b rest
    rw [hs] at ih
    rw [splitPair_pair, hs, List.intercalate_cons_cons, ih]
    rfl
  | other x rest h ih =>
    obtain ⟨part, parts, hs⟩ := exists_splitPair_eq_cons a b rest
    rw [hs] at ih
    rw [splitPair_cons h hs, ← ih]
    cases parts with
    | nil => rfl
    | cons next parts => rfl

theorem not_isInfix_of_mem_splitPair (h : part ∈ splitPair a b s) : ¬ [a, b] <:+: part := by
  induction s using pairInduction a b generalizing part with
  | nil =>
    rw [List.mem_singleton.mp h]
    simp
  | pair rest ih =>
    rw [splitPair_pair] at h
    rcases List.mem_cons.mp h with rfl | h
    · simp
    · exact ih h
  | other x rest hother ih =>
    obtain ⟨first, parts, hs⟩ := exists_splitPair_eq_cons a b rest
    rw [splitPair_cons hother hs] at h
    rcases List.mem_cons.mp h with rfl | h
    · rw [List.infix_cons_iff, not_or]
      have hfirst : first <+: rest := by
        rw [← intercalate_splitPair (a := a) (b := b) rest, hs]
        cases parts <;> simp [List.intercalate]
      refine ⟨fun hpair => hother (hpair.trans ?_), ih (hs ▸ List.mem_cons_self)⟩
      exact List.cons_prefix_cons.mpr ⟨rfl, hfirst⟩
    · exact ih (hs ▸ List.mem_cons_of_mem first h)

theorem splitPair_of_not_isInfix (h : ¬ [a, b] <:+: p) : splitPair a b p = [p] := by
  induction p with
  | nil => rfl
  | cons x p ih =>
    rw [List.infix_cons_iff, not_or] at h
    exact splitPair_cons h.1 (ih h.2)

theorem splitPair_append_pair (hab : a ≠ b) (h : ¬ [a, b] <:+: p) (rest : List α) :
    splitPair a b (p ++ [a, b] ++ rest) = p :: splitPair a b rest := by
  induction p with
  | nil => exact splitPair_pair rest
  | cons x p ih =>
    rw [List.infix_cons_iff, not_or] at h
    refine splitPair_cons ?_ (ih h.2)
    cases p with
    | nil => exact fun hpair => hab (pair_isPrefix_iff.mp hpair).2
    | cons y p => exact fun hpair => h.1 (pair_isPrefix_iff.mpr (pair_isPrefix_iff.mp hpair))

/-- Cutting a joined list gives the parts back, when no part has the pair in it. -/
theorem splitPair_intercalate (hab : a ≠ b) (hne : parts ≠ [])
    (h : ∀ part ∈ parts, ¬ [a, b] <:+: part) :
    splitPair a b ([a, b].intercalate parts) = parts := by
  induction parts with
  | nil => exact absurd rfl hne
  | cons p ps ih =>
    obtain ⟨hp, hps⟩ := List.forall_mem_cons.mp h
    cases ps with
    | nil => exact List.intercalate_singleton ▸ splitPair_of_not_isInfix hp
    | cons q qs =>
      rw [List.intercalate_cons_cons, splitPair_append_pair hab hp, ih (by simp) hps]

theorem splitPair_eq_iff (hab : a ≠ b) :
    splitPair a b s = parts ↔
      parts ≠ [] ∧ (∀ part ∈ parts, ¬ [a, b] <:+: part) ∧ [a, b].intercalate parts = s := by
  constructor
  · rintro rfl
    obtain ⟨part, parts, hs⟩ := exists_splitPair_eq_cons a b s
    exact ⟨hs ▸ List.cons_ne_nil part parts, fun _ => not_isInfix_of_mem_splitPair,
      intercalate_splitPair s⟩
  · rintro ⟨hne, hparts, rfl⟩
    exact splitPair_intercalate hab hne hparts

/-- The parts of a list between its ends: the pair if it has one anywhere, and else the second
element of the pair. -/
def splitEnds (a b : α) (s : List α) : List (List α) :=
  if [a, b] <:+: s then splitPair a b s else splitOn b s

end Pairs

/-! ## Maps that leave separators in place -/

section Keeping

variable {α β : Type} {f : List α → List β} {a b : α} {c d : β} {s : List α} {x y : List β}

/-- A map that does not look across a separator maps the parts between separators. -/
theorem map_intercalate {sep : List α} {sep' : List β}
    (h : ∀ s t, f (s ++ sep ++ t) = f s ++ sep' ++ f t) {parts : List (List α)} (hne : parts ≠ []) :
    f (sep.intercalate parts) = sep'.intercalate (parts.map f) := by
  induction parts with
  | nil => exact absurd rfl hne
  | cons p ps ih =>
    cases ps with
    | nil => simp
    | cons q qs =>
      rw [List.intercalate_cons_cons, h, ih (by simp)]
      exact List.intercalate_cons_cons.symm

/-- Whether a map of lists leaves the element `a` in place, as `c`: what is before it and what is
behind it are mapped on their own, and `c` comes from nothing else. -/
structure Keeps (f : List α → List β) (a : α) (c : β) : Prop where
  append : ∀ s t, f (s ++ a :: t) = f s ++ c :: f t
  mem : ∀ s, c ∈ f s → a ∈ s

namespace Keeps

theorem intercalate (h : Keeps f a c) {parts : List (List α)} (hne : parts ≠ []) :
    f ([a].intercalate parts) = [c].intercalate (parts.map f) := by
  refine map_intercalate (fun s t => ?_) hne
  simpa using h.append s t

theorem append_pair (ha : Keeps f a c) (hb : Keeps f b d) (hnil : f [] = []) (s t : List α) :
    f (s ++ [a, b] ++ t) = f s ++ [c, d] ++ f t := by
  calc f (s ++ [a, b] ++ t)
      = f (s ++ a :: ([] ++ b :: t)) := by simp
    _ = f s ++ c :: (f [] ++ d :: f t) := by rw [ha.append, hb.append]
    _ = f s ++ [c, d] ++ f t := by simp [hnil]

variable [DecidableEq α] [DecidableEq β]

theorem splitOn (h : Keeps f a c) (s : List α) :
    Text.splitOn c (f s) = (Text.splitOn a s).map f := by
  rw [splitOn_eq_iff]
  refine ⟨by simp [splitOn_ne_nil], fun part hpart => ?_, ?_⟩
  · obtain ⟨p, hp, rfl⟩ := List.mem_map.mp hpart
    exact fun hmem => not_mem_of_mem_splitOn hp (h.mem p hmem)
  · rw [← h.intercalate (splitOn_ne_nil s), intercalate_splitOn]

theorem exists_of_eq_append (h : Keeps f a c) (heq : f s = x ++ c :: y) :
    ∃ p q, s = p ++ a :: q ∧ f p = x ∧ f q = y := by
  have hsplit := h.splitOn s
  rw [heq, splitOn_append, eq_comm, List.map_eq_append_iff] at hsplit
  obtain ⟨before, after, hs, hbefore, hafter⟩ := hsplit
  have hne : before ≠ [] := by
    rintro rfl
    exact splitOn_ne_nil x hbefore.symm
  have hne' : after ≠ [] := by
    rintro rfl
    exact splitOn_ne_nil y hafter.symm
  refine ⟨[a].intercalate before, [a].intercalate after, ?_, ?_, ?_⟩
  · rw [List.append_cons, ← intercalate_append hne hne', ← hs, intercalate_splitOn]
  · rw [h.intercalate hne, hbefore, intercalate_splitOn]
  · rw [h.intercalate hne', hafter, intercalate_splitOn]

/-- Two elements that are left in place stand one behind the other in the image only if they do so
in the list. -/
theorem pair_isInfix_iff (ha : Keeps f a c) (hb : Keeps f b d) (hnil : ∀ s, f s = [] ↔ s = []) :
    [c, d] <:+: f s ↔ [a, b] <:+: s := by
  constructor
  · rintro ⟨x, y, heq⟩
    have hfirst : f s = x ++ c :: (d :: y) := by simp [← heq]
    obtain ⟨p, rest, rfl, -, hrest⟩ := ha.exists_of_eq_append hfirst
    have hsecond : f rest = [] ++ d :: y := hrest
    obtain ⟨between, q, rfl, hbetween, -⟩ := hb.exists_of_eq_append hsecond
    obtain rfl := (hnil between).mp hbetween
    exact ⟨p, q, by simp⟩
  · rintro ⟨p, q, rfl⟩
    exact ⟨f p, f q, (ha.append_pair hb ((hnil []).mpr rfl) p q).symm⟩

theorem splitPair (ha : Keeps f a c) (hb : Keeps f b d) (hnil : ∀ s, f s = [] ↔ s = [])
    (hab : a ≠ b) (hcd : c ≠ d) (s : List α) :
    Text.splitPair c d (f s) = (Text.splitPair a b s).map f := by
  obtain ⟨hne, hfree, hjoin⟩ := (splitPair_eq_iff hab).mp (rfl : Text.splitPair a b s = _)
  rw [splitPair_eq_iff hcd]
  refine ⟨by simpa using hne, fun part hpart => ?_, ?_⟩
  · obtain ⟨p, hp, rfl⟩ := List.mem_map.mp hpart
    rw [pair_isInfix_iff ha hb hnil]
    exact hfree p hp
  · rw [← map_intercalate (ha.append_pair hb ((hnil []).mpr rfl)) hne, hjoin]

/-- A map that leaves both elements of the pair in place maps what lies between line ends. -/
theorem splitEnds (ha : Keeps f a c) (hb : Keeps f b d) (hnil : ∀ s, f s = [] ↔ s = [])
    (hab : a ≠ b) (hcd : c ≠ d) (s : List α) :
    Text.splitEnds c d (f s) = (Text.splitEnds a b s).map f := by
  unfold Text.splitEnds
  by_cases hpair : [a, b] <:+: s
  · rw [if_pos hpair, if_pos ((pair_isInfix_iff ha hb hnil).mpr hpair)]
    exact ha.splitPair hb hnil hab hcd s
  · rw [if_neg hpair, if_neg (mt (pair_isInfix_iff ha hb hnil).mp hpair)]
    exact hb.splitOn s

end Keeps

end Keeping

/-! ## Lines -/

theorem splitCrLf_eq_splitPair (text : Text) : splitCrLf text = splitPair '\r' '\n' text := by
  induction text using splitCrLf.induct with
  | case1 => rfl
  | case2 rest ih => rw [splitCrLf, splitPair_pair, ih]
  | case3 c rest _ hnil ih =>
    obtain ⟨part, parts, hs⟩ := exists_splitPair_eq_cons '\r' '\n' rest
    rw [hnil, hs] at ih
    cases ih
  | case4 c rest hpair line lines hlines ih =>
    have hother : ¬ ['\r', '\n'] <+: c :: rest := by
      rintro ⟨rest', heq⟩
      obtain ⟨rfl, rfl⟩ := List.cons.inj heq
      exact hpair rest' rfl rfl
    rw [hlines] at ih
    rw [splitPair_cons hother ih.symm, splitCrLf, hlines]
    exact hpair

theorem lines_eq_splitEnds (text : Text) : lines text = splitEnds '\r' '\n' text := by
  rw [lines, splitEnds, splitCrLf_eq_splitPair]
  simp only [occursIn_iff]
  rfl

end ImportCensus.Text
