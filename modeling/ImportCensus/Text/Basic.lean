/-!
# Text

Text is a list of Unicode scalar values, so that every function on it is a plain recursion.
This module holds the searching, cutting and joining that the other modules share.  The main
statements: `occursIn_iff` (the substring test is the infix relation) and `splitOn_eq_iff`
(cutting at a character is the only way to undo joining with it).
-/

namespace ImportCensus

abbrev Text := List Char

instance : Coe String Text := ⟨String.toList⟩

namespace Text

def ofNat (n : Nat) : Text := Nat.toDigits 10 n

/-- Whether `needle` is found in the text at some position. -/
def occursIn (needle : Text) : Text → Bool
  | [] => needle.isEmpty
  | c :: rest => needle.isPrefixOf (c :: rest) || occursIn needle rest

theorem occursIn_iff {needle text : Text} :
    occursIn needle text = true ↔ needle <:+: text := by
  induction text with
  | nil => simp [occursIn]
  | cons c rest ih => simp [occursIn, ih, List.infix_cons_iff]

/-- The parts of a list between the occurrences of `sep`: one more than there are occurrences. -/
def splitOn {α : Type} [DecidableEq α] (sep : α) : List α → List (List α)
  | [] => [[]]
  | c :: rest =>
    if c = sep then [] :: splitOn sep rest
    else
      match splitOn sep rest with
      | [] => [[c]]
      | part :: parts => (c :: part) :: parts

section Split

variable {α : Type} [DecidableEq α] {sep : α}

theorem splitOn_ne_nil (s : List α) : splitOn sep s ≠ [] := by
  cases s with
  | nil => simp [splitOn]
  | cons c rest =>
    rw [splitOn]
    split
    · simp
    · split <;> simp

theorem splitOn_cons_self (s : List α) : splitOn sep (sep :: s) = [] :: splitOn sep s := by
  simp [splitOn]

theorem splitOn_cons_of_ne {c : α} (h : c ≠ sep) {s part : List α} {parts : List (List α)}
    (hs : splitOn sep s = part :: parts) : splitOn sep (c :: s) = (c :: part) :: parts := by
  simp [splitOn, h, hs]

theorem not_mem_of_mem_splitOn {s part : List α} (h : part ∈ splitOn sep s) : sep ∉ part := by
  induction s generalizing part with
  | nil => simp_all [splitOn]
  | cons c rest ih =>
    by_cases hc : c = sep
    · subst hc
      rw [splitOn_cons_self] at h
      rcases List.mem_cons.1 h with rfl | h
      · simp
      · exact ih h
    · cases hs : splitOn sep rest with
      | nil => exact absurd hs (splitOn_ne_nil rest)
      | cons p ps =>
        rw [splitOn_cons_of_ne hc hs] at h
        rcases List.mem_cons.1 h with rfl | h
        · have := ih (hs ▸ List.mem_cons_self)
          simp [this, Ne.symm hc]
        · exact ih (hs ▸ List.mem_cons_of_mem _ h)

theorem intercalate_splitOn (s : List α) : [sep].intercalate (splitOn sep s) = s := by
  induction s with
  | nil => simp [splitOn, List.intercalate]
  | cons c rest ih =>
    cases hs : splitOn sep rest with
    | nil => exact absurd hs (splitOn_ne_nil rest)
    | cons p ps =>
      rw [hs] at ih
      by_cases hc : c = sep
      · subst hc
        rw [splitOn_cons_self, hs]
        simpa [List.intercalate] using ih
      · rw [splitOn_cons_of_ne hc hs]
        cases ps <;> simp_all [List.intercalate]

theorem splitOn_of_not_mem {s : List α} (h : sep ∉ s) : splitOn sep s = [s] := by
  induction s with
  | nil => rfl
  | cons c rest ih =>
    have hc : c ≠ sep := fun e => h (by simp [e])
    exact splitOn_cons_of_ne hc (ih fun hm => h (List.mem_cons_of_mem _ hm))

theorem splitOn_append_cons {s : List α} (h : sep ∉ s) (t : List α) :
    splitOn sep (s ++ sep :: t) = s :: splitOn sep t := by
  induction s with
  | nil => exact splitOn_cons_self t
  | cons c rest ih =>
    have hc : c ≠ sep := fun e => h (by simp [e])
    exact splitOn_cons_of_ne hc (ih fun hm => h (List.mem_cons_of_mem _ hm))

theorem splitOn_intercalate {parts : List (List α)} (hne : parts ≠ [])
    (h : ∀ part ∈ parts, sep ∉ part) : splitOn sep ([sep].intercalate parts) = parts := by
  induction parts with
  | nil => exact absurd rfl hne
  | cons p ps ih =>
    cases ps with
    | nil => simpa [List.intercalate] using splitOn_of_not_mem (h p (by simp))
    | cons q qs =>
      have hp : sep ∉ p := h p (by simp)
      have := ih (by simp) fun part hm => h part (List.mem_cons_of_mem _ hm)
      have heq : [sep].intercalate (p :: q :: qs) = p ++ sep :: [sep].intercalate (q :: qs) := by
        simp [List.intercalate]
      rw [heq, splitOn_append_cons hp, this]

theorem splitOn_eq_iff {s : List α} {parts : List (List α)} :
    splitOn sep s = parts ↔
      parts ≠ [] ∧ (∀ part ∈ parts, sep ∉ part) ∧ [sep].intercalate parts = s := by
  constructor
  · rintro rfl
    exact ⟨splitOn_ne_nil s, fun _ => not_mem_of_mem_splitOn, intercalate_splitOn s⟩
  · rintro ⟨hne, hsep, rfl⟩
    exact splitOn_intercalate hne hsep

end Split

def trim (p : Char → Bool) (text : Text) : Text :=
  ((text.dropWhile p).reverse.dropWhile p).reverse

/-- The part after a leading `lead`, or the whole when it does not start so. -/
def dropLead {α : Type} [DecidableEq α] (lead : List α) (s : List α) : List α :=
  if lead.isPrefixOf s then s.drop lead.length else s

/-- The part before a trailing `tail`, if the list ends so. -/
def stripTail? {α : Type} [DecidableEq α] (tail : List α) (s : List α) : Option (List α) :=
  if tail.isSuffixOf s then some (s.take (s.length - tail.length)) else none

theorem stripTail?_eq_some_iff {α : Type} [DecidableEq α] {tail s r : List α} :
    stripTail? tail s = some r ↔ s = r ++ tail := by
  unfold stripTail?
  split
  · rename_i h
    obtain ⟨t, rfl⟩ := List.isSuffixOf_iff_suffix.1 h
    simp [eq_comm]
  · rename_i h
    constructor
    · intro h'; cases h'
    · rintro rfl
      exact absurd (List.isSuffixOf_iff_suffix.2 (List.suffix_append r tail)) h

end Text

end ImportCensus
