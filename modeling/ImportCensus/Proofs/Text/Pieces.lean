import ImportCensus.Text.Basic
/-!
# Pieces between separators

A list is cut at every element that is a separator.  What has no separator in it cannot stand
across a cut, so it is found in the list exactly if it is found in one of the pieces.
-/

namespace ImportCensus.Text

section Pieces

variable {α : Type} {p : α → Bool} {x : α} {s s' t : List α}

@[elab_as_elim]
theorem pieceInduction (p : α → Bool) {motive : List α → Prop}
    (last : ∀ s, (∀ c ∈ s, p c = false) → motive s)
    (next : ∀ s x s', (∀ c ∈ s, p c = false) → p x = true → motive s' → motive (s ++ x :: s'))
    (s : List α) : motive s := by
  induction hn : s.length using Nat.strongRecOn generalizing s with
  | ind n ih =>
    cases hfind : s.find? p with
    | none => exact last s (by simpa using hfind)
    | some x =>
      obtain ⟨hx, before, after, rfl, hbefore⟩ := List.find?_eq_some_iff_append.mp hfind
      have hshort : after.length < n := by
        rw [← hn, List.length_append, List.length_cons]
        omega
      exact next before x after (by simpa using hbefore) hx (ih after.length hshort after rfl)

theorem eq_nil_of_isPrefix_cons (hx : p x = true) (ht : ∀ c ∈ t, p c = false)
    (h : t <+: x :: s) : t = [] := by
  cases t with
  | nil => rfl
  | cons c t =>
    obtain ⟨rfl, -⟩ := List.cons_prefix_cons.mp h
    rw [ht c List.mem_cons_self] at hx
    cases hx

theorem isInfix_append_cons_iff (hx : p x = true) (ht : ∀ c ∈ t, p c = false) :
    t <:+: s ++ x :: s' ↔ t <:+: s ∨ t <:+: s' := by
  constructor
  · intro h
    rcases List.infix_append_iff.mp h with h | h | ⟨l, r, rfl, hl, hr⟩
    · exact Or.inl h
    · rcases List.infix_cons_iff.mp h with h | h
      · rw [eq_nil_of_isPrefix_cons hx ht h]
        exact Or.inl List.nil_infix
      · exact Or.inr h
    · have hr : r = [] :=
        eq_nil_of_isPrefix_cons hx (fun c hc => ht c (List.mem_append_right l hc)) hr
      rw [hr, List.append_nil]
      exact Or.inl hl.isInfix
  · rintro (h | h)
    · exact List.infix_append_of_infix_left h
    · exact List.infix_append_of_infix_right (List.infix_cons h)

theorem exists_mem_splitOnP_iff (ht : ∀ c ∈ t, p c = false) :
    (∃ piece ∈ s.splitOnP p, t <:+: piece) ↔ t <:+: s := by
  induction s using pieceInduction p with
  | last s hs => simp [List.splitOnP_eq_singleton hs]
  | next s x s' hs hx ih =>
    rw [List.splitOnP_append_cons_of_forall_mem hs x hx, isInfix_append_cons_iff hx ht, ← ih]
    simp only [List.mem_cons, exists_eq_or_imp]

end Pieces

/-! ## One separator -/

section One

variable {α : Type} [DecidableEq α] {sep : α} {s t part : List α}

theorem splitOn_eq_splitOnP (sep : α) (s : List α) : splitOn sep s = s.splitOnP (· == sep) := by
  induction s using pieceInduction (· == sep) with
  | last s hs =>
    have hsep : sep ∉ s := fun hmem => by simpa using hs sep hmem
    rw [splitOn_of_not_mem hsep, List.splitOnP_eq_singleton hs]
  | next s x s' hs hx ih =>
    obtain rfl := eq_of_beq hx
    have hsep : x ∉ s := fun hmem => by simpa using hs x hmem
    rw [splitOn_append_cons hsep, ih, List.splitOnP_append_cons_of_forall_mem hs x hx]

theorem exists_mem_splitOn_iff (hsep : sep ∉ t) :
    (∃ part ∈ splitOn sep s, t <:+: part) ↔ t <:+: s := by
  rw [splitOn_eq_splitOnP]
  apply exists_mem_splitOnP_iff
  intro c hc
  rw [beq_eq_false_iff_ne]
  rintro rfl
  exact hsep hc

theorem isInfix_of_mem_splitOn (h : part ∈ splitOn sep s) : part <:+: s :=
  (exists_mem_splitOn_iff (not_mem_of_mem_splitOn h)).mp ⟨part, h, List.infix_rfl⟩

end One

end ImportCensus.Text
