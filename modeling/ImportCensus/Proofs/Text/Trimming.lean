import ImportCensus.Proofs.Statement.Symbol
import Mathlib.Data.List.Basic
/-!
# What trimming and joining leave

A trimmed text has no character to be trimmed at its ends, and loses nothing between two
characters that stay.  Parts that are joined are found in what they are joined to.
-/

namespace ImportCensus.Text

/-! ## Trimming -/

section Trim

variable {p : Char → Bool} {s text : Text}

theorem head?_dropWhile : ∀ c ∈ (text.dropWhile p).head?, p c = false := by
  intro c hc
  have hnot := List.head?_dropWhile_not p text
  rw [Option.mem_def.mp hc] at hnot
  exact hnot

theorem trim_isPrefix : trim p text <+: text.dropWhile p := by
  rw [trim, ← List.reverse_suffix, List.reverse_reverse]
  exact List.dropWhile_suffix p

theorem trim_isInfix : trim p text <:+: text :=
  trim_isPrefix.isInfix.trans (List.dropWhile_suffix p).isInfix

theorem head?_trim : ∀ c ∈ (trim p text).head?, p c = false := by
  intro c hc
  obtain ⟨rest, hrest⟩ := List.head?_eq_some_iff.mp hc
  have hprefix : trim p text <+: text.dropWhile p := trim_isPrefix
  obtain ⟨more, hmore⟩ := hprefix
  have hhead : c ∈ (text.dropWhile p).head? := by
    rw [← hmore, hrest]
    rfl
  exact head?_dropWhile c hhead

theorem getLast?_trim : ∀ c ∈ (trim p text).getLast?, p c = false := by
  rw [trim, List.getLast?_reverse]
  exact head?_dropWhile

theorem dropWhile_append_of_stays (u : Text) (h : ∀ c ∈ text.head?, p c = false) :
    (u ++ text).dropWhile p = u.dropWhile p ++ text := by
  rw [List.dropWhile_append]
  split
  · rename_i hnil
    rw [List.isEmpty_iff.mp hnil, dropWhile_eq_self h, List.nil_append]
  · rfl

/-- A piece whose ends are not trimmed is left whole. -/
theorem isInfix_trim (h : s <:+: text) (hfirst : ∀ c ∈ s.head?, p c = false)
    (hlast : ∀ c ∈ s.getLast?, p c = false) : s <:+: trim p text := by
  obtain ⟨u, v, rfl⟩ := h
  by_cases hs : s = []
  · rw [hs]
    exact List.nil_infix
  have hhead : ∀ c ∈ (s ++ v).head?, p c = false := by
    rwa [List.head?_append_of_ne_nil s hs]
  have htail : ∀ c ∈ (s.reverse ++ (u.dropWhile p).reverse).head?, p c = false := by
    rwa [List.head?_append_of_ne_nil s.reverse (by simpa using hs), List.head?_reverse]
  refine ⟨u.dropWhile p, (v.reverse.dropWhile p).reverse, ?_⟩
  rw [trim, List.append_assoc u, dropWhile_append_of_stays u hhead, List.reverse_append,
    List.reverse_append, List.append_assoc v.reverse, dropWhile_append_of_stays v.reverse htail]
  simp

end Trim

/-! ## Parts -/

section Parts

variable {α : Type} {sep : List α} {part : List α} {parts : List (List α)}

theorem isInfix_intercalate (h : part ∈ parts) : part <:+: sep.intercalate parts := by
  induction parts with
  | nil => cases h
  | cons first parts ih =>
    cases parts with
    | nil =>
      obtain rfl := List.mem_singleton.mp h
      exact List.intercalate_singleton.symm ▸ List.infix_rfl
    | cons second parts =>
      rw [List.intercalate_cons_cons]
      rcases List.mem_cons.mp h with rfl | h
      · rw [List.append_assoc]
        exact (List.prefix_append _ _).isInfix
      · exact (ih h).trans (List.suffix_append _ _).isInfix

theorem mem_intercalate_singleton_iff {x y : α} (hne : x ≠ y) :
    x ∈ [y].intercalate parts ↔ ∃ part ∈ parts, x ∈ part := by
  constructor
  · intro h
    exact (mem_intercalate h).resolve_left (by simpa using hne)
  · rintro ⟨part, hpart, hx⟩
    exact (isInfix_intercalate hpart).subset hx

end Parts

end ImportCensus.Text
