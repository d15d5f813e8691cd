import ImportCensus.Text.Basic
import Mathlib.Tactic.IntervalCases
/-!
# The digits of a number

What the decimal text of a number looks like from its front: it is not empty, has digits only,
and does not begin with a zero unless the number is one.
-/

namespace ImportCensus.Text

variable {c : Char} {n : Nat}

theorem ne_of_test {p : Char → Bool} {d : Char} (h : p c = true) (hd : p d = false) : c ≠ d := by
  rintro rfl
  rw [h] at hd
  cases hd

theorem isDigit_of_mem_ofNat (h : c ∈ ofNat n) : c.isDigit = true :=
  Nat.isDigit_of_mem_toDigits (by omega) (by omega) h

theorem exists_cons_ofNat (n : Nat) :
    ∃ first more, ofNat n = first :: more ∧ first.isDigit = true := by
  obtain ⟨first, more, hfirst⟩ :=
    List.exists_cons_of_ne_nil (Nat.toDigits_ne_nil (n := n) (b := 10))
  exact ⟨first, more, hfirst, isDigit_of_mem_ofNat (n := n) (by simp [ofNat, hfirst])⟩

theorem head?_ofNat (h : n ≠ 0) : (ofNat n).head? ≠ some '0' := by
  induction n using Nat.strongRecOn with
  | ind n ih =>
    rw [ofNat, Nat.toDigits_eq_if (by omega)]
    split
    · have hpos : 0 < n := Nat.pos_of_ne_zero h
      interval_cases n
      all_goals decide
    · obtain ⟨first, more, hfirst, -⟩ := exists_cons_ofNat (n / 10)
      have hne := ih (n / 10) (by omega) (by omega)
      rw [hfirst] at hne
      rw [ofNat] at hfirst
      rw [hfirst]
      exact hne

end ImportCensus.Text
