/-!
# Rounding

Rounding a quotient of natural numbers to the nearest natural number, a tie going to the even
neighbour.  The main statement is `roundDiv_near`: the result is within half a unit.
-/

namespace ImportCensus.Number

/-- `n / d` rounded to the nearest natural number; a tie goes to the even one. -/
def roundDiv (n d : Nat) : Nat :=
  let q := n / d
  let twice := 2 * (n % d)
  if twice < d then q
  else if d < twice then q + 1
  else if q % 2 = 0 then q else q + 1

theorem roundDiv_near (n d : Nat) (h : 0 < d) :
    2 * (roundDiv n d * d) ≤ 2 * n + d ∧ 2 * n ≤ 2 * (roundDiv n d * d) + d := by
  have hdiv := Nat.div_add_mod n d
  have hmod := Nat.mod_lt n h
  have hcomm : n / d * d = d * (n / d) := Nat.mul_comm _ _
  simp only [roundDiv]
  split
  · omega
  · split
    · rw [Nat.add_mul]
      omega
    · split
      · omega
      · rw [Nat.add_mul]
        omega

end ImportCensus.Number
