import ImportCensus.Number.Dyadic
import ImportCensus.Proofs.Text.Digits
import ImportCensus.Proofs.Text.Trimming
import Mathlib.Algebra.Order.Field.Rat
import Mathlib.Tactic.FieldSimp
import Mathlib.Tactic.Positivity
/-!
# Decimals read back

What number a decimal says, so that bounds on what is shown are bounds on the text.  A decimal has
digits and a point only; a unit behind it begins with something else, so a text shows one number
in one unit.
-/

namespace ImportCensus.Number

variable {places units n : Nat} {text numeral numeral' unit unit' : Text} {q q' : ℚ} {c : Char}

def isDigits (text : Text) : Bool :=
  !text.isEmpty && text.all (·.isDigit)

/-- The number that a decimal says: digits, and a point with more digits behind it or not. -/
def decimal? (text : Text) : Option ℚ :=
  match Text.splitOn '.' text with
  | [whole] => if isDigits whole then some (Nat.ofDigitChars 10 whole 0) else none
  | [whole, tail] =>
    if isDigits whole && isDigits tail then
      some (Nat.ofDigitChars 10 whole 0 + Nat.ofDigitChars 10 tail 0 / 10 ^ tail.length)
    else none
  | _ => none

def isDecimalChar (c : Char) : Bool :=
  c.isDigit || c == '.'

/-! ## Reading -/

theorem isDigits_iff : isDigits text = true ↔ text ≠ [] ∧ ∀ c ∈ text, c.isDigit = true := by
  simp [isDigits]

theorem point_notMem (h : ∀ c ∈ text, c.isDigit = true) : '.' ∉ text := by
  intro hmem
  exact absurd (h '.' hmem) (by decide)

theorem isDigits_ofNat (n : Nat) : isDigits (Text.ofNat n) = true := by
  obtain ⟨first, more, hfirst, -⟩ := Text.exists_cons_ofNat n
  refine isDigits_iff.mpr ⟨?_, fun c => Text.isDigit_of_mem_ofNat⟩
  rw [hfirst]
  exact List.cons_ne_nil _ _

theorem decimal?_ofNat (n : Nat) : decimal? (Text.ofNat n) = some (n : ℚ) := by
  have hdigits := isDigits_ofNat n
  rw [decimal?, Text.splitOn_of_not_mem (point_notMem (isDigits_iff.mp hdigits).2)]
  dsimp only
  rw [if_pos hdigits, Text.ofNat, Nat.ofDigitChars_ten_toDigits]

def paddedText (places n : Nat) : Text :=
  List.replicate (places - (Text.ofNat n).length) '0' ++ Text.ofNat n

theorem length_paddedText (hplaces : 0 < places) (h : n < 10 ^ places) :
    (paddedText places n).length = places := by
  have hlength : (Text.ofNat n).length ≤ places :=
    (Nat.length_toDigits_le_iff (by decide) hplaces).mpr h
  rw [paddedText, List.length_append, List.length_replicate]
  omega

theorem isDigits_paddedText (places n : Nat) : isDigits (paddedText places n) = true := by
  obtain ⟨hne, hdigits⟩ := isDigits_iff.mp (isDigits_ofNat n)
  refine isDigits_iff.mpr ⟨List.append_ne_nil_of_right_ne_nil _ hne, ?_⟩
  rw [paddedText, List.forall_mem_append]
  refine ⟨fun c hc => ?_, hdigits⟩
  rw [List.eq_of_mem_replicate hc]
  rfl

theorem ofDigitChars_paddedText (places n : Nat) :
    Nat.ofDigitChars 10 (paddedText places n) 0 = n := by
  rw [paddedText, Nat.ofDigitChars_append, Nat.ofDigitChars_replicate_zero, Nat.mul_zero,
    Text.ofNat, Nat.ofDigitChars_ten_toDigits]

/-- A decimal with a fixed number of places is read back as the count of units that it shows. -/
theorem decimal?_fixedText (hplaces : 0 < places) (units : Nat) :
    decimal? (fixedText places units) = some ((units : ℚ) / 10 ^ places) := by
  have hwhole := isDigits_ofNat (units / 10 ^ places)
  have htail := isDigits_paddedText places (units % 10 ^ places)
  have hlength : (paddedText places (units % 10 ^ places)).length = places :=
    length_paddedText hplaces (Nat.mod_lt _ (by positivity))
  have hnumber : ((units / 10 ^ places : Nat) : ℚ) + (units % 10 ^ places : Nat) / 10 ^ places =
      units / 10 ^ places := by
    have hdivision : (10 ^ places * (units / 10 ^ places : Nat) + (units % 10 ^ places : Nat) : ℚ) =
        units := by
      exact_mod_cast Nat.div_add_mod units (10 ^ places)
    rw [← hdivision]
    field_simp
  have htext : fixedText places units =
      Text.ofNat (units / 10 ^ places) ++ '.' :: paddedText places (units % 10 ^ places) := by
    simp only [fixedText, paddedText, Nat.pow_eq, List.cons_append, List.append_assoc]
  rw [htext, decimal?, Text.splitOn_append_cons (point_notMem (isDigits_iff.mp hwhole).2),
    Text.splitOn_of_not_mem (point_notMem (isDigits_iff.mp htail).2)]
  dsimp only
  rw [hwhole, htail, Bool.and_self, if_pos rfl, hlength, ofDigitChars_paddedText, Text.ofNat,
    Nat.ofDigitChars_ten_toDigits, hnumber]

/-! ## One number in one unit -/

theorem isDigits_of_mem_splitOn (h : decimal? text = some q) :
    ∀ part ∈ Text.splitOn '.' text, isDigits part = true := by
  unfold decimal? at h
  split at h
  · rename_i whole hparts
    split at h
    · rename_i hwhole
      rw [hparts, List.forall_mem_singleton]
      exact hwhole
    · cases h
  · rename_i whole tail hparts
    split at h
    · rename_i hboth
      rw [hparts, List.forall_mem_cons, List.forall_mem_singleton]
      exact Bool.and_eq_true_iff.mp hboth
    · cases h
  · cases h

theorem isDecimalChar_of_mem (h : decimal? text = some q) (hc : c ∈ text) :
    isDecimalChar c = true := by
  rw [isDecimalChar, Bool.or_eq_true, beq_iff_eq]
  by_cases hpoint : c = '.'
  · exact .inr hpoint
  · rw [← @Text.intercalate_splitOn _ _ '.' text, Text.mem_intercalate_singleton_iff hpoint] at hc
    obtain ⟨part, hpart, hc⟩ := hc
    exact .inl ((isDigits_iff.mp (isDigits_of_mem_splitOn h part hpart)).2 c hc)

theorem takeWhile_append_unit (h : decimal? numeral = some q)
    (hunit : unit.takeWhile isDecimalChar = []) :
    (numeral ++ unit).takeWhile isDecimalChar = numeral := by
  rw [List.takeWhile_append_of_pos fun c hc => isDecimalChar_of_mem h hc, hunit, List.append_nil]

/-- A text does not show two numbers, nor one in two units. -/
theorem numeral_append_inj (h : decimal? numeral = some q) (h' : decimal? numeral' = some q')
    (hunit : unit.takeWhile isDecimalChar = []) (hunit' : unit'.takeWhile isDecimalChar = [])
    (heq : numeral ++ unit = numeral' ++ unit') : numeral = numeral' ∧ unit = unit' := by
  have hnumeral : numeral = numeral' := by
    rw [← takeWhile_append_unit h hunit, heq, takeWhile_append_unit h' hunit']
  rw [hnumeral] at heq
  exact ⟨hnumeral, List.append_cancel_left heq⟩

end ImportCensus.Number
