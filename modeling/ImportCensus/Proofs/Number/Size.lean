import ImportCensus.Number.Size
import ImportCensus.Proofs.Number.Decimal
import ImportCensus.Proofs.Number.Dyadic
import Mathlib.Tactic.NormNum
/-!
# The unit of a byte count

The divisions that lead to the unit of a count are exact, so the unit is right for the count, but
not always for the number that is shown: a count that is less than 1024 units by at most half a
tenth of one is shown as 1024.0 of them, where the next unit would say 1.0.
-/

namespace ImportCensus.Number

variable {n b : Nat} {count : ℚ} {x : Dyadic} {unit next : SizeUnit} {larger : List SizeUnit}

/-- Whether a text shows a number in the unit that the number belongs to: it is at least one, but
for bytes, and less than 1024 where there is a larger unit. -/
def FitsSizeUnit (text : Text) : Prop :=
  ∃ numeral q unit, text = numeral ++ ' ' :: SizeUnit.sign unit ∧ decimal? numeral = some q ∧
    (unit ≠ .b → 1 ≤ q) ∧ (unit ≠ .gb → q < 1024)

def SizeUnit.bytes : SizeUnit → Nat
  | .b => 1
  | .kb => 1024
  | .mb => 1024 ^ 2
  | .gb => 1024 ^ 3

/-! ## Going on to larger units -/

/-- Whether each of some units is 1024 times the one before, up to the largest. -/
def IsLadder (unit : SizeUnit) : List SizeUnit → Prop
  | [] => unit = .gb
  | next :: larger => next.bytes = 1024 * unit.bytes ∧ IsLadder next larger

/-- Whether a number of units is a count of bytes, exactly, and at least one of them where there is
a smaller unit. -/
structure IsCountIn (count : ℚ) (x : Dyadic) (unit : SizeUnit) : Prop where
  value : x.value * unit.bytes = count
  isHeld : Dyadic.IsHeld x.value
  one_le : unit ≠ .b → 1 ≤ x.value

theorem isCountIn_bytes (n : Nat) : IsCountIn (Dyadic.ofNat n).value (Dyadic.ofNat n) .b where
  value := by simp [SizeUnit.bytes]
  isHeld := Dyadic.isHeld_ofRatio n one_pos
  one_le hunit := absurd rfl hunit

/-- A division by 1024 loses nothing, so the count is the same in the next unit. -/
theorem IsCountIn.step (h : IsCountIn count x unit) (hx : x.atLeast 1024 = true)
    (hbytes : next.bytes = 1024 * unit.bytes) :
    IsCountIn count (x.div (Dyadic.ofNat 1024)) next := by
  have hthousand : (Dyadic.ofNat 1024).value = 2 ^ 10 := by
    rw [Dyadic.value_ofNat (by decide)]
    norm_num
  have hvalue : (x.div (Dyadic.ofNat 1024)).value = x.value / 2 ^ 10 := by
    rw [← hthousand]
    refine Dyadic.value_div (by norm_num [hthousand]) ?_
    rw [hthousand]
    exact h.isHeld.div_two_pow 10
  rw [Dyadic.atLeast_iff] at hx
  refine ⟨?_, ?_, fun _ => ?_⟩
  · rw [hvalue, hbytes, ← h.value]
    push_cast
    ring
  · rw [hvalue]
    exact h.isHeld.div_two_pow 10
  · rw [hvalue]
    norm_num at hx ⊢
    linarith

theorem IsCountIn.climb (h : IsCountIn count x unit) (hladder : IsLadder unit larger) :
    IsCountIn count (climb x unit larger).1 (climb x unit larger).2 ∧
      ((climb x unit larger).2 ≠ .gb → (climb x unit larger).1.value < 1024) := by
  induction larger generalizing x unit with
  | nil => exact ⟨h, fun hunit => absurd hladder hunit⟩
  | cons next larger ih =>
    obtain ⟨hbytes, hladder⟩ := hladder
    rw [Number.climb]
    split
    · rename_i hx
      exact ih (h.step hx hbytes) hladder
    · rename_i hx
      rw [Dyadic.atLeast_iff, not_le] at hx
      exact ⟨h, fun _ => by exact_mod_cast hx⟩

/-! ## The unit of a count -/

def sizeUnit (n : Nat) : SizeUnit :=
  (inUnit n).2

def sizeTenths (n : Nat) : Nat :=
  (inUnit n).1.units 1

theorem isCountIn_inUnit (n : Nat) :
    IsCountIn (Dyadic.ofNat n).value (inUnit n).1 (sizeUnit n) ∧
      (sizeUnit n ≠ .gb → (inUnit n).1.value < 1024) :=
  (isCountIn_bytes n).climb ⟨rfl, rfl, rfl, rfl⟩

/-- Rounding a count to 53 bits takes it across no bound of fewer bits. -/
theorem le_value_ofNat_iff (hb : b < 2 ^ 53) : (b : ℚ) ≤ (Dyadic.ofNat n).value ↔ b ≤ n := by
  by_cases hn : n < 2 ^ 53
  · rw [Dyadic.value_ofNat hn, Nat.cast_le]
  · refine iff_of_true ?_ (by omega)
    have hb' : (b : ℚ) ≤ 2 ^ 53 - 1 := by
      rw [le_sub_iff_add_le]
      exact_mod_cast hb
    have hn' : (2 ^ 53 : ℚ) ≤ n := by exact_mod_cast not_lt.mp hn
    have hnear := abs_le.mp (Dyadic.ofNat_near n)
    calc (b : ℚ) ≤ 2 ^ 53 - 1 := hb'
      _ ≤ n - n / 2 ^ 53 := by linarith
      _ ≤ (Dyadic.ofNat n).value := by linarith [hnear.1]

theorem bytes_pos (unit : SizeUnit) : 0 < unit.bytes := by
  cases unit <;> decide

theorem bytes_lt (unit : SizeUnit) : 1024 * unit.bytes < 2 ^ 53 := by
  cases unit <;> decide

theorem bytes_sizeUnit (n : Nat) :
    (sizeUnit n ≠ .b → (sizeUnit n).bytes ≤ n) ∧
      (sizeUnit n ≠ .gb → n < 1024 * (sizeUnit n).bytes) := by
  obtain ⟨hcount, hlt⟩ := isCountIn_inUnit n
  have hpos : (0 : ℚ) < (sizeUnit n).bytes := by exact_mod_cast bytes_pos _
  have hbits := bytes_lt (sizeUnit n)
  constructor
  · intro hunit
    rw [← le_value_ofNat_iff (by omega), ← hcount.value]
    exact le_mul_of_one_le_left hpos.le (hcount.one_le hunit)
  · intro hunit
    rw [← not_le, ← le_value_ofNat_iff hbits, ← hcount.value, not_le]
    push_cast
    exact mul_lt_mul_of_pos_right (hlt hunit) hpos

theorem eq_of_bytes_lt {unit unit' : SizeUnit} (h : unit.bytes < 1024 * unit'.bytes)
    (h' : unit'.bytes < 1024 * unit.bytes) : unit = unit' := by
  revert h h'
  cases unit <;> cases unit' <;> decide

theorem sizeUnit_eq (hlow : unit.bytes ≤ n) (hhigh : n < 1024 * unit.bytes) :
    sizeUnit n = unit := by
  obtain ⟨hle, hlt⟩ := bytes_sizeUnit n
  have hpos := bytes_pos unit
  refine eq_of_bytes_lt ?_ ?_
  · by_cases hb : sizeUnit n = .b
    · rw [hb]
      change 1 < _
      omega
    · exact (hle hb).trans_lt hhigh
  · by_cases hgb : sizeUnit n = .gb
    · rw [hgb]
      cases unit <;> decide
    · exact hlow.trans_lt (hlt hgb)

/-! ## The number that is shown -/

/-- The tenths that are shown are off by half of one, and by what rounding to 53 bits adds. -/
theorem sizeTenths_near (n : Nat) :
    |(sizeTenths n : ℚ) - n / (sizeUnit n).bytes * 10| ≤
      1 / 2 + n / (sizeUnit n).bytes * 10 / 2 ^ 53 := by
  have hpos : (0 : ℚ) < (sizeUnit n).bytes := by exact_mod_cast bytes_pos _
  have hvalue : (inUnit n).1.value = (Dyadic.ofNat n).value / (sizeUnit n).bytes := by
    rw [eq_div_iff hpos.ne']
    exact (isCountIn_inUnit n).1.value
  have hcount : |(inUnit n).1.value - n / (sizeUnit n).bytes| ≤
      n / (sizeUnit n).bytes / 2 ^ 53 := by
    rw [hvalue, ← sub_div, abs_div, abs_of_pos hpos, div_right_comm]
    gcongr
    exact Dyadic.ofNat_near n
  have hunits := Dyadic.units_near 1 (inUnit n).1
  change |(sizeTenths n : ℚ) - _ * 10 ^ 1| ≤ 1 / 2 at hunits
  rw [abs_le] at hcount hunits ⊢
  constructor
  · linarith [hcount.1, hunits.1]
  · linarith [hcount.2, hunits.2]

theorem ten_le_sizeTenths (h : sizeUnit n ≠ .b) : 10 ≤ sizeTenths n := by
  have hpos : (0 : ℚ) < (sizeUnit n).bytes := by exact_mod_cast bytes_pos _
  have hone : (1 : ℚ) ≤ n / (sizeUnit n).bytes := by
    rw [one_le_div hpos]
    exact_mod_cast (bytes_sizeUnit n).1 h
  have hnear := (abs_le.mp (sizeTenths_near n)).1
  have hlow : (9 : ℚ) < sizeTenths n := by linarith
  exact_mod_cast hlow

/-- Between 1023.9 and 1024.0 the number that is shown turns at half a tenth, which no count of
bytes meets. -/
theorem tenths_lt_iff {tenths : Nat} (hb : b = 1024 ∨ b = 1024 ^ 2) (hn : n < 1024 * b)
    (hnear : |(tenths : ℚ) - n / b * 10| ≤ 1 / 2 + n / b * 10 / 2 ^ 53) :
    tenths < 10240 ↔ 20 * n < 20479 * b := by
  have hbound : (n : ℚ) + 1 ≤ 1024 * b := by exact_mod_cast hn
  rw [abs_le] at hnear
  constructor
  · intro hlt
    by_contra hge
    have hlow : (20479 * b + 1 : ℚ) ≤ 20 * n := by
      have hne : 20479 * b + 1 ≤ 20 * n := by omega
      exact_mod_cast hne
    have hhigh : (tenths : ℚ) ≤ 10239 := by
      have hle : tenths ≤ 10239 := by omega
      exact_mod_cast hle
    rcases hb with rfl | rfl
    · norm_num at hnear hlow hbound
      linarith [hnear.1]
    · norm_num at hnear hlow hbound
      linarith [hnear.1]
  · intro hlt
    have hhigh : (20 * n + 1 : ℚ) ≤ 20479 * b := by exact_mod_cast hlt
    have htenths : (tenths : ℚ) < 10240 := by
      rcases hb with rfl | rfl
      · norm_num at hnear hhigh
        linarith [hnear.2]
      · norm_num at hnear hhigh
        linarith [hnear.2]
    exact_mod_cast htenths

/-- Whether a count is less than 1024 kilobytes or megabytes by at most half a tenth of one. -/
def IsAlmostNext (n : Nat) : Prop :=
  ∃ unit, (unit = SizeUnit.kb ∨ unit = SizeUnit.mb) ∧
    20479 * unit.bytes ≤ 20 * n ∧ n < 1024 * unit.bytes

/-- A count is almost one of the next unit when its number is rounded up to 1024. -/
theorem isAlmostNext_iff :
    IsAlmostNext n ↔ (sizeUnit n = .kb ∨ sizeUnit n = .mb) ∧ 10240 ≤ sizeTenths n := by
  have hbytes : ∀ {unit : SizeUnit}, unit = .kb ∨ unit = .mb →
      unit.bytes = 1024 ∨ unit.bytes = 1024 ^ 2 := by
    rintro unit (rfl | rfl)
    · exact .inl rfl
    · exact .inr rfl
  have hlt : ∀ {unit : SizeUnit}, unit = .kb ∨ unit = .mb → sizeUnit n = unit →
      (sizeTenths n < 10240 ↔ 20 * n < 20479 * unit.bytes) := by
    rintro unit hunit rfl
    refine tenths_lt_iff (hbytes hunit) ((bytes_sizeUnit n).2 ?_) (sizeTenths_near n)
    rcases hunit with hunit | hunit
    · rw [hunit]
      decide
    · rw [hunit]
      decide
  constructor
  · rintro ⟨unit, hunit, hlow, hhigh⟩
    have hsame : sizeUnit n = unit := sizeUnit_eq (by omega) hhigh
    exact ⟨hsame ▸ hunit, by rwa [← not_lt, hlt hunit hsame, not_lt]⟩
  · rintro ⟨hunit, htenths⟩
    refine ⟨sizeUnit n, hunit, ?_, (bytes_sizeUnit n).2 ?_⟩
    · rwa [← not_lt, ← hlt hunit rfl, not_lt]
    · rcases hunit with hunit | hunit
      · rw [hunit]
        decide
      · rw [hunit]
        decide

/-! ## The text -/

theorem exists_numeral (n : Nat) :
    ∃ numeral q, sizeText n = numeral ++ ' ' :: (sizeUnit n).sign ∧ decimal? numeral = some q ∧
      q = if sizeUnit n = .b then (n : ℚ) else sizeTenths n / 10 := by
  obtain ⟨x, unit, hx⟩ : ∃ x unit, inUnit n = (x, unit) := ⟨_, _, rfl⟩
  have hread := decimal?_fixedText one_pos (x.units 1)
  rw [pow_one] at hread
  rw [sizeText, sizeUnit, sizeTenths, hx]
  cases unit with
  | b => exact ⟨_, _, rfl, decimal?_ofNat n, rfl⟩
  | kb => exact ⟨_, _, rfl, hread, rfl⟩
  | mb => exact ⟨_, _, rfl, hread, rfl⟩
  | gb => exact ⟨_, _, rfl, hread, rfl⟩

theorem sign_inj {unit unit' : SizeUnit} (h : unit.sign = unit'.sign) : unit = unit' := by
  revert h
  cases unit <;> cases unit' <;> decide

theorem size_inj {numeral numeral' : Text} {q q' : ℚ} {unit unit' : SizeUnit}
    (h : decimal? numeral = some q) (h' : decimal? numeral' = some q')
    (heq : numeral ++ ' ' :: unit.sign = numeral' ++ ' ' :: unit'.sign) :
    q = q' ∧ unit = unit' := by
  obtain ⟨rfl, hunit⟩ := numeral_append_inj h h' rfl rfl heq
  exact ⟨Option.some.inj (h.symm.trans h'), sign_inj (List.cons.inj hunit).2⟩

/-- A count is shown in a unit of which it is at least one, but for bytes.  The number that is
shown is less than 1024 of them where there is a larger unit, unless the count is almost one of
the next unit. -/
theorem fitsSizeUnit_sizeText_iff (n : Nat) :
    (∃ numeral q unit, sizeText n = numeral ++ ' ' :: SizeUnit.sign unit ∧
      decimal? numeral = some q ∧ (unit ≠ .b → 1 ≤ q)) ∧
    (FitsSizeUnit (sizeText n) ↔ ¬ IsAlmostNext n) := by
  obtain ⟨numeral, q, htext, hnumeral, hq⟩ := exists_numeral n
  have hone : sizeUnit n ≠ .b → 1 ≤ q := by
    intro hunit
    have hten : (10 : ℚ) ≤ sizeTenths n := by exact_mod_cast ten_le_sizeTenths hunit
    rw [hq, if_neg hunit]
    linarith
  have hlt : (sizeUnit n ≠ .gb → q < 1024) ↔ ¬ IsAlmostNext n := by
    have htenths : sizeUnit n ≠ .b → (q < 1024 ↔ sizeTenths n < 10240) := by
      intro hunit
      rw [hq, if_neg hunit, div_lt_iff₀ (by norm_num)]
      norm_num
    rw [isAlmostNext_iff, not_and, not_le]
    cases hunit : sizeUnit n with
    | b =>
      have hcount : (n : ℚ) < 1024 := by
        have hn := (bytes_sizeUnit n).2 (by simp [hunit])
        rw [hunit] at hn
        exact_mod_cast hn
      rw [hq, if_pos hunit]
      exact iff_of_true (fun _ => hcount) (by simp)
    | kb => simp [htenths, hunit]
    | mb => simp [htenths, hunit]
    | gb => simp
  refine ⟨⟨numeral, q, _, htext, hnumeral, hone⟩, ?_⟩
  rw [← hlt]
  constructor
  · rintro ⟨numeral', q', unit, htext', hnumeral', -, hnext⟩
    obtain ⟨rfl, rfl⟩ := size_inj hnumeral hnumeral' (htext.symm.trans htext')
    exact hnext
  · intro hnext
    exact ⟨numeral, q, _, htext, hnumeral, hone, hnext⟩

/-- One byte less than a megabyte is shown as 1024.0 KB. -/
theorem not_fitsSizeUnit_lastKilobyte :
    sizeText 1048575 = "1024.0 KB".toList ∧ ¬ FitsSizeUnit (sizeText 1048575) := by
  have htext : sizeText 1048575 = "1024.0".toList ++ ' ' :: SizeUnit.kb.sign := by decide +kernel
  have hnumeral : decimal? "1024.0".toList = some 1024 := by
    have hread := decimal?_fixedText one_pos 10240
    norm_num at hread
    exact hread
  refine ⟨by decide +kernel, ?_⟩
  rintro ⟨numeral, q, unit, htext', hnumeral', -, hnext⟩
  obtain ⟨rfl, rfl⟩ := size_inj hnumeral hnumeral' (htext.symm.trans htext')
  exact absurd (hnext (by decide)) (by norm_num)

end ImportCensus.Number
