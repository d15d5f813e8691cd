import ImportCensus.Number.Duration
import ImportCensus.Proofs.Number.Decimal
import ImportCensus.Proofs.Number.Dyadic
import Mathlib.Tactic.NormNum
/-!
# The unit of a duration

The unit is right for the whole seconds, but not always for the number that is shown: what is less
than a second or than a minute by at most half of the last digit is shown as 1000 milliseconds or
as 60 seconds.
-/

namespace ImportCensus.Number

namespace Duration

variable {d : Duration} {text : Text} {secs units : Nat}

/-- Whether a text shows a duration in the unit that it belongs to: less than a thousand
milliseconds, or less than sixty seconds but at least one, or the whole minutes and seconds. -/
def FitsUnit (secs : Nat) (text : Text) : Prop :=
  (∃ numeral q, text = numeral ++ "ms" ∧ decimal? numeral = some q ∧ q < 1000) ∨
  (∃ numeral q, text = numeral ++ "s" ∧ decimal? numeral = some q ∧ 1 ≤ q ∧ q < 60) ∨
  ∃ m s, text = Text.ofNat m ++ "m " ++ Text.ofNat s ++ "s" ∧ 1 ≤ m ∧ s < 60 ∧ 60 * m + s = secs

/-- Whether a duration is shown as a whole second or a whole minute that it does not reach.  Half
of the last digit less than a minute is still shown as less: the number that is held for it is
smaller. -/
def IsAlmostNext (d : Duration) : Prop :=
  d.secs = 0 ∧ 999999500 ≤ d.nanos ∨ d.secs = 59 ∧ 999500000 < d.nanos

/-! ## The number that is shown -/

def exact (d : Duration) : ℚ :=
  d.secs + d.nanos / 10 ^ 9

theorem seconds_near (h : d.secs < 2 ^ 53) :
    |d.seconds.value - d.exact| ≤ d.exact / 2 ^ 50 := by
  have hfraction := Dyadic.ofNat_div_near d.nanos (d := 1000000000) (by decide) (by decide)
  have hsum := Dyadic.add_near (Dyadic.ofNat d.secs)
    ((Dyadic.ofNat d.nanos).div (Dyadic.ofNat 1000000000))
  rw [Dyadic.value_ofNat h] at hsum
  change |d.seconds.value - _| ≤ _ at hsum
  have hsecs : (0 : ℚ) ≤ d.secs := by positivity
  have hnanos : (0 : ℚ) ≤ d.nanos := by positivity
  unfold exact
  rw [abs_le] at hfraction hsum ⊢
  norm_num at hfraction hsum ⊢
  constructor
  · linarith [hfraction.1, hsum.1]
  · linarith [hfraction.2, hsum.2]

/-- Thousandths of a second are off by half of one, and by what rounding to 53 bits adds. -/
theorem units_seconds_near (h : d.secs < 2 ^ 53) :
    |(d.seconds.units 3 : ℚ) - d.exact * 1000| ≤ 1 / 2 + d.exact * 1000 / 2 ^ 50 := by
  have hunits := Dyadic.units_near 3 d.seconds
  have hseconds := seconds_near h
  rw [abs_le] at hunits hseconds ⊢
  norm_num at hunits hseconds ⊢
  constructor
  · linarith [hunits.1, hseconds.1]
  · linarith [hunits.2, hseconds.2]

theorem units_millis_near (h : d.secs < 2 ^ 53) :
    |((d.seconds.mul (Dyadic.ofNat 1000)).units 3 : ℚ) - d.exact * 1000000| ≤
      1 / 2 + d.exact * 1000000 / 2 ^ 49 := by
  have hunits := Dyadic.units_near 3 (d.seconds.mul (Dyadic.ofNat 1000))
  have hproduct := Dyadic.mul_near d.seconds (Dyadic.ofNat 1000)
  have hthousand : (Dyadic.ofNat 1000).value = 1000 := by
    exact_mod_cast Dyadic.value_ofNat (n := 1000) (by decide)
  have hseconds := seconds_near h
  rw [hthousand] at hproduct
  rw [abs_le] at hunits hproduct hseconds ⊢
  norm_num at hunits hproduct hseconds ⊢
  constructor
  · linarith [hunits.1, hproduct.1, hseconds.1]
  · linarith [hunits.2, hproduct.2, hseconds.2]

theorem units_halfBelowMinute (hsecs : d.secs = 59) (hnanos : d.nanos = 999500000) :
    d.seconds.units 3 = 59999 := by
  rw [seconds, hsecs, hnanos]
  decide +kernel

theorem units_halfBelowSecond (hsecs : d.secs = 0) (hnanos : d.nanos = 999999500) :
    (d.seconds.mul (Dyadic.ofNat 1000)).units 3 = 1000000 := by
  rw [seconds, hsecs, hnanos]
  decide +kernel

theorem units_seconds_lt_iff (h : d.secs < 60) :
    d.seconds.units 3 < 60000 ↔ ¬ (d.secs = 59 ∧ 999500000 < d.nanos) := by
  have hnear := units_seconds_near (d := d) (by omega)
  have hlast : d.secs ≤ 59 := by omega
  have hsecs : (d.secs : ℚ) ≤ 59 := by exact_mod_cast hlast
  unfold exact at hnear
  rw [abs_le] at hnear
  norm_num at hnear
  constructor
  · rintro hlt ⟨hsecs', hnanos⟩
    have hlow : (999500001 : ℚ) ≤ d.nanos := by exact_mod_cast hnanos
    have hhigh : (d.seconds.units 3 : ℚ) ≤ 59999 := by
      have hle : d.seconds.units 3 ≤ 59999 := by omega
      exact_mod_cast hle
    have hsecs'' : (d.secs : ℚ) = 59 := by exact_mod_cast hsecs'
    linarith [hnear.1]
  · intro hnot
    have hnanos_lt := d.nanos_lt
    rcases Nat.lt_trichotomy (d.secs * 1000000000 + d.nanos) 59999500000 with hlt | heq | hgt
    · have hlt' : (d.secs * 1000000000 + d.nanos + 1 : ℚ) ≤ 59999500000 := by exact_mod_cast hlt
      have hhigh : (d.seconds.units 3 : ℚ) < 60000 := by linarith [hnear.2]
      exact_mod_cast hhigh
    · rw [units_halfBelowMinute (by omega) (by omega)]
      decide
    · omega

theorem le_units_seconds (h : d.secs < 60) (hpos : 0 < d.secs) : 1000 ≤ d.seconds.units 3 := by
  have hnear := units_seconds_near (d := d) (by omega)
  have hone : (1 : ℚ) ≤ d.secs := by exact_mod_cast hpos
  have hnanos : (0 : ℚ) ≤ d.nanos := by positivity
  unfold exact at hnear
  rw [abs_le] at hnear
  norm_num at hnear
  have hlow : (999 : ℚ) < d.seconds.units 3 := by linarith [hnear.1]
  exact_mod_cast hlow

theorem units_millis_lt_iff (h : d.secs = 0) :
    (d.seconds.mul (Dyadic.ofNat 1000)).units 3 < 1000000 ↔ ¬ 999999500 ≤ d.nanos := by
  have hnear := units_millis_near (d := d) (by omega)
  unfold exact at hnear
  rw [abs_le, h] at hnear
  norm_num at hnear
  rcases Nat.lt_trichotomy d.nanos 999999500 with hlt | heq | hgt
  · have hnanos : (d.nanos : ℚ) ≤ 999999499 := by
      have hle : d.nanos ≤ 999999499 := by omega
      exact_mod_cast hle
    have hhigh : ((d.seconds.mul (Dyadic.ofNat 1000)).units 3 : ℚ) < 1000000 := by
      linarith [hnear.2]
    exact iff_of_true (by exact_mod_cast hhigh) (by omega)
  · rw [units_halfBelowSecond h heq]
    exact iff_of_false (by decide) (by omega)
  · have hnanos : (999999501 : ℚ) ≤ d.nanos := by exact_mod_cast hgt
    have hlow : (999999 : ℚ) < (d.seconds.mul (Dyadic.ofNat 1000)).units 3 := by
      linarith [hnear.1]
    have hle : 1000000 ≤ (d.seconds.mul (Dyadic.ofNat 1000)).units 3 := by exact_mod_cast hlow
    exact iff_of_false (by omega) (by omega)

/-! ## The text -/

theorem thousandths_inj {numeral unit unit' : Text} {q : ℚ} (h : decimal? numeral = some q)
    (hunit : unit.takeWhile isDecimalChar = []) (hunit' : unit'.takeWhile isDecimalChar = [])
    (heq : fixedText 3 units ++ unit = numeral ++ unit') : q = units / 1000 ∧ unit = unit' := by
  have hread := decimal?_fixedText three_pos units
  obtain ⟨rfl, hsame⟩ := numeral_append_inj hread h hunit hunit' heq
  refine ⟨?_, hsame⟩
  rw [← Option.some.inj (hread.symm.trans h)]
  norm_num

theorem fitsUnit_thousandths_iff {unit : Text} (hunit : unit = "ms" ∨ unit = "s") :
    FitsUnit secs (fixedText 3 units ++ unit) ↔
      unit = "ms" ∧ units < 1000000 ∨ unit = "s" ∧ 1000 ≤ units ∧ units < 60000 := by
  have hread := decimal?_fixedText three_pos units
  norm_num at hread
  have hsign : unit.takeWhile isDecimalChar = [] := by
    rcases hunit with rfl | rfl
    · rfl
    · rfl
  have hthousand : (units : ℚ) / 1000 < 1000 ↔ units < 1000000 := by
    rw [div_lt_iff₀ (by norm_num)]
    norm_num
  have hone : 1 ≤ (units : ℚ) / 1000 ↔ 1000 ≤ units := by
    rw [one_le_div (by norm_num)]
    norm_num
  have hsixty : (units : ℚ) / 1000 < 60 ↔ units < 60000 := by
    rw [div_lt_iff₀ (by norm_num)]
    norm_num
  constructor
  · rintro (⟨numeral, q, htext, hnumeral, hq⟩ | ⟨numeral, q, htext, hnumeral, hq⟩ |
      ⟨m, s, htext, -⟩)
    · obtain ⟨rfl, rfl⟩ := thousandths_inj hnumeral hsign rfl htext
      exact .inl ⟨rfl, hthousand.mp hq⟩
    · obtain ⟨rfl, rfl⟩ := thousandths_inj hnumeral hsign rfl htext
      exact .inr ⟨rfl, hone.mp hq.1, hsixty.mp hq.2⟩
    · rw [List.append_assoc, List.append_assoc] at htext
      have hminutes := (thousandths_inj (decimal?_ofNat m) hsign rfl htext).2
      rcases hunit with rfl | rfl
      · cases hminutes
      · cases hminutes
  · rintro (⟨rfl, hlt⟩ | ⟨rfl, hle, hlt⟩)
    · exact .inl ⟨_, _, rfl, hread, hthousand.mpr hlt⟩
    · exact .inr (.inl ⟨_, _, rfl, hread, hone.mpr hle, hsixty.mpr hlt⟩)

theorem fitsUnit_milliseconds_iff (units : Nat) :
    FitsUnit secs (Shown.milliseconds units).text ↔ units < 1000000 := by
  refine (fitsUnit_thousandths_iff (.inl rfl)).trans ?_
  simp

theorem fitsUnit_seconds_iff (units : Nat) :
    FitsUnit secs (Shown.seconds units).text ↔ 1000 ≤ units ∧ units < 60000 := by
  refine (fitsUnit_thousandths_iff (.inr rfl)).trans ?_
  simp

/-- A duration is shown in the unit that it belongs to, unless what is shown is a whole second or a
whole minute that it does not reach. -/
theorem fitsUnit_text_iff (d : Duration) : FitsUnit d.secs d.text ↔ ¬ d.IsAlmostNext := by
  unfold IsAlmostNext text shown
  split
  · rename_i hminute
    refine iff_of_true (.inr (.inr ⟨d.secs / 60, d.secs % 60, rfl, ?_⟩)) (by omega)
    omega
  · rename_i hminute
    have hlt : d.secs < 60 := by omega
    split
    · rename_i hsecond
      rw [fitsUnit_seconds_iff, and_iff_right (le_units_seconds hlt hsecond),
        units_seconds_lt_iff hlt]
      simp only [hsecond.ne', false_and, false_or]
    · rename_i hsecond
      have hzero : d.secs = 0 := by omega
      rw [fitsUnit_milliseconds_iff, units_millis_lt_iff hzero]
      simp only [hzero, true_and, OfNat.zero_ne_ofNat, false_and, or_false]

/-- One nanosecond less than a second is shown as 1000 milliseconds, and one less than a minute as
60 seconds. -/
theorem not_fitsUnit_lastNanosecond :
    (ofParts 0 999999999).text = "1000.000ms".toList ∧
      ¬ FitsUnit (ofParts 0 999999999).secs (ofParts 0 999999999).text ∧
    (ofParts 59 999999999).text = "60.000s".toList ∧
      ¬ FitsUnit (ofParts 59 999999999).secs (ofParts 59 999999999).text := by
  have hsecond : ¬ FitsUnit (ofParts 0 999999999).secs (Shown.milliseconds 1000000).text := by
    rw [fitsUnit_milliseconds_iff]
    decide
  have hminute : ¬ FitsUnit (ofParts 59 999999999).secs (Shown.seconds 60000).text := by
    rw [fitsUnit_seconds_iff]
    decide
  have hshown : (ofParts 0 999999999).shown = .milliseconds 1000000 := by decide +kernel
  have hshown' : (ofParts 59 999999999).shown = .seconds 60000 := by decide +kernel
  simp only [Duration.text, hshown, hshown']
  exact ⟨by decide, hsecond, by decide, hminute⟩

end Duration

end ImportCensus.Number
