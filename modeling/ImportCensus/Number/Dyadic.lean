import ImportCensus.Number.Rounding
import ImportCensus.Text.Basic
/-!
# Dyadic numbers

Non-negative numbers `num / 2 ^ scale`, the values that binary floating point can hold, and
arithmetic rounded to 53 significant bits with ties to even.  No value of this library leaves
the exponent range of the 64-bit format, so exponents are not bounded here.
-/

namespace ImportCensus.Number

/-- The number `num / 2 ^ scale`. -/
structure Dyadic where
  num : Nat
  scale : Nat

namespace Dyadic

/-- The exponent at which `n / d` has a mantissa of 53 bits. -/
def exponent (n d : Nat) : Int :=
  let low : Int := (n.log2 : Int) - d.log2 - 53
  if n * Nat.pow 2 (-low).toNat < d * Nat.pow 2 low.toNat * Nat.pow 2 53 then low else low + 1

/-- `n / d` rounded to 53 significant bits. -/
def ofRatio (n d : Nat) : Dyadic :=
  if n = 0 then ⟨0, 0⟩
  else
    let e := exponent n d
    let mantissa := roundDiv (n * Nat.pow 2 (-e).toNat) (d * Nat.pow 2 e.toNat)
    ⟨mantissa * Nat.pow 2 e.toNat, (-e).toNat⟩

def ofNat (n : Nat) : Dyadic :=
  ofRatio n 1

def add (x y : Dyadic) : Dyadic :=
  ofRatio (x.num * Nat.pow 2 y.scale + y.num * Nat.pow 2 x.scale) (Nat.pow 2 (x.scale + y.scale))

def mul (x y : Dyadic) : Dyadic :=
  ofRatio (x.num * y.num) (Nat.pow 2 (x.scale + y.scale))

def div (x y : Dyadic) : Dyadic :=
  ofRatio (x.num * Nat.pow 2 y.scale) (y.num * Nat.pow 2 x.scale)

def atLeast (x : Dyadic) (n : Nat) : Bool :=
  n * Nat.pow 2 x.scale ≤ x.num

/-- The number in units of `10 ^ (-places)`, rounded to a whole count of them. -/
def units (places : Nat) (x : Dyadic) : Nat :=
  roundDiv (x.num * Nat.pow 10 places) (Nat.pow 2 x.scale)

end Dyadic

def fixedText (places units : Nat) : Text :=
  let digits := Text.ofNat (units % Nat.pow 10 places)
  Text.ofNat (units / Nat.pow 10 places) ++
    '.' :: List.replicate (places - digits.length) '0' ++ digits

def Dyadic.toFixed (places : Nat) (x : Dyadic) : Text :=
  fixedText places (x.units places)

end ImportCensus.Number
