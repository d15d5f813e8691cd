import ImportCensus.Number.Dyadic
/-!
# Durations

A span of time in whole seconds and nanoseconds, and its text: minutes and seconds from one
minute on, else seconds from one second on, else milliseconds.
-/

namespace ImportCensus.Number

structure Duration where
  secs : Nat
  nanos : Nat
  nanos_lt : nanos < 1000000000 := by decide

namespace Duration

def ofParts (secs nanos : Nat) : Duration where
  secs := secs + nanos / 1000000000
  nanos := nanos % 1000000000
  nanos_lt := Nat.mod_lt _ (by decide)

def millis (d : Duration) : Nat :=
  d.secs * 1000 + d.nanos / 1000000

def seconds (d : Duration) : Dyadic :=
  (Dyadic.ofNat d.secs).add ((Dyadic.ofNat d.nanos).div (Dyadic.ofNat 1000000000))

/-- What is shown of a duration: minutes and seconds, or thousandths of a second, or
thousandths of a millisecond. -/
inductive Shown
  | minutes (minutes secs : Nat)
  | seconds (thousandths : Nat)
  | milliseconds (thousandths : Nat)
  deriving DecidableEq, Repr

/-- The unit is chosen on the whole seconds, before the number is rounded. -/
def shown (d : Duration) : Shown :=
  if 60 ≤ d.secs then .minutes (d.secs / 60) (d.secs % 60)
  else if 0 < d.secs then .seconds (d.seconds.units 3)
  else .milliseconds ((d.seconds.mul (Dyadic.ofNat 1000)).units 3)

def Shown.text : Shown → Text
  | minutes m s => Text.ofNat m ++ "m " ++ Text.ofNat s ++ "s"
  | seconds n => fixedText 3 n ++ "s"
  | milliseconds n => fixedText 3 n ++ "ms"

def text (d : Duration) : Text :=
  d.shown.text

end Duration

end ImportCensus.Number
