import ImportCensus.Number.Dyadic
/-!
# Byte counts

A count of bytes in the largest of four units in which it is at least one, with one digit after
the point from kilobytes on.
-/

namespace ImportCensus.Number

inductive SizeUnit
  | b
  | kb
  | mb
  | gb
  deriving DecidableEq, Repr

def SizeUnit.sign : SizeUnit → Text
  | b => "B"
  | kb => "KB"
  | mb => "MB"
  | gb => "GB"

/-- A number of units and the unit, after going on to larger units as long as there are 1024 of
one.  `larger` are the units that are left to go to. -/
def climb (x : Dyadic) (unit : SizeUnit) (larger : List SizeUnit) : Dyadic × SizeUnit :=
  match larger with
  | [] => (x, unit)
  | next :: larger =>
    if x.atLeast 1024 then climb (x.div (Dyadic.ofNat 1024)) next larger else (x, unit)

def inUnit (count : Nat) : Dyadic × SizeUnit :=
  climb (Dyadic.ofNat count) .b [.kb, .mb, .gb]

def sizeText (count : Nat) : Text :=
  match inUnit count with
  | (_, .b) => Text.ofNat count ++ " B"
  | (x, unit) => x.toFixed 1 ++ ' ' :: unit.sign

end ImportCensus.Number
