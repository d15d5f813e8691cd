import ImportCensus.Toml.Value
/-!
# Reading numbers and times

Integers in four bases, floats, and the dates and times of which only the form is checked.
-/

namespace ImportCensus.Toml

/-- Digits that go on a number, with single underscores between digits left out. -/
def moreDigits (base : Nat) : Reader Text
  | [] => .ok ([], [])
  | c :: rest =>
    if isDigit base c then
      match moreDigits base rest with
      | .ok (digits, rest) => .ok (c :: digits, rest)
      | .error e => .error e
    else if c = '_' then
      if (rest.head?.map (isDigit base)).getD false then moreDigits base rest
      else .error .badNumber
    else .ok ([], c :: rest)

def someDigits (base : Nat) (s : Text) : Except Fault (Text × Text) :=
  if (s.head?.map (isDigit base)).getD false then moreDigits base s else .error .badNumber

def wholeDigits (s : Text) : Except Fault (Text × Text) :=
  match s with
  | '0' :: rest => .ok (['0'], rest)
  | _ => someDigits 10 s

def signedInteger (negative : Bool) (n : Nat) : Except Fault Value :=
  if negative then if n ≤ Nat.pow 2 63 then .ok (.integer (-n)) else .error .integerRange
  else if n < Nat.pow 2 63 then .ok (.integer n) else .error .integerRange

/-- Whether `digits * 10 ^ exponent` is rounded to infinity in the 64-bit format. -/
def overflows (digits : Text) (exponent : Int) : Bool :=
  let n := digitsValue 10 digits
  let size := (digits.dropWhile (· == '0')).length + exponent
  if n = 0 || size < 300 then false
  else if 310 < size then true
  else
    (Nat.pow 2 1024 - Nat.pow 2 970) * Nat.pow 10 (-exponent).toNat ≤
      n * Nat.pow 10 exponent.toNat

def readExponent (s : Text) : Except Fault (Int × Text) :=
  match s with
  | '+' :: rest => (someDigits 10 rest).map fun (ds, rest) => ((digitsValue 10 ds : Int), rest)
  | '-' :: rest => (someDigits 10 rest).map fun (ds, rest) => (-(digitsValue 10 ds : Int), rest)
  | _ => (someDigits 10 s).map fun (ds, rest) => ((digitsValue 10 ds : Int), rest)

def beginsExponent (s : Text) : Bool :=
  s.head? == some 'e' || s.head? == some 'E'

def finishFloat (negative : Bool) (whole fraction : Text) (s : Text) :
    Except Fault (Value × Text) := do
  let (exponent, rest) ← if beginsExponent s then readExponent s.tail else .ok (0, s)
  if !negative && overflows (whole ++ fraction) (exponent - fraction.length) then
    .error .floatRange
  else .ok (.float (whole ++ '.' :: fraction), rest)

def readDecimal (negative : Bool) (s : Text) : Except Fault (Value × Text) := do
  let (whole, rest) ← wholeDigits s
  match rest with
  | '.' :: rest =>
    let (fraction, rest) ← someDigits 10 rest
    finishFloat negative whole fraction rest
  | _ =>
    if beginsExponent rest then finishFloat negative whole [] rest
    else
      let n ← signedInteger negative (digitsValue 10 whole)
      .ok (n, rest)

def readBased (base : Nat) (s : Text) : Except Fault (Value × Text) := do
  let (digits, rest) ← someDigits base s
  let n ← signedInteger false (digitsValue base digits)
  .ok (n, rest)

def readFloatWord? (s : Text) : Option (Value × Text) :=
  match s with
  | 'i' :: 'n' :: 'f' :: rest => some (.float ['i', 'n', 'f'], rest)
  | 'n' :: 'a' :: 'n' :: rest => some (.float ['n', 'a', 'n'], rest)
  | _ => none

def readSigned (negative : Bool) (s : Text) : Except Fault (Value × Text) :=
  match readFloatWord? s with
  | some found => .ok found
  | none => readDecimal negative s

def readNumber (s : Text) : Except Fault (Value × Text) :=
  match s with
  | '+' :: rest => readSigned false rest
  | '-' :: rest => readSigned true rest
  | '0' :: 'x' :: rest => readBased 16 rest
  | '0' :: 'o' :: rest => readBased 8 rest
  | '0' :: 'b' :: rest => readBased 2 rest
  | _ => readSigned false s

def exactDigits? (count : Nat) (s : Text) : Option (Nat × Text) :=
  let digits := s.take count
  if digits.length = count && digits.all (isDigit 10) then
    some (digitsValue 10 digits, s.drop count)
  else none

def boundedDigits (count low high : Nat) (s : Text) : Except Fault (Nat × Text) :=
  match exactDigits? count s with
  | some (n, rest) => if low ≤ n && n ≤ high then .ok (n, rest) else .error .badTime
  | none => .error .badTime

def readSign (c : Char) (s : Text) : Except Fault Text :=
  match s with
  | d :: rest => if c = d then .ok rest else .error .badTime
  | [] => .error .badTime

def monthDays (year month : Nat) : Nat :=
  let leap := year % 4 = 0 && (year % 100 != 0 || year % 400 = 0)
  if month = 2 then if leap then 29 else 28
  else if month = 4 || month = 6 || month = 9 || month = 11 then 30
  else 31

def readDate (s : Text) : Except Fault Text := do
  let (year, rest) ← boundedDigits 4 0 9999 s
  let rest ← readSign '-' rest
  let (month, rest) ← boundedDigits 2 1 12 rest
  let rest ← readSign '-' rest
  let (_, rest) ← boundedDigits 2 1 (monthDays year month) rest
  .ok rest

def readClock (s : Text) : Except Fault Text := do
  let (_, rest) ← boundedDigits 2 0 23 s
  let rest ← readSign ':' rest
  let (_, rest) ← boundedDigits 2 0 59 rest
  let rest ← readSign ':' rest
  let (_, rest) ← boundedDigits 2 0 60 rest
  match rest with
  | '.' :: digits =>
    if (digits.head?.map (isDigit 10)).getD false then .ok (digits.dropWhile (isDigit 10))
    else .error .badTime
  | _ => .ok rest

def readOffset (s : Text) : Except Fault Text :=
  match s with
  | 'Z' :: rest => .ok rest
  | 'z' :: rest => .ok rest
  | c :: rest =>
    if c = '+' || c = '-' then do
      let (_, rest) ← boundedDigits 2 0 23 rest
      let rest ← readSign ':' rest
      let (_, rest) ← boundedDigits 2 0 59 rest
      .ok rest
    else .ok s
  | [] => .ok s

def beginsDate (s : Text) : Bool :=
  match exactDigits? 4 s with
  | some (_, '-' :: _) => true
  | _ => false

def beginsClock (s : Text) : Bool :=
  match exactDigits? 2 s with
  | some (_, ':' :: _) => true
  | _ => false

def readDateTail (s : Text) : Except Fault Text :=
  match s with
  | c :: rest =>
    if c = 'T' || c = 't' || (c = ' ' && beginsClock rest) then do
      readOffset (← readClock rest)
    else .ok s
  | [] => .ok s

def readNumberOrTime (s : Text) : Except Fault (Value × Text) :=
  if beginsDate s then do
    let rest ← readDateTail (← readDate s)
    .ok (.time (s.take (s.length - rest.length)), rest)
  else if beginsClock s then do
    let rest ← readClock s
    .ok (.time (s.take (s.length - rest.length)), rest)
  else readNumber s

end ImportCensus.Toml
