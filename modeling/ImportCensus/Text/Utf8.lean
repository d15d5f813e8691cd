import ImportCensus.Text.Basic
/-!
# UTF-8

Text as bytes and back.  Reading bytes is one pass of a small machine whose state holds what a
sequence still owes: how many continuation bytes and the range of the next one.  An ill-formed
sequence is cut at the first byte that cannot continue it, and that byte starts anew, so a byte
below `0x80` is never taken into a sequence.
-/

namespace ImportCensus.Text

def utf8 (text : Text) : List UInt8 :=
  text.flatMap String.utf8EncodeChar

@[simp] theorem utf8_nil : utf8 [] = [] := rfl

@[simp] theorem utf8_cons (c : Char) (text : Text) :
    utf8 (c :: text) = String.utf8EncodeChar c ++ utf8 text := by
  simp [utf8]

@[simp] theorem utf8_append (s t : Text) : utf8 (s ++ t) = utf8 s ++ utf8 t := by
  simp [utf8]

namespace Utf8

/-- What an unfinished sequence waits for: `missing` more bytes, the next one from `low` to
`high`; `code` is the value read so far. -/
structure Owed where
  missing : Nat
  low : UInt8
  high : UInt8
  code : Nat

inductive Start
  | char (c : Char)
  | owes (owed : Owed)
  | stray

/-- The first byte of a sequence.  The second byte's range shuts out overlong forms, surrogates
and values above `0x10FFFF`. -/
def start (b : UInt8) : Start :=
  if b < 0x80 then .char (Char.ofNat b.toNat)
  else if b < 0xC2 then .stray
  else if b < 0xE0 then .owes ⟨1, 0x80, 0xBF, b.toNat - 0xC0⟩
  else if b = 0xE0 then .owes ⟨2, 0xA0, 0xBF, 0⟩
  else if b = 0xED then .owes ⟨2, 0x80, 0x9F, 0xD⟩
  else if b < 0xF0 then .owes ⟨2, 0x80, 0xBF, b.toNat - 0xE0⟩
  else if b = 0xF0 then .owes ⟨3, 0x90, 0xBF, 0⟩
  else if b < 0xF4 then .owes ⟨3, 0x80, 0xBF, b.toNat - 0xF0⟩
  else if b = 0xF4 then .owes ⟨3, 0x80, 0x8F, 4⟩
  else .stray

def Owed.takes (owed : Owed) (b : UInt8) : Bool :=
  owed.low ≤ b && b ≤ owed.high

abbrev State := Option Owed

/-- Reads a byte at the start of a sequence; `none` stands for an ill-formed sequence. -/
def stepStart (b : UInt8) : State × List (Option Char) :=
  match start b with
  | .char c => (none, [some c])
  | .owes owed => (some owed, [])
  | .stray => (none, [none])

def step (state : State) (b : UInt8) : State × List (Option Char) :=
  match state with
  | none => stepStart b
  | some owed =>
    if owed.takes b then
      let code := owed.code * 64 + (b.toNat - 0x80)
      if owed.missing ≤ 1 then (none, [some (Char.ofNat code)])
      else (some ⟨owed.missing - 1, 0x80, 0xBF, code⟩, [])
    else
      let next := stepStart b
      (next.1, none :: next.2)

def piecesFrom : State → List UInt8 → List (Option Char)
  | none, [] => []
  | some _, [] => [none]
  | state, b :: rest => (step state b).2 ++ piecesFrom (step state b).1 rest

def pieces (bytes : List UInt8) : List (Option Char) :=
  piecesFrom none bytes

end Utf8

/-- The text of bytes of which any may be ill-formed: each ill-formed sequence becomes one
replacement character. -/
def decodeLossy (bytes : List UInt8) : Text :=
  (Utf8.pieces bytes).map (·.getD '\ufffd')

def decode? (bytes : List UInt8) : Option Text :=
  (Utf8.pieces bytes).mapM id

end ImportCensus.Text
