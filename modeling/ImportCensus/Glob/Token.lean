import ImportCensus.Text.Utf8
/-!
# Globs: tokens and their meaning

A glob is a sequence of tokens.  `SeqMatches` gives the paths, as bytes, that a sequence stands
for: a single star stays within one component, a double star that is a component of its own
crosses any number of them, and a group stands for any of its branches.
-/

namespace ImportCensus.Glob

def slash : UInt8 := 0x2F

inductive Token
  /-- A character that stands for itself. -/
  | literal (c : Char)
  /-- `?`: one byte other than the separator. -/
  | anyByte
  /-- `*`: any bytes within one component. -/
  | run
  /-- A double star that begins a branch: any leading components, or none. -/
  | leading
  /-- A double star that ends a branch after a separator: anything below. -/
  | trailing
  /-- A double star between separators: any components between, or none. -/
  | inner
  /-- A class in brackets: one byte, in the ranges or outside them. -/
  | oneOf (negated : Bool) (ranges : List (Char × Char))
  /-- A group in braces: one of its branches. -/
  | group (branches : List (List Token))

def lowerByte (b : UInt8) : UInt8 :=
  if 0x41 ≤ b && b ≤ 0x5A then b + 0x20 else b

def upperByte (b : UInt8) : UInt8 :=
  if 0x61 ≤ b && b ≤ 0x7A then b - 0x20 else b

def foldByte (fold : Bool) (b : UInt8) : UInt8 :=
  if fold then lowerByte b else b

/-- The byte ranges of a range of characters: the range runs from the last byte of its first
character to the first byte of its last one, and their other bytes stand alone. -/
def byteRanges : Char × Char → List (UInt8 × UInt8)
  | (first, last) =>
    let low := String.utf8EncodeChar first
    let high := String.utf8EncodeChar last
    if first = last then low.map fun b => (b, b)
    else
      low.dropLast.map (fun b => (b, b)) ++
        [(low.getLastD 0, high.headD 0)] ++ high.tail.map fun b => (b, b)

def inClass (ranges : List (Char × Char)) (b : UInt8) : Bool :=
  (ranges.flatMap byteRanges).any fun (low, high) => low ≤ b && b ≤ high

/-- Whether a class admits a byte.  Case is folded before the class is negated. -/
def classAdmits (fold negated : Bool) (ranges : List (Char × Char)) (b : UInt8) : Bool :=
  let hit := inClass ranges b ||
    (fold && (inClass ranges (lowerByte b) || inClass ranges (upperByte b)))
  hit != negated

mutual

/-- Whether a token is a group without content, which stands for no text at all. -/
def Token.isVoid : Token → Bool
  | .group branches => areVoid branches
  | _ => false

def seqVoid : List Token → Bool
  | [] => true
  | t :: ts => t.isVoid && seqVoid ts

def areVoid : List (List Token) → Bool
  | [] => true
  | b :: bs => seqVoid b && areVoid bs

end

mutual

def Token.Matches (fold : Bool) : Token → List UInt8 → Prop
  | .literal c, s => s.map (foldByte fold) = (String.utf8EncodeChar c).map (foldByte fold)
  | .anyByte, s => ∃ b, b ≠ slash ∧ s = [b]
  | .run, s => slash ∉ s
  | .leading, s => s = [] ∨ ∃ x, s = x ++ [slash]
  | .trailing, s => ∃ x, s = slash :: x
  | .inner, s => s = [slash] ∨ ∃ x, s = slash :: (x ++ [slash])
  | .oneOf negated ranges, s => ∃ b, classAdmits fold negated ranges b ∧ s = [b]
  | .group branches, s => (areVoid branches ∧ s = []) ∨ AnyMatches fold branches s

/-- The byte strings that a sequence of tokens stands for: one after another. -/
def SeqMatches (fold : Bool) : List Token → List UInt8 → Prop
  | [], s => s = []
  | t :: ts, s => ∃ p r, s = p ++ r ∧ t.Matches fold p ∧ SeqMatches fold ts r

/-- The byte strings that some branch stands for.  A void branch is no choice. -/
def AnyMatches (fold : Bool) : List (List Token) → List UInt8 → Prop
  | [], _ => False
  | b :: bs, s => (seqVoid b = false ∧ SeqMatches fold b s) ∨ AnyMatches fold bs s

end

end ImportCensus.Glob
