import ImportCensus.Glob.Token
/-!
# Globs as regular expressions

The regular expression over bytes that says the same as a glob, and how deep it is nested: a set
of globs takes no expression that is nested too deep.
-/

namespace ImportCensus.Glob

def isOperator (c : Char) : Bool :=
  ['\\', '.', '+', '*', '?', '(', ')', '|', '[', ']', '\x7b', '\x7d', '^', '$', '#', '&', '-',
    '~'].contains c

def twoDigits (n : Nat) : Text :=
  [Nat.digitChar (n / 16), Nat.digitChar (n % 16)]

/-- A character that stands for itself in an expression, byte by byte outside of ASCII. -/
def escaped (c : Char) : Text :=
  if c.toNat < 0x80 then if isOperator c then ['\\', c] else [c]
  else (String.utf8EncodeChar c).flatMap fun b => '\\' :: 'x' :: twoDigits b.toNat

def rangeExpression (range : Char × Char) : Text :=
  if range.1 = range.2 then escaped range.1 else escaped range.1 ++ '-' :: escaped range.2

def classExpression (negated : Bool) (ranges : List (Char × Char)) : Text :=
  '[' :: (if negated then ['^'] else []) ++ ranges.flatMap rangeExpression ++ [']']

def groupExpression (branches : List Text) : Text :=
  match branches with
  | [] => []
  | _ => "(?:" ++ ['|'].intercalate branches ++ ")"

mutual

def Token.expression : Token → Text
  | .literal c => escaped c
  | .anyByte => "[^/]"
  | .run => "[^/]*"
  | .leading => "(?:/?|.*/)"
  | .trailing => "/.*"
  | .inner => "(?:/|/.*/)"
  | .oneOf negated ranges => classExpression negated ranges
  | .group branches => groupExpression (branchExpressions branches)

def seqExpression : List Token → Text
  | [] => []
  | t :: ts => t.expression ++ seqExpression ts

def branchExpressions : List (List Token) → List Text
  | [] => []
  | b :: bs =>
    if seqVoid b then branchExpressions bs else seqExpression b :: branchExpressions bs

end

def expression (fold : Bool) (tokens : List Token) : Text :=
  let body : Text :=
    match tokens with
    | [.leading] => ".*"
    | _ => seqExpression tokens
  "(?-u)" ++ (if fold then "(?i)".toList else []) ++ '^' :: body ++ ['$']

def classSize (ranges : List (Char × Char)) : Nat :=
  (ranges.flatMap byteRanges).length

/-- How deep a sequence of expressions is nested: one that has several parts is a level. -/
def joinDepth (depths : List Nat) : Nat :=
  match depths with
  | [d] => d
  | _ => depths.foldl max 0 + 1

def groupDepth (branches : List Nat) : List Nat :=
  match branches with
  | [] => []
  | _ => [joinDepth branches + 1]

mutual

def Token.depths : Token → List Nat
  | .literal c => (String.utf8EncodeChar c).map fun _ => 0
  | .anyByte => [1]
  | .run => [2]
  | .leading => [4]
  | .trailing => [0, 1]
  | .inner => [4]
  | .oneOf _ ranges => [if classSize ranges = 1 then 1 else 2]
  | .group branches => groupDepth (branchDepths branches)

def seqDepths : List Token → List Nat
  | [] => []
  | t :: ts => t.depths ++ seqDepths ts

def branchDepths : List (List Token) → List Nat
  | [] => []
  | b :: bs => if seqVoid b then branchDepths bs else joinDepth (seqDepths b) :: branchDepths bs

end

/-- How deep the expression of a glob is nested; between its two ends it has several parts. -/
def depth (tokens : List Token) : Nat :=
  (seqDepths tokens).foldl max 0 + 1

def maxDepth : Nat := 250

end ImportCensus.Glob
