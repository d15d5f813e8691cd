import ImportCensus.Glob.Token
/-!
# How globs are decided

Many globs are decided without an expression: by a comparison with the whole path or its
beginning or end, or by a look at its name, which is its last component.  A path that ends in a
step upwards has no name, so globs that look at names do not match it.
-/

namespace ImportCensus.Glob

inductive Strategy
  /-- The name is this text. -/
  | name (text : Text)
  /-- The path is this text. -/
  | whole (text : Text)
  /-- The name has this extension. -/
  | extension (text : Text)
  /-- The path begins with this text. -/
  | beginning (text : Text)
  /-- The path ends with this text, or is it without its first slash. -/
  | ending (text : Text)
  /-- The name has this extension, and an expression decides. -/
  | requiredExtension (text : Text)
  /-- An expression for the name decides. -/
  | nameExpression
  /-- An expression for the path decides. -/
  | expression
  deriving DecidableEq, Repr

def Token.literal? : Token → Option Char
  | .literal c => some c
  | _ => none

def literalText? (tokens : List Token) : Option Text :=
  (tokens.mapM Token.literal?).filter (!·.isEmpty)

def Token.staysInName : Token → Bool
  | .literal c => c != '/'
  | .anyByte => true
  | .run => true
  | _ => false

/-- The tokens for the name, in a glob that says nothing about the rest of a path. -/
def nameTokens? : List Token → Option (List Token)
  | .leading :: rest => if !rest.isEmpty && rest.all Token.staysInName then some rest else none
  | _ => none

def extension? : List Token → Option Text
  | .leading :: .run :: .literal '.' :: rest =>
    ((rest.mapM Token.literal?).filter fun s => !s.contains '.' && !s.contains '/').map ('.' :: ·)
  | _ => none

def beginning? (tokens : List Token) : Option Text :=
  match tokens.getLast? with
  | some .trailing => (tokens.dropLast.mapM Token.literal?).map (· ++ ['/'])
  | _ => none

def ending? : List Token → Option Text
  | .leading :: rest => (literalText? rest).map ('/' :: ·)
  | _ => none

/-- The text from the last dot on, in tokens that are given from the last one, when it stands in
one name; `after` follows them. -/
def extensionBefore (after : Text) : List Token → Option Text
  | .literal '/' :: _ => none
  | .literal '.' :: _ => some ('.' :: after)
  | .literal c :: rest => extensionBefore (c :: after) rest
  | _ => none

def requiredExtension? (tokens : List Token) : Option Text :=
  extensionBefore [] tokens.reverse

def foldedStrategy (tokens : List Token) : Strategy :=
  if (nameTokens? tokens).isSome then .nameExpression else .expression

/-- How a glob with regard to case is decided: by the first of the means that fits it. -/
def exactStrategy (tokens : List Token) : Strategy :=
  match (nameTokens? tokens).bind literalText? with
  | some s => .name s
  | none =>
    match literalText? tokens with
    | some s => .whole s
    | none =>
      match extension? tokens with
      | some s => .extension s
      | none =>
        match beginning? tokens with
        | some s => .beginning s
        | none =>
          match ending? tokens with
          | some s => .ending s
          | none =>
            match requiredExtension? tokens with
            | some s => .requiredExtension s
            | none => foldedStrategy tokens

def strategyOf (fold : Bool) (tokens : List Token) : Strategy :=
  if fold then foldedStrategy tokens else exactStrategy tokens

def Strategy.asksForName : Strategy → Bool
  | name _ | extension _ | requiredExtension _ => true
  | _ => false

def Strategy.usesExpression : Strategy → Bool
  | requiredExtension _ | nameExpression | expression => true
  | _ => false

end ImportCensus.Glob
