import ImportCensus.Log.Event
import ImportCensus.Log.Pattern
import ImportCensus.Text.Blank
import ImportCensus.Text.Letter
import ImportCensus.Text.Utf8
/-!
# Log filters

Which events are shown.  A filter is a list of directives: each gives the level up to which
events are shown, and may be limited to targets with a given beginning and to events that have
certain fields.  Of the directives that speak about an event the most specific one decides.
-/

namespace ImportCensus.Log

/-- The level up to which events are shown; none shows nothing. -/
abbrev Threshold := Option Level

def Threshold.rank : Threshold → Nat
  | some level => level.rank
  | none => 0

structure Directive where
  threshold : Threshold := some .trace
  target : Option Text := none
  /-- The name of the span that events have to be in; the program has none. -/
  span : Option Text := none
  /-- The names of the fields that an event needs, and whether one asks for a value. -/
  fields : List Text := []
  hasValue : Bool := false

def Directive.ofTarget (target : Text) (threshold : Threshold) : Directive :=
  { target := some target, threshold := threshold }

def lowerAscii (word : Text) : Text :=
  word.map Char.toLower

def thresholdOfNat? : Nat → Option Threshold
  | 0 => some none
  | 1 => some (some .error)
  | 2 => some (some .warn)
  | 3 => some (some .info)
  | 4 => some (some .debug)
  | 5 => some (some .trace)
  | _ => none

/-- The digits of a number, with a plus sign before them or none. -/
def number? (word : Text) : Option Nat :=
  let digits := Text.dropLead ['+'] word
  if digits.isEmpty || !digits.all Char.isDigit then none
  else some (digits.foldl (fun n c => n * 10 + (c.toNat - '0'.toNat)) 0)

def threshold? (word : Text) : Option Threshold :=
  match (number? word).bind thresholdOfNat? with
  | some t => some t
  | none =>
    let name := lowerAscii word
    if name = "off".toList then some none
    else if name = "error".toList then some (some .error)
    else if name = "warn".toList then some (some .warn)
    else if name = "info".toList then some (some .info)
    else if name = "debug".toList then some (some .debug)
    else if name = "trace".toList then some (some .trace)
    else none

/-- What is being read of a directive, and where its word begins. -/
inductive Reading
  | start
  | word (first : Nat)
  | span (first : Nat)
  | field (first : Nat)
  | fields
  | target
  | level (first : Nat)

def beginsDirective (c : Char) : Bool :=
  c == '-' || c == ':' || c == '_' || Text.isLetterOrNumber c

/-- Why a text gives no filter. -/
inductive Failure
  /-- It is no list of directives. -/
  | refused
  /-- One of its words was cut within a character, which ends the whole program. -/
  | aborted
  deriving DecidableEq, Repr

/-- Adds a field, `name` or `name=value`, to a directive.  What follows a second equals sign is
passed over. -/
def Directive.addField (d : Directive) (text : Text) : Except Failure Directive :=
  if text.isEmpty then .error .refused
  else
    match Text.splitOn '=' text with
    | [] => .error .refused
    | [name] => .ok { d with fields := d.fields ++ [name] }
    | name :: value :: _ =>
      if Pattern.isValue value then
        .ok { d with fields := d.fields ++ [name], hasValue := true }
      else .error .refused

/-- Whether a character of a text begins or ends at a place, which is counted in bytes. -/
def isBoundary (bytes : List UInt8) (place : Nat) : Bool :=
  match bytes[place]? with
  | some b => b < 0x80 || 0xC0 ≤ b
  | none => place == bytes.length

/-- The word from one place of a text to another. -/
def wordBetween (bytes : List UInt8) (first behind : Nat) : Except Failure Text :=
  if isBoundary bytes first && isBoundary bytes behind then
    .ok (Text.decodeLossy ((bytes.take behind).drop first))
  else .error .aborted

/-- Reads the character at a place of a directive whose words are cut from `bytes`. -/
def stepDirective (bytes : List UInt8) (d : Directive) (r : Reading) (place : Nat) (c : Char) :
    Except Failure (Directive × Reading) :=
  match r with
  | .start =>
    if c = '[' then .ok (d, .span (place + 1))
    else if beginsDirective c then .ok (d, .word place)
    else .error .refused
  | .word first =>
    if c = '=' then do
      .ok ({ d with target := some (← wordBetween bytes first place) }, .level (place + 1))
    else if c = '[' then do
      .ok ({ d with target := some (← wordBetween bytes first place) }, .span (place + 1))
    else .ok (d, r)
  | .span first =>
    if c = ']' then do
      .ok ({ d with span := some (← wordBetween bytes first place) }, .target)
    else if c = '\x7b' then do
      let name ← wordBetween bytes first place
      .ok ({ d with span := if name.isEmpty then none else some name }, .field (place + 1))
    else .ok (d, r)
  | .field first =>
    if c = '\x7d' then do
      .ok (← d.addField (← wordBetween bytes first place), .fields)
    else .ok (d, r)
  | .fields => if c = ']' then .ok (d, .target) else .error .refused
  | .target => if c = '=' then .ok (d, .level (place + 1)) else .error .refused
  | .level _ => .ok (d, r)

def readDirective (bytes : List UInt8) (d : Directive) (r : Reading) (place : Nat) :
    Text → Except Failure (Directive × Reading)
  | [] => .ok (d, r)
  | c :: rest => do
    let (d, r) ← stepDirective bytes d r place c
    readDirective bytes d r (place + c.utf8Size) rest

/-- The directive when all characters are read; its last word runs to the end of `bytes`. -/
def finishDirective (bytes : List UInt8) (d : Directive) : Reading → Except Failure Directive
  | .word first => do
    let word ← wordBetween bytes first bytes.length
    match threshold? word with
    | some t => .ok { d with threshold := t, target := none }
    | none => .ok { d with threshold := some .trace, target := some word }
  | .level first => do
    let word ← wordBetween bytes first bytes.length
    if word.isEmpty then .ok d
    else
      match threshold? word with
      | some t => .ok { d with threshold := t }
      | none => .error .refused
  | .target => .ok d
  | _ => .error .refused

/-- Reads a directive.  Its parts are told apart without the blanks around it, and their places
are counted in bytes; yet the words are cut from the whole text at these places, so a blank
before a word shifts it. -/
def Directive.parse (text : Text) : Except Failure Directive := do
  let bytes := Text.utf8 text
  let (d, r) ← readDirective bytes {} .start 0 (Text.trim Text.isWhiteSpace text)
  finishDirective bytes d r

abbrev Filter := List Directive

namespace Filter

def caresAbout (d : Directive) (e : Event) : Bool :=
  (d.target.map (·.isPrefixOf e.target)).getD true && d.fields.all e.hasField

def specificity (d : Directive) : Nat × Nat :=
  ((d.target.map fun t => (Text.utf8 t).length + 1).getD 0, d.fields.length)

/-- Whether the first directive is more specific than the second.  Between as many fields the
names decide. -/
def moreSpecific (a b : Directive) : Bool :=
  let (x, y) := (specificity a, specificity b)
  y.1 < x.1 || (x.1 = y.1 && (y.2 < x.2 || (x.2 = y.2 && b.fields < a.fields)))

/-- The more specific of two directives; of two with one specificity the later. -/
def prefer (best : Option Directive) (d : Directive) : Option Directive :=
  match best with
  | none => some d
  | some b => if moreSpecific b d then some b else some d

def decisive? (f : Filter) (e : Event) : Option Directive :=
  (f.filter (caresAbout · e)).foldl prefer none

def shows (f : Filter) (e : Event) : Bool :=
  match decisive? f e with
  | some d => e.level.rank ≤ d.threshold.rank
  | none => false

/-- The filter of a list of directives.  Those that ask for a span or for a value show nothing;
nor does a filter without any directive. -/
def ofDirectives (ds : List Directive) : Filter :=
  ds.filter fun d => d.span.isNone && !d.hasValue

/-- Reads a filter: directives with commas between them, up to the first that fails. -/
def parse (text : Text) : Except Failure Filter := do
  let parts := (Text.splitOn ',' text).filter (!·.isEmpty)
  .ok (ofDirectives (← parts.mapM Directive.parse))

def levelOfVerbosity (quiet : Bool) (verbosity : Nat) : Level :=
  if quiet then .error
  else
    match verbosity with
    | 0 => .warn
    | 1 => .info
    | 2 => .debug
    | _ => .trace

/-- The filter of a run: the one that its environment asks for if that could be read, else the one
for its verbosity, which concerns the program's own events. -/
def ofRun (asked : Option (Except Failure Filter)) (quiet : Bool) (verbosity : Nat) : Filter :=
  match asked with
  | some (.ok f) => f
  | _ => [.ofTarget "impseek" (some (levelOfVerbosity quiet verbosity))]

def render (f : Filter) (events : List Event) : Text :=
  (events.filter f.shows).flatMap Event.line

end Filter

end ImportCensus.Log
