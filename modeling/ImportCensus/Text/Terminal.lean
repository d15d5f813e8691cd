import ImportCensus.Text.Blank
/-!
# Text without terminal controls

A text that is shown on a terminal may hold control characters and escape sequences, which a
terminal obeys and does not show.  What it shows of the text is what is left without them.
-/

namespace ImportCensus.Text

inductive Control
  /-- In text that is shown. -/
  | text
  /-- Behind the escape character. -/
  | escape
  /-- In an escape sequence that one more character ends. -/
  | intermediate
  /-- In a control sequence: it ends with a letter. -/
  | sequence
  /-- In a command that a bell ends. -/
  | command
  /-- In a string for a device: only a new sequence or the byte `0x9C` ends it. -/
  | device
  deriving DecidableEq, Repr

namespace Control

/-- Whether a control character moves what is shown, and so counts as shown itself. -/
def isSpacing (c : Char) : Bool :=
  c == '\t' || c == '\n' || c == '\x0c' || c == '\r'

def afterEscape (c : Char) : Control :=
  if c.toNat < 0x30 then .intermediate
  else if c = '[' then .sequence
  else if c = ']' then .command
  else if c = 'P' || c = 'X' || c = '^' || c = '_' then .device
  else .text

def afterVisible (c : Char) : Control → Control
  | text => text
  | escape => afterEscape c
  | intermediate => if c.toNat < 0x30 then intermediate else text
  | sequence => if c.toNat < 0x40 then sequence else text
  | command => command
  | device => device

def admitsSpacing : Control → Bool
  | text | escape | intermediate | sequence => true
  | command | device => false

def afterWide (c : Char) : Control → Control
  | device => if (String.utf8EncodeChar c).contains 0x9C then text else device
  | at_ => at_

def next (at_ : Control) (c : Char) : Control × Bool :=
  if 0x7F < c.toNat then (at_.afterWide c, at_ = text)
  else if c = '\x1b' then (escape, false)
  else if c = '\x18' || c = '\x1a' then (text, false)
  else if c.toNat = 0x7F then (at_, false)
  else if 0x20 ≤ c.toNat then (at_.afterVisible c, at_ = text)
  else if isSpacing c && at_.admitsSpacing then (text, true)
  else if c = '\x07' && at_ = command then (text, false)
  else (at_, false)

end Control

def shownFrom (at_ : Control) : Text → Text
  | [] => []
  | c :: rest =>
    let (later, shown) := at_.next c
    if shown then c :: shownFrom later rest else shownFrom later rest

def shown (t : Text) : Text :=
  shownFrom .text t

end ImportCensus.Text
