/-!
# Terminal controls

What is left of a text that is printed where no terminal reads it.  A control
sequence starts at an escape character and is dropped up to where it ends, and
so are control characters other than blanks.  A blank that is printed inside
of a sequence ends the dropping, though not the sequence: what follows is
printed until the next character that is dropped.
-/

namespace AlignedStorage

/-- Where in a control sequence a text has come to. -/
inductive ControlState
  | ground
  /-- Behind an escape character. -/
  | escape
  | escapeIntermediate
  /-- In a sequence with parameters. -/
  | sequence
  | deviceEntry
  | deviceParams
  | deviceIntermediate
  /-- In a string that an escape character or the string terminator ends. -/
  | string
  /-- In the command of a system, which a bell ends as well. -/
  | command
deriving DecidableEq, Repr

/-- The last code point that is an ASCII character. -/
def lastAscii : Nat := 0x7f

def stringTerminator : UInt8 := 0x9c

/-- Whether a character is a control character of ASCII other than the one for
deletions. -/
def isLowControl (c : Char) : Bool :=
  c.toNat < 0x20

/-- Whether a character is printed outside of control sequences. -/
def isShown (c : Char) : Bool :=
  if isLowControl c then ['\t', '\n', '\x0c', '\r'].contains c
  else c.toNat ≠ lastAscii

namespace ControlState

/-- Whether control characters in a state are carried out rather than taken
as a part of a string. -/
def runsControls : ControlState → Bool
  | ground | escape | escapeIntermediate | sequence => true
  | _ => false

def nextPrintable (s : ControlState) (c : Char) : ControlState :=
  let intermediate := ' ' ≤ c && c ≤ '/'
  let parameter := '0' ≤ c && c ≤ '?'
  match s with
  | ground => ground
  | escape =>
      if intermediate then escapeIntermediate
      else if c == '[' then sequence
      else if c == ']' then command
      else if c == 'P' then deviceEntry
      else if ['X', '^', '_'].contains c then string
      else ground
  | escapeIntermediate => if intermediate then s else ground
  | sequence => if intermediate || parameter then s else ground
  | deviceEntry =>
      if intermediate then deviceIntermediate
      else if parameter then deviceParams
      else string
  | deviceParams =>
      if intermediate then deviceIntermediate
      else if parameter && c ≤ ';' then s
      else string
  | deviceIntermediate => if intermediate then s else string
  | string => string
  | command => command

def next (s : ControlState) (c : Char) : ControlState :=
  if c == '\x18' || c == '\x1a' then ground
  else if c == '\x1b' then escape
  else if isLowControl c then
    if s = command && c == '\x07' then ground else s
  else if c.toNat = lastAscii then s
  else if c.toNat < lastAscii then s.nextPrintable c
  else if s = string &&
      (String.utf8EncodeChar c).contains stringTerminator then ground
  else s

end ControlState

/-- What is left of a text from a state on; `shown` tells whether the
character in front was printed. -/
def withoutControlsFrom (s : ControlState) (shown : Bool) :
    List Char → List Char
  | [] => []
  | c :: rest =>
      let free := shown || s = .ground || s.runsControls && isLowControl c
      if isShown c && free then
        let after := if c.toNat ≤ lastAscii then s else .ground
        c :: withoutControlsFrom after true rest
      else withoutControlsFrom (s.next c) false rest

def withoutControls (text : String) : String :=
  String.ofList (withoutControlsFrom .ground false text.toList)

end AlignedStorage
