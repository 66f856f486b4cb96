/-!
Texts without the control functions of a terminal.

A control function is a lone control character, an escape sequence, a control sequence, or a control
string: a command to the operating system, a device control string, or one of three strings that no
terminal heeds. Taking them out leaves what is there to be read. Four control characters lay a text
out and stay: tab, line feed, form feed and carriage return.

In a string they are lost like all else, but in a sequence they interrupt it. From there on
everything that can be shown is kept, up to the next control character, and with that one the
sequence goes on. A character beyond ASCII that is kept breaks the sequence off.
-/

namespace SurfaceGate.Text

/-- What the control characters before have begun. -/
inductive Begun where
  /-- Nothing: what follows is to be read. -/
  | text
  | escape
  /-- An escape sequence of several characters. -/
  | escapeSequence
  | controlSequence
  | command
  /-- A device control string, of which nothing is there yet. -/
  | device
  | deviceParameters
  /-- What stands between the parameters and the body of a device control string. -/
  | deviceIntermediate
  /-- The body of a control string, or a string that nobody heeds. -/
  | body
  deriving DecidableEq, Repr

def isIntermediate (c : Char) : Bool :=
  ' ' ≤ c && c ≤ '/'

def isParameter (c : Char) : Bool :=
  '0' ≤ c && c ≤ '?'

/-- Parameters that only the head of a string may have. -/
def isPrivate (c : Char) : Bool :=
  '<' ≤ c && c ≤ '?'

def isFinal (c : Char) : Bool :=
  '@' ≤ c && c ≤ '~'

/-- Control characters that lay a text out. -/
def isLayout (c : Char) : Bool :=
  c = '\t' || c = '\n' || c = '\x0c' || c = '\x0d'

/-- Whether a character can be shown at all. -/
def isShown (c : Char) : Bool :=
  isLayout c || (' ' ≤ c && c ≠ '\x7f')

/-- Control characters that break off whatever has begun. -/
def isCancelling (c : Char) : Bool :=
  c = '\x18' || c = '\x1a'

/-- Whether the byte 9C is in a character. As a byte of its own it would end a string, and inside
the encoding of a character it does so too. -/
def holdsTerminator (c : Char) : Bool :=
  (String.utf8EncodeChar c).contains 0x9c

def afterEscape (c : Char) : Begun :=
  if isIntermediate c then .escapeSequence
  else if c = '[' then .controlSequence
  else if c = ']' then .command
  else if c = 'P' then .device
  else if c = 'X' || c = '^' || c = '_' then .body
  else if isParameter c || isFinal c then .text
  else .escape

/-- How the head of a device control string goes on from `here`; `last` are the parameters that may
still come. -/
def afterDevice (here : Begun) (last : Char → Bool) (c : Char) : Begun :=
  if isIntermediate c then .deviceIntermediate
  else if last c then .deviceParameters
  else if isParameter c || isFinal c then .body
  else here

namespace Begun

def admits : Begun → Char → Bool
  | text, _ => true
  | escape, c | escapeSequence, c | controlSequence, c => isLayout c
  | _, _ => false

/-- What has begun behind a character that is not kept. One that belongs nowhere changes nothing. -/
def next (b : Begun) (c : Char) : Begun :=
  if c = '\x1b' then escape
  else if isCancelling c then text
  else
    match b with
    | text => text
    | escape => afterEscape c
    | escapeSequence => if isParameter c || isFinal c then text else escapeSequence
    | controlSequence => if isFinal c then text else controlSequence
    | command => if c = '\x07' then text else command
    | device => afterDevice device isParameter c
    | deviceParameters => afterDevice deviceParameters (fun c => isParameter c && !isPrivate c) c
    | deviceIntermediate => afterDevice deviceIntermediate (fun _ => false) c
    | body => if holdsTerminator c then text else body

end Begun

structure Reading where
  begun : Begun
  running : Bool
  deriving DecidableEq, Repr

namespace Reading

def start : Reading := ⟨.text, false⟩

def keeps (r : Reading) (c : Char) : Bool :=
  isShown c && (r.running || r.begun.admits c)

def next (r : Reading) (c : Char) : Reading :=
  if r.keeps c then ⟨if c ≤ '\x7f' then r.begun else .text, true⟩
  else ⟨r.begun.next c, false⟩

def kept (r : Reading) : List Char → List Char
  | [] => []
  | c :: rest => if r.keeps c then c :: kept (r.next c) rest else kept (r.next c) rest

end Reading

/-- The text without control functions. -/
def readable (s : String) : String :=
  String.ofList (Reading.start.kept s.toList)

end SurfaceGate.Text
