/-!
# Plain text

What is left of a text for a terminal where there is none: escape sequences and control characters
are left out, line ends and other white space stay. White space interrupts an escape sequence: text
is kept from there to the next control character, behind which the sequence goes on.
-/

namespace RiscvAssembler.Text

/-- The parts of an escape sequence, each named for what may follow. -/
inductive ControlSequence
  | outside
  /-- Behind the escape character. -/
  | start
  /-- In a short sequence, which ends at a letter, a digit or the like. -/
  | short
  /-- In a control sequence, which ends at a letter or the like. -/
  | control
  /-- At the start of a device control string. -/
  | device
  /-- Behind the first parameter of a device control string. -/
  | deviceParameters
  /-- Behind the parameters of a device control string. -/
  | deviceMarks
  /-- In the text of a control string. -/
  | string
  /-- In an operating system command. -/
  | command
  deriving DecidableEq

/-- The control characters that are white space. -/
def isLayout (c : Char) : Bool :=
  c = '\t' || c = '\n' || c = '\x0c' || c = '\r'

/-- Whether a terminal shows `c` or moves on by it. -/
def isShown (c : Char) : Bool :=
  isLayout c || (' ' ≤ c && c ≠ '\x7f')

namespace ControlSequence

/-- Whether white space is kept inside the sequence. -/
def isInterruptible : ControlSequence → Bool
  | start | short | control => true
  | _ => false

/-- Whether the encoding of `c` has the byte that ends a control string. -/
def endsString (c : Char) : Bool :=
  (String.utf8EncodeChar c).contains 0x9c

/-- The part of the sequence behind `c`. -/
def advance (s : ControlSequence) (c : Char) : ControlSequence :=
  let n := c.toNat
  let isMark := 0x20 ≤ n && n ≤ 0x2f
  let isDigit := 0x30 ≤ n && n ≤ 0x3b
  let isPrivate := 0x3c ≤ n && n ≤ 0x3f
  let isFinal := 0x40 ≤ n && n ≤ 0x7e
  match s with
  | outside => outside
  | start =>
    if c = '[' then control
    else if c = ']' then command
    else if c = 'P' then device
    else if c = 'X' || c = '^' || c = '_' then string
    else if isMark then short
    else if isDigit || isPrivate || isFinal then outside
    else start
  | short => if isDigit || isPrivate || isFinal then outside else short
  | control => if isFinal then outside else control
  | device =>
    if isMark then deviceMarks
    else if isDigit || isPrivate then deviceParameters
    else if isFinal then string
    else device
  | deviceParameters =>
    if isMark then deviceMarks
    else if isPrivate || isFinal then string
    else deviceParameters
  | deviceMarks => if isDigit || isPrivate || isFinal then string else deviceMarks
  | string => if endsString c then outside else string
  | command => if c = '\x07' then outside else command

end ControlSequence

/-- Where a reader stands in a text for a terminal. -/
structure PlainReader where
  sequence : ControlSequence
  /-- Whether white space has interrupted the sequence. -/
  interrupted : Bool
  deriving DecidableEq

namespace PlainReader

def initial : PlainReader :=
  ⟨.outside, false⟩

/-- Reads one character: where the reader stands behind it, and whether the character is kept. A
character beyond ASCII puts an end to an interrupted sequence. -/
def next (r : PlainReader) (c : Char) : PlainReader × Bool :=
  if c = '\x1b' then (⟨.start, false⟩, false)
  else if c = '\x18' || c = '\x1a' then (initial, false)
  else if isShown c && (r.interrupted || r.sequence = .outside) then
    (if c ≤ '\x7f' then r else initial, true)
  else if isLayout c && r.sequence.isInterruptible then (⟨r.sequence, true⟩, true)
  else (⟨r.sequence.advance c, false⟩, false)

/-- The characters kept when reading goes on at `r`. -/
def keep (r : PlainReader) : List Char → List Char
  | [] => []
  | c :: cs =>
    let (r, kept) := r.next c
    if kept then c :: keep r cs else keep r cs

end PlainReader

def plain (cs : List Char) : List Char :=
  PlainReader.initial.keep cs

/-- The lines of a text. A carriage return before the end of a line belongs to the end. -/
def lines : List Char → List (List Char)
  | [] => [[]]
  | '\n' :: cs => [] :: lines cs
  | '\r' :: '\n' :: cs => [] :: lines cs
  | c :: cs =>
    match lines cs with
    | [] => [[c]]
    | line :: rest => (c :: line) :: rest

end RiscvAssembler.Text
