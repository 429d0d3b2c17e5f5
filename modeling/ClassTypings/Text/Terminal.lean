import ClassTypings.Text.Basic
/-!
# Texts on a terminal

A text may hold sequences that a terminal obeys instead of showing them. The plain text is what is
left to read when they and the other control characters are taken out: blanks and line breaks stay.
A part of a text is styled by a sequence before it and one behind it.

A sequence starts with the escape character. A blank or a line break inside a sequence that shows
blanks suspends it: what follows is shown up to the next control character, and then the sequence
goes on. A character above ASCII ends a suspended sequence.
-/
namespace ClassTypings.Text

/-- The part of a sequence with parameters that is being read. -/
inductive SequencePart where
  | start
  | parameters
  | intermediates
  | malformed
  deriving DecidableEq, Repr

/-- The part after one more character between the space and `?`. -/
def SequencePart.next (c : Char) : SequencePart → SequencePart
  | .start => if c < '0' then .intermediates else .parameters
  | .parameters => if c < '0' then .intermediates else if c < '<' then .parameters else .malformed
  | .intermediates => if c < '0' then .intermediates else .malformed
  | .malformed => .malformed

/-- What a reader of a text for terminals is inside of. -/
inductive TerminalMode where
  /-- Text that is shown. -/
  | shown
  /-- An escape sequence. -/
  | escape
  /-- An escape sequence that only its final character is missing from. -/
  | escapeIntermediates
  /-- A control sequence. -/
  | control (part : SequencePart)
  /-- The head of a device control string. -/
  | device (part : SequencePart)
  /-- An operating system command. -/
  | command
  /-- The body of a device control string, or another string that is not shown. -/
  | string
  deriving DecidableEq, Repr

/-- A blank or a line break that a terminal acts on. -/
def isTerminalBlank (c : Char) : Bool := c == '\t' || c == '\n' || c == '\x0c' || c == '\r'

/-- Whether one of the bytes after the first that the character takes in UTF-8 is the string
terminator. -/
def hasTerminatorByte (c : Char) : Bool :=
  let byte := 0x1c
  (0x80 ≤ c.toNat && c.toNat % 64 == byte) || (0x800 ≤ c.toNat && c.toNat / 64 % 64 == byte) ||
    (0x10000 ≤ c.toNat && c.toNat / 4096 % 64 == byte)

namespace TerminalMode

def shows : TerminalMode → Char → Bool
  | .shown, c => (' ' ≤ c && c != '\x7f') || isTerminalBlank c
  | .escape, c | .escapeIntermediates, c | .control _, c => isTerminalBlank c
  | .device _, _ | .command, _ | .string, _ => false

/-- The mode that the character after the escape character begins. -/
def ofIntroducer (c : Char) : TerminalMode :=
  if c < '0' then .escapeIntermediates
  else if c = '[' then .control .start
  else if c = 'P' then .device .start
  else if c = ']' then .command
  else if c = 'X' ∨ c = '^' ∨ c = '_' then .string
  else .shown

def advance (mode : TerminalMode) (c : Char) : TerminalMode :=
  let isPart := ' ' ≤ c && c < '\x7f'
  match mode with
  | .shown => .shown
  | .escape => if isPart then ofIntroducer c else .escape
  | .escapeIntermediates => if isPart && '0' ≤ c then .shown else .escapeIntermediates
  | .control part =>
    if !isPart then .control part else if c < '@' then .control (part.next c) else .shown
  | .device part =>
    if !isPart then .device part
    else if c < '@' && part.next c ≠ .malformed then .device (part.next c)
    else .string
  | .command => if c = '\x07' then .shown else .command
  | .string => if hasTerminatorByte c then .shown else .string

/-- The mode after a character that is not shown. In each mode the escape character begins a
sequence, and the two cancelling characters end one. -/
def next (mode : TerminalMode) (c : Char) : TerminalMode :=
  if c = '\x1b' then .escape
  else if c = '\x18' ∨ c = '\x1a' then .shown
  else mode.advance c

end TerminalMode

/-- The plain text of what follows in a mode. After a character that was shown, text goes on until
the next control character. -/
def plainFrom (mode : TerminalMode) (showing : Bool) : Text → Text
  | [] => []
  | c :: r =>
    if (if showing then TerminalMode.shown else mode).shows c then
      c :: plainFrom (if c.toNat < 128 then mode else .shown) true r
    else plainFrom (mode.next c) false r

/-- What a reader sees of a text. -/
def plain (t : Text) : Text := plainFrom .shown false t

end ClassTypings.Text

namespace ClassTypings

/-- A style: the numbers of the settings that it switches on. -/
structure Style where
  settings : List Nat
  deriving DecidableEq, Repr

namespace Style

/-- The usual style, in which nothing is set. -/
def usual : Style := ⟨[]⟩

/-- A part that is typed as it stands. -/
def strong : Style := ⟨[1]⟩

def heading : Style := ⟨[1, 4]⟩

/-- A part that keeps in the background. -/
def faint : Style := ⟨[90]⟩

/-- A control sequence that sets something. -/
def sequence (setting : Nat) : Text := "\x1b[".toList ++ Text.ofNat setting ++ ['m']

/-- A part in a style, if styles are wanted. -/
def apply (styled : Bool) (s : Style) (part : Text) : Text :=
  if styled && !s.settings.isEmpty then s.settings.flatMap sequence ++ part ++ sequence 0 else part

end Style

/-- Parts of a line with their styles. -/
abbrev StyledLine := List (Style × Text)

namespace StyledLine

def plain (line : StyledLine) : Text := line.flatMap (·.2)

/-- The line, with its styles if they are wanted. -/
def render (styled : Bool) (line : StyledLine) : Text :=
  line.flatMap fun (s, part) => s.apply styled part

/-- A line of one part in the usual style. -/
def ofString (part : String) : StyledLine := [(.usual, part.toList)]

end StyledLine
end ClassTypings
