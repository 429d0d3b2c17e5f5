import ClassTypings.Pattern.Basic
import ClassTypings.Pattern.Flaw
import ClassTypings.Text.WordChar
import ClassTypings.Unicode.Category
import ClassTypings.Unicode.Property
import ClassTypings.Unicode.Query
/-!
# Trees of patterns

The text of a pattern, read as a tree of its parts. A part knows where it stands in the text when
something can be wrong with it. A part of a pattern stands in the parts that have it inside: the
parts that hold others and the brackets of classes make the depth, and it is limited.
-/
namespace ClassTypings

/-- A class that has a letter. -/
inductive Shorthand where
  | digit
  | blank
  | word
  deriving DecidableEq, Repr

namespace Shorthand

/-- The class of a letter after a backslash, and whether the letter is the capital that excludes
it. -/
def ofLetter? : Char → Option (Shorthand × Bool)
  | 'd' => some (.digit, false)
  | 's' => some (.blank, false)
  | 'w' => some (.word, false)
  | 'D' => some (.digit, true)
  | 'S' => some (.blank, true)
  | 'W' => some (.word, true)
  | _ => none

def asciiRanges : Shorthand → CharRanges
  | .digit => [(0x30, 0x39)]
  | .blank => [(0x09, 0x0d), (0x20, 0x20)]
  | .word => [(0x30, 0x39), (0x41, 0x5a), (0x5f, 0x5f), (0x61, 0x7a)]

def ranges : Shorthand → CharRanges
  | .digit => Unicode.decimalNumber.ranges
  | .blank => Unicode.whiteSpace.ranges
  | .word => asciiRanges .word ++ wordRanges

end Shorthand

/-- The classes of ASCII characters that have a name. -/
def namedClasses : List (Text × CharRanges) := [
  ("alnum".toList, [(0x30, 0x39), (0x41, 0x5a), (0x61, 0x7a)]),
  ("alpha".toList, [(0x41, 0x5a), (0x61, 0x7a)]),
  ("ascii".toList, [(0x00, 0x7f)]),
  ("blank".toList, [(0x09, 0x09), (0x20, 0x20)]),
  ("cntrl".toList, [(0x00, 0x1f), (0x7f, 0x7f)]),
  ("digit".toList, [(0x30, 0x39)]),
  ("graph".toList, [(0x21, 0x7e)]),
  ("lower".toList, [(0x61, 0x7a)]),
  ("print".toList, [(0x20, 0x7e)]),
  ("punct".toList, [(0x21, 0x2f), (0x3a, 0x40), (0x5b, 0x60), (0x7b, 0x7e)]),
  ("space".toList, [(0x09, 0x0d), (0x20, 0x20)]),
  ("upper".toList, [(0x41, 0x5a)]),
  ("word".toList, [(0x30, 0x39), (0x41, 0x5a), (0x5f, 0x5f), (0x61, 0x7a)]),
  ("xdigit".toList, [(0x30, 0x39), (0x41, 0x46), (0x61, 0x66)])]

/-- A way in which a pattern is understood, which can be set and cleared within it. -/
inductive Setting where
  | ignoreCase
  | eachLine
  | dotBreaks
  | shortest
  | unicode
  | returns
  | spaced
  deriving DecidableEq, Repr

/-- Settings that are set or cleared, in their order. -/
abbrev SettingChanges := List (Setting × Bool)

/-- A character that stands for itself. It may be written as a byte, by two digits. -/
structure Literal where
  char : Char
  span : Span
  isByte : Bool := false
  deriving DecidableEq, Repr

def Literal.number (l : Literal) : Nat := l.char.toNat

inductive ClassOperator where
  | inter
  | without
  | difference
  deriving DecidableEq, Repr

inductive ClassTree where
  | empty
  | one (l : Literal)
  | range (first last : Literal)
  | ascii (set : CharRanges) (negated : Bool) (span : Span)
  | shorthand (s : Shorthand) (negated : Bool) (span : Span)
  | property (query : Unicode.Query) (negated : Bool) (span : Span)
  | bracket (inner : ClassTree) (negated : Bool) (span : Span)
  | items (all : List ClassTree) (span : Span)
  | combined (op : ClassOperator) (left right : ClassTree) (span : Span)
  deriving Repr

inductive EdgeMark where
  | textStart
  | textEnd
  | lineStart
  | lineEnd
  | word (edge : WordEdge)
  deriving DecidableEq, Repr

inductive PatternTree where
  | empty
  | settings (changes : SettingChanges)
  | one (l : Literal)
  | dot (span : Span)
  | edge (mark : EdgeMark)
  | set (c : ClassTree)
  | repeated (part : PatternTree) (least : Nat) (most : Option Nat) (span : Span)
  /-- A group that is remembered, or one with settings of its own. -/
  | group (part : PatternTree) (changes : Option SettingChanges) (span : Span)
  | choice (branches : List PatternTree) (span : Span)
  | sequence (parts : List PatternTree) (span : Span)
  deriving Repr

mutual

/-- The first part of a class that stands too deep, where so many more levels are allowed. -/
def ClassTree.tooDeep? (room : Nat) : ClassTree → Option Span
  | .bracket inner _ span =>
    match room with
    | 0 => some span
    | room + 1 => inner.tooDeep? room
  | .items all span =>
    match room with
    | 0 => some span
    | room + 1 => ClassTree.anyTooDeep? room all
  | .combined _ left right span =>
    match room with
    | 0 => some span
    | room + 1 => (left.tooDeep? room).or (right.tooDeep? room)
  | _ => none

def ClassTree.anyTooDeep? (room : Nat) : List ClassTree → Option Span
  | [] => none
  | c :: rest => (c.tooDeep? room).or (ClassTree.anyTooDeep? room rest)

end

mutual

/-- The first part of a pattern that stands too deep, where so many more levels are allowed. -/
def PatternTree.tooDeep? (room : Nat) : PatternTree → Option Span
  | .set c => c.tooDeep? room
  | .repeated part _ _ span | .group part _ span =>
    match room with
    | 0 => some span
    | room + 1 => part.tooDeep? room
  | .choice parts span | .sequence parts span =>
    match room with
    | 0 => some span
    | room + 1 => PatternTree.anyTooDeep? room parts
  | _ => none

def PatternTree.anyTooDeep? (room : Nat) : List PatternTree → Option Span
  | [] => none
  | t :: rest => (t.tooDeep? room).or (PatternTree.anyTooDeep? room rest)

end

def PatternTree.depthLimit : Nat := 250

end ClassTypings
