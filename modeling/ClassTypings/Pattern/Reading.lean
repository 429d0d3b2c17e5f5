import ClassTypings.Pattern.Flaw
import ClassTypings.Text.Basic
/-!
# Reading at a position

Reading the text of a pattern from left to right, with the positions that a flaw is marked by.
-/
namespace ClassTypings

/-- A reader's position in the text of a pattern, what follows there, and whether blanks and
comments count for nothing. -/
structure Cursor where
  position : Position := {}
  rest : Text
  spaced : Bool := false

abbrev Reading := StateT Cursor (Except PatternFlaw)

namespace Cursor

def drop : Nat → Cursor → Cursor
  | n + 1, ⟨position, c :: rest, spaced⟩ => drop n ⟨position.next c, rest, spaced⟩
  | _, cursor => cursor

/-- The number of characters that blanks and comments take at the front. A comment goes from a
number sign to the end of its line. -/
def spaceLength (comment : Bool) : Text → Nat
  | [] => 0
  | c :: rest =>
    if comment then spaceLength (c != '\n') rest + 1
    else if isBlank c then spaceLength false rest + 1
    else if c == '#' then spaceLength true rest + 1
    else 0

end Cursor

namespace Reading

def peek : Reading (Option Char) := return (← get).rest.head?

def next (c : Char) : Reading Bool := return (← peek) = some c

def atEnd : Reading Bool := return (← get).rest.isEmpty

def position : Reading Position := return (← get).position

def drop (n : Nat) : Reading Unit := modify (Cursor.drop n)

/-- Skips blanks and comments where they count for nothing. -/
def skipSpace : Reading Unit := modify fun cursor =>
  if cursor.spaced then cursor.drop (Cursor.spaceLength false cursor.rest) else cursor

/-- Takes a character and skips the space after it. -/
def step : Reading Unit := do
  drop 1
  skipSpace

/-- The character after the next one. Where blanks count for nothing they are skipped, and so is one
number sign among them. -/
def peekSecond : Reading (Option Char) := do
  let cursor ← get
  let following := cursor.rest.tail
  if !cursor.spaced then return following.head?
  let found :=
    match following.dropWhile isBlank with
    | '#' :: rest => rest.dropWhile isBlank
    | rest => rest
  return found.head?.or following.head?

/-- Takes a text if it comes next. -/
def take? (front : Text) : Reading Bool := do
  match Text.after? front (← get).rest with
  | some _ => drop front.length; return true
  | none => return false

/-- Takes the longest run of a class. -/
def takeRun (p : Char → Bool) : Reading Text := do
  let run := (← get).rest.takeWhile p
  drop run.length
  return run

/-- Takes the longest run of a class, with the space after each character. A bound on its length is
given. -/
def stepRun (p : Char → Bool) : Nat → Reading Text
  | 0 => return []
  | bound + 1 => do
    match ← peek with
    | some c => if p c then do step; return c :: (← stepRun p bound) else return []
    | none => return []

def restLength : Reading Nat := return (← get).rest.length

def flaw {α : Type} (kind : FlawKind) (start stop : Position) : Reading α :=
  throw (.marked kind [⟨start, stop⟩])

def flawSince {α : Type} (kind : FlawKind) (start : Position) : Reading α := do
  flaw kind start (← position)

def flawHere {α : Type} (kind : FlawKind) : Reading α := do
  flawSince kind (← position)

def nextSpan : Reading Span := do
  let cursor ← get
  return ⟨cursor.position, (cursor.drop 1).position⟩

def flawNext {α : Type} (kind : FlawKind) : Reading α := do
  throw (.marked kind [← nextSpan])

end Reading
end ClassTypings
