import ClassTypings.Pattern.Reading
import ClassTypings.Pattern.Tree
/-!
# Escapes

A backslash and what follows it stand for a character, for a class of characters or for a condition
on a place.
-/
namespace ClassTypings

/-- What stands for one thing in a pattern. -/
inductive Atom where
  | one (l : Literal)
  | set (c : ClassTree)
  | edge (mark : EdgeMark)

namespace Reading

/-- The hexadecimal digits of a number in braces. A bound on their number is given. -/
def bracedDigits (brace : Position) : Nat → Reading Text
  | 0 => return []
  | bound + 1 => do
    match ← peek with
    | none => flawSince .escapeUnexpectedEnd brace
    | some c =>
      if c == '\x7d' then return []
      if (hexValue? c).isNone then flawNext .escapeHexInvalidDigit
      step
      return c :: (← bracedDigits brace bound)

def fixedDigits : Nat → Reading Text
  | 0 => return []
  | n + 1 => do
    match ← peek with
    | none => flawHere .escapeUnexpectedEnd
    | some c =>
      if (hexValue? c).isNone then flawNext .escapeHexInvalidDigit
      step
      return c :: (← fixedDigits n)

def characterOf (digits : Text) (start stop : Position) : Reading Char := do
  let n := hexNumber digits
  if n.isValidChar then return Char.ofNat n
  flaw .escapeHexInvalid start stop

/-- A character by its number, at the letter that announces a number of digits, and whether it has
just these digits. -/
def hexCharacter (width : Nat) : Reading (Char × Bool) := do
  step
  if ← atEnd then flawHere .escapeUnexpectedEnd
  if ← next '\x7b' then
    let brace ← nextSpan
    step
    let digits ← bracedDigits brace.start ((← restLength) + 1)
    let stop ← position
    step
    if digits.isEmpty then flawSince .escapeHexEmpty brace.start
    return (← characterOf digits brace.stop stop, false)
  else
    let start ← position
    let digits ← fixedDigits width
    return (← characterOf digits start (← position), true)

/-- The query that a text in braces states, and whether its answer is excluded. -/
def queryOf (source : Text) : Unicode.Query × Bool :=
  let divided (mark : Text) := Text.around? mark source
  match divided "!=".toList, divided [':'], divided ['='] with
  | some (property, value), _, _ => (.valued property value, true)
  | _, some (property, value), _ | _, _, some (property, value) => (.valued property value, false)
  | _, _, _ => (.named source, false)

def property : Reading (Unicode.Query × Bool) := do
  let excluded ← next 'P'
  step
  match ← peek with
  | none => flawHere .escapeUnexpectedEnd
  | some '\\' => flawNext .propertyInvalid
  | some '\x7b' =>
    step
    let source ← stepRun (· != '\x7d') (← restLength)
    if ← atEnd then flawHere .escapeUnexpectedEnd
    drop 1
    let (query, inverted) := queryOf source
    return (query, excluded != inverted)
  | some c =>
    step
    return (.named [c], excluded)

/-- The conditions on words that have a name. -/
def namedWordEdges : List (Text × WordEdge) := [
  ("start".toList, .start), ("end".toList, .stop), ("start-half".toList, .afterNoWord),
  ("end-half".toList, .beforeNoWord)]

/-- A condition on words, after `\b`. A count may follow instead of a name. -/
def wordEdge (start : Position) : Reading WordEdge := do
  let before ← get
  unless ← next '\x7b' do return .onEdge
  step
  let named (c : Char) := c.isAlpha || c == '-'
  match ← peek with
  | none => flawSince .wordEdgeOrCountUnclosed start
  | some c =>
    if !named c then
      set before
      return .onEdge
    let inner ← position
    let name ← stepRun named (← restLength)
    unless ← next '\x7d' do flawSince .wordEdgeUnclosed before.position
    let stop ← position
    drop 1
    match namedWordEdges.lookup name with
    | some e => return e
    | none => flaw .wordEdgeUnrecognized inner stop

/-- The control characters that have a letter. -/
def lettered : List (Char × Char) :=
  [('a', '\x07'), ('f', '\x0c'), ('t', '\t'), ('n', '\n'), ('r', '\r'), ('v', '\x0b')]

/-- The conditions on places that have a letter, `\b` apart. -/
def letteredEdges : List (Char × EdgeMark) :=
  [('A', .textStart), ('z', .textEnd), ('B', .word .offEdge), ('<', .word .start),
    ('>', .word .stop)]

/-- What a backslash and the characters after it stand for. -/
def escape : Reading Atom := do
  let start ← position
  drop 1
  match ← peek with
  | none => flawSince .escapeUnexpectedEnd start
  | some c =>
    if c.isDigit then
      drop 1
      flawSince .unsupportedBackreference start
    if c == 'x' || c == 'u' || c == 'U' then
      let (d, isFixed) ← hexCharacter (if c == 'x' then 2 else if c == 'u' then 4 else 8)
      return .one ⟨d, ⟨start, ← position⟩, c == 'x' && isFixed⟩
    if c == 'p' || c == 'P' then
      let (query, negated) ← property
      return .set (.property query negated ⟨start, ← position⟩)
    drop 1
    let span : Span := ⟨start, ← position⟩
    if c == 'b' then return .edge (.word (← wordEdge start))
    if let some (s, negated) := Shorthand.ofLetter? c then return .set (.shorthand s negated span)
    if let some d := lettered.lookup c then return .one ⟨d, span, false⟩
    if let some mark := letteredEdges.lookup c then return .edge mark
    if c.toNat < 128 && !c.isAlpha then return .one ⟨c, span, false⟩
    throw (.marked .escapeUnrecognized [span])

end Reading
end ClassTypings
