import ClassTypings.Pattern.Escape
/-!
# Classes in brackets

Brackets hold characters, ranges, named classes and further brackets. Operators between them make
the common part, the difference and the symmetric difference.
-/
namespace ClassTypings

/-- A class and the part of the text that it is. -/
abbrev PlacedClass := ClassTree × Span

/-- Items of a class, the last one first, as one class. Where there is none it stands at a
position. -/
def PlacedClass.ofItems (start : Position) : List PlacedClass → PlacedClass
  | [] => (.empty, ⟨start, start⟩)
  | [c] => c
  | last :: earlier =>
    let all := (last :: earlier).reverse
    let span : Span := ⟨(all.head?.map (·.2.start)).getD start, last.2.stop⟩
    (.items (all.map (·.1)) span, span)

/-- An operator between classes that is still without its right operand. -/
structure PendingOperator where
  op : ClassOperator
  left : PlacedClass

/-- The class that an operator makes with its right operand. -/
def PendingOperator.finish (pending : Option PendingOperator) (right : PlacedClass) : PlacedClass :=
  match pending with
  | none => right
  | some ⟨op, left⟩ =>
    let span : Span := ⟨left.2.start, right.2.stop⟩
    (.combined op left.1 right.1 span, span)

namespace Reading

/-- The next character as it stands. -/
def verbatim (c : Char) : Reading Literal := do
  let span ← nextSpan
  drop 1
  return ⟨c, span, false⟩

/-- One item of a class in brackets, and the part of the text that it is. -/
def classItem : Reading (Atom × Span) := do
  let start ← position
  let atom ← match ← peek with
    | some '\\' => escape
    | some c => Atom.one <$> verbatim c
    | none => flawHere .classUnclosed
  return (atom, ⟨start, ← position⟩)

def rangeBound (item : Atom × Span) : Reading Literal :=
  match item.1 with
  | .one l => return l
  | _ => throw (.marked .classRangeLiteral [item.2])

/-- A class inside brackets by its name, in brackets and colons of its own. -/
def namedClass? : Reading (Option PlacedClass) := do
  let before ← get
  if ← take? "[:".toList then
    let negated ← take? ['^']
    let name ← takeRun (· != ':')
    if ← take? ":]".toList then
      if let some set := namedClasses.lookup name then
        let span : Span := ⟨before.position, ← position⟩
        return some (.ascii set negated span, span)
  set before
  return none

def classRange (unclosed : PatternFlaw) : Reading PlacedClass := do
  let first ← classItem
  skipSpace
  if ← atEnd then throw unclosed
  let second ← peekSecond
  if (← next '-') && second != some ']' && second != some '-' then
    step
    if ← atEnd then throw unclosed
    let last ← classItem
    let low ← rangeBound first
    let high ← rangeBound last
    let span : Span := ⟨first.2.start, last.2.stop⟩
    if high.number < low.number then throw (.marked .classRangeInvalid [span])
    return (.range low high, span)
  match first.1 with
  | .one l => return (.one l, first.2)
  | .set c => return (c, first.2)
  | .edge _ => throw (.marked .classEscapeInvalid [first.2])

/-- Takes an operator between classes if one comes next. -/
def classOperator? : Reading (Option ClassOperator) := do
  for (name, op) in [("&&", ClassOperator.inter), ("--", .without), ("~~", .difference)] do
    if ← take? name.toList then return some op
  return none

structure ClassHead where
  start : Position
  negated : Bool
  /-- The position of the first item. -/
  inner : Position
  /-- The characters that stand for themselves here and nowhere else in brackets, last first. -/
  first : List PlacedClass
  /-- The flaw if the class is never closed. -/
  unclosed : PatternFlaw

/-- Dashes at the head of a class that begins at a position. They come last first, before some
others. A bound on their number is given. -/
def classDashes (start : Position) : Nat → List PlacedClass → Reading (List PlacedClass)
  | 0, earlier => return earlier
  | bound + 1, earlier => do
    unless ← next '-' do return earlier
    let l ← verbatim '-'
    skipSpace
    if ← atEnd then flaw .classUnclosed start start
    classDashes start bound ((.one l, l.span) :: earlier)

/-- The head of a class in brackets: the bracket, a negation, dashes and a closing bracket. -/
def classHead : Reading ClassHead := do
  let start ← position
  step
  if ← atEnd then flawSince .classUnclosed start
  let negated ← next '^'
  if negated then
    step
    if ← atEnd then flawSince .classUnclosed start
  let inner ← position
  let dashes ← classDashes start (← restLength) []
  let first ← if dashes.isEmpty && (← next ']') then do
      let l ← verbatim ']'
      skipSpace
      if ← atEnd then flawSince .classUnclosed start
      pure [(ClassTree.one l, l.span)]
    else pure dashes
  return { start, negated, inner, first, unclosed := .marked .classUnclosed [⟨start, ← position⟩] }

/-- The rest of a class in brackets after an operator and the items that follow it, which come last
first and begin at a position. A class takes at least one character, which bounds the depth and the
number of items. -/
def classRest : Nat → ClassHead → Option PendingOperator → Position → List PlacedClass →
    Reading PlacedClass
  | 0, head, _, _, _ => throw head.unclosed
  | bound + 1, head, pending, start, items => do
    skipSpace
    match ← peek with
    | none => throw head.unclosed
    | some ']' =>
      drop 1
      let inner := PendingOperator.finish pending (.ofItems start items)
      let span : Span := ⟨head.start, ← position⟩
      return (.bracket inner.1 head.negated span, span)
    | some '[' =>
      let item ← match ← namedClass? with
        | some c => pure c
        | none => do
          let inner ← classHead
          classRest bound inner none inner.inner inner.first
      classRest bound head pending start (item :: items)
    | some _ =>
      match ← classOperator? with
      | some op =>
        let left := PendingOperator.finish pending (.ofItems start items)
        classRest bound head (some ⟨op, left⟩) (← position) []
      | none =>
        let item ← classRange head.unclosed
        classRest bound head pending start (item :: items)

def bracketClass : Reading PlacedClass := do
  let head ← classHead
  classRest ((← restLength) + 1) head none head.inner head.first

end Reading
end ClassTypings
