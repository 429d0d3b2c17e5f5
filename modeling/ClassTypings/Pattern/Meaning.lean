import ClassTypings.Pattern.Tree
import ClassTypings.Unicode.Folding
/-!
# Meaning of patterns

What a tree of a pattern describes. That depends on settings, which hold from where they stand to
the end of the group around them. Where characters are taken for bytes only ASCII can be described,
since a part of a character is no text.
-/
namespace ClassTypings

/-- How the characters of a pattern are understood. -/
structure PatternOptions where
  ignoreCase : Bool := false
  eachLine : Bool := false
  dotBreaks : Bool := false
  unicode : Bool := true
  returns : Bool := false
  deriving DecidableEq, Repr

namespace PatternOptions

/-- The options with a setting set or cleared. Some settings change nothing that an occurrence
depends on. -/
def change (o : PatternOptions) : Setting × Bool → PatternOptions
  | (.ignoreCase, value) => { o with ignoreCase := value }
  | (.eachLine, value) => { o with eachLine := value }
  | (.dotBreaks, value) => { o with dotBreaks := value }
  | (.unicode, value) => { o with unicode := value }
  | (.returns, value) => { o with returns := value }
  | (.shortest, _) | (.spaced, _) => o

/-- A set with the other cases of its characters where case does not matter. -/
def cases (o : PatternOptions) (s : CharRanges) : CharRanges :=
  if !o.ignoreCase then s
  else if o.unicode then s.withCases
  else s.withAsciiCases

/-- The other characters, which are not all ASCII, if a set is excluded. -/
def exclude (o : PatternOptions) (negated : Bool) (span : Span) (s : CharRanges) :
    Except PatternFlaw CharRanges :=
  if !negated then .ok s
  else if o.unicode then .ok s.complement
  else .error (.marked .bytesInvalid [span])

def number (o : PatternOptions) (l : Literal) : Except PatternFlaw Nat :=
  if o.unicode || l.number < 128 then .ok l.number
  else .error (.marked (if l.isByte then .bytesInvalid else .unicodeNotAllowed) [l.span])

/-- The characters that a literal stands for outside of classes. -/
def literal (o : PatternOptions) (l : Literal) : Except PatternFlaw CharRanges :=
  if !o.unicode && l.isByte && 128 ≤ l.number then .error (.marked .bytesInvalid [l.span])
  else .ok (o.cases [(l.number, l.number)])

def dot (o : PatternOptions) (span : Span) : Except PatternFlaw CharRanges :=
  if !o.unicode then .error (.marked .bytesInvalid [span])
  else if o.dotBreaks then .ok (CharRanges.complement [])
  else if o.returns then .ok (CharRanges.complement [(0x0a, 0x0a), (0x0d, 0x0d)])
  else .ok (CharRanges.complement [(0x0a, 0x0a)])

def property (o : PatternOptions) (query : Unicode.Query) (span : Span) :
    Except PatternFlaw CharRanges :=
  if !o.unicode then .error (.marked .unicodeNotAllowed [span])
  else match query.table with
    | .ok table => .ok table.ranges
    | .error .unknownProperty => .error (.marked .propertyUnknown [span])
    | .error .unknownValue => .error (.marked .propertyValueUnknown [span])

/-- The condition that a mark states. -/
def edge (o : PatternOptions) (mark : EdgeMark) : Edge :=
  let breaks : LineBreaks := if o.returns then .feedOrReturn else .feed
  match mark with
  | .textStart => .textStart
  | .textEnd => .textEnd
  | .lineStart => if o.eachLine then .lineStart breaks else .textStart
  | .lineEnd => if o.eachLine then .lineEnd breaks else .textEnd
  | .word edge => .word edge (if o.unicode then .unicode else .ascii)

end PatternOptions

/-- What an operator makes of two sets. -/
def ClassOperator.apply : ClassOperator → CharRanges → CharRanges → CharRanges
  | .inter => .inter
  | .without => .without
  | .difference => .difference

mutual

/-- The characters of a class. Other cases are added before characters are excluded. -/
def ClassTree.ranges (o : PatternOptions) : ClassTree → Except PatternFlaw CharRanges
  | .empty => .ok []
  | .one l => do
    let n ← o.number l
    return [(n, n)]
  | .range first last => return [(← o.number first, ← o.number last)]
  | .ascii set negated span => o.exclude negated span (o.cases set)
  | .shorthand s negated span =>
    o.exclude negated span (if o.unicode then s.ranges else s.asciiRanges)
  | .property query negated span => do
    o.exclude negated span (o.cases (← o.property query span))
  | .bracket inner negated span => do
    o.exclude negated span (o.cases (← inner.ranges o))
  | .items all _ => ClassTree.allRanges o all
  | .combined op left right _ => do
    let s ← left.ranges o
    let t ← right.ranges o
    return op.apply (o.cases s) (o.cases t)

def ClassTree.allRanges (o : PatternOptions) : List ClassTree → Except PatternFlaw CharRanges
  | [] => .ok []
  | c :: rest => do
    let s ← c.ranges o
    return s.union (← ClassTree.allRanges o rest)

end

mutual

/-- The pattern that a tree describes, and the options after it. -/
def PatternTree.meaning (o : PatternOptions) :
    PatternTree → Except PatternFlaw (Pattern × PatternOptions)
  | .empty => .ok (.empty, o)
  | .settings changes => .ok (.empty, changes.foldl .change o)
  | .one l => return (.one (← o.literal l), o)
  | .dot span => return (.one (← o.dot span), o)
  | .edge mark => .ok (.edge (o.edge mark), o)
  | .set c => return (.one (← c.ranges o), o)
  | .repeated part least most _ => do
    let (p, after) ← part.meaning o
    return (.repeated p least most, after)
  | .group part (some changes) _ => do
    let (p, _) ← part.meaning (changes.foldl .change o)
    return (p, o)
  | .group part none _ => do
    let (p, _) ← part.meaning o
    return (.captured p, o)
  | .choice branches _ => do
    let (ps, after) ← PatternTree.meanings o branches
    return (.choice ps, after)
  | .sequence parts _ => do
    let (ps, after) ← PatternTree.meanings o parts
    return (.sequence ps, after)

def PatternTree.meanings (o : PatternOptions) :
    List PatternTree → Except PatternFlaw (List Pattern × PatternOptions)
  | [] => .ok ([], o)
  | t :: rest => do
    let (p, next) ← t.meaning o
    let (ps, after) ← PatternTree.meanings next rest
    return (p :: ps, after)

end

end ClassTypings
