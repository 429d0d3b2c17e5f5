import ClassTypings.Text.Basic
import ClassTypings.Text.WordChar
import ClassTypings.Unicode.Ranges
/-!
# Patterns

A pattern describes texts. It occurs in a text when the part between two places of the text is one
that it describes. The places that a pattern reaches are found part by part, from all places of the
text at once, and a repetition goes on only from places that it has not reached before.
-/
namespace ClassTypings

/-- A place in a text: the character before it and what follows it. -/
structure Place where
  before : Option Char
  rest : Text
  deriving DecidableEq, Repr

/-- Which characters words are made of. -/
inductive WordKind where
  | unicode
  | ascii
  deriving DecidableEq, Repr

/-- Whether a character belongs to a word. -/
def WordKind.holds (k : WordKind) (c : Char) : Bool :=
  match k with
  | .unicode => isWordChar c
  | .ascii => c.isAlphanum || c == '_'

/-- Where a place lies beside words. -/
inductive WordEdge where
  | onEdge
  | offEdge
  | start
  | stop
  | afterNoWord
  | beforeNoWord
  deriving DecidableEq, Repr

/-- What ends a line: the line feed, or also the carriage return and both in a row. -/
inductive LineBreaks where
  | feed
  | feedOrReturn
  deriving DecidableEq, Repr

inductive Edge where
  | textStart
  | textEnd
  | lineStart (breaks : LineBreaks)
  | lineEnd (breaks : LineBreaks)
  | word (edge : WordEdge) (kind : WordKind)
  deriving DecidableEq, Repr

def Edge.holds (e : Edge) (x : Place) : Bool :=
  let next := x.rest.head?
  match e with
  | .textStart => x.before.isNone
  | .textEnd => next.isNone
  | .lineStart .feed => x.before.all (· == '\n')
  | .lineStart .feedOrReturn =>
    x.before.all fun c => c == '\n' || (c == '\r' && next != some '\n')
  | .lineEnd .feed => next.all (· == '\n')
  | .lineEnd .feedOrReturn =>
    next.all fun c => c == '\r' || (c == '\n' && x.before != some '\r')
  | .word edge kind =>
    let left := x.before.any kind.holds
    let right := next.any kind.holds
    match edge with
    | .onEdge => left != right
    | .offEdge => left == right
    | .start => !left && right
    | .stop => left && !right
    | .afterNoWord => !left
    | .beforeNoWord => !right

inductive Pattern where
  /-- The empty text. -/
  | empty
  /-- One character of a set. -/
  | one (set : CharRanges)
  /-- The empty text at a place of some kind. -/
  | edge (e : Edge)
  | seq (p q : Pattern)
  | alt (p q : Pattern)
  /-- A number of texts in a row, `none` being no limit. -/
  | repeated (p : Pattern) (least : Nat) (most : Option Nat)
  /-- A part that is remembered. It describes the same texts. -/
  | captured (p : Pattern)
  deriving DecidableEq, Repr

namespace Pattern

/-- The places that are reached in a number of rounds or fewer, from the places `seen` and, for the
next round, from the places `fresh` among them. -/
def reach (step : List Place → List Place) : Nat → List Place → List Place → List Place
  | 0, seen, _ => seen
  | rounds + 1, seen, fresh =>
    let found := (step fresh).filter (!seen.contains ·)
    if found.isEmpty then seen else reach step rounds (seen ++ found) found

/-- The length of the longest text that follows one of some places. -/
def longestRest (xs : List Place) : Nat := (xs.map (·.rest.length)).foldl max 0

/-- The places where a text of the pattern can end that starts at one of some places. A round of a
repetition goes forward or stays where it is, so rounds beyond the length of the text change
nothing. -/
def ends : Pattern → List Place → List Place
  | .empty, xs => xs
  | .one set, xs => xs.filterMap fun x =>
    match x.rest with
    | c :: r => if set.holds c.toNat then some ⟨some c, r⟩ else none
    | [] => none
  | .edge e, xs => xs.filter e.holds
  | .seq p q, xs => ends q (ends p xs)
  | .alt p q, xs => (ends p xs ++ ends q xs).eraseDups
  | .repeated p least most, xs =>
    let start := Nat.repeat (ends p) (min least (longestRest xs + 1)) xs
    let longest := longestRest start
    reach (ends p) ((most.map (· - least)).elim longest (min longest)) start start
  | .captured p, xs => ends p xs

/-- The places of the text after a character. -/
def places : Option Char → Text → List Place
  | before, [] => [⟨before, []⟩]
  | before, c :: r => ⟨before, c :: r⟩ :: places (some c) r

def occursIn (p : Pattern) (t : Text) : Bool := !(p.ends (places none t)).isEmpty

/-- Whether the pattern is the empty text as such. -/
def isEmpty : Pattern → Bool
  | .empty => true
  | _ => false

/-- Patterns one after another, none of them being the empty text as such. -/
def chain : List Pattern → Pattern
  | [] => .empty
  | [p] => p
  | p :: ps => .seq p (chain ps)

def sequence (ps : List Pattern) : Pattern := chain (ps.filter (!·.isEmpty))

/-- The set that the pattern takes one character of, if that is all it does. -/
def set? : Pattern → Option CharRanges
  | .one s => some s
  | _ => none

/-- One of some patterns, at least one. -/
def either : List Pattern → Pattern
  | [] => .empty
  | [p] => p
  | p :: ps => .alt p (either ps)

/-- One of some patterns. Where each is a single character their sets make one set. -/
def choice (ps : List Pattern) : Pattern :=
  match ps.mapM set? with
  | some sets => .one (.ofList sets.flatten)
  | none => either ps

end Pattern
end ClassTypings
