import ClassTypings.Pattern.Basic
import ClassTypings.Unicode.Ranges
/-!
# Size of patterns

How much memory a pattern takes as a network of states that reads bytes, forward or backward. It is
limited. A range of characters falls into parts whose first bytes, second bytes and so on can be
chosen freely from a range of bytes each.
-/
namespace ClassTypings

/-- Ranges of bytes, one for each byte of a character. -/
abbrev ByteRanges := List (Nat × Nat)

namespace CharRanges

/-- Where a range of characters has to be cut, if anywhere: the last number of the first part.
Characters with different numbers of bytes come apart. So do those with different first bytes,
unless the bytes that follow take all their values. -/
def cut? (first last : Nat) : Option Nat :=
  match [0x7f, 0x7ff, 0xffff].find? fun m => first ≤ m && m < last with
  | some m => some m
  | none =>
    if last ≤ 0x7f then none
    else
      [0x40, 0x1000, 0x40000].findSome? fun m =>
        if first / m == last / m then none
        else if first % m != 0 then some ((first / m + 1) * m - 1)
        else if last % m != m - 1 then some (last / m * m - 1)
        else none

def parts (first last : Nat) : List (Nat × Nat) :=
  match cut? first last with
  | none => [(first, last)]
  | some m =>
    if _h : first ≤ m ∧ m < last then parts first m ++ parts (m + 1) last else [(first, last)]
termination_by last - first

def bytes (n : Nat) : List Nat :=
  let following (m : Nat) := 0x80 + n / m % 0x40
  if n ≤ 0x7f then [n]
  else if n ≤ 0x7ff then [0xc0 + n / 0x40, following 1]
  else if n ≤ 0xffff then [0xe0 + n / 0x1000, following 0x40, following 1]
  else [0xf0 + n / 0x40000, following 0x1000, following 0x40, following 1]

/-- The bytes of the characters of a set. -/
def byteRanges (s : CharRanges) : List ByteRanges :=
  (s.without [(0xd800, 0xdfff)]).flatMap fun (first, last) =>
    (parts first last).map fun (first, last) => (bytes first).zip (bytes last)

end CharRanges

namespace ByteRanges

/-- Ranges of bytes with what follows them, where neighbours with the same first bytes come
together. -/
def grouped : List ByteRanges → List ((Nat × Nat) × List ByteRanges)
  | [] => []
  | [] :: rest => grouped rest
  | (b :: tail) :: rest =>
    match grouped rest with
    | (b', tails) :: groups =>
      if b = b' then (b, tail :: tails) :: groups else (b, [tail]) :: (b', tails) :: groups
    | [] => [(b, [tail])]

/-- The number of ways that bytes can begin, the empty one apart. A character has a bounded number
of bytes. -/
def beginnings : Nat → List ByteRanges → Nat
  | 0, _ => 0
  | depth + 1, all => ((grouped all).map fun (_, tails) => 1 + beginnings depth tails).sum

/-- What can follow where bytes have been read, for each number of bytes. -/
def remainders : Nat → List (List ByteRanges) → List (List ByteRanges)
  | 0, _ => []
  | depth + 1, level =>
    let unfinished := (level.filter (· != [[]])).eraseDups
    unfinished ++ remainders depth (unfinished.flatMap fun all => (grouped all).map (·.2))

end ByteRanges

/-- The direction in which a network of states reads. -/
inductive Direction where
  | forward
  | backward
  deriving DecidableEq, Repr

def stateSize : Nat := 32

/-- The size of a step that a state allows for a range of bytes. -/
def stepSize : Nat := 8

/-- The size of a choice that a state has. -/
def choiceSize : Nat := 4

/-- The size of a set of characters. Forward, states from which the same can follow are one;
backward those that the same bytes precede. -/
def CharRanges.size (direction : Direction) (s : CharRanges) : Nat :=
  match s with
  | [] => stateSize
  | [(first, last)] =>
    if first = last then (CharRanges.bytes first).length * stateSize else sizeOfBytes s
  | s => sizeOfBytes s
where
  sizeOfBytes (s : CharRanges) : Nat :=
    if s.isAscii then 2 * stateSize + s.length * stepSize
    else
      let all := s.byteRanges
      match direction with
      | .forward =>
        let states := (ByteRanges.remainders 4 [all]).eraseDups
        states.foldr (fun state n => stateSize + (ByteRanges.grouped state).length * stepSize + n)
          stateSize
      | .backward =>
        (ByteRanges.beginnings 4 all + 2) * stateSize + all.length * choiceSize

namespace Pattern

def isEmptyOnly : Pattern → Bool
  | .empty | .edge _ => true
  | .one _ => false
  | .seq p q | .alt p q => p.isEmptyOnly && q.isEmptyOnly
  | .repeated p _ most => most == some 0 || p.isEmptyOnly
  | .captured p => p.isEmptyOnly

def allowsEmpty : Pattern → Bool
  | .empty | .edge _ => true
  | .one _ => false
  | .seq p q => p.allowsEmpty && q.allowsEmpty
  | .alt p q => p.allowsEmpty || q.allowsEmpty
  | .repeated p least _ => least == 0 || p.allowsEmpty
  | .captured p => p.allowsEmpty

/-- The size of a repetition of something with a size. -/
def repeatedSize (size : Nat) (allowsEmpty : Bool) : Nat → Option Nat → Nat
  | 0, some 0 => stateSize
  | 0, some 1 => size + 2 * stateSize + 2 * choiceSize
  | 0, none =>
    if allowsEmpty then size + 3 * stateSize + 4 * choiceSize
    else size + stateSize + 2 * choiceSize
  | least + 1, none => (least + 1) * size + stateSize + 2 * choiceSize
  | least, some most =>
    if most ≤ least then least * size
    else
      (if least = 0 then stateSize else least * size) + stateSize +
        (most - least) * (size + stateSize + 2 * choiceSize)

/-- The size of the pattern. Where only the empty text is repeated one round is enough. -/
def partSize (direction : Direction) : Pattern → Nat
  | .empty | .edge _ => stateSize
  | .one s => s.size direction
  | .seq p q => p.partSize direction + q.partSize direction
  | .alt p q =>
    let rest := match q with
      | .alt _ _ => q.partSize direction
      | _ => q.partSize direction + 2 * stateSize + choiceSize
    p.partSize direction + choiceSize + rest
  | .repeated p least most =>
    let (least, most) :=
      if p.isEmptyOnly then (min least 1, some ((most.map (min · 1)).getD 1)) else (least, most)
    repeatedSize (p.partSize direction) p.allowsEmpty least most
  | .captured p =>
    match direction with
    | .forward => p.partSize direction + 2 * stateSize
    | .backward => p.partSize direction

/-- The size of the pattern with what searches for it. -/
def size (direction : Direction) (p : Pattern) : Nat :=
  let search := 4 * stateSize + stepSize + 2 * choiceSize
  match direction with
  | .forward => p.partSize direction + search + 2 * stateSize
  | .backward => p.partSize direction + search

def sizeLimit : Nat := 10485760

def isTooLarge (p : Pattern) : Bool :=
  sizeLimit < p.size .forward || sizeLimit < p.size .backward

end Pattern
end ClassTypings
