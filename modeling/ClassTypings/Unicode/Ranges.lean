import ClassTypings.Text.Basic
/-!
# Sets of characters

A set of characters is held as the ranges of their numbers, in increasing order and with a gap
between each two. A table says which characters a set has: by listing their numbers, or by other
tables. Numbers are listed in hexadecimal. `41-5a` is a range, and `100-12e/2` has every second
number of it.
-/
namespace ClassTypings

/-- A set of characters: the first and the last number of each range. -/
abbrev CharRanges := List (Nat × Nat)

namespace CharRanges

def greatest : Nat := 0x10ffff

def holds (s : CharRanges) (n : Nat) : Bool := s.any fun (first, last) => first ≤ n && n ≤ last

/-- Ranges in the order of their first numbers, with those made one that meet. -/
def join : CharRanges → CharRanges
  | (first, last) :: (first', last') :: rest =>
    if first' ≤ last + 1 then join ((first, max last last') :: rest)
    else (first, last) :: join ((first', last') :: rest)
  | s => s
termination_by s => s.length

def ofList (s : List (Nat × Nat)) : CharRanges := join (s.mergeSort fun a b => a.1 ≤ b.1)

def union (s t : CharRanges) : CharRanges := ofList (s ++ t)

/-- What is left between the ranges, from a number on. -/
def gaps : Nat → CharRanges → CharRanges
  | start, [] => if start ≤ greatest then [(start, greatest)] else []
  | start, (first, last) :: rest =>
    if start < first then (start, first - 1) :: gaps (last + 1) rest else gaps (last + 1) rest

def complement (s : CharRanges) : CharRanges := gaps 0 s

def inter (s t : CharRanges) : CharRanges := complement (union (complement s) (complement t))

def without (s t : CharRanges) : CharRanges := complement (union (complement s) t)

def difference (s t : CharRanges) : CharRanges := union (without s t) (without t s)

def isAscii (s : CharRanges) : Bool := s.all (·.2 < 128)

end CharRanges

def hexValue? (c : Char) : Option Nat :=
  if c.isDigit then some (c.toNat - 48)
  else if 'a' ≤ c && c ≤ 'f' then some (c.toNat - 87)
  else if 'A' ≤ c && c ≤ 'F' then some (c.toNat - 55)
  else none

def hexNumber (digits : Text) : Nat := (digits.filterMap hexValue?).foldl (fun n d => 16 * n + d) 0

/-- A set of characters by its description. -/
inductive Table where
  | listed (lines : List String)
  | union (s t : Table)
  | without (s t : Table)
  deriving Repr

namespace Table

instance : Union Table := ⟨.union⟩

instance : SDiff Table := ⟨.without⟩

/-- The ranges that one entry of a list stands for. -/
def entry (source : Text) : CharRanges :=
  match source.splitOn '-' with
  | [n] => [(hexNumber n, hexNumber n)]
  | [first, rest] =>
    match rest.splitOn '/' with
    | [last, step] =>
      let (first, step) := (hexNumber first, hexNumber step)
      (List.range ((hexNumber last - first) / step + 1)).map fun i =>
        (first + i * step, first + i * step)
    | _ => [(hexNumber first, hexNumber rest)]
  | _ => []

/-- The ranges of a list of entries with blanks between them. -/
def entries (line : String) : CharRanges := (line.toList.splitOn ' ').flatMap entry

def ranges : Table → CharRanges
  | .listed lines => .ofList (lines.flatMap entries)
  | .union s t => s.ranges.union t.ranges
  | .without s t => s.ranges.without t.ranges

end Table

/-- The names of a set of characters, and its table if it has one. -/
structure NamedTable where
  names : List String
  table : Option Table

end ClassTypings
