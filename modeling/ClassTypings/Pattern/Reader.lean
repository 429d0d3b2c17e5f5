import ClassTypings.Pattern.Bracket
import ClassTypings.Pattern.Meaning
import ClassTypings.Pattern.Size
import ClassTypings.Pattern.Tree
import ClassTypings.Unicode.Property
/-!
# Reading patterns

A pattern is written in the usual way: characters stand for themselves, `.`, classes in brackets and
escapes stand for one of several characters, `^` and `$` for the ends of the text, and `*`, `+`, `?`
and counts in braces repeat what stands before them. Parentheses group, and a bar separates
alternatives. Whether a repetition prefers few or many rounds does not matter, since a pattern is
only asked whether it occurs.

The names of groups go by Unicode 17, which knows more letters and digits than the version of the
tables.
-/
namespace ClassTypings

/-- The alphabetic characters, with those that came later than the tables. -/
def nameLetters : Table :=
  Unicode.alphabetic ∪ .listed [
    "88f c5c cdc a7ce-a7cf a7d2 a7d4 a7f1 10940-10959 10ec5-10ec7 10efa-10efb 11b60-11b67",
    "11db0-11ddb 16ea0-16eb8 16ebb-16ed3 16ff2-16ff6 187f8-187ff 18d09-18d1e 18d80-18df2",
    "1e6c0-1e6de 1e6e0-1e6f5 1e6fe-1e6ff 2b73a-2b73f 2cea2-2cead 323b0-33479"]

/-- The numbers, with those that came later than the tables. -/
def nameNumbers : Table := Unicode.number ∪ .listed ["11de0-11de9"]

def startsGroupName (c : Char) : Bool := c == '_' || nameLetters.ranges.holds c.toNat

def continuesGroupName (c : Char) : Bool :=
  startsGroupName c || c == '.' || c == '[' || c == ']' || nameNumbers.ranges.holds c.toNat

/-- Branches that are being read: where the first of them begins and where the last one does, the
branches before the last one, and the items of the last one with their positions. Branches and items
come last first. -/
structure Branches where
  first : Position := {}
  start : Position := {}
  branches : List PatternTree := []
  items : List (PatternTree × Position) := []

namespace Branches

def startingAt (x : Position) : Branches := { first := x, start := x }

def push (b : Branches) (t : PatternTree) (x : Position) : Branches :=
  { b with items := (t, x) :: b.items }

/-- The last branch, which ends at a position. -/
def last (b : Branches) (stop : Position) : PatternTree :=
  match b.items with
  | [] => .empty
  | [(t, _)] => t
  | items => .sequence (items.reverse.map (·.1)) ⟨b.start, stop⟩

/-- The branches with a further one. The last one ends at a position and the new one begins at
another. -/
def split (b : Branches) (stop next : Position) : Branches :=
  { b with branches := b.last stop :: b.branches, items := [], start := next }

/-- The branches as one pattern, which ends at a position. -/
def tree (b : Branches) (stop : Position) : PatternTree :=
  match b.branches with
  | [] => b.last stop
  | branches => .choice (b.last stop :: branches).reverse ⟨b.first, stop⟩

end Branches

/-- A group that is still open: the part of the text that opens it, its settings, whether blanks
counted before it, and the branches that it stands in. -/
structure OpenGroup where
  opening : Span
  changes : Option SettingChanges
  spaced : Bool
  outer : Branches

/-- A pattern that is being read: the branches of the innermost group, the open groups, and the
names of groups. -/
structure Draft where
  inner : Branches := {}
  groups : List OpenGroup := []
  names : List (Text × Span) := []

def Draft.push (d : Draft) (t : PatternTree) (x : Position) : Draft :=
  { d with inner := d.inner.push t x }

namespace Reading

/-- A decimal number, or the flaw that there is none. Blanks around it are skipped. -/
def count : Reading (Except PatternFlaw Nat) := do
  let _ ← takeRun isBlank
  let start ← position
  let digits ← stepRun Char.isDigit (← restLength)
  let span : Span := ⟨start, ← position⟩
  let _ ← stepRun isBlank (← restLength)
  let n := digits.foldl (fun n d => 10 * n + (d.toNat - 48)) 0
  return if digits.isEmpty then .error (.marked .repetitionCountEmpty [span])
    else if n < UInt32.size then .ok n
    else .error (.marked .decimalInvalid [span])

/-- The least and the greatest number of rounds, in braces. -/
def counts : Reading (Nat × Option Nat) := do
  let start ← position
  step
  if ← atEnd then flawSince .repetitionCountUnclosed start
  let least ← count
  if ← atEnd then flawSince .repetitionCountUnclosed start
  let range ← if ← next ',' then do
      step
      if ← atEnd then flawSince .repetitionCountUnclosed start
      if ← next '\x7d' then pure (← least, none)
      else
        let least ← least
        pure (least, some (← ← count))
    else do
      let least ← least
      pure (least, some least)
  unless ← next '\x7d' do flawSince .repetitionCountUnclosed start
  step
  let _ ← take? ['?']
  if range.2.any (· < range.1) then flawSince .repetitionCountInvalid start
  return range

/-- Whether a part of a pattern can be repeated. Settings cannot. -/
def isRepeatable : PatternTree → Bool
  | .settings _ => false
  | _ => true

/-- The branches with their last item repeated as is read at its end. -/
def repetition (b : Branches) : Reading Branches := do
  match b.items with
  | (part, start) :: items =>
    if !isRepeatable part then flawHere .repetitionMissing
    let (least, most) ← match ← peek with
      | some '\x7b' => counts
      | c => do
        drop 1
        let _ ← take? ['?']
        pure (match c with
          | some '*' => (0, none)
          | some '+' => (1, none)
          | _ => (0, some 1))
    return { b with items := (.repeated part least most ⟨start, ← position⟩, start) :: items }
  | [] => flawHere .repetitionMissing

def setting? : Char → Option Setting
  | 'i' => some .ignoreCase
  | 'm' => some .eachLine
  | 's' => some .dotBreaks
  | 'U' => some .shortest
  | 'u' => some .unicode
  | 'R' => some .returns
  | 'x' => some .spaced
  | _ => none

/-- Settings that letters set and, after a dash, clear, up to a colon or the closing parenthesis. No
letter comes twice. The letters so far are given, the last one first, and a bound on the number of
further ones. -/
def settings : Nat → List (Char × Span) → Reading SettingChanges
  | 0, _ => return []
  | bound + 1, seen => do
    match ← peek with
    | none => flawHere .flagUnexpectedEnd
    | some c =>
      if c == ':' || c == ')' then
        match seen with
        | ('-', span) :: _ => throw (.marked .flagDanglingNegation [span])
        | _ => return []
      let span ← nextSpan
      let changes ←
        if c == '-' then pure []
        else
          match setting? c with
          | some setting => pure [(setting, (seen.lookup '-').isNone)]
          | none => flawNext .flagUnrecognized
      if let some earlier := seen.lookup c then
        throw (.marked (if c == '-' then .flagRepeatedNegation else .flagDuplicate) [earlier, span])
      drop 1
      return changes ++ (← settings bound ((c, span) :: seen))

/-- The draft with the name of a group, which is read up to its closing angle bracket. -/
def groupName (d : Draft) : Reading Draft := do
  if ← atEnd then flawHere .groupNameUnexpectedEnd
  let start ← position
  let first ← match ← peek with
    | some c => if startsGroupName c then do drop 1; pure [c] else pure []
    | none => pure []
  let more ← if first.isEmpty then pure [] else takeRun continuesGroupName
  match ← peek with
  | none => flawHere .groupNameUnexpectedEnd
  | some '>' =>
    let span : Span := ⟨start, ← position⟩
    let name := first ++ more
    drop 1
    if name.isEmpty then flaw .groupNameEmpty start start
    if let some earlier := d.names.lookup name then
      throw (.marked .groupNameDuplicate [earlier, span])
    return { d with names := (name, span) :: d.names }
  | some _ => flawNext .groupNameInvalid

/-- The draft with a group opened. Its settings decide whether blanks count in it. -/
def openGroup (d : Draft) (opening : Span) (changes : Option SettingChanges) : Reading Draft := do
  let cursor ← get
  let spaced := (changes.bind (·.lookup .spaced)).getD cursor.spaced
  set { cursor with spaced }
  return { d with
    inner := .startingAt cursor.position
    groups := ⟨opening, changes, cursor.spaced, d.inner⟩ :: d.groups }

def closeGroup (d : Draft) : Reading Draft := do
  match d.groups with
  | [] => flawNext .groupUnopened
  | g :: groups =>
    let part := d.inner.tree (← position)
    drop 1
    modify fun cursor => { cursor with spaced := g.spaced }
    let span : Span := ⟨g.opening.start, ← position⟩
    return { d with inner := g.outer.push (.group part g.changes span) span.start, groups }

/-- The draft after the beginning of a group, or after settings in parentheses. -/
def group (d : Draft) : Reading Draft := do
  let opening ← nextSpan
  step
  let inner ← position
  for look in ["?=", "?!", "?<=", "?<!"] do
    if ← take? look.toList then flawSince .unsupportedLookAround opening.start
  if (← take? "?P<".toList) || (← take? "?<".toList) then
    openGroup (← groupName d) opening none
  else if !(← take? ['?']) then openGroup d opening none
  else
    if ← atEnd then throw (.marked .groupUnclosed [opening])
    let isEmpty ← next ')'
    let changes ← settings ((← restLength) + 1) []
    if ← take? [':'] then openGroup d opening (some changes)
    else
      drop 1
      if isEmpty then flaw .repetitionMissing inner inner
      modify fun cursor => { cursor with spaced := (changes.lookup .spaced).getD cursor.spaced }
      return d.push (.settings changes) opening.start

def atomTree : Atom → PatternTree
  | .one l => .one l
  | .set c => .set c
  | .edge mark => .edge mark

def atom : Reading PatternTree := do
  match ← peek with
  | none => return .empty
  | some '[' => return .set (← bracketClass).1
  | some '\\' => return atomTree (← escape)
  | some '.' =>
    let span ← nextSpan
    drop 1
    return .dot span
  | some '^' => drop 1; return .edge .lineStart
  | some '$' => drop 1; return .edge .lineEnd
  | some c => return .one (← verbatim c)

def piece (d : Draft) : Reading Draft := do
  match ← peek with
  | some '(' => group d
  | some ')' => closeGroup d
  | some '|' =>
    let stop ← position
    drop 1
    return { d with inner := d.inner.split stop (← position) }
  | c =>
    if c == some '*' || c == some '+' || c == some '?' || c == some '\x7b' then
      return { d with inner := ← repetition d.inner }
    else
      let start ← position
      return d.push (← atom) start

/-- The draft after all pieces. A piece takes at least one character, which bounds their number. -/
def pieces : Nat → Draft → Reading Draft
  | 0, d => return d
  | bound + 1, d => do
    skipSpace
    if ← atEnd then return d
    pieces bound (← piece d)

def wholeTree : Reading PatternTree := do
  let d ← pieces ((← restLength) + 1) {}
  match d.groups with
  | g :: _ => throw (.marked .groupUnclosed [g.opening])
  | [] => return d.inner.tree (← position)

end Reading

/-- The tree of the pattern that a text writes. -/
def PatternTree.ofText (t : Text) : Except PatternFlaw PatternTree := do
  let tree ← Reading.wholeTree.run' { rest := t }
  match tree.tooDeep? depthLimit with
  | some span => throw (.marked (.nestedTooDeep depthLimit) [span])
  | none => return tree

def Pattern.ofText (t : Text) : Except PatternFlaw Pattern := do
  let tree ← PatternTree.ofText t
  let (p, _) ← tree.meaning {}
  if p.isTooLarge then throw (.tooLarge sizeLimit)
  return p

end ClassTypings
