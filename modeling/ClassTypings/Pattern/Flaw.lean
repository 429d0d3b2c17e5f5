import ClassTypings.Text.Basic
/-!
# Flaws of patterns

Why a text is not the text of a pattern, and where.
-/
namespace ClassTypings

/-- Why a text is not the text of a pattern. -/
inductive FlawKind where
  | bytesInvalid
  | classEscapeInvalid
  | classRangeInvalid
  | classRangeLiteral
  | classUnclosed
  | decimalInvalid
  | escapeHexEmpty
  | escapeHexInvalid
  | escapeHexInvalidDigit
  | escapeUnexpectedEnd
  | escapeUnrecognized
  | flagDanglingNegation
  | flagDuplicate
  | flagRepeatedNegation
  | flagUnexpectedEnd
  | flagUnrecognized
  | groupNameDuplicate
  | groupNameEmpty
  | groupNameInvalid
  | groupNameUnexpectedEnd
  | groupUnclosed
  | groupUnopened
  | nestedTooDeep (limit : Nat)
  | propertyInvalid
  | propertyUnknown
  | propertyValueUnknown
  | repetitionCountEmpty
  | repetitionCountInvalid
  | repetitionCountUnclosed
  | repetitionMissing
  | unicodeNotAllowed
  | unsupportedBackreference
  | unsupportedLookAround
  | wordEdgeOrCountUnclosed
  | wordEdgeUnclosed
  | wordEdgeUnrecognized
  deriving DecidableEq, Repr

/-- A sentence about the flaw. -/
def FlawKind.message : FlawKind → Text
  | .bytesInvalid => "pattern can match invalid UTF-8".toList
  | .classEscapeInvalid => "invalid escape sequence found in character class".toList
  | .classRangeInvalid =>
    "invalid character class range, the start must be <= the end".toList
  | .classRangeLiteral => "invalid range boundary, must be a literal".toList
  | .classUnclosed => "unclosed character class".toList
  | .decimalInvalid => "decimal literal invalid".toList
  | .escapeHexEmpty => "hexadecimal literal empty".toList
  | .escapeHexInvalid => "hexadecimal literal is not a Unicode scalar value".toList
  | .escapeHexInvalidDigit => "invalid hexadecimal digit".toList
  | .escapeUnexpectedEnd =>
    "incomplete escape sequence, reached end of pattern prematurely".toList
  | .escapeUnrecognized => "unrecognized escape sequence".toList
  | .flagDanglingNegation => "dangling flag negation operator".toList
  | .flagDuplicate => "duplicate flag".toList
  | .flagRepeatedNegation => "flag negation operator repeated".toList
  | .flagUnexpectedEnd => "expected flag but got end of regex".toList
  | .flagUnrecognized => "unrecognized flag".toList
  | .groupNameDuplicate => "duplicate capture group name".toList
  | .groupNameEmpty => "empty capture group name".toList
  | .groupNameInvalid => "invalid capture group character".toList
  | .groupNameUnexpectedEnd => "unclosed capture group name".toList
  | .groupUnclosed => "unclosed group".toList
  | .groupUnopened => "unopened group".toList
  | .nestedTooDeep limit =>
    "exceed the maximum number of nested parentheses/brackets (".toList ++ Text.ofNat limit ++ [')']
  | .propertyInvalid => "invalid Unicode character class".toList
  | .propertyUnknown => "Unicode property not found".toList
  | .propertyValueUnknown => "Unicode property value not found".toList
  | .repetitionCountEmpty => "repetition quantifier expects a valid decimal".toList
  | .repetitionCountInvalid =>
    "invalid repetition count range, the start must be <= the end".toList
  | .repetitionCountUnclosed => "unclosed counted repetition".toList
  | .repetitionMissing => "repetition operator missing expression".toList
  | .unicodeNotAllowed => "Unicode not allowed here".toList
  | .unsupportedBackreference => "backreferences are not supported".toList
  | .unsupportedLookAround =>
    "look-around, including look-ahead and look-behind, is not supported".toList
  | .wordEdgeOrCountUnclosed =>
    ("found either the beginning of a special word boundary or a bounded repetition on a \\b " ++
      "with an opening brace, but no closing brace").toList
  | .wordEdgeUnclosed =>
    ("special word boundary assertion is either unclosed or contains an invalid " ++
      "character").toList
  | .wordEdgeUnrecognized =>
    ("unrecognized special word boundary assertion, valid choices are: start, end, start-half " ++
      "or end-half").toList

/-- A position in a text, both numbers counting from one. -/
structure Position where
  line : Nat := 1
  column : Nat := 1
  deriving DecidableEq, Repr

def Position.next (x : Position) (c : Char) : Position :=
  if c = '\n' then ⟨x.line + 1, 1⟩ else { x with column := x.column + 1 }

/-- A part of a text, from a position to the one behind its end. -/
structure Span where
  start : Position
  stop : Position
  deriving DecidableEq, Repr

inductive PatternFlaw where
  /-- A flaw with the parts that show it, which come in their order in the text. -/
  | marked (kind : FlawKind) (parts : List Span)
  /-- The pattern takes more than a number of bytes. -/
  | tooLarge (limit : Nat)
  deriving DecidableEq, Repr

namespace PatternFlaw

/-- The lines of a text, without their ends. -/
def lines (source : Text) : List Text :=
  let ended (line : Text) := if line.getLast? = some '\r' then line.dropLast else line
  match (source.splitOn '\n').reverse with
  | [] => []
  | last :: earlier => (earlier.reverse.map ended) ++ if last.isEmpty then [] else [last]

/-- Carets below the parts of a line, from a column on. An empty part is marked by one caret. -/
def carets : Nat → List Span → Text
  | _, [] => []
  | column, s :: rest =>
    let width := max 1 (s.stop.column - s.start.column)
    List.replicate (s.start.column - column) ' ' ++ List.replicate width '^' ++
      carets (max column s.start.column + width) rest

/-- A line with its number, which takes up a given width, and with the carets below it. Without a
width there is no number. -/
def notedLine (width : Nat) (parts : List Span) (line : Text × Nat) : Text :=
  let number := Text.ofNat line.2
  let label := if width = 0 then "    ".toList else
    List.replicate (width - number.length) ' ' ++ number ++ ": ".toList
  let here := parts.filter (·.start.line = line.2)
  let notes := if here.isEmpty then [] else
    List.replicate label.length ' ' ++ carets 1 here ++ ['\n']
  label ++ line.1 ++ '\n' :: notes

/-- A note about a part that takes several lines. -/
def longNote (s : Span) : Text :=
  "on line ".toList ++ Text.ofNat s.start.line ++ " (column ".toList ++
    Text.ofNat s.start.column ++ ") through line ".toList ++ Text.ofNat s.stop.line ++
    " (column ".toList ++ Text.ofNat (s.stop.column - 1) ++ ")\n".toList

/-- The report of a flaw: the text of the pattern, its marked parts and a sentence. -/
def report (f : PatternFlaw) (source : Text) : Text :=
  match f with
  | .tooLarge limit =>
    "Compiled regex exceeds size limit of ".toList ++ Text.ofNat limit ++ " bytes.".toList
  | .marked kind parts =>
    let shown := lines source
    let count := if source.getLast? = some '\n' then shown.length + 1 else shown.length
    let width := if count ≤ 1 then 0 else (Text.ofNat count).length
    let (short, long) := parts.partition fun s => s.start.line = s.stop.line
    let noted := (shown.zipIdx 1).flatMap (notedLine width short)
    let rule := if width = 0 then [] else List.replicate 79 '~' ++ ['\n']
    "regex parse error:\n".toList ++ rule ++ noted ++ rule ++ long.flatMap longNote ++
      "error: ".toList ++ kind.message

end PatternFlaw
end ClassTypings
