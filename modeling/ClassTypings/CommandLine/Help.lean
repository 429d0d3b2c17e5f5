import ClassTypings.CommandLine.Invocation
import ClassTypings.Text.Terminal
/-!
# Help texts

What is printed about the program and about each of its commands.
-/
namespace ClassTypings

def programVersion : Text := "0.1.0".toList

def versionText : Text := "php2ts ".toList ++ programVersion ++ ['\n']

/-- Something that a help text explains, and the explanation. -/
structure HelpEntry where
  label : StyledLine
  meaning : String

namespace HelpEntry

def command (name meaning : String) : HelpEntry := ⟨[(.strong, name.toList)], meaning⟩

def argument (value meaning : String) : HelpEntry := ⟨StyledLine.ofString value, meaning⟩

/-- An entry about an option with a long name and, maybe, a letter and a value. -/
def option (letter : Option Char) (name value meaning : String) : HelpEntry :=
  let short : StyledLine :=
    match letter with
    | some c => [(.strong, ['-', c]), (.usual, ", ".toList)]
    | none => [(.usual, "    ".toList)]
  let suffix := if value.isEmpty then [] else ' ' :: value.toList
  ⟨short ++ [(.strong, "--".toList ++ name.toList), (.usual, suffix)], meaning⟩

def help : HelpEntry := option 'h' "help" "" "Print help"

def verbose : HelpEntry := option 'v' "verbose" "" "Enable verbose output"

def suffix : HelpEntry :=
  option 's' "suffix" "<SUFFIX>" "Suffix appended to the interface name and every extended name"

def banner : HelpEntry :=
  option none "banner" "<BANNER>" "Tool identity written into the generated header comment"

def legacyCollection : HelpEntry :=
  option none "legacy-collection" ""
    "Emit `collection: any;` once per declared property (legacy output)"

/-- The lines of entries. The explanations are aligned behind the longest label. -/
def lines (entries : List HelpEntry) : List StyledLine :=
  let width := (entries.map (·.label.plain.length)).foldl max 0
  entries.map fun e =>
    let gap := List.replicate (width + 2 - e.label.plain.length) ' '
    (.usual, "  ".toList) :: e.label ++ [(.usual, gap ++ e.meaning.toList)]

end HelpEntry

/-- A help text: what something is, how it is called, and entries under headings. -/
structure HelpPage where
  about : String
  caller : String
  arguments : String
  sections : List (String × List HelpEntry)

namespace HelpPage

def lines (page : HelpPage) : List StyledLine :=
  let usage : StyledLine :=
    [(.heading, "Usage:".toList), (.usual, [' ']), (.strong, page.caller.toList),
      (.usual, ' ' :: page.arguments.toList)]
  StyledLine.ofString page.about :: [] :: usage :: page.sections.flatMap fun (heading, entries) =>
    [] :: [(.heading, heading.toList)] :: HelpEntry.lines entries

def render (styled : Bool) (page : HelpPage) : Text :=
  page.lines.flatMap fun line => line.render styled ++ ['\n']

end HelpPage

namespace HelpTopic

def programPage : HelpPage where
  about := "Generate TypeScript interface declarations from PHP classes"
  caller := "php2ts"
  arguments := "[OPTIONS] <COMMAND>"
  sections := [
    ("Commands:", [
      .command "convert" "Convert a single PHP class file",
      .command "batch" "Convert every PHP file under a directory",
      .command "help" "Print this message or the help of the given subcommand(s)"]),
    ("Options:", [.verbose, .help, .option 'V' "version" "" "Print version"])]

def convertPage : HelpPage where
  about := "Convert a single PHP class file"
  caller := "php2ts convert"
  arguments := "[OPTIONS] <FILE>"
  sections := [
    ("Arguments:", [.argument "<FILE>" "Input PHP file containing one class"]),
    ("Options:", [
      .option 'o' "output" "<OUTPUT>"
        "Output file (default: <FILE stem><suffix>.ts next to the input)",
      .suffix, .banner, .verbose, .legacyCollection,
      .option none "stdout" "" "Print the declaration instead of writing it",
      .option none "dump-parsed" "" "Print the parsed class as JSON for debugging",
      .help])]

def batchPage : HelpPage where
  about := "Convert every PHP file under a directory"
  caller := "php2ts batch"
  arguments := "[OPTIONS] <DIR>"
  sections := [
    ("Arguments:", [.argument "<DIR>" "Directory to scan recursively for .php files"]),
    ("Options:", [
      .option 'o' "output-dir" "<OUTPUT_DIR>"
        "Directory receiving the generated declarations [default: ./generated]",
      .suffix, .banner, .verbose, .legacyCollection,
      .option 'e' "extension" "<EXTENSION>" "Extension of the generated files [default: ts]",
      .help])]

def helpPage : HelpPage where
  about := "Print this message or the help of the given subcommand(s)"
  caller := "php2ts help"
  arguments := "[COMMAND]..."
  sections := [
    ("Arguments:",
      [.argument "[COMMAND]..." "Print help for the subcommand(s)"])]

def page : HelpTopic → HelpPage
  | .program => programPage
  | .convert => convertPage
  | .batch => batchPage
  | .help => helpPage

def text (topic : HelpTopic) : Text := topic.page.render false

end HelpTopic

namespace UsageError

def message : UsageError → Text
  | .invalidValue => "a value is missing or empty".toList
  | .notUtf8 => "an argument is not valid UTF-8".toList
  | .unknownArgument => "unexpected argument found".toList
  | .invalidSubcommand => "unrecognized subcommand".toList
  | .missingSubcommand => "a subcommand is required but was not given".toList
  | .missingRequiredArgument => "a required argument was not given".toList
  | .argumentConflict => "an option cannot be used more than once".toList
  | .tooManyValues => "a flag does not take a value".toList
  | .nothingGiven => "a subcommand is required but nothing was given".toList

def report (e : UsageError) : Text :=
  "error: ".toList ++ e.message ++ "\n\nFor more information, try '--help'.\n".toList

end UsageError
end ClassTypings
