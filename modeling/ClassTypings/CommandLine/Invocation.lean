import ClassTypings.Path
import ClassTypings.Typings
/-!
# Invocations

What a command line asks for, and why it may ask for nothing that can be done. Each command knows
some of the options, and some of the options take a value.
-/
namespace ClassTypings

/-- The work of converting one file. -/
structure FileJob where
  input : Path
  output : Option Path := none
  overrides : Overrides := {}
  /-- Whether the declaration is printed and not written. -/
  print : Bool := false
  /-- Whether the interface is dumped as JSON. -/
  dump : Bool := false
  deriving DecidableEq, Repr

/-- The work of converting every source file below a directory. -/
structure TreeJob where
  source : Path
  target : Path := "./generated"
  overrides : Overrides := {}
  extension : Text := "ts".toList
  deriving DecidableEq, Repr

inductive Command where
  | convert (job : FileJob)
  | batch (job : TreeJob)
  deriving DecidableEq, Repr

/-- A command and how much is reported about it. -/
structure Invocation where
  verbose : Bool
  command : Command
  deriving DecidableEq, Repr

inductive UsageError where
  /-- A value is missing, or a path is empty. -/
  | invalidValue
  /-- A value that must be a text is none. -/
  | notUtf8
  /-- An option or an argument that is not expected. -/
  | unknownArgument
  /-- A word that is no command. -/
  | invalidSubcommand
  /-- Options, but no command. -/
  | missingSubcommand
  /-- A command without its path. -/
  | missingRequiredArgument
  /-- An option that is given twice. -/
  | argumentConflict
  /-- A value for an option that takes none. -/
  | tooManyValues
  /-- An empty command line. -/
  | nothingGiven
  deriving DecidableEq, Repr

/-- What a help text is about. -/
inductive HelpTopic where
  | program
  | convert
  | batch
  | help
  deriving DecidableEq, Repr

/-- Why a command line is not an invocation. -/
inductive Refusal where
  | usage (error : UsageError)
  | help (topic : HelpTopic)
  | version
  deriving DecidableEq, Repr

inductive Opt where
  | output
  | outputDir
  | suffix
  | banner
  | legacyCollection
  | toStdout
  | dumpParsed
  | extension
  | verbose
  | help
  | version
  deriving DecidableEq, Repr

namespace Opt

def long : Opt → Text
  | output => "output".toList
  | outputDir => "output-dir".toList
  | suffix => "suffix".toList
  | banner => "banner".toList
  | legacyCollection => "legacy-collection".toList
  | toStdout => "stdout".toList
  | dumpParsed => "dump-parsed".toList
  | extension => "extension".toList
  | verbose => "verbose".toList
  | help => "help".toList
  | version => "version".toList

/-- The short name of an option, if it has one. -/
def short? : Opt → Option Char
  | output => some 'o'
  | outputDir => some 'o'
  | suffix => some 's'
  | extension => some 'e'
  | verbose => some 'v'
  | help => some 'h'
  | version => some 'V'
  | _ => none

def takesValue : Opt → Bool
  | output | outputDir | suffix | banner | extension => true
  | _ => false

/-- The options of the program. -/
def ofProgram : List Opt := [verbose, help, version]

def ofConvert : List Opt :=
  [output, suffix, banner, verbose, legacyCollection, toStdout, dumpParsed, help]

def ofBatch : List Opt := [outputDir, suffix, banner, verbose, legacyCollection, extension, help]

def ofLong? (known : List Opt) (name : Bytes) : Option Opt := known.find? (·.long.bytes = name)

def ofShort? (known : List Opt) (name : UInt8) : Option Opt :=
  known.find? (·.short?.map Byte.ofChar = some name)

end Opt

/-- What an argument looks like. -/
inductive Shape where
  /-- Two dashes: what follows are no options. -/
  | divider
  /-- A long name, with or without a value. -/
  | long (name : Bytes) (value : Option Bytes)
  /-- Short names, perhaps with a value behind the last. -/
  | short (cluster : Bytes)
  /-- No option. A single dash is a word. -/
  | word (word : Bytes)
  deriving DecidableEq, Repr

/-- Bytes in two at their first equals sign. -/
def splitAtEquals (arg : Bytes) : Bytes × Option Bytes :=
  match arg.dropWhile (· != Byte.equals) with
  | [] => (arg, none)
  | _ :: value => (arg.takeWhile (· != Byte.equals), some value)

def Shape.ofArgument (arg : Bytes) : Shape :=
  match arg with
  | first :: second :: rest =>
    if first ≠ Byte.dash then .word arg
    else if second ≠ Byte.dash then .short (second :: rest)
    else if rest = [] then .divider
    else .long (splitAtEquals rest).1 (splitAtEquals rest).2
  | _ => .word arg

end ClassTypings
