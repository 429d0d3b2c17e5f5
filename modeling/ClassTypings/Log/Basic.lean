import ClassTypings.Text.Terminal
/-!
# Log entries

What a run reports about itself: a message, its level and the part of the program that it is from.
-/
namespace ClassTypings

/-- The weight of a log entry. -/
inductive Level where
  | error
  | warn
  | info
  | debug
  | trace
  deriving DecidableEq, Repr

namespace Level

def all : List Level := [.error, .warn, .info, .debug, .trace]

/-- The place of a level in the order of detail. -/
def detail : Level → Nat
  | .error => 1
  | .warn => 2
  | .info => 3
  | .debug => 4
  | .trace => 5

def name : Level → Text
  | .error => "ERROR".toList
  | .warn => "WARN".toList
  | .info => "INFO".toList
  | .debug => "DEBUG".toList
  | .trace => "TRACE".toList

def style : Level → Style
  | .error => ⟨[1, 31]⟩
  | .warn => ⟨[33]⟩
  | .info => ⟨[32]⟩
  | .debug => ⟨[34]⟩
  | .trace => ⟨[36]⟩

end Level

/-- The part of the program that a log entry is from. -/
inductive Topic where
  /-- Carrying out a command. -/
  | command
  /-- Converting a file. -/
  | conversion
  /-- Reading the outline of a source text. -/
  | outline
  /-- Choosing the members of an interface. -/
  | members
  deriving DecidableEq, Repr

/-- The name of a topic. A topic within another one has a longer name. -/
def Topic.name : Topic → Text
  | .command => "php2ts::cli::commands".toList
  | .conversion => "php2ts::transpiler".toList
  | .outline => "php2ts::transpiler::extractor".toList
  | .members => "php2ts::transpiler::codegen".toList

/-- A log entry. Its message may have several lines. -/
structure LogEntry where
  level : Level
  topic : Topic
  message : Text
  deriving DecidableEq, Repr

namespace LogEntry

/-- The message with the lines behind its first indented. -/
def indented (entry : LogEntry) : Text :=
  "\n    ".toList.intercalate (entry.message.splitOn '\n')

/-- The head of the entry: its level and its topic in brackets. -/
def head (entry : LogEntry) : StyledLine :=
  let padding := List.replicate (5 - entry.level.name.length) ' '
  [(.faint, ['[']), (entry.level.style, entry.level.name ++ padding),
    (.usual, ' ' :: entry.topic.name), (.faint, [']'])]

/-- The entry in full: its head and its message. -/
def record (styled : Bool) (entry : LogEntry) : Text :=
  entry.head.render styled ++ ' ' :: entry.indented ++ ['\n']

/-- The entry as the error stream shows it. Where styles are not wanted no control sequence is left,
in the message neither. -/
def render (styled : Bool) (entry : LogEntry) : Text :=
  if styled then entry.record true else Text.plain (entry.record false)

end LogEntry
end ClassTypings
