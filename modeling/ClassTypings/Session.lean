import ClassTypings.FileTree.Workspace
import ClassTypings.Path
import ClassTypings.Typings
/-!
# Sessions

A session converts files of a workspace one after another. An input that cannot be read counts as
an empty text; only a declaration that cannot be written is a failure. Of the requests to a session
only a conversion changes it, and only when its declaration is written.
-/
namespace ClassTypings

/-- Where declarations go. -/
inductive Destination where
  /-- To the files of the workspace. -/
  | files
  /-- Into memory, unless the path is refused. -/
  | memory (refusal : Path → Option Fault)

/-- The state of a session: its workspace and the writes that its destination has accepted. -/
structure Session where
  workspace : Workspace
  destination : Destination := .files
  accepted : List (Path × Text) := []

/-- What an attempt to convert leaves behind: the session, the failure and the log. -/
structure Attempt where
  session : Session
  failure : Option Failure
  log : List LogEntry

namespace Session

def write (s : Session) (p : Path) (text : Text) : Except Fault Session :=
  match s.destination with
  | .files =>
    match s.workspace.write p text with
    | .error fault => .error fault
    | .ok workspace => .ok { s with workspace, accepted := s.accepted ++ [(p, text)] }
  | .memory refusal =>
    match refusal p with
    | some fault => .error fault
    | none => .ok { s with accepted := s.accepted ++ [(p, text)] }

/-- The text of an input. An input that cannot be read is empty. -/
def textOf (s : Session) (input : Path) : Text :=
  match s.workspace.read input with
  | .ok text => text
  | .error _ => []

def inputLog (s : Session) (input : Path) : List LogEntry :=
  match s.workspace.read input with
  | .ok _ => []
  | .error fault =>
    [⟨.warn, .conversion, "Could not read '".toList ++ input.text ++ "': ".toList ++ fault.message⟩]

/-- The log entry about a declaration that is to be written. -/
def outputEntry (declaration : Text) (output : Path) : LogEntry :=
  ⟨.debug, .conversion,
    "Writing ".toList ++ Text.ofNat (Text.utf8Size declaration) ++ " bytes to ".toList ++ output.text⟩

/-- The declaration for an input that must be readable. -/
def declarationFor (s : Session) (config : Config) (input : Path) : Except Failure Text :=
  match s.workspace.read input with
  | .ok text => .ok (declarationOf config text)
  | .error fault => .error (.unreadable input fault)

/-- Converts an input and writes its declaration. -/
def attempt (s : Session) (config : Config) (input output : Path) : Attempt :=
  let source := s.textOf input
  let declaration := declarationOf config source
  let log := s.inputLog input ++ outlineLog config source ++ [outputEntry declaration output]
  match s.write output declaration with
  | .ok session => ⟨session, none, log⟩
  | .error fault => ⟨s, some (.unwritable output fault), log⟩

end Session

namespace Attempt

def status (a : Attempt) (config : Config) (output : Path) : Text :=
  match a.failure with
  | none => writtenLine output config.suffix
  | some _ => unwrittenLine output

/-- The log with the failure at its end, if there is one. The topic is the part of the program that
reports the failure. -/
def fullLog (a : Attempt) (topic : Topic) : List LogEntry :=
  a.log ++ a.failure.toList.map fun failure => ⟨.error, topic, failure.message⟩

end Attempt

/-- What a session can be asked for. -/
inductive Request where
  /-- To convert an input and report it in a line. -/
  | convert (input output : Path)
  /-- To convert an input and report the failure. -/
  | attempt (input output : Path)
  /-- The text of an input. -/
  | text (input : Path)
  /-- The declaration for an input. -/
  | declarationFor (input : Path)
  /-- The declaration for a text. -/
  | declaration (source : Text)
  /-- The interface for a text. -/
  | interface (source : Text)

/-- The answer of a session. -/
inductive Reply where
  | status (line : Text)
  | done
  | failed (failure : Failure)
  | text (text : Text)
  | declaration (text : Text)
  | interface (i : Interface)

namespace Session

/-- The session after a request, and the answer. -/
def serve (s : Session) (config : Config) : Request → Session × Reply
  | .convert input output =>
    let attempt := s.attempt config input output
    (attempt.session, .status (attempt.status config output))
  | .attempt input output =>
    let attempt := s.attempt config input output
    (attempt.session, (attempt.failure.map Reply.failed).getD .done)
  | .text input => (s, .text (s.textOf input))
  | .declarationFor input =>
    match s.declarationFor config input with
    | .ok text => (s, .declaration text)
    | .error failure => (s, .failed failure)
  | .declaration source => (s, .declaration (declarationOf config source))
  | .interface source => (s, .interface (interfaceOf config source))

end Session
end ClassTypings
