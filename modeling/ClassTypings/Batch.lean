import ClassTypings.CommandLine.Invocation
import ClassTypings.Session
/-!
# Batches

A batch converts every source file below a directory. Inputs come in the order of their paths. Two
inputs may have the same output; then the first claims it and the others are skipped.
-/
namespace ClassTypings

/-- Why a command cannot be carried out. -/
inductive Problem where
  | notDirectory (dir : Path)
  | noOutputDirectory (dir : Path) (cause : Fault)
  deriving DecidableEq, Repr

/-- The report of a problem, with its cause on a line of its own. -/
def Problem.report : Problem → Text
  | .notDirectory dir => "Error: Not a directory: ".toList ++ dir.text ++ "\n".toList
  | .noOutputDirectory dir cause =>
    "Error: Failed to create output directory: ".toList ++ dir.text ++
      "\n\nCaused by:\n    ".toList ++ cause.message ++ "\n".toList

/-- How many inputs of a batch came to which end. An input is skipped when an earlier one has its
output. -/
@[ext]
structure Summary where
  written : Nat := 0
  failed : Nat := 0
  skipped : Nat := 0
  deriving DecidableEq, Repr

/-- What a command leaves behind. Only a batch that no problem stops has a summary. -/
structure Outcome where
  workspace : Workspace
  stdout : Text := []
  log : List LogEntry := []
  summary : Option Summary := none
  problem : Option Problem := none

/-- The state of a batch between two inputs. -/
structure Batch where
  session : Session
  claimed : List Path := []
  summary : Summary := {}
  stdout : Text := []
  log : List LogEntry := []

namespace Batch

/-- Whether an earlier input has claimed an output. -/
def isClaimed (b : Batch) (output : Path) : Bool := b.claimed.any (·.same output)

def skipEntry (input output : Path) : LogEntry :=
  ⟨.warn, .command, "Skipping ".toList ++ input.text ++ ": ".toList ++ output.text ++
    " is already generated from another file".toList⟩

/-- The batch after an input whose output is claimed already. -/
def skip (b : Batch) (input output : Path) : Batch :=
  { b with
    summary := { b.summary with skipped := b.summary.skipped + 1 }
    log := b.log ++ [skipEntry input output] }

/-- The batch after an input whose output is free. -/
def convert (b : Batch) (config : Config) (input output : Path) : Batch :=
  let attempt := b.session.attempt config input output
  { session := attempt.session
    claimed := b.claimed ++ [output]
    summary := if attempt.failure.isNone then { b.summary with written := b.summary.written + 1 }
      else { b.summary with failed := b.summary.failed + 1 }
    stdout := b.stdout ++ attempt.status config output ++ ['\n']
    log := b.log ++ attempt.fullLog .command }

def turn (config : Config) (target : Path) (extension : Text) (b : Batch) (input : Path) : Batch :=
  let output := defaultOutput input target config.suffix extension
  if b.isClaimed output then b.skip input output else b.convert config input output

/-- The log entry about a directory whose entries cannot be listed. -/
def closedEntry (dir : Path) : LogEntry :=
  ⟨.warn, .command, "Skipping unreadable entry: IO error for operation on ".toList ++ dir.text ++
    ": ".toList ++ Fault.nameTooLong.message⟩

def openingEntry (inputs : List Path) (source : Path) : LogEntry :=
  ⟨.info, .command, "Converting ".toList ++ Text.ofNat inputs.length ++ " PHP files from ".toList ++
    source.text⟩

def closingEntry (b : Batch) (inputs : List Path) (target : Path) : LogEntry :=
  let ⟨written, failed, skipped⟩ := b.summary
  if failed + skipped > 0 then
    ⟨.warn, .command,
      Text.ofNat (failed + skipped) ++ " of ".toList ++ Text.ofNat inputs.length ++
      " declarations not written (".toList ++ Text.ofNat failed ++ " failed, ".toList ++
      Text.ofNat skipped ++ " skipped)".toList⟩
  else
    ⟨.info, .command, "Generated ".toList ++ Text.ofNat written ++ " declarations in ".toList ++
      target.text⟩

end Batch

namespace TreeJob

/-- The batch after all inputs have had their turns. -/
def convertAll (job : TreeJob) (config : Config) (w : Workspace) (inputs : List Path) : Batch :=
  inputs.foldl (Batch.turn config job.target job.extension) { session := ⟨w, .files, []⟩ }

def run (job : TreeJob) (env : Environment) (w : Workspace) : Outcome :=
  if !w.isDirectory job.source then
    { workspace := w, problem := some (.notDirectory job.source) }
  else
    match w.makeDirectories job.target with
    | (w, some cause) => { workspace := w, problem := some (.noOutputDirectory job.target cause) }
    | (w, none) =>
      let config := (Config.ofEnvironment env).override job.overrides
      let inputs := w.sources job.source
      let batch := job.convertAll config w inputs
      { workspace := batch.session.workspace
        stdout := batch.stdout
        log := (w.closedDirectories job.source).map Batch.closedEntry ++
          Batch.openingEntry inputs job.source :: batch.log ++
            [batch.closingEntry inputs job.target]
        summary := some batch.summary }

end TreeJob
end ClassTypings
