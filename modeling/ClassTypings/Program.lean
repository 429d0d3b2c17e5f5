import ClassTypings.Batch
import ClassTypings.CommandLine.Help
import ClassTypings.CommandLine.Reader
import ClassTypings.Interface
import ClassTypings.Log.Filter
/-!
# The program

A run of the program takes a command line, an environment and a workspace. It answers what is
printed, what is reported and the workspace that it leaves.
-/
namespace ClassTypings

namespace FileJob

/-- The output of the job: the one it names, or a file beside the input. -/
def outputPath (job : FileJob) (config : Config) : Path :=
  job.output.getD
    (defaultOutput job.input (job.input.parent?.getD ".") config.suffix "ts".toList)

def openingEntry (input output : Path) : LogEntry :=
  ⟨.info, .command, "Converting ".toList ++ input.text ++ " -> ".toList ++ output.text⟩

/-- The part of the job that only prints: the dump and the declaration. -/
def preview (job : FileJob) (config : Config) (w : Workspace) : Outcome :=
  let session : Session := ⟨w, .files, []⟩
  let source := session.textOf job.input
  let dump := if job.dump then (interfaceOf config source).toJson ++ ['\n'] else []
  let dumpLog := if job.dump then outlineLog config source else []
  let declaration := if job.print then declarationOf config source else []
  let declarationLog := if job.print then outlineLog config source else []
  { workspace := w
    stdout := dump ++ declaration
    log := session.inputLog job.input ++ dumpLog ++ declarationLog }

def convert (job : FileJob) (config : Config) (w : Workspace) : Outcome :=
  let output := job.outputPath config
  let attempt := Session.attempt ⟨w, .files, []⟩ config job.input output
  { workspace := attempt.session.workspace
    stdout := attempt.status config output ++ ['\n']
    log := openingEntry job.input output :: attempt.fullLog .conversion }

/-- Whether the job prints something other than its status. -/
def previews (job : FileJob) : Bool := job.dump || job.print

def writes (job : FileJob) : Bool := !job.print && (!job.dump || job.output.isSome)

def run (job : FileJob) (env : Environment) (w : Workspace) : Outcome :=
  let config := (Config.ofEnvironment env).override job.overrides
  let printed := if job.previews then job.preview config w else { workspace := w }
  if job.writes then
    let written := job.convert config w
    { written with stdout := printed.stdout ++ written.stdout, log := printed.log ++ written.log }
  else printed

end FileJob

def Command.run (command : Command) (env : Environment) (w : Workspace) : Outcome :=
  match command with
  | .convert job => job.run env w
  | .batch job => job.run env w

/-- What a run of the program leaves behind. The log holds the entries that are shown. -/
structure RunResult where
  status : Nat
  workspace : Workspace
  stdout : Text := []
  warnings : List FilterFlaw := []
  log : List LogEntry := []
  styledLog : Bool := false
  problem : Option Problem := none
  mistake : Option UsageError := none

namespace RunResult

def report (r : RunResult) : Text :=
  (r.problem.map Problem.report).getD [] ++ (r.mistake.map UsageError.report).getD []

/-- All that is reported: warnings about the log filter, the log and what stopped the run. -/
def stderr (r : RunResult) : Text :=
  r.warnings.flatMap FilterFlaw.warning ++ r.log.flatMap (LogEntry.render r.styledLog) ++ r.report

end RunResult

namespace Program

/-- The variable that sets how much of the log is shown. -/
def filterVariable : Text := "RUST_LOG".toList

/-- How much of the log is shown. The rules of the variable win over the option. -/
def logFilter (env : Environment) (verbose : Bool) : LogFilter :=
  let usual : LogFilter := { rules := [{ verbosity := some (if verbose then .debug else .info) }] }
  match env filterVariable with
  | some source => usual.read source
  | none => usual

def styleVariable : Text := "RUST_LOG_STYLE".toList

/-- The variable that asks for no styles. -/
def noStyleVariable : Text := "NO_COLOR".toList

/-- The variable that asks for styles where there is no terminal. -/
def forcedStyleVariable : Text := "CLICOLOR_FORCE".toList

/-- Whether output is styled. A run is not expected to write to a terminal. -/
def isStyled (env : Environment) : Bool :=
  let asked (name : Text) := (env name).any (!·.isEmpty)
  !asked noStyleVariable && asked forcedStyleVariable

def isLogStyled (env : Environment) : Bool :=
  let choice := env styleVariable
  if choice = some "always".toList then true
  else if choice = some "never".toList then false
  else isStyled env

def variableNames : List Text :=
  [Environment.suffixVariable, Environment.bannerVariable, Environment.marksVariable,
    filterVariable, styleVariable, noStyleVariable, forcedStyleVariable]

/-- The log entry with which each run begins. -/
def versionEntry : LogEntry := ⟨.debug, .command, "php2ts v".toList ++ programVersion⟩

def refuse (env : Environment) (w : Workspace) : Refusal → RunResult
  | .usage mistake => { status := 2, workspace := w, mistake := some mistake }
  | .help topic => { status := 0, workspace := w, stdout := topic.page.render (isStyled env) }
  | .version => { status := 0, workspace := w, stdout := versionText }

def run (args : List Bytes) (env : Environment) (w : Workspace) : RunResult :=
  match Invocation.ofArguments args with
  | .error refusal => refuse env w refusal
  | .ok invocation =>
    let outcome := invocation.command.run env w
    let filter := logFilter env invocation.verbose
    { status := if outcome.problem.isSome then 1 else 0
      workspace := outcome.workspace
      stdout := outcome.stdout
      warnings := filter.flaws
      log := (versionEntry :: outcome.log).filter filter.shows
      styledLog := isLogStyled env
      problem := outcome.problem }

end Program
end ClassTypings
