import ClassTypings.CommandLine.Invocation
/-!
# Reading command lines

Arguments are read from left to right. A value that is an argument of its own waits: it is checked
only when the next option or path comes, or at the end. So a mistake that is seen at once, such as
an unknown option, is reported before a mistake in a waiting value.
-/
namespace ClassTypings

/-- What a value is for: an option, or the path of the command. -/
inductive Slot where
  | option (opt : Opt)
  | path
  deriving DecidableEq, Repr

namespace Slot

/-- Whether the value of the slot is a path, which must not be empty. Any other value must be a
text. -/
def isPath : Slot → Bool
  | .path => true
  | .option opt => opt == .output || opt == .outputDir

end Slot

/-- What has been read of a command: the slots that are filled, and the slot whose value waits. A
flag has the empty value. -/
structure Intake where
  filled : List (Slot × Bytes) := []
  waiting : Option (Slot × Option Bytes) := none
  deriving DecidableEq, Repr

namespace Intake

def value? (i : Intake) (slot : Slot) : Option Bytes := i.filled.lookup slot

def text? (i : Intake) (slot : Slot) : Option Text := (i.value? slot).bind Bytes.text?

def has (i : Intake) (slot : Slot) : Bool := (i.value? slot).isSome

def hasPath (i : Intake) : Bool := i.has .path || i.waiting.any (·.1 == .path)

def fill (i : Intake) (slot : Slot) (value : Bytes) : Except Refusal Intake :=
  if i.has slot then .error (.usage .argumentConflict)
  else if slot.isPath && value.isEmpty then .error (.usage .invalidValue)
  else if !slot.isPath && (Bytes.text? value).isNone then .error (.usage .notUtf8)
  else .ok { i with filled := i.filled ++ [(slot, value)] }

/-- The intake with its waiting value checked and put in its slot. -/
def settle (i : Intake) : Except Refusal Intake :=
  match i.waiting with
  | none => .ok i
  | some (_, none) => .error (.usage .invalidValue)
  | some (slot, some value) => { i with waiting := none }.fill slot value

/-- The intake after an option and a value that is part of its argument. -/
def attach (i : Intake) (opt : Opt) (value : Bytes) : Except Refusal Intake := do
  let i ← i.settle
  i.fill (.option opt) value

/-- The intake after an option whose value is yet to come. -/
def await (i : Intake) (opt : Opt) : Except Refusal Intake := do
  let i ← i.settle
  .ok { i with waiting := some (.option opt, none) }

/-- The intake after a flag. A flag that asks for a text ends the reading. -/
def flag (i : Intake) (topic : HelpTopic) (opt : Opt) : Except Refusal Intake := do
  let i ← i.settle
  if opt = .help then .error (.help topic)
  else if opt = .version then .error .version
  else i.fill (.option opt) []

def path (i : Intake) (value : Bytes) : Except Refusal Intake :=
  if i.hasPath then .error (.usage .unknownArgument)
  else do
    let i ← i.settle
    .ok { i with waiting := some (.path, some value) }

/-- The intake after a word: the value that is waited for, or the path. -/
def word (i : Intake) (value : Bytes) : Except Refusal Intake :=
  match i.waiting with
  | some (slot, none) => .ok { i with waiting := some (slot, some value) }
  | _ => i.path value

def long (i : Intake) (topic : HelpTopic) (known : List Opt) (name : Bytes) (value : Option Bytes) :
    Except Refusal Intake :=
  match Opt.ofLong? known name, value with
  | none, _ => .error (.usage .unknownArgument)
  | some opt, none => if opt.takesValue then i.await opt else i.flag topic opt
  | some opt, some value =>
    if opt.takesValue then i.attach opt value else .error (.usage .tooManyValues)

def short (topic : HelpTopic) (known : List Opt) : Intake → Bytes → Except Refusal Intake
  | i, [] => .ok i
  | i, name :: t =>
    match Opt.ofShort? known name with
    | none => .error (.usage .unknownArgument)
    | some opt =>
      if opt.takesValue then
        match t with
        | [] => i.await opt
        | mark :: value => i.attach opt (if mark = Byte.equals then value else mark :: value)
      else do
        let i ← i.flag topic opt
        short topic known i t

/-- The intake after all arguments of a command. Behind a divider every argument is a path. -/
def read (topic : HelpTopic) (known : List Opt) (divided : Bool) :
    Intake → List Bytes → Except Refusal Intake
  | i, [] => i.settle
  | i, arg :: args => do
    if divided then
      let i ← i.path arg
      read topic known true i args
    else
      match Shape.ofArgument arg with
      | .divider => read topic known true i args
      | .long name value =>
        let i ← i.long topic known name value
        read topic known false i args
      | .short cluster =>
        let i ← short topic known i cluster
        read topic known false i args
      | .word word =>
        let i ← i.word word
        read topic known false i args

/-- What is put in the place of the configuration. -/
def overrides (i : Intake) : Overrides where
  suffix := i.text? (.option .suffix)
  banner := i.text? (.option .banner)
  markEach := i.has (.option .legacyCollection)

def fileJob (i : Intake) : Except Refusal FileJob :=
  match i.value? .path with
  | none => .error (.usage .missingRequiredArgument)
  | some input => .ok {
      input := ⟨input⟩
      output := (i.value? (.option .output)).map Path.mk
      overrides := i.overrides
      print := i.has (.option .toStdout)
      dump := i.has (.option .dumpParsed) }

def treeJob (i : Intake) : Except Refusal TreeJob :=
  match i.value? .path with
  | none => .error (.usage .missingRequiredArgument)
  | some source => .ok {
      source := ⟨source⟩
      target := ((i.value? (.option .outputDir)).map Path.mk).getD "./generated"
      overrides := i.overrides
      extension := (i.text? (.option .extension)).getD "ts".toList }

end Intake

inductive CommandName where
  | convert
  | batch
  | help
  deriving DecidableEq, Repr

namespace CommandName

def ofWord? (word : Bytes) : Option CommandName :=
  if word = "convert" then some .convert
  else if word = "batch" then some .batch
  else if word = "help" then some .help
  else none

def topic : CommandName → HelpTopic
  | convert => .convert
  | batch => .batch
  | help => .help

end CommandName

namespace Invocation

/-- The topic that the words after the command for help ask for. -/
def helpTopic? : List Bytes → Option HelpTopic
  | [] => some .program
  | [word] => (CommandName.ofWord? word).map CommandName.topic
  | _ => none

def ofCommand (verbose : Bool) (args : List Bytes) : CommandName → Except Refusal Invocation
  | .convert => do
    let i ← Intake.read .convert Opt.ofConvert false {} args
    let job ← i.fileJob
    .ok ⟨verbose || i.has (.option .verbose), .convert job⟩
  | .batch => do
    let i ← Intake.read .batch Opt.ofBatch false {} args
    let job ← i.treeJob
    .ok ⟨verbose || i.has (.option .verbose), .batch job⟩
  | .help =>
    match helpTopic? args with
    | some topic => .error (.help topic)
    | none => .error (.usage .invalidSubcommand)

/-- The mistake in a command line that ends without a command. -/
def endError (i : Intake) : UsageError :=
  if i.filled.isEmpty then .nothingGiven else .missingSubcommand

/-- The mistake in the first argument behind a divider, which cannot name a command. -/
def dividedError (word : Bytes) : UsageError :=
  if (CommandName.ofWord? word).isSome then .unknownArgument else .invalidSubcommand

/-- The invocation that arguments ask for, after some options of the program. -/
def read : Intake → List Bytes → Except Refusal Invocation
  | i, [] => .error (.usage (endError i))
  | i, arg :: args => do
    match Shape.ofArgument arg with
    | .divider => .error (.usage ((args.head?.map dividedError).getD (endError i)))
    | .long name value =>
      let i ← i.long .program Opt.ofProgram name value
      read i args
    | .short cluster =>
      let i ← Intake.short .program Opt.ofProgram i cluster
      read i args
    | .word word =>
      match CommandName.ofWord? word with
      | some name => ofCommand (i.has (.option .verbose)) args name
      | none => .error (.usage .invalidSubcommand)

/-- The invocation that a command line asks for. -/
def ofArguments (args : List Bytes) : Except Refusal Invocation := read {} args

end Invocation
end ClassTypings
