import ClassTypings.Proofs.WrittenOptions
/-!
# Written commands

An invocation as a command line: the name of its command, its options in any order, each in one
argument, and its path behind a divider. Main statement: such a command line is read as the
invocation that it was written for, whatever the values are.
-/
namespace ClassTypings

open OptionArg (optional flagIf)

def Overrides.options (o : Overrides) : List OptionArg :=
  optional .suffix (o.suffix.map Text.bytes) ++ optional .banner (o.banner.map Text.bytes) ++
    flagIf .legacyCollection o.markEach

def FileJob.options (job : FileJob) : List OptionArg :=
  optional .output (job.output.map Path.bytes) ++ job.overrides.options ++
    flagIf .toStdout job.print ++ flagIf .dumpParsed job.dump

/-- The options for the work on a directory, with what is written for its target and extension. -/
def TreeJob.options (job : TreeJob) (target : Option Path) (extension : Option Text) :
    List OptionArg :=
  optional .outputDir (target.map Path.bytes) ++ job.overrides.options ++
    optional .extension (extension.map Text.bytes)

/-- What may be written for a value that has a default: the value, or nothing for the default. -/
def WrittenFor {α : Type} (value default : α) (written : Option α) : Prop :=
  written = some value ∨ written = none ∧ value = default

/-- The arguments of a command, from its name on. -/
def commandArguments (name : Bytes) (options : List OptionArg) (path : Path) : List Bytes :=
  name :: (options.map OptionArg.argument ++ [("--" : Bytes), path.bytes])

/-- The arguments write the invocation. The options stand in any order, and the flag for more
reports stands before the command, among the options, or in both places. -/
inductive Invocation.Written : Invocation → List Bytes → Prop
  | convert {job : FileJob} {options : List OptionArg} {early late : Bool}
      (horder : options.Perm (job.options ++ flagIf .verbose late)) :
      Written ⟨early || late, .convert job⟩
        ((flagIf .verbose early).map OptionArg.argument ++
          commandArguments "convert" options job.input)
  | batch {job : TreeJob} {options : List OptionArg} {early late : Bool}
      {target : Option Path} {extension : Option Text}
      (htarget : WrittenFor job.target "./generated" target)
      (hextension : WrittenFor job.extension "ts".toList extension)
      (horder : options.Perm (job.options target extension ++ flagIf .verbose late)) :
      Written ⟨early || late, .batch job⟩
        ((flagIf .verbose early).map OptionArg.argument ++
          commandArguments "batch" options job.source)

/-- No path of the command is empty. -/
def Command.HasPaths : Command → Prop
  | .convert job => job.input.bytes ≠ [] ∧ ∀ output ∈ job.output, output.bytes ≠ []
  | .batch job => job.source.bytes ≠ [] ∧ job.target.bytes ≠ []

instance : DecidablePred Command.HasPaths
  | .convert job =>
    inferInstanceAs (Decidable (job.input.bytes ≠ [] ∧ ∀ output ∈ job.output, output.bytes ≠ []))
  | .batch job => inferInstanceAs (Decidable (job.source.bytes ≠ [] ∧ job.target.bytes ≠ []))

section jobs

theorem WrittenFor.getD {α : Type} {value default : α} {written : Option α}
    (h : WrittenFor value default written) : written.getD default = value := by
  obtain rfl | ⟨rfl, rfl⟩ := h <;> rfl

private theorem map_mk_bytes (path : Option Path) : path.map (Path.mk ∘ Path.bytes) = path :=
  congrFun Option.map_id path

private theorem any_isEmpty_bytes (path : Option Path) :
    (path.map Path.bytes).any List.isEmpty = false ↔ ∀ p ∈ path, p.bytes ≠ [] := by
  cases path <;> simp

namespace FileJob

variable (job : FileJob) (late : Bool)

private theorem fits_options : ∀ o ∈ job.options ++ flagIf .verbose late, o.Fits Opt.ofConvert := by
  simp only [options, Overrides.options, List.forall_mem_append, and_assoc]
  refine ⟨OptionArg.fits_optional (by decide) rfl (.inl rfl),
    OptionArg.fits_optionalText (by decide) rfl, OptionArg.fits_optionalText (by decide) rfl,
    ?_, ?_, ?_, ?_⟩
  all_goals exact OptionArg.fits_flagIf (by decide) rfl nofun nofun

private theorem nodup_options :
    ((job.options ++ flagIf .verbose late).map OptionArg.opt).Nodup := by
  have hsublist : ((job.options ++ flagIf .verbose late).map OptionArg.opt).Sublist
      [.output, .suffix, .banner, .legacyCollection, .toStdout, .dumpParsed, .verbose] := by
    simp only [options, Overrides.options, List.map_append, List.append_assoc]
    exact (OptionArg.opts_optional ..).append <| (OptionArg.opts_optional ..).append <|
      (OptionArg.opts_optional ..).append <| (OptionArg.opts_flagIf ..).append <|
      (OptionArg.opts_flagIf ..).append <| (OptionArg.opts_flagIf ..).append <|
      OptionArg.opts_flagIf ..
  exact hsublist.nodup (by decide)

private theorem fileJob_options :
    (Intake.ofWritten (job.options ++ flagIf .verbose late) job.input.bytes).fileJob = .ok job := by
  simp [Intake.fileJob, Intake.overrides, Intake.text?, Intake.has, options, Overrides.options,
    List.lookup_append, map_mk_bytes]

private theorem has_verbose_options :
    (Intake.ofWritten (job.options ++ flagIf .verbose late) job.input.bytes).has
      (.option .verbose) = late := by
  simp [Intake.has, options, Overrides.options, List.lookup_append]

private theorem lacksPath_options :
    ((job.options ++ flagIf .verbose late).any OptionArg.lacksPath ||
      job.input.bytes.isEmpty) = false ↔ (Command.convert job).HasPaths := by
  simp [options, Overrides.options, Slot.isPath, Command.HasPaths, any_isEmpty_bytes,
    and_comm]

end FileJob

namespace TreeJob

variable {job : TreeJob} {target : Option Path} {extension : Option Text} (late : Bool)

private theorem fits_options :
    ∀ o ∈ job.options target extension ++ flagIf .verbose late, o.Fits Opt.ofBatch := by
  simp only [options, Overrides.options, List.forall_mem_append, and_assoc]
  refine ⟨OptionArg.fits_optional (by decide) rfl (.inl rfl),
    OptionArg.fits_optionalText (by decide) rfl, OptionArg.fits_optionalText (by decide) rfl,
    OptionArg.fits_flagIf (by decide) rfl nofun nofun,
    OptionArg.fits_optionalText (by decide) rfl, OptionArg.fits_flagIf (by decide) rfl nofun nofun⟩

private theorem nodup_options :
    ((job.options target extension ++ flagIf .verbose late).map OptionArg.opt).Nodup := by
  have hsublist : ((job.options target extension ++ flagIf .verbose late).map OptionArg.opt).Sublist
      [.outputDir, .suffix, .banner, .legacyCollection, .extension, .verbose] := by
    simp only [options, Overrides.options, List.map_append, List.append_assoc]
    exact (OptionArg.opts_optional ..).append <| (OptionArg.opts_optional ..).append <|
      (OptionArg.opts_optional ..).append <| (OptionArg.opts_flagIf ..).append <|
      (OptionArg.opts_optional ..).append <| OptionArg.opts_flagIf ..
  exact hsublist.nodup (by decide)

private theorem treeJob_options (htarget : WrittenFor job.target "./generated" target)
    (hextension : WrittenFor job.extension "ts".toList extension) :
    (Intake.ofWritten (job.options target extension ++ flagIf .verbose late)
      job.source.bytes).treeJob = .ok job := by
  simp [Intake.treeJob, Intake.overrides, Intake.text?, Intake.has, options, Overrides.options,
    List.lookup_append, map_mk_bytes, htarget.getD, hextension.getD, -String.reduceToList]

private theorem has_verbose_options :
    (Intake.ofWritten (job.options target extension ++ flagIf .verbose late) job.source.bytes).has
      (.option .verbose) = late := by
  simp [Intake.has, options, Overrides.options, List.lookup_append]

private theorem lacksPath_options (htarget : WrittenFor job.target "./generated" target) :
    ((job.options target extension ++ flagIf .verbose late).any OptionArg.lacksPath ||
      job.source.bytes.isEmpty) = false ↔ (Command.batch job).HasPaths := by
  have hgiven : (∀ p, target = some p → p.bytes ≠ []) ↔ job.target.bytes ≠ [] := by
    obtain rfl | ⟨rfl, hdefault⟩ := htarget
    · simp
    · simp [hdefault, Path.ofText, Text.bytes]
  simp [options, Overrides.options, Slot.isPath, Command.HasPaths, any_isEmpty_bytes, hgiven,
    and_comm]

end TreeJob

end jobs

namespace Invocation

variable {options : List OptionArg}

private theorem exists_written (inv : Invocation) : ∃ args, inv.Written args := by
  obtain ⟨verbose, command⟩ := inv
  cases command with
  | convert job =>
    have hwritten : Written ⟨false || verbose, .convert job⟩ _ := .convert (.refl _)
    exact ⟨_, hwritten⟩
  | batch job =>
    have hwritten : Written ⟨false || verbose, .batch job⟩ _ :=
      .batch (.inl rfl) (.inl rfl) (.refl _)
    exact ⟨_, hwritten⟩

private theorem read_command (early : Bool) {word : Bytes} {name : CommandName}
    (hword : Shape.ofArgument word = .word word) (hname : CommandName.ofWord? word = some name)
    (args : List Bytes) :
    ofArguments ((flagIf .verbose early).map OptionArg.argument ++ word :: args) =
      ofCommand early args name := by
  have hread : ∀ i, read i (word :: args) = ofCommand (i.has (.option .verbose)) args name := by
    intro i
    rw [read, hword]
    simp only [hname]
  cases early with
  | false => exact hread {}
  | true => exact hread (Intake.ofOptions [.flag .verbose])

private theorem ofCommand_convert_of_written {job : FileJob} {early late : Bool}
    (horder : options.Perm (job.options ++ flagIf .verbose late)) :
    ofCommand early (options.map OptionArg.argument ++ [("--" : Bytes), job.input.bytes]) .convert =
      if (Command.convert job).HasPaths then .ok ⟨early || late, .convert job⟩
      else .error (.usage .invalidValue) := by
  obtain ⟨i, hvalue, hread⟩ := Intake.read_of_perm .convert horder (job.fits_options late)
    (job.nodup_options late) job.input.bytes
  have hjob := (Intake.fileJob_congr hvalue).trans (job.fileJob_options late)
  have hverbose := (Intake.has_congr hvalue _).trans (job.has_verbose_options late)
  rw [ofCommand, hread]
  by_cases hpaths : (Command.convert job).HasPaths
  · rw [(job.lacksPath_options late).mpr hpaths, if_pos hpaths]
    simp [bind, Except.bind, hjob, hverbose]
  · rw [Bool.of_not_eq_false (mt (job.lacksPath_options late).mp hpaths), if_neg hpaths]
    rfl

private theorem ofCommand_batch_of_written {job : TreeJob} {early late : Bool}
    {target : Option Path} {extension : Option Text}
    (htarget : WrittenFor job.target "./generated" target)
    (hextension : WrittenFor job.extension "ts".toList extension)
    (horder : options.Perm (job.options target extension ++ flagIf .verbose late)) :
    ofCommand early (options.map OptionArg.argument ++ [("--" : Bytes), job.source.bytes]) .batch =
      if (Command.batch job).HasPaths then .ok ⟨early || late, .batch job⟩
      else .error (.usage .invalidValue) := by
  obtain ⟨i, hvalue, hread⟩ := Intake.read_of_perm .batch horder (TreeJob.fits_options late)
    (TreeJob.nodup_options late) job.source.bytes
  have hjob := (Intake.treeJob_congr hvalue).trans
    (TreeJob.treeJob_options late htarget hextension)
  have hverbose := (Intake.has_congr hvalue _).trans (TreeJob.has_verbose_options late)
  rw [ofCommand, hread]
  by_cases hpaths : (Command.batch job).HasPaths
  · rw [(TreeJob.lacksPath_options late htarget).mpr hpaths, if_pos hpaths]
    simp [bind, Except.bind, hjob, hverbose]
  · rw [Bool.of_not_eq_false (mt (TreeJob.lacksPath_options late htarget).mp hpaths),
      if_neg hpaths]
    rfl

/-- An invocation can be written as a command line, and in whatever order its options stand there,
it is read back, or it is refused for an empty path. -/
theorem ofArguments_of_written (inv : Invocation) :
    (∃ args, inv.Written args) ∧ ∀ args, inv.Written args →
      ofArguments args =
        if inv.command.HasPaths then .ok inv else .error (.usage .invalidValue) := by
  refine ⟨exists_written inv, ?_⟩
  intro args hwritten
  cases hwritten with
  | convert horder =>
    rw [commandArguments, read_command _ rfl rfl, ofCommand_convert_of_written horder]
  | batch htarget hextension horder =>
    rw [commandArguments, read_command _ rfl rfl,
      ofCommand_batch_of_written htarget hextension horder]

/-- The values look like options, commands, and dividers. -/
theorem ofArguments_of_written_shuffled :
    let job : FileJob := {
      input := "--"
      output := some ("-o" : Path)
      overrides := ⟨some "=a b".toList, some "--stdout".toList, true⟩
      dump := true }
    let args := (["--verbose", "convert", "--dump-parsed", "--banner=--stdout", "--suffix==a b",
      "--legacy-collection", "--output=-o", "--", "--"] : List String).map fun arg => Text.bytes arg.toList
    Written ⟨true, .convert job⟩ args ∧ ofArguments args = .ok ⟨true, .convert job⟩ := by
  intro job args
  have hwritten : Written ⟨true, .convert job⟩ args := by
    have horder : [.flag .dumpParsed, .value .banner "--stdout",
        .value .suffix "=a b", .flag .legacyCollection, .value .output "-o"].Perm
        (job.options ++ flagIf .verbose false) := by decide
    have hline : Written ⟨true || false, .convert job⟩
        ((flagIf .verbose true).map OptionArg.argument ++
          commandArguments "convert" _ job.input) := .convert horder
    exact hline
  exact ⟨hwritten, (ofArguments_of_written ⟨true, .convert job⟩).2 args hwritten⟩

end Invocation

end ClassTypings
