import ClassTypings.Proofs.BatchAgain
import ClassTypings.Proofs.BesidePaths
import ClassTypings.Proofs.Routes
/-!
# Inputs that are kept

A write gives new content to the file that its path leads to and to no other file. So an input keeps
its content unless a declaration goes to the very place where the input is.
-/
namespace ClassTypings
namespace Workspace

/-- Both workspaces have the same directories, so that a path leads to the same location in them. -/
structure SameDirectories (w w' : Workspace) : Prop where
  forward : w.DirectoriesIn w'
  backward : w'.DirectoriesIn w

section

variable {w w' w'' : Workspace} {p : Path} {location : Location} {content new : Content}

theorem SameDirectories.refl (w : Workspace) : w.SameDirectories w := ⟨.refl w, .refl w⟩

theorem SameDirectories.trans (h : w.SameDirectories w') (h' : w'.SameDirectories w'') :
    w.SameDirectories w'' :=
  ⟨h.forward.trans h'.forward, h'.backward.trans h.backward⟩

theorem SameDirectories.locate_iff (h : w.SameDirectories w') :
    w'.locate p = .ok location ↔ w.locate p = .ok location :=
  ⟨h.backward.locate, h.forward.locate⟩

theorem sameDirectories_of_put (h : w.put p content = .ok w') : w.SameDirectories w' := by
  obtain ⟨dir, name, -, -, -, -, rfl⟩ := put_eq_ok h
  refine ⟨⟨rfl, FileTree.directoriesIn_place _ _ _ _⟩, ⟨rfl, fun location hlocation => ?_⟩⟩
  rw [FileTree.node?_place] at hlocation
  split at hlocation
  · simp at hlocation
  · exact hlocation

theorem node?_of_put_elsewhere (h : w.put p content = .ok w') (hp : w.locate p ≠ .ok location) :
    w'.tree.node? location = w.tree.node? location := by
  obtain ⟨dir, name, hlast, hslash, hsize, -, rfl⟩ := put_eq_ok h
  rw [FileTree.node?_place, if_neg]
  rintro ⟨-, rfl⟩
  exact hp (locate_of_lastStep_file hlast hslash hsize)

private theorem exists_put_of_file (hlocate : w.locate p = .ok location)
    (hfile : w.tree.node? location = some (.file content)) (new : Content) :
    ∃ w', w.put p new = .ok w' := by
  obtain ⟨dir, name, rfl, hlast, hslash, hsize⟩ := lastStep_of_file hlocate hfile
  refine ⟨{ w with tree := w.tree.place name dir (.file new) }, ?_⟩
  simp [put, hlast, hslash, Nat.not_lt.mpr hsize, hfile]

end
end Workspace

namespace Session

variable {s : Session} {config : Config} {input output : Path} {location : Location}
  {content : Content}

private theorem sameDirectories_of_attempt (config : Config) (input output : Path)
    (hfiles : s.destination = .files) :
    s.workspace.SameDirectories (s.attempt config input output).session.workspace := by
  rcases attempt_cases s config input output with ⟨s', hwrite, hsession, -⟩ | ⟨fault, hsession, -⟩
  · rw [hsession]
    exact Workspace.sameDirectories_of_put (workspace_write hfiles hwrite)
  · rw [hsession]
    exact .refl _

private theorem attempt_leaves (hfiles : s.destination = .files)
    (houtput : s.workspace.locate output ≠ .ok location) :
    (s.attempt config input output).session.workspace.tree.node? location =
      s.workspace.tree.node? location := by
  rcases attempt_cases s config input output with ⟨s', hwrite, hsession, -⟩ | ⟨fault, hsession, -⟩
  · rw [hsession]
    exact Workspace.node?_of_put_elsewhere (workspace_write hfiles hwrite) houtput
  · rw [hsession]

private theorem attempt_overwrites (hfiles : s.destination = .files)
    (houtput : s.workspace.locate output = .ok location)
    (hfile : s.workspace.tree.node? location = some (.file content)) :
    (s.attempt config input output).session.workspace.tree.node? location =
      some (.file (.text (s.workspace.declarationAt config input))) := by
  obtain ⟨w', hput⟩ := Workspace.exists_put_of_file houtput hfile
    (.text (declarationOf config (s.textOf input)))
  have hnone : (s.attempt config input output).failure = none := by
    simp [attempt, write, hfiles, Workspace.write, hput]
  have hlocate := (sameDirectories_of_attempt config input output hfiles).locate_iff.mpr houtput
  exact (Workspace.node?_eq_ok_iff_of_locate hlocate).mp (holds_of_attempt hfiles hnone)

end Session

namespace FileJob

variable {job : FileJob} {config : Config} {w : Workspace} {location : Location} {content : Content}

/-- What a job that starts in `w` leaves of the files, its input among them. -/
structure KeepsInput (job : FileJob) (config : Config) (w : Workspace) (outcome : Outcome) :
    Prop where
  kept : ∀ location content, w.tree.node? location = some (.file content) →
    (job.writes → w.locate (job.outputPath config) ≠ .ok location) →
      outcome.workspace.tree.node? location = some (.file content)
  overwritten : ∀ location content, w.tree.node? location = some (.file content) →
    job.writes → w.locate (job.outputPath config) = .ok location →
      outcome.workspace.tree.node? location =
        some (.file (.text (w.declarationAt config job.input)))
  text : ∀ location content, w.locate job.input = .ok location →
    w.tree.node? location = some (.file content) → w.textAt job.input = content.legible
  /-- The output beside an input is this very input only when the suffix adds nothing, the extension
  is that of an output already and the stem is a text. -/
  beside : job.output = none → '/' ∉ config.suffix → ∀ location content,
    w.locate job.input = .ok location → w.tree.node? location = some (.file content) →
      (w.locate (job.outputPath config) = .ok location ↔
        config.suffix = [] ∧ job.input.extension? = some ("ts" : Bytes) ∧
          ∃ stem : Text, job.input.stem? = some stem.bytes)

private theorem locate_outputPath_iff (hnone : job.output = none) (hslash : '/' ∉ config.suffix)
    (hlocate : w.locate job.input = .ok location)
    (hfile : w.tree.node? location = some (.file content)) :
    w.locate (job.outputPath config) = .ok location ↔
      config.suffix = [] ∧ job.input.extension? = some ("ts" : Bytes) ∧
        ∃ stem : Text, job.input.stem? = some stem.bytes := by
  obtain ⟨dir, name, rfl, -⟩ := Workspace.lastStep_of_file hlocate hfile
  obtain ⟨hplain, -, -⟩ := isName_iff.mp (FileTree.isDirectory_of_node? hfile).1
  obtain ⟨front, hpieces⟩ := Workspace.exists_pieces_of_file hlocate hfile
  have hname := Path.fileName?_eq_some_iff.mpr ⟨hplain, front, [], hpieces, nofun⟩
  have houtput : job.outputPath config = (job.input.parent?.getD ".").join
      (outputName job.input config.suffix "ts".toList).bytes := by
    rw [outputPath, hnone, Option.getD_none, defaultOutput]
  have hbeside : (outputName job.input config.suffix "ts".toList).bytes = name ↔ _ :=
    outputName_eq_iff_of_fileName hname hplain.ne_nil
  rw [houtput]
  refine Iff.trans ?_ hbeside
  constructor
  · exact fun h =>
      Workspace.eq_of_locate_join (noSlash_outputName job.input hslash (by decide)) h hfile
  · intro h
    rw [h]
    exact Workspace.locate_parent_join hlocate hfile

private theorem run_keepsInput (job : FileJob) (env : Environment) (w : Workspace) :
    job.KeepsInput (job.config env) w (job.run env w) := by
  refine ⟨?_, ?_, ?_, fun hnone hslash location content => locate_outputPath_iff hnone hslash⟩
  · intro location content hfile houtput
    cases hwrites : job.writes with
    | false =>
      rw [(run_of_not_writes env w hwrites).1]
      exact hfile
    | true =>
      rw [(run_of_writes env w hwrites).1]
      exact (Session.attempt_leaves (s := ⟨w, .files, []⟩) rfl (houtput hwrites)).trans hfile
  · intro location content hfile hwrites houtput
    rw [(run_of_writes env w hwrites).1]
    exact Session.attempt_overwrites (s := ⟨w, .files, []⟩) rfl houtput hfile
  · intro location content hlocate hfile
    cases content <;> simp [Workspace.textAt, Workspace.node?, hlocate, hfile, Content.legible]

end FileJob

namespace TreeJob

variable {job : TreeJob} {config : Config} {w : Workspace} {inputs before done : List Path}
  {input : Path} {location : Location} {content : Content}

/-- The input is converted after those in `before`, and its output leads to the location. -/
structure WritesTo (job : TreeJob) (config : Config) (w : Workspace) (inputs : List Path)
    (location : Location) (before : List Path) (input : Path) : Prop where
  turn : before ++ [input] <+: inputs
  unclaimed : ¬ (job.convertAll config w before).isClaimed (job.output config input)
  leads : w.locate (job.output config input) = .ok location

theorem WritesTo.mono (h : job.WritesTo config w done location before input)
    (hdone : done <+: inputs) : job.WritesTo config w inputs location before input :=
  ⟨h.turn.trans hdone, h.unclaimed, h.leads⟩

private theorem convertAll_concat_session (job : TreeJob) (config : Config) (w : Workspace)
    (done : List Path) (input : Path) :
    (job.convertAll config w (done ++ [input])).session =
      if (job.convertAll config w done).isClaimed (job.output config input) then
        (job.convertAll config w done).session
      else ((job.convertAll config w done).session.attempt config input
        (job.output config input)).session := by
  rw [convertAll_concat, Batch.turn]
  split
  · exact (if_pos ‹_›).symm
  · exact (if_neg ‹_›).symm

private theorem convertAll_files (job : TreeJob) (config : Config) (w : Workspace)
    (inputs : List Path) :
    (job.convertAll config w inputs).session.destination = .files :=
  Batch.foldl_turn_destination inputs

private theorem sameDirectories_convertAll (job : TreeJob) (config : Config) (w : Workspace)
    (inputs : List Path) :
    w.SameDirectories (job.convertAll config w inputs).session.workspace := by
  induction inputs using List.reverseRecOn with
  | nil => exact .refl w
  | append_singleton done input ih =>
    rw [convertAll_concat_session]
    split
    · exact ih
    · have hfiles := convertAll_files job config w done
      exact ih.trans (Session.sameDirectories_of_attempt _ _ _ hfiles)

private theorem convertAll_concat_leaves
    (h : ¬ job.WritesTo config w (done ++ [input]) location done input) :
    (job.convertAll config w (done ++ [input])).session.workspace.tree.node? location =
      (job.convertAll config w done).session.workspace.tree.node? location := by
  rw [convertAll_concat_session]
  split
  · rfl
  · rename_i hclaimed
    refine Session.attempt_leaves (convertAll_files job config w done) fun houtput => h ?_
    exact ⟨List.prefix_rfl, hclaimed,
      (sameDirectories_convertAll job config w done).locate_iff.mp houtput⟩

private theorem convertAll_leaves
    (h : ∀ before input, ¬ job.WritesTo config w inputs location before input) :
    (job.convertAll config w inputs).session.workspace.tree.node? location =
      w.tree.node? location := by
  induction inputs using List.reverseRecOn with
  | nil => rfl
  | append_singleton done input ih =>
    rw [convertAll_concat_leaves (h done input)]
    exact ih fun before input' k => h before input' (k.mono (List.prefix_append _ _))

/-- The last turn that writes to a file leaves its declaration there. -/
private theorem convertAll_overwrites (hfile : w.tree.node? location = some (.file content))
    (h : ∃ before input, job.WritesTo config w inputs location before input) :
    ∃ before input, job.WritesTo config w inputs location before input ∧
      (job.convertAll config w inputs).session.workspace.tree.node? location =
        some (.file (.text
          ((job.convertAll config w before).session.workspace.declarationAt config input))) := by
  induction inputs using List.reverseRecOn with
  | nil =>
    obtain ⟨before, input, k⟩ := h
    simpa using k.turn
  | append_singleton done last ih =>
    by_cases hlast : job.WritesTo config w (done ++ [last]) location done last
    · -- the place still holds a file, whether an earlier turn has written to it or none
      have hfileNow : ∃ content',
          (job.convertAll config w done).session.workspace.tree.node? location =
            some (.file content') := by
        by_cases hdone : ∃ before input, job.WritesTo config w done location before input
        · obtain ⟨before, input, -, hnow⟩ := ih hdone
          exact ⟨_, hnow⟩
        · refine ⟨content, (convertAll_leaves fun before input k => hdone ?_).trans hfile⟩
          exact ⟨before, input, k⟩
      obtain ⟨content', hnow⟩ := hfileNow
      refine ⟨done, last, hlast, ?_⟩
      rw [convertAll_concat_session, if_neg hlast.unclaimed]
      exact Session.attempt_overwrites (convertAll_files job config w done)
        ((sameDirectories_convertAll job config w done).locate_iff.mpr hlast.leads) hnow
    · have hdone : ∃ before input, job.WritesTo config w done location before input := by
        obtain ⟨before, input, k⟩ := h
        refine ⟨before, input, ?_, k.unclaimed, k.leads⟩
        rcases List.prefix_concat_iff.mp k.turn with heq | hprefix
        · obtain ⟨rfl, rfl⟩ := List.append_inj' heq rfl |>.imp id fun hsingle =>
            List.singleton_inj.mp hsingle
          exact absurd k hlast
        · exact hprefix
      obtain ⟨before, input, k, hnow⟩ := ih hdone
      refine ⟨before, input, k.mono (List.prefix_append _ _), ?_⟩
      rw [convertAll_concat_leaves hlast, hnow]

/-- The workspace in which a batch collects its inputs. -/
def made (job : TreeJob) (w : Workspace) : Workspace := (w.makeDirectories job.target).1

/-- What a batch that starts in `w` leaves of the files, its inputs among them. -/
structure KeepsInputs (job : TreeJob) (config : Config) (w : Workspace) (outcome : Outcome) :
    Prop where
  kept : ∀ location content, w.tree.node? location = some (.file content) →
    (∀ before input,
      ¬ job.WritesTo config (job.made w) (w.sources job.source) location before input) →
      outcome.workspace.tree.node? location = some (.file content)
  overwritten : outcome.problem = none →
    ∀ location content, w.tree.node? location = some (.file content) →
      (∃ before input,
        job.WritesTo config (job.made w) (w.sources job.source) location before input) →
        ∃ before input,
          job.WritesTo config (job.made w) (w.sources job.source) location before input ∧
            outcome.workspace.tree.node? location = some (.file (.text
              ((job.convertAll config (job.made w) before).session.workspace.declarationAt config
                input)))
  /-- When its turn comes, an input that no earlier turn has written to is as it was at the start,
  and its declaration is the one for what it was then. -/
  fromStart : outcome.problem = none → ∀ before input, before ++ [input] <+: w.sources job.source →
    (∀ location, w.locate input = .ok location →
      ∀ earlier other, ¬ job.WritesTo config (job.made w) before location earlier other) →
      let now := job.convertAll config (job.made w) before
      let next := job.convertAll config (job.made w) (before ++ [input])
      now.session.workspace.node? input = w.node? input ∧
        (now.Succeeds config (job.output config input) next →
          next.session.workspace.Holds (job.output config input) (w.declarationAt config input))
  /-- The text of an input is the one its file holds. It is empty when it cannot be read: when the
  file holds no text, or the path of the input is too long. -/
  texts : ∀ dir names content, w.Leads job.source dir →
    w.tree.node? (names ++ dir) = some (.file content) →
      w.textAt (job.source.below names) =
        if (job.source.below names).bytes.length ≤ Workspace.maxPathSize then content.legible
        else []
  /-- No turn writes to a source file when the extension is none of a source file. -/
  apart : '/' ∉ config.suffix → '/' ∉ job.extension →
    (job.extension.splitOn '.').getLast? ≠ some Workspace.sourceExtension →
      ∀ name dir content, w.tree.node? (name :: dir) = some (.file content) →
        (Path.splitName name).2 = some Workspace.sourceExtension.bytes → ∀ before input,
          ¬ job.WritesTo config (job.made w) (w.sources job.source) (name :: dir) before input

private theorem made_grows (job : TreeJob) (w : Workspace) :
    w.Grows (job.target :: job.target.above) (job.made w) :=
  Workspace.makeChain_grows w _

private theorem not_writesTo_of_isSource (hsuffix : '/' ∉ config.suffix)
    (hextension : '/' ∉ job.extension)
    (hlast : (job.extension.splitOn '.').getLast? ≠ some Workspace.sourceExtension) {name : Bytes}
    {dir : Location} (hfile : w.tree.node? (name :: dir) = some (.file content))
    (hname : (Path.splitName name).2 = some Workspace.sourceExtension.bytes) :
    ¬ job.WritesTo config w inputs (name :: dir) before input := by
  intro h
  have hleads := h.leads
  rw [output, defaultOutput] at hleads
  exact outputName_ne_of_isSource hlast hname
    (Workspace.eq_of_locate_join (noSlash_outputName input hsuffix hextension) hleads hfile)

private theorem node?_of_not_writesTo {name : Bytes} {dir : Location}
    (hinput : w.IsSource input name dir)
    (h : ∀ location, w.locate input = .ok location →
      ∀ earlier other, ¬ job.WritesTo config (job.made w) before location earlier other) :
    (job.convertAll config (job.made w) before).session.workspace.node? input = w.node? input := by
  have hgrows := job.made_grows w
  cases hspelling : Workspace.spellingFault? input with
  | some fault => simp [Workspace.node?, Workspace.locate, hspelling]
  | none =>
    obtain ⟨content, hfile⟩ := hinput.isFile
    have hmade : (job.made w).tree.node? (name :: dir) = w.tree.node? (name :: dir) :=
      (hgrows.node?_of_node? hfile).trans hfile.symm
    have hdirectories := hgrows.directoriesIn.trans
      (sameDirectories_convertAll job config (job.made w) before).forward
    exact hinput.node?_eq hdirectories
      ((convertAll_leaves (h _ (hinput.locate hspelling))).trans hmade)

private theorem run_cases (job : TreeJob) (env : Environment) (w : Workspace) :
    (job.run env w).problem ≠ none ∧
        ((job.run env w).workspace = w ∨ (job.run env w).workspace = job.made w) ∨
      w.isDirectory job.source ∧
        (job.run env w).workspace = (job.convertAll (job.config env) (job.made w)
          (w.sources job.source)).session.workspace := by
  by_cases hsource : w.isDirectory job.source
  · cases hmake : w.makeDirectories job.target with
    | mk made failure =>
      have hmade : job.made w = made := congrArg Prod.fst hmake
      cases failure with
      | some fault =>
        rw [run_of_fault env hsource hmake, hmade]
        exact .inl ⟨nofun, .inr rfl⟩
      | none =>
        have hsources := (job.made_grows w).sources_eq hsource
        rw [hmade] at hsources
        rw [run_of_made env hsource hmake, hmade, hsources]
        exact .inr ⟨hsource, rfl⟩
  · rw [run_of_not_directory env hsource]
    exact .inl ⟨nofun, .inl rfl⟩

private theorem run_keepsInputs (job : TreeJob) (env : Environment) (w : Workspace) :
    job.KeepsInputs (job.config env) w (job.run env w) := by
  have hmade : ∀ location node, w.tree.node? location = some node →
      (job.made w).tree.node? location = some node := fun _ _ => (job.made_grows w).node?_of_node?
  have hruns : (job.run env w).problem = none → w.isDirectory job.source ∧
      (job.run env w).workspace = (job.convertAll (job.config env) (job.made w)
        (w.sources job.source)).session.workspace :=
    fun hproblem => (job.run_cases env w).resolve_left fun h => h.1 hproblem
  refine ⟨?_, ?_, ?_, ?_, ?_⟩
  · intro location content hfile h
    rcases job.run_cases env w with ⟨-, hworkspace | hworkspace⟩ | ⟨-, hworkspace⟩
    · rw [hworkspace, hfile]
    · rw [hworkspace, hmade _ _ hfile]
    · rw [hworkspace, convertAll_leaves h, hmade _ _ hfile]
  · intro hproblem location content hfile h
    rw [(hruns hproblem).2]
    exact convertAll_overwrites (hmade _ _ hfile) h
  · intro hproblem before input hprefix h now next
    have hmem : input ∈ w.sources job.source := hprefix.subset (by simp)
    obtain ⟨name, dir, hinput⟩ :=
      Workspace.exists_isSource_of_mem_sources (hruns hproblem).1 hmem
    have hnow := node?_of_not_writesTo hinput h
    have htext : now.session.workspace.declarationAt (job.config env) input =
        w.declarationAt (job.config env) input := by
      simp only [Workspace.declarationAt, Workspace.textAt, now, hnow]
    refine ⟨hnow, fun hsucceeds => ?_⟩
    rw [← htext]
    exact holds_of_convertAll_concat hsucceeds
  · intro dir names content hsource hfile
    rw [← Session.textOf_eq_textAt { workspace := w }]
    exact Session.textOf_below hsource hfile
  · intro hsuffix hextension hlast name dir content hfile hname before input
    exact not_writesTo_of_isSource hsuffix hextension hlast (hmade _ _ hfile) hname

end TreeJob

/-- Whatever the tree, the environment and the options, a run changes no file but those that the
outputs lead to. -/
theorem runs_keep_inputs (env : Environment) (w : Workspace) :
    (∀ job : FileJob, job.KeepsInput (job.config env) w (job.run env w)) ∧
      ∀ job : TreeJob, job.KeepsInputs (job.config env) w (job.run env w) :=
  ⟨fun job => job.run_keepsInput env w, fun job => job.run_keepsInputs env w⟩

/-- A source file under the extension of an output. -/
def typedSource : Workspace where
  tree := FileTree.empty.place "A.ts" [] (.file (.text "<?php\nclass A {}\n".toList))
  home := []

theorem runs_keep_inputs_twoSources :
    let w := TreeJob.twoSources
    let location : Location := ["A.php", "in"]
    let single : FileJob := { input := "in/A.php" }
    let job : TreeJob := { source := "in", target := "in" }
    let typed : FileJob := { input := "A.ts" }
    (single.run (fun _ => none) w).workspace.tree.node? location = w.tree.node? location ∧
      (job.run (fun _ => none) w).workspace.tree.node? location = w.tree.node? location ∧
      (typed.run (fun _ => none) typedSource).workspace.tree.node? ["A.ts"] =
        some (.file (.text (declarationOf {} "<?php\nclass A {}\n".toList))) := by
  intro w location single job typed
  obtain ⟨hfiles, htrees⟩ := runs_keep_inputs (fun _ => none) w
  have hsingle := hfiles single
  have hjob := htrees job
  have hoverwritten := (runs_keep_inputs (fun _ => none) typedSource).1 typed
  refine ⟨?_, ?_, ?_⟩
  · refine hsingle.kept location _ rfl fun _ houtput => ?_
    have hsame := (hsingle.beside rfl (by decide) location _ rfl rfl).mp houtput
    exact absurd hsame.2.1 (by decide +kernel)
  · exact hjob.kept location _ rfl
      (hjob.apart (by decide) (by decide) (by decide) _ _ _ rfl (by decide))
  · have hlocate : typedSource.locate
        (typed.outputPath ((Config.ofEnvironment fun _ => none).override {})) = .ok ["A.ts"] := by
      decide +kernel
    exact hoverwritten.overwritten ["A.ts"] _ rfl rfl hlocate

/-- Two source files, of which the second has the name of the first with a suffix. -/
def chainedSources : Workspace where
  tree := ((FileTree.empty.place "in" [] .directory).place "A.php" ["in"]
    (.file (.text "<?php\nclass A {}\n".toList))).place "AB.php" ["in"]
      (.file (.text "<?php\nclass B {}\n".toList))
  home := []

/-- The job whose first output is its second input. -/
def chainedJob : TreeJob where
  source := "in"
  target := "in"
  overrides := { suffix := some "B".toList }
  extension := "php".toList

private theorem sources_chainedSources :
    chainedSources.sources "in" = ["in/A.php", "in/AB.php"] := by
  have hlocate : chainedSources.locate "in" = .ok ["in"] := rfl
  exact Workspace.sources_of_found hlocate (by decide +kernel) (by decide)

theorem not_forall_input_kept :
    (¬ ∀ (job : FileJob) (env : Environment) (w : Workspace) (content : Content),
        job.output = none → w.node? job.input = .ok (.file content) →
          (job.run env w).workspace.node? job.input = .ok (.file content)) ∧
      (¬ ∀ (job : TreeJob) (env : Environment) (w : Workspace),
        ∀ input ∈ w.sources job.source,
          (job.run env w).workspace.node? input = w.node? input) ∧
      ¬ ∀ (job : TreeJob) (env : Environment) (w : Workspace) (before : List Path) (input : Path),
        before ++ [input] <+: w.sources job.source →
          let config := job.config env
          let now := job.convertAll config (job.made w) before
          let next := job.convertAll config (job.made w) (before ++ [input])
          now.Succeeds config (job.output config input) next →
            next.session.workspace.Holds (job.output config input)
              (w.declarationAt config input) := by
  have hsource : chainedSources.isDirectory chainedJob.source := by decide +kernel
  have hmake : chainedSources.makeDirectories chainedJob.target = (chainedSources, none) :=
    Workspace.makeChain_of_isDirectory hsource _
  have hsources : chainedSources.sources chainedJob.source =
      ["in/A.php"] ++ ["in/AB.php"] := sources_chainedSources
  refine ⟨fun h => ?_, fun h => ?_, fun h => ?_⟩
  · have hkept := h { input := "A.ts" } (fun _ => none) typedSource _ rfl rfl
    exact absurd hkept (by decide +kernel)
  · have hkept := h chainedJob (fun _ => none) chainedSources "in/AB.php"
      (by rw [hsources]; simp)
    rw [TreeJob.run_of_made _ hsource hmake, hsources] at hkept
    exact absurd hkept (by decide +kernel)
  · have hholds := h chainedJob (fun _ => none) chainedSources ["in/A.php"]
      "in/AB.php" (hsources ▸ List.prefix_rfl) (.inr (by decide +kernel))
    have hmade : chainedJob.made chainedSources = chainedSources := congrArg Prod.fst hmake
    rw [hmade] at hholds
    exact absurd hholds (by unfold Workspace.Holds; decide +kernel)

end ClassTypings
