import ClassTypings.Program
import ClassTypings.Proofs.CommandPaths
import ClassTypings.Proofs.DirectoriesAgain
import ClassTypings.Proofs.KeptSources
/-!
# Batches run again

A batch that is run once more finds the same source files, and in the place of each declaration
either what it would write or what refuses the write, as before. So it prints and counts the same
and changes nothing.
-/
namespace ClassTypings

theorem FileTree.eq_of_nodes {tree tree' : FileTree} (h : tree.nodes = tree'.nodes) :
    tree = tree' := by
  cases tree
  cases tree'
  cases h
  rfl

private theorem FileTree.setNode_of_lookup {location : Location} {node : Node}
    {nodes : List (Location × Node)} (h : lookup location nodes = some node) :
    setNode location node nodes = nodes := by
  induction nodes with
  | nil => simp [lookup] at h
  | cons entry nodes ih =>
    by_cases hsame : entry.1 = location
    · rw [lookup, if_pos hsame] at h
      rw [setNode, if_pos hsame, ← hsame, ← Option.some.inj h]
    · rw [lookup, if_neg hsame] at h
      rw [setNode, if_neg hsame, ih h]

private theorem FileTree.place_of_node? {tree : FileTree} {name : Bytes} {dir : Location}
    {node : Node}
    (h : tree.node? (name :: dir) = some node) : tree.place name dir node = tree := by
  unfold place
  split
  · exact eq_of_nodes (setNode_of_lookup h)
  · rfl

private theorem Workspace.write_eq_self {w w' : Workspace} {p : Path} {text : Text}
    (hholds : w.Holds p text) (h : w.write p text = .ok w') : w' = w := by
  obtain ⟨dir, name, hlast, hslash, hsize, -, rfl⟩ := put_eq_ok h
  have hlocate := locate_of_lastStep_file hlast hslash hsize
  rw [FileTree.place_of_node? ((node?_eq_ok_iff_of_locate hlocate).mp hholds)]

namespace Session

open TreeJob

variable {job : TreeJob} {config : Config} {w : Workspace} {dir : Location} {tried : List Path}
  {s : Session} {input output : Path}

private theorem attempt_workspace_of_holds (hfiles : s.destination = .files)
    (hholds : (s.attempt config input output).failure = none →
      s.workspace.Holds output (s.workspace.declarationAt config input)) :
    (s.attempt config input output).session.workspace = s.workspace := by
  rcases attempt_cases s config input output with
    ⟨s', hwrite, hsession, hnone⟩ | ⟨fault, hsession, -⟩
  · rw [hsession]
    exact Workspace.write_eq_self (hholds hnone) (workspace_write hfiles hwrite)
  · rw [hsession]

private theorem Attempted.ready (h : Attempted job config w dir tried s)
    (hready : Ready job config w dir) :
    Ready job config s.workspace dir :=
  ⟨hready.target.mono (h.directoriesIn hready), hready.names⟩

private theorem Attempted.isSource (h : Attempted job config w dir tried s)
    (hready : Ready job config w dir) {name : Bytes} {location : Location}
    (hinput : w.IsSource input name location) : s.workspace.IsSource input name location := by
  refine ⟨hinput.fileName, hinput.isName, hinput.extension, ?_, ?_⟩
  · obtain ⟨content, hfile⟩ := hinput.isFile
    exact ⟨content, (h.node?_location hready hinput).trans hfile⟩
  · exact fun hspelling => (h.directoriesIn hready).locate (hinput.locate hspelling)

/-- An output can take a file after the attempt when it could before: a declaration that has come
there is no directory. -/
private theorem Attempted.takesFile_output (h : Attempted job config w dir tried s)
    (hready : Ready job config w dir) (hinput : input ∈ tried) :
    s.workspace.takesFile (job.output config input) = w.takesFile (job.output config input) := by
  have hnamed := h.named input hinput
  rw [Bool.eq_iff_iff]
  constructor
  · intro htakes
    obtain ⟨hspelling, hsize, hfree⟩ := ((h.ready hready).takesFile_iff hnamed).mp htakes
    refine (hready.takesFile_iff hnamed).mpr ⟨hspelling, hsize, fun hdirectory => hfree ?_⟩
    exact (h.directoriesIn hready).directories _ hdirectory
  · intro htakes
    obtain ⟨hspelling, hsize, -⟩ := (hready.takesFile_iff hnamed).mp htakes
    refine ((h.ready hready).takesFile_iff hnamed).mpr ⟨hspelling, hsize, ?_⟩
    rw [h.outputs input hinput htakes]
    exact nofun

private theorem Attempted.holds_output (h : Attempted job config w dir tried s)
    (hready : Ready job config w dir) (hinput : input ∈ tried)
    (htakes : w.takesFile (job.output config input)) :
    s.workspace.Holds (job.output config input) (w.declarationAt config input) := by
  have hlocate := (h.directoriesIn hready).locate
    (hready.locate_output (h.named input hinput) htakes)
  rw [Workspace.Holds, Workspace.node?_eq_ok_iff_of_locate hlocate, h.outputs input hinput htakes,
    Workspace.declarationAt, ← textOf_eq_textAt ⟨w, .files, []⟩]

end Session

namespace Batch

open TreeJob

section

variable {job : TreeJob} {config : Config} {w : Workspace} {dir : Location} {inputs : List Path}

private theorem closingEntry_of_summary {b b' : Batch} (h : b.summary = b'.summary)
    (inputs : List Path)
    (target : Path) : b.closingEntry inputs target = b'.closingEntry inputs target := by
  rw [closingEntry, closingEntry, h]

private theorem convertAll_workspace_of_holds (hready : Ready job config w dir)
    (hinputs : ∀ p ∈ inputs, ∃ name location, w.IsSource p name location)
    (hholds : ∀ p ∈ leaders inputs, w.takesFile (job.output config p) →
      w.Holds (job.output config p) (w.declarationAt config p)) :
    (job.convertAll config w inputs).session.workspace = w := by
  induction inputs using List.reverseRecOn with
  | nil => rfl
  | append_singleton done input ih =>
    have hdone : ∀ p ∈ done, ∃ name location, w.IsSource p name location :=
      fun p hp => hinputs p (List.mem_append_left _ hp)
    obtain ⟨name, location, hinput⟩ := hinputs input (by simp)
    have hafter := after_convertAll hready hdone
    have hearlier : ∀ p ∈ leaders done, p ∈ leaders (done ++ [input]) := by
      intro p hp
      rw [leaders_concat]
      split
      · exact hp
      · exact List.mem_append_left _ hp
    have hsame := ih hdone fun p hp => hholds p (hearlier p hp)
    have hout : defaultOutput input job.target config.suffix job.extension =
      job.output config input := rfl
    rw [convertAll_concat]
    simp only [turn, hout]
    split
    · exact hsame
    · rename_i hclaimed
      have hfree : ¬ ∃ p ∈ done, shownStem p = shownStem input :=
        fun k => hclaimed ((hafter.isClaimed_iff hready hinput.named).mpr k)
      have hleader : input ∈ leaders (done ++ [input]) := by
        rw [leaders_concat, if_neg hfree]
        simp
      obtain ⟨-, hfailure⟩ := hafter.attempted.attempt hready hinput
        fun p hp hstem => hfree (exists_mem_leaders_iff.mp ⟨p, hp, hstem⟩)
      refine (Session.attempt_workspace_of_holds hafter.attempted.destination ?_).trans hsame
      intro hnone
      rw [hsame]
      exact hholds input hleader (hfailure.mp hnone)

/-- The same batch in the workspace that it has left prints the same, counts the same and changes
no file. -/
private theorem convertAll_again (hready : Ready job config w dir)
    (hinputs : ∀ p ∈ inputs, ∃ name location, w.IsSource p name location) :
    let b := job.convertAll config w inputs
    let again := job.convertAll config b.session.workspace inputs
    again.session.workspace = b.session.workspace ∧ again.stdout = b.stdout ∧
      again.summary = b.summary := by
  intro b again
  have hafter := after_convertAll hready hinputs
  have hattempted := hafter.attempted
  have hreadyAgain := hattempted.ready hready
  have hinputsAgain : ∀ p ∈ inputs,
      ∃ name location, b.session.workspace.IsSource p name location := by
    intro p hp
    obtain ⟨name, location, hinput⟩ := hinputs p hp
    exact ⟨name, location, hattempted.isSource hready hinput⟩
  have hafterAgain := after_convertAll hreadyAgain hinputsAgain
  have htakes : ∀ p ∈ leaders inputs, b.session.workspace.takesFile (job.output config p) =
      w.takesFile (job.output config p) := fun p hp => hattempted.takesFile_output hready hp
  refine ⟨convertAll_workspace_of_holds hreadyAgain hinputsAgain ?_, ?_, ?_⟩
  · intro p hp hagain
    obtain ⟨name, location, hinput⟩ := hinputs p ((leaders_sublist inputs).subset hp)
    have htext : b.session.workspace.declarationAt config p = w.declarationAt config p := by
      have := hattempted.textOf_source hready hinput
      rw [Session.textOf_eq_textAt, Session.textOf_eq_textAt] at this
      rw [Workspace.declarationAt, Workspace.declarationAt, this]
    rw [htext]
    exact hattempted.holds_output hready hp (htakes p hp ▸ hagain)
  · rw [hafterAgain.stdout, hafter.stdout]
    refine List.flatMap_congr fun p hp => ?_
    rw [statusLine, statusLine, htakes p hp]
  · have hwritten : again.summary.written = b.summary.written := by
      rw [hafterAgain.written, hafter.written]
      exact List.countP_congr fun p hp => by rw [htakes p hp]
    have hfailed : again.summary.failed = b.summary.failed := by
      rw [hafterAgain.failed, hafter.failed]
      exact List.countP_congr fun p hp => by rw [htakes p hp]
    have hskipped : again.summary.skipped = b.summary.skipped :=
      Nat.add_right_cancel (hafterAgain.skipped.trans hafter.skipped.symm)
    exact Summary.ext hwritten hfailed hskipped

end
end Batch

namespace TreeJob

variable {job : TreeJob} {env : Environment} {w made : Workspace}

/-- What does not change when a job is done once more: the workspace, what is printed, whether a
problem stops the job, the summary, and the last entry of the log, which reports them. -/
structure Settles (job : TreeJob) (env : Environment) (w : Workspace) : Prop where
  workspace : (job.run env (job.run env w).workspace).workspace = (job.run env w).workspace
  stdout : (job.run env (job.run env w).workspace).stdout = (job.run env w).stdout
  stopped : (job.run env (job.run env w).workspace).problem.isSome = (job.run env w).problem.isSome
  summary : (job.run env (job.run env w).workspace).summary = (job.run env w).summary
  report : (job.run env (job.run env w).workspace).log.getLast? = (job.run env w).log.getLast?

private theorem settles_of_not_directory (h : ¬ w.isDirectory job.source) : job.Settles env w := by
  have hworkspace : (job.run env w).workspace = w := by rw [run_of_not_directory env h]
  constructor <;> simp only [hworkspace]

private theorem settles_of_fault (h : w.isDirectory job.source) {fault : Fault}
    (hmake : w.makeDirectories job.target = (made, some fault)) : job.Settles env w := by
  have hrun := run_of_fault env h hmake
  have hgrows := Workspace.grows_of_makeChain hmake
  obtain ⟨failure, hagain, hsome⟩ := Workspace.makeDirectories_again w job.target
  rw [hmake] at hagain hsome
  obtain ⟨cause, rfl⟩ := Option.isSome_iff_exists.mp hsome
  have hsource := hgrows.directoriesIn.isDirectory h
  have hrunAgain := run_of_fault env hsource hagain
  constructor <;> simp only [hrun, hrunAgain, Option.isSome_some]

private theorem settles_of_made (htarget : job.target.bytes ≠ [])
    (hnames : NamesOutputs (job.config env).suffix job.extension) (h : w.isDirectory job.source)
    (hmake : w.makeDirectories job.target = (made, none)) : job.Settles env w := by
  have hrun := run_of_made env h hmake
  obtain ⟨hgrows, hdir⟩ := Workspace.makeDirectories_eq htarget hmake
  obtain ⟨dir, hleads⟩ := Workspace.exists_leads_iff.mpr hdir
  have hready : Ready job (job.config env) made dir := ⟨hleads, hnames⟩
  have hsource := hgrows.directoriesIn.isDirectory h
  have hinputs : ∀ p ∈ made.sources job.source, ∃ name location, made.IsSource p name location :=
    fun p hp => Workspace.exists_isSource_of_mem_sources hsource hp
  have hnamed : ∀ p ∈ made.sources job.source, p.Named := by
    intro p hp
    obtain ⟨name, location, hinput⟩ := hinputs p hp
    exact hinput.named
  obtain ⟨hworkspace, hstdout, hsummary⟩ := Batch.convertAll_again hready hinputs
  have hkept := keepsSources_of_convertAll htarget hnames made hnamed
  -- The second run finds its directories as the first one has left them.
  have hsourceAgain := hkept.directoriesIn.isDirectory hsource
  have hmakeAgain := Workspace.makeChain_of_isDirectory (hkept.directoriesIn.isDirectory hdir)
    job.target.above
  have hrunAgain := run_of_made env hsourceAgain hmakeAgain
  rw [hkept.sources _ hsource] at hrunAgain
  constructor
  · rw [hrun, hrunAgain]
    exact hworkspace
  · rw [hrun, hrunAgain]
    exact hstdout
  · rw [hrun, hrunAgain]
  · rw [hrun, hrunAgain]
    exact congrArg some hsummary
  · rw [hrun, hrunAgain, List.getLast?_concat, List.getLast?_concat,
      Batch.closingEntry_of_summary hsummary]

private theorem run_settles (job : TreeJob) (env : Environment) (w : Workspace)
    (htarget : job.target.bytes ≠ [])
    (hnames : NamesOutputs (job.config env).suffix job.extension) : job.Settles env w := by
  by_cases hsource : w.isDirectory job.source
  · cases hmake : w.makeDirectories job.target with
    | mk made failure =>
      cases failure with
      | some fault => exact settles_of_fault hsource hmake
      | none => exact settles_of_made htarget hnames hsource hmake
  · exact settles_of_not_directory hsource

end TreeJob

namespace Program

variable {args : List Bytes} {verbose : Bool} {job : TreeJob}

private theorem run_of_batch (hargs : Invocation.ofArguments args = .ok ⟨verbose, .batch job⟩)
    (env : Environment) (w : Workspace) :
    (run args env w).workspace = (job.run env w).workspace ∧
      (run args env w).stdout = (job.run env w).stdout ∧
      (run args env w).status = if (job.run env w).problem.isSome then 1 else 0 := by
  simp only [run, hargs, Command.run]
  exact ⟨trivial, trivial, rfl⟩

/-- A batch command that is run once more, right after the first time, changes nothing, prints the
same, ends with the same status and reports the same counts. -/
theorem run_batch_again (hargs : Invocation.ofArguments args = .ok ⟨verbose, .batch job⟩)
    (env : Environment) (hnames : NamesOutputs (job.config env).suffix job.extension)
    (w : Workspace) :
    let first := run args env w
    let again := run args env first.workspace
    again.workspace = first.workspace ∧ again.stdout = first.stdout ∧
      again.status = first.status ∧
      (job.run env first.workspace).summary = (job.run env w).summary ∧
      (job.run env first.workspace).log.getLast? = (job.run env w).log.getLast? := by
  intro first again
  have hsettles := job.run_settles env w (Invocation.paths_of_batch hargs).2 hnames
  obtain ⟨hworkspace, hstdout, hstatus⟩ := run_of_batch hargs env w
  obtain ⟨hworkspaceAgain, hstdoutAgain, hstatusAgain⟩ :=
    run_of_batch hargs env (job.run env w).workspace
  have hagain : again = run args env (job.run env w).workspace :=
    congrArg (run args env) hworkspace
  have hfirst : first.workspace = (job.run env w).workspace := hworkspace
  rw [hagain, hfirst]
  refine ⟨?_, ?_, ?_, hsettles.summary, hsettles.report⟩
  · exact hworkspaceAgain.trans hsettles.workspace
  · exact (hstdoutAgain.trans hsettles.stdout).trans hstdout.symm
  · rw [hstatusAgain, hsettles.stopped]
    exact hstatus.symm

/-- The declarations come among the source files. -/
theorem run_batch_again_twoSources :
    let args : List Bytes := ["batch", "in", "--output-dir", "in"]
    let first := run args (fun _ => none) TreeJob.twoSources
    let again := run args (fun _ => none) first.workspace
    let job : TreeJob := { source := "in", target := "in" }
    Invocation.ofArguments args = .ok ⟨false, .batch job⟩ ∧
      NamesOutputs (job.config fun _ => none).suffix job.extension ∧
      again.workspace = first.workspace ∧ again.stdout = first.stdout ∧
      again.status = first.status ∧
      (job.run (fun _ => none) first.workspace).summary =
        (job.run (fun _ => none) TreeJob.twoSources).summary := by
  intro args first again job
  have hargs : Invocation.ofArguments args = .ok ⟨false, .batch job⟩ := by decide
  have hnames : NamesOutputs (job.config fun _ => none).suffix job.extension :=
    ⟨by decide, by decide, by decide, by decide⟩
  obtain ⟨hworkspace, hstdout, hstatus, hsummary, -⟩ :=
    run_batch_again hargs (fun _ => none) hnames TreeJob.twoSources
  exact ⟨hargs, hnames, hworkspace, hstdout, hstatus, hsummary⟩

end Program
end ClassTypings
