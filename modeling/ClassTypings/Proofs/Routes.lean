import ClassTypings.Program
import ClassTypings.Proofs.BatchRun
import ClassTypings.Proofs.Writes
import ClassTypings.Session
/-!
# Routes to a declaration

A declaration is printed, dumped as an interface, or written: by a command, by a request to a
session or in the turn of an input of a batch. All of them come to one text, which follows from what
the input holds just before.
-/
namespace ClassTypings

namespace FileJob

def config (job : FileJob) (env : Environment) : Config :=
  (Config.ofEnvironment env).override job.overrides

/-- What the job prints before anything else: the interface, if it is asked for. -/
def dumpText (job : FileJob) (config : Config) (w : Workspace) : Text :=
  if job.dump then (interfaceOf config (w.textAt job.input)).toJson ++ ['\n'] else []

/-- What a job comes to that starts in `w`: wherever its declaration appears, it is the one for the
input as it was in `w`. -/
structure Declares (job : FileJob) (config : Config) (w : Workspace) (outcome : Outcome) :
    Prop where
  printed : job.print → w.declarationAt config job.input <:+ outcome.stdout
  /-- The dump is the first that is printed. Its interface has the declaration as its text. -/
  dumped : job.dump → ∃ i : Interface, ∃ rest,
    outcome.stdout = i.toJson ++ '\n' :: rest ∧
      i.render config.banner = w.declarationAt config job.input
  kept : job.print ∨ job.dump ∧ job.output = none → outcome.workspace = w
  /-- A job that does not only print reports in a line whether the declaration was written. -/
  written : ¬ job.print → (job.dump → job.output.isSome) →
    outcome.stdout =
        job.dumpText config w ++ (writtenLine (job.outputPath config) config.suffix ++ ['\n']) →
      outcome.workspace.Holds (job.outputPath config) (w.declarationAt config job.input)
  reported : ¬ job.print → (job.dump → job.output.isSome) →
    ∃ line, outcome.stdout = job.dumpText config w ++ (line ++ ['\n']) ∧
      (line = writtenLine (job.outputPath config) config.suffix ∨
        line = unwrittenLine (job.outputPath config))

section

variable {job : FileJob} {config : Config} {w : Workspace}

private theorem preview_stdout (job : FileJob) (config : Config) (w : Workspace) :
    (job.preview config w).stdout =
      job.dumpText config w ++ if job.print then w.declarationAt config job.input else [] := by
  simp only [preview, Session.textOf_eq_textAt]
  rfl

theorem run_of_not_writes (env : Environment) (w : Workspace) (h : job.writes = false) :
    (job.run env w).workspace = w ∧
      (job.run env w).stdout = job.dumpText (job.config env) w ++
        if job.print then w.declarationAt (job.config env) job.input else [] := by
  have hpreviews : job.previews = true := by
    cases hprint : job.print <;> cases hdump : job.dump <;> simp_all [writes, previews]
  simp only [run, hpreviews, h, Bool.false_eq_true, if_true, if_false]
  exact ⟨rfl, preview_stdout _ _ _⟩

theorem run_of_writes (env : Environment) (w : Workspace) (h : job.writes = true) :
    (job.run env w).workspace = (job.convert (job.config env) w).workspace ∧
      (job.run env w).stdout =
        job.dumpText (job.config env) w ++ (job.convert (job.config env) w).stdout := by
  have hprint : job.print = false := by
    cases hprint : job.print <;> simp_all [writes]
  have hpreview : (if job.previews then job.preview (job.config env) w
      else { workspace := w }).stdout = job.dumpText (job.config env) w := by
    cases hdump : job.dump with
    | false => simp [previews, dumpText, hprint, hdump]
    | true =>
      have hstdout := preview_stdout job (job.config env) w
      simpa [previews, hdump, hprint] using hstdout
  simp only [run, h, if_true]
  exact ⟨rfl, congrArg (· ++ _) hpreview⟩

theorem writes_iff : job.writes ↔ ¬ job.print ∧ (job.dump → job.output.isSome) := by
  cases hprint : job.print <;> cases hdump : job.dump <;> simp [writes, hprint, hdump]

theorem dumpText_of_dump (h : job.dump) :
    job.dumpText config w = (interfaceOf config (w.textAt job.input)).toJson ++ ['\n'] := if_pos h

private theorem exists_interface (h : job.dump) {stdout rest : Text}
    (hstdout : stdout = job.dumpText config w ++ rest) :
    ∃ i : Interface, ∃ rest, stdout = i.toJson ++ '\n' :: rest ∧
      i.render config.banner = w.declarationAt config job.input := by
  refine ⟨interfaceOf config (w.textAt job.input), rest, ?_, rfl⟩
  rw [hstdout, dumpText_of_dump h, List.append_assoc, List.singleton_append]

private theorem convert_stdout (job : FileJob) (config : Config) (w : Workspace) :
    ∃ line, (job.convert config w).stdout = line ++ ['\n'] ∧
      (line = writtenLine (job.outputPath config) config.suffix ∧
          (job.convert config w).workspace.Holds (job.outputPath config)
            (w.declarationAt config job.input) ∨
        line = unwrittenLine (job.outputPath config)) := by
  refine ⟨_, rfl, ?_⟩
  cases hfailure :
      (Session.attempt ⟨w, .files, []⟩ config job.input (job.outputPath config)).failure with
  | none =>
    exact .inl ⟨Attempt.status_eq_writtenLine_iff.mpr hfailure,
      Session.holds_of_attempt rfl hfailure⟩
  | some failure => exact .inr (by simp [Attempt.status, hfailure])

private theorem run_declares (job : FileJob) (env : Environment) (w : Workspace) :
    job.Declares (job.config env) w (job.run env w) := by
  cases hwrites : job.writes with
  | false =>
    obtain ⟨hworkspace, hstdout⟩ := run_of_not_writes env w hwrites
    have hnot : ¬ (¬ job.print ∧ (job.dump → job.output.isSome)) := by
      rw [← writes_iff, hwrites]
      exact nofun
    refine ⟨?_, fun h => exists_interface h hstdout, fun _ => hworkspace, ?_, ?_⟩
    · intro hprint
      rw [hstdout, if_pos hprint]
      exact List.suffix_append _ _
    · exact fun hprint houtput => absurd ⟨hprint, houtput⟩ hnot
    · exact fun hprint houtput => absurd ⟨hprint, houtput⟩ hnot
  | true =>
    obtain ⟨hworkspace, hstdout⟩ := run_of_writes env w hwrites
    obtain ⟨line, hline, hcases⟩ := convert_stdout job (job.config env) w
    obtain ⟨hprint, houtput⟩ := writes_iff.mp hwrites
    rw [hline] at hstdout
    refine ⟨fun h => absurd h hprint, fun h => exists_interface h hstdout, ?_, ?_, ?_⟩
    · rintro (h | ⟨hdump, hnone⟩)
      · exact absurd h hprint
      · simpa [hnone] using houtput hdump
    · intro _ _ hwritten
      rw [hstdout, List.append_cancel_left_eq, List.append_cancel_right_eq] at hwritten
      rw [hworkspace]
      rcases hcases with ⟨-, hholds⟩ | hunwritten
      · exact hholds
      · exact absurd (hwritten.symm.trans hunwritten) (writtenLine_ne_unwrittenLine _ _)
    · exact fun _ _ => ⟨line, hstdout, hcases.imp And.left id⟩

end
end FileJob

namespace Session

/-- What the answers of a session come to. An answer that reports success comes with the declaration
for the input as it was when it was asked for. -/
structure Declares (s : Session) (config : Config) : Prop where
  converted : ∀ input output s',
    s.serve config (.convert input output) = (s', .status (writtenLine output config.suffix)) →
      s'.workspace.Holds output (s.workspace.declarationAt config input)
  attempted : ∀ input output s', s.serve config (.attempt input output) = (s', .done) →
    s'.workspace.Holds output (s.workspace.declarationAt config input)
  /-- Only the request for a declaration without a write wants a text in the input. -/
  answered : ∀ input, (∃ text, s.workspace.Holds input text) →
    s.serve config (.declarationFor input) =
      (s, .declaration (s.workspace.declarationAt config input))
  refused : ∀ input, (¬ ∃ text, s.workspace.Holds input text) →
    ∃ cause, s.serve config (.declarationFor input) = (s, .failed (.unreadable input cause))

private theorem declares_of_files {s : Session} (hfiles : s.destination = .files)
    (config : Config) :
    s.Declares config := by
  refine ⟨?_, ?_, ?_, ?_⟩
  · intro input output s' h
    obtain ⟨rfl, hreply⟩ := Prod.mk.inj h
    exact holds_of_attempt hfiles (Attempt.status_eq_writtenLine_iff.mp (Reply.status.inj hreply))
  · intro input output s' h
    obtain ⟨rfl, hreply⟩ := Prod.mk.inj h
    refine holds_of_attempt hfiles ?_
    cases hfailure : (s.attempt config input output).failure with
    | none => rfl
    | some failure => simp [hfailure] at hreply
  · intro input h
    obtain ⟨text, htext⟩ := h
    simp only [serve, declarationFor, Workspace.read_eq_ok_iff.mpr htext,
      Workspace.declarationAt, Workspace.textAt_of_holds htext]
  · intro input h
    cases hread : s.workspace.read input with
    | ok text => exact absurd ⟨text, Workspace.read_eq_ok_iff.mp hread⟩ h
    | error cause => exact ⟨cause, by simp only [serve, declarationFor, hread]⟩

end Session

namespace Batch

variable {config : Config} {target input : Path} {extension : Text} {b : Batch}

/-- A turn that reports success, by its line or in the count. -/
def Succeeds (b : Batch) (config : Config) (output : Path) (b' : Batch) : Prop :=
  b'.stdout = b.stdout ++ writtenLine output config.suffix ++ ['\n'] ∨
    b'.summary.written = b.summary.written + 1

private theorem holds_of_succeeds (hfiles : b.session.destination = .files) :
    let output := defaultOutput input target config.suffix extension
    b.Succeeds config output (b.turn config target extension input) →
      (b.turn config target extension input).session.workspace.Holds output
        (b.session.workspace.declarationAt config input) := by
  intro output h
  by_cases hclaimed : b.isClaimed output
  · have hturn : b.turn config target extension input = b.skip input output := if_pos hclaimed
    rw [hturn] at h
    rcases h with h | h
    · simp [skip] at h
    · simp [skip] at h
  · have hturn : b.turn config target extension input = b.convert config input output :=
      if_neg hclaimed
    rw [hturn] at h ⊢
    refine Session.holds_of_attempt hfiles ?_
    rcases h with h | h
    · simp only [convert, List.append_assoc, List.append_cancel_left_eq,
        List.append_cancel_right_eq] at h
      exact Attempt.status_eq_writtenLine_iff.mp h
    · cases hfailure : (b.session.attempt config input output).failure with
      | none => rfl
      | some failure => simp [convert, hfailure] at h

end Batch

namespace TreeJob

theorem holds_of_convertAll_concat {job : TreeJob} {config : Config} {w : Workspace}
    {before : List Path} {input : Path}
    (h : (job.convertAll config w before).Succeeds config (job.output config input)
      (job.convertAll config w (before ++ [input]))) :
    (job.convertAll config w (before ++ [input])).session.workspace.Holds (job.output config input)
      ((job.convertAll config w before).session.workspace.declarationAt config input) := by
  rw [convertAll_concat] at h ⊢
  exact Batch.holds_of_succeeds (Batch.foldl_turn_destination before) h

end TreeJob

/-- Whatever the tree, all routes come to the one declaration for what the input holds just before.
In a batch that is when the turn of the input comes. -/
theorem routes_agree (env : Environment) (w : Workspace) :
    (∀ job : FileJob, job.Declares (job.config env) w (job.run env w)) ∧
      (∀ (config : Config) (accepted : List (Path × Text)),
        Session.Declares ⟨w, .files, accepted⟩ config) ∧
      ∀ (job : TreeJob) (before : List Path) (input : Path),
        let config := job.config env
        let now := job.convertAll config w before
        let next := job.convertAll config w (before ++ [input])
        now.Succeeds config (job.output config input) next →
          next.session.workspace.Holds (job.output config input)
            (now.session.workspace.declarationAt config input) :=
  ⟨fun job => job.run_declares env w, fun config _ => Session.declares_of_files rfl config,
    fun _ _ _ => TreeJob.holds_of_convertAll_concat⟩

theorem routes_agree_twoSources :
    let w := TreeJob.twoSources
    let input : Path := "in/A.php"
    let output : Path := "in/A.ts"
    let declaration := declarationOf {} "<?php\nclass A {}\n".toList
    let printing : FileJob := { input, print := true }
    let writing : FileJob := { input, output := some output, dump := true }
    let session : Session := ⟨w, .files, []⟩
    let job : TreeJob := { source := "in", target := "in" }
    (printing.run (fun _ => none) w).workspace = w ∧
      declaration <:+ (printing.run (fun _ => none) w).stdout ∧
      (writing.run (fun _ => none) w).workspace.Holds output declaration ∧
      (session.serve {} (.attempt input output)).1.workspace.Holds output declaration ∧
      session.serve {} (.declarationFor input) = (session, .declaration declaration) ∧
      (job.convertAll (job.config fun _ => none) w [input]).session.workspace.Holds output
        declaration := by
  intro w input output declaration printing writing session job
  obtain ⟨hfile, hsession, hbatch⟩ := routes_agree (fun _ => none) w
  have hprinting := hfile printing
  have hwriting := hfile writing
  refine ⟨hprinting.kept (.inl rfl), hprinting.printed rfl, ?_, ?_, ?_, ?_⟩
  · exact hwriting.written nofun (fun _ => rfl) (by decide +kernel)
  · exact (hsession {} []).attempted input output _ rfl
  · exact (hsession {} []).answered input ⟨_, rfl⟩
  · exact hbatch job [] input (.inr (by decide +kernel))

end ClassTypings
