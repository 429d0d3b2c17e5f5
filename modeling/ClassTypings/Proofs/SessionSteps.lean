import ClassTypings.Proofs.KeptInputs
/-!
# Steps of a session

A session is asked for one thing after another. Each step either leaves everything as it is, or it
is a conversion that reports its success: then one write is accepted, of the declaration, and files
change in one place at most. What the steps do together follows by induction.
-/
namespace ClassTypings

namespace Workspace

/-- The workspace after a text was written to a path, and nothing else was done. -/
structure Written (w : Workspace) (output : Path) (text : Text) (w' : Workspace) : Prop where
  holds : w'.Holds output text
  sameDirectories : w.SameDirectories w'
  elsewhere : ∀ location, w.locate output ≠ .ok location →
    w'.tree.node? location = w.tree.node? location

private theorem written_of_write {w w' : Workspace} {output : Path} {text : Text}
    (h : w.write output text = .ok w') : w.Written output text w' where
  holds := holds_of_write h
  sameDirectories := sameDirectories_of_put h
  elsewhere _ := node?_of_put_elsewhere h

private theorem exists_put {w w' : Workspace} {p : Path} {content : Content}
    (h : w.put p content = .ok w') (new : Content) : ∃ w', w.put p new = .ok w' := by
  obtain ⟨dir, name, hlast, hslash, hsize, hfree, -⟩ := put_eq_ok h
  refine ⟨{ w with tree := w.tree.place name dir (.file new) }, ?_⟩
  simp [put, hlast, hslash, Nat.not_lt.mpr hsize, hfree]

end Workspace

/-- The input and the output of a request that asks for a write. -/
def Request.conversion? : Request → Option (Path × Path)
  | .convert input output => some (input, output)
  | .attempt input output => some (input, output)
  | _ => none

def Reply.ReportsWrite (config : Config) (output : Path) (reply : Reply) : Prop :=
  reply = .status (writtenLine output config.suffix) ∨ reply = .done

/-- The reply reports a failure, or that the output was not written. -/
def Reply.ReportsFailure (request : Request) (reply : Reply) : Prop :=
  (∃ failure, reply = .failed failure) ∨
    ∃ input output, request = .convert input output ∧ reply = .status (unwrittenLine output)

namespace Session

/-- The session after its destination has accepted one write. A destination in memory touches no
file. -/
structure Accepts (s : Session) (output : Path) (text : Text) (s' : Session) : Prop where
  destination : s'.destination = s.destination
  accepted : s'.accepted = s.accepted ++ [(output, text)]
  files : s.destination = .files → s.workspace.Written output text s'.workspace
  memory : s.destination ≠ .files → s'.workspace = s.workspace

/-- The destination takes what is written to a path, whatever it is. -/
def Takes (s : Session) (output : Path) : Prop := ∀ text, ∃ s', s.write output text = .ok s'

/-- What a session does when it is asked for something. -/
structure Atomic (config : Config) (s : Session) (request : Request) : Prop where
  failed : (s.serve config request).2.ReportsFailure request → (s.serve config request).1 = s
  written : ∀ input output, request.conversion? = some (input, output) →
    (s.serve config request).2.ReportsWrite config output →
      s.Accepts output (s.workspace.declarationAt config input) (s.serve config request).1
  other : request.conversion? = none → (s.serve config request).1 = s
  /-- Whether a conversion reports a write or a failure depends on the destination alone. It does
  not matter what the input holds and whether it can be read. -/
  reported : ∀ input output, request.conversion? = some (input, output) →
    ((s.serve config request).2.ReportsWrite config output ↔ s.Takes output) ∧
      ((s.serve config request).2.ReportsFailure request ↔ ¬ s.Takes output)
  /-- Both ways to ask for a conversion succeed in the same states. -/
  agree : ∀ input output,
    (s.serve config (.convert input output)).2 = .status (writtenLine output config.suffix) ↔
      (s.serve config (.attempt input output)).2 = .done

section Serve

variable {s s' : Session} {config : Config} {input output : Path} {text : Text}

private theorem accepts_of_write (h : s.write output text = .ok s') : s.Accepts output text s' := by
  rcases write_cases h with ⟨hfiles, w, hwrite, rfl⟩ | ⟨hmemory, rfl⟩
  · exact ⟨rfl, rfl, fun _ => Workspace.written_of_write hwrite, fun h => absurd hfiles h⟩
  · exact ⟨rfl, rfl, fun hfiles => absurd hfiles hmemory, fun _ => rfl⟩

private theorem takes_of_write (h : s.write output text = .ok s') : s.Takes output := by
  intro new
  cases hdestination : s.destination with
  | files =>
    obtain ⟨w', hput⟩ := Workspace.exists_put (workspace_write hdestination h) (.text new)
    exact ⟨_, by simp only [write, hdestination, Workspace.write, hput]; rfl⟩
  | memory refusal =>
    cases hrefusal : refusal output with
    | none => exact ⟨_, by simp only [write, hdestination, hrefusal]; rfl⟩
    | some fault => simp [write, hdestination, hrefusal] at h

private theorem failure_eq_none_iff :
    (s.attempt config input output).failure = none ↔ s.Takes output := by
  constructor
  · intro h
    rcases attempt_cases s config input output with ⟨s', hwrite, -, -⟩ | ⟨fault, -, hfailure⟩
    · exact takes_of_write hwrite
    · simp [hfailure] at h
  · intro h
    obtain ⟨s', hwrite⟩ := h (declarationOf config (s.textOf input))
    simp [attempt, hwrite]

private theorem session_of_failure (h : (s.attempt config input output).failure ≠ none) :
    (s.attempt config input output).session = s := by
  rcases attempt_cases s config input output with ⟨s', -, -, hnone⟩ | ⟨fault, hsession, -⟩
  · exact absurd hnone h
  · exact hsession

private theorem accepts_of_attempt (h : (s.attempt config input output).failure = none) :
    s.Accepts output (s.workspace.declarationAt config input)
      (s.attempt config input output).session := by
  rcases attempt_cases s config input output with ⟨s', hwrite, hsession, -⟩ | ⟨fault, -, hfailure⟩
  · rw [hsession]
    exact accepts_of_write hwrite
  · simp [hfailure] at h

private theorem reports_convert (s : Session) (config : Config) (input output : Path) :
    ((s.serve config (.convert input output)).2.ReportsWrite config output ↔
        (s.attempt config input output).failure = none) ∧
      ((s.serve config (.convert input output)).2.ReportsFailure (.convert input output) ↔
        (s.attempt config input output).failure ≠ none) := by
  have hlines := writtenLine_ne_unwrittenLine output config.suffix
  cases hfailure : (s.attempt config input output).failure with
  | none =>
    simp [serve, Reply.ReportsWrite, Reply.ReportsFailure, Attempt.status, hfailure, hlines]
  | some failure =>
    simp [serve, Reply.ReportsWrite, Reply.ReportsFailure, Attempt.status, hfailure, hlines.symm]

private theorem reports_attempt (s : Session) (config : Config) (input output : Path) :
    ((s.serve config (.attempt input output)).2.ReportsWrite config output ↔
        (s.attempt config input output).failure = none) ∧
      ((s.serve config (.attempt input output)).2.ReportsFailure (.attempt input output) ↔
        (s.attempt config input output).failure ≠ none) := by
  cases hfailure : (s.attempt config input output).failure <;>
    simp [serve, Reply.ReportsWrite, Reply.ReportsFailure, hfailure]

private theorem serve_conversion (s : Session) (config : Config) {request : Request}
    (h : request.conversion? = some (input, output)) :
    (s.serve config request).1 = (s.attempt config input output).session ∧
      ((s.serve config request).2.ReportsWrite config output ↔
        (s.attempt config input output).failure = none) ∧
      ((s.serve config request).2.ReportsFailure request ↔
        (s.attempt config input output).failure ≠ none) := by
  cases request with
  | convert input' output' =>
    obtain ⟨rfl, rfl⟩ : input' = input ∧ output' = output := by
      simpa [Request.conversion?] using h
    exact ⟨rfl, reports_convert s config input' output'⟩
  | attempt input' output' =>
    obtain ⟨rfl, rfl⟩ : input' = input ∧ output' = output := by
      simpa [Request.conversion?] using h
    exact ⟨rfl, reports_attempt s config input' output'⟩
  | _ => simp [Request.conversion?] at h

private theorem serve_other {request : Request} (h : request.conversion? = none) :
    (s.serve config request).1 = s := by
  cases request with
  | convert input output => simp [Request.conversion?] at h
  | attempt input output => simp [Request.conversion?] at h
  | declarationFor input =>
    simp only [serve]
    split <;> rfl
  | _ => rfl

private theorem serve_atomic (s : Session) (config : Config) (request : Request) :
    s.Atomic config request := by
  refine ⟨fun hreport => ?_, fun input output hasked hreport => ?_, serve_other,
    fun input output hasked => ?_, fun input output => ?_⟩
  · cases hasked : request.conversion? with
    | none => exact serve_other hasked
    | some paths =>
      obtain ⟨hsession, -, hfailure⟩ := serve_conversion s config hasked
      rw [hsession]
      exact session_of_failure (hfailure.mp hreport)
  · obtain ⟨hsession, hwrite, -⟩ := serve_conversion s config hasked
    rw [hsession]
    exact accepts_of_attempt (hwrite.mp hreport)
  · obtain ⟨-, hwrite, hfailure⟩ := serve_conversion s config hasked
    exact ⟨hwrite.trans failure_eq_none_iff, hfailure.trans (not_congr failure_eq_none_iff)⟩
  · have hconvert := (reports_convert s config input output).1
    have hattempt := (reports_attempt s config input output).1
    have hstatus : (s.serve config (.convert input output)).2 ≠ .done := nofun
    have hdone : (s.serve config (.attempt input output)).2 ≠
        .status (writtenLine output config.suffix) := by
      cases hfailure : (s.attempt config input output).failure <;> simp [serve, hfailure]
    rw [Reply.ReportsWrite, or_iff_left hstatus] at hconvert
    rw [Reply.ReportsWrite, or_iff_right hdone] at hattempt
    exact hconvert.trans hattempt.symm

end Serve

/-- A request, and what a destination in memory refuses while the request is served. -/
structure Step where
  request : Request
  refusal : Path → Option Fault

/-- The session whose memory, if it writes there, refuses something else from now on. -/
def refusing (s : Session) (refusal : Path → Option Fault) : Session :=
  match s.destination with
  | .files => s
  | .memory _ => { s with destination := .memory refusal }

/-- The session after steps, of which each may meet another refusal. -/
def after (s : Session) (config : Config) (steps : List Step) : Session :=
  steps.foldl (fun s step => ((s.refusing step.refusal).serve config step.request).1) s

section After

variable {s s' : Session} {config : Config} {steps : List Step} {step : Step} {location : Location}

@[simp] theorem refusing_workspace (s : Session) (refusal : Path → Option Fault) :
    (s.refusing refusal).workspace = s.workspace := by
  unfold refusing
  split <;> rfl

@[simp] theorem refusing_accepted (s : Session) (refusal : Path → Option Fault) :
    (s.refusing refusal).accepted = s.accepted := by
  unfold refusing
  split <;> rfl

private theorem after_concat (s : Session) (config : Config) (steps : List Step) (step : Step) :
    s.after config (steps ++ [step]) =
      (((s.after config steps).refusing step.refusal).serve config step.request).1 := by
  simp only [after, List.foldl_append, List.foldl_cons, List.foldl_nil]

private theorem serve_cases (s : Session) (config : Config) (request : Request) :
    (∃ input output, request.conversion? = some (input, output) ∧
      s.Accepts output (s.workspace.declarationAt config input) (s.serve config request).1) ∨
    (s.serve config request).1 = s := by
  have hatomic := serve_atomic s config request
  cases hasked : request.conversion? with
  | none => exact .inr (hatomic.other hasked)
  | some paths =>
    obtain ⟨hwrite, hfailure⟩ := hatomic.reported paths.1 paths.2 hasked
    by_cases htakes : s.Takes paths.2
    · exact .inl ⟨_, _, rfl, hatomic.written _ _ hasked (hwrite.mpr htakes)⟩
    · exact .inr (hatomic.failed (hfailure.mpr htakes))

private theorem Accepts.sameDirectories {output : Path} {text : Text}
    (h : s.Accepts output text s') :
    s.workspace.SameDirectories s'.workspace := by
  by_cases hfiles : s.destination = .files
  · exact (h.files hfiles).sameDirectories
  · rw [h.memory hfiles]
    exact .refl _

private theorem Accepts.elsewhere {output : Path} {text : Text} (h : s.Accepts output text s')
    (hlocation : s.workspace.locate output ≠ .ok location) :
    s'.workspace.tree.node? location = s.workspace.tree.node? location := by
  by_cases hfiles : s.destination = .files
  · exact (h.files hfiles).elsewhere location hlocation
  · rw [h.memory hfiles]

/-- What steps leave behind all together. -/
structure Leaves (s : Session) (steps : List Step) (s' : Session) : Prop where
  sameDirectories : s.workspace.SameDirectories s'.workspace
  kept : ∀ location,
    (∀ step ∈ steps, ∀ input output, step.request.conversion? = some (input, output) →
      s.workspace.locate output ≠ .ok location) →
        s'.workspace.tree.node? location = s.workspace.tree.node? location
  /-- The writes that were accepted are among those that were asked for, in order. -/
  accepted : ∃ writes, s'.accepted = s.accepted ++ writes ∧
    (writes.map Prod.fst).Sublist
      (steps.filterMap fun step => step.request.conversion?.map Prod.snd)

private theorem Leaves.refusing (h : s.Leaves steps s') (refusal : Path → Option Fault) :
    s.Leaves steps (s'.refusing refusal) := by
  refine ⟨?_, ?_, ?_⟩
  · rw [refusing_workspace]
    exact h.sameDirectories
  · rw [refusing_workspace]
    exact h.kept
  · rw [refusing_accepted]
    exact h.accepted

private theorem Leaves.concat_of_accepts {s'' : Session} {input output : Path} {text : Text}
    (h : s.Leaves steps s') (hasked : step.request.conversion? = some (input, output))
    (haccepts : s'.Accepts output text s'') : s.Leaves (steps ++ [step]) s'' := by
  refine ⟨h.sameDirectories.trans haccepts.sameDirectories, fun location hfree => ?_, ?_⟩
  · have houtput := hfree step (by simp) input output hasked
    rw [haccepts.elsewhere fun hlocate => houtput (h.sameDirectories.locate_iff.mp hlocate)]
    exact h.kept location fun step' hstep => hfree step' (List.mem_append_left _ hstep)
  · obtain ⟨writes, hwrites, hsub⟩ := h.accepted
    refine ⟨writes ++ [(output, text)], by rw [haccepts.accepted, hwrites, List.append_assoc], ?_⟩
    rw [List.map_append, List.filterMap_append]
    exact hsub.append (by simp [hasked])

private theorem Leaves.concat (h : s.Leaves steps s') (step : Step) : s.Leaves
    (steps ++ [step]) s' := by
  refine ⟨h.sameDirectories, fun location hfree => ?_, ?_⟩
  · exact h.kept location fun step' hstep => hfree step' (List.mem_append_left _ hstep)
  · obtain ⟨writes, hwrites, hsub⟩ := h.accepted
    refine ⟨writes, hwrites, hsub.trans ?_⟩
    rw [List.filterMap_append]
    exact List.sublist_append_left _ _

private theorem after_leaves (s : Session) (config : Config) (steps : List Step) :
    s.Leaves steps (s.after config steps) := by
  -- What is left is told from the start of the steps, so that a step is added at their end.
  induction steps using List.reverseRecOn with
  | nil => exact ⟨.refl _, fun _ _ => rfl, [], (List.append_nil _).symm, List.Sublist.refl _⟩
  | append_singleton steps step ih =>
    have hnow := ih.refusing step.refusal
    rw [after_concat]
    rcases serve_cases ((s.after config steps).refusing step.refusal) config step.request with
      ⟨input, output, hasked, haccepts⟩ | hsame
    · exact hnow.concat_of_accepts hasked haccepts
    · rw [hsame]
      exact hnow.concat step

/-- Whatever a session was asked for before and whatever its destination refuses, each step is
atomic: it accepts one write and says so, or it leaves everything as it is. -/
theorem steps_atomic (s : Session) (config : Config) (steps : List Step) :
    (∀ step : Step,
      ((s.after config steps).refusing step.refusal).Atomic config step.request) ∧
      s.Leaves steps (s.after config steps) :=
  ⟨fun step => serve_atomic _ config step.request, after_leaves s config steps⟩

/-- An input that is missing is written as an empty text. -/
theorem steps_atomic_missing :
    let s : Session := ⟨TreeJob.twoSources, .files, []⟩
    let missing : Path := "in/None.php"
    let output : Path := "in/A.ts"
    s.workspace.read missing = .error .noEntry ∧ s.Takes output ∧
      s.Accepts output (declarationOf {} []) (s.serve {} (.attempt missing output)).1 := by
  intro s missing output
  have hatomic := (steps_atomic s {} []).1 ⟨.attempt missing output, fun _ => none⟩
  have hreport : (s.serve {} (.attempt missing output)).2.ReportsWrite {} output := .inr rfl
  refine ⟨rfl, (hatomic.reported missing output rfl).1.mp hreport, ?_⟩
  exact hatomic.written missing output rfl hreport

end After
end Session
end ClassTypings
