import ClassTypings.Batch
import ClassTypings.Proofs.Attempts
/-!
# Batch runs

What a batch leaves behind: the declaration of the first input shown with each stem, where a file
can come, and nothing else but the output directory. The proof follows the inputs turn by turn.
-/
namespace ClassTypings

/-- The inputs that are the first shown with their stem, in order. -/
def leaders : List Path → List Path
  | [] => []
  | p :: inputs => p :: (leaders inputs).filter (shownStem · ≠ shownStem p)

theorem leaders_sublist (inputs : List Path) : (leaders inputs).Sublist inputs := by
  induction inputs with
  | nil => exact .slnil
  | cons p inputs ih => exact (List.filter_sublist.trans ih).cons_cons p

theorem exists_mem_leaders_iff {inputs : List Path} {stem : Text} :
    (∃ p ∈ leaders inputs, shownStem p = stem) ↔ ∃ p ∈ inputs, shownStem p = stem := by
  constructor
  · intro h
    obtain ⟨p, hp, hstem⟩ := h
    exact ⟨p, (leaders_sublist inputs).subset hp, hstem⟩
  · intro h
    induction inputs with
    | nil => simp at h
    | cons q inputs ih =>
      by_cases hq : shownStem q = stem
      · exact ⟨q, List.mem_cons_self, hq⟩
      · obtain ⟨p, hp, hstem⟩ := ih (by simpa [hq] using h)
        refine ⟨p, List.mem_cons_of_mem _ (List.mem_filter.mpr ⟨hp, ?_⟩), hstem⟩
        simpa [hstem] using Ne.symm hq

theorem leaders_concat (inputs : List Path) (p : Path) :
    leaders (inputs ++ [p]) =
      if ∃ q ∈ inputs, shownStem q = shownStem p then leaders inputs else leaders inputs ++ [p] := by
  induction inputs with
  | nil => simp [leaders]
  | cons q inputs ih =>
    rw [List.cons_append, leaders, ih, leaders]
    by_cases hq : shownStem q = shownStem p
    · have hfirst : ∃ r ∈ q :: inputs, shownStem r = shownStem p := ⟨q, List.mem_cons_self, hq⟩
      rw [if_pos hfirst]
      split <;> simp [hq]
    · have hrest : (∃ r ∈ q :: inputs, shownStem r = shownStem p) ↔
          ∃ r ∈ inputs, shownStem r = shownStem p := by
        simp [hq]
      simp only [hrest]
      split
      · rfl
      · simp [List.filter_append, Ne.symm hq]

private theorem mem_leaders_iff {inputs : List Path} {p : Path} :
    p ∈ leaders inputs ↔
      ∃ before after, inputs = before ++ p :: after ∧ ∀ q ∈ before, shownStem q ≠ shownStem p := by
  induction inputs with
  | nil => simp [leaders]
  | cons r inputs ih =>
    rw [leaders, List.mem_cons, List.mem_filter, ih]
    constructor
    · rintro (rfl | ⟨⟨before, after, rfl, hbefore⟩, hne⟩)
      · exact ⟨[], inputs, rfl, nofun⟩
      · refine ⟨r :: before, after, rfl, ?_⟩
        intro q hq
        rcases List.mem_cons.mp hq with rfl | hq
        · exact fun heq => (of_decide_eq_true hne) heq.symm
        · exact hbefore q hq
    · rintro ⟨before, after, hsplit, hbefore⟩
      cases before with
      | nil => exact .inl (List.cons.inj hsplit).1.symm
      | cons q before =>
        obtain ⟨rfl, rfl⟩ := List.cons.inj hsplit
        refine .inr ⟨⟨before, after, rfl, fun q hq => hbefore q (List.mem_cons_of_mem _ hq)⟩, ?_⟩
        exact decide_eq_true fun heq => hbefore r List.mem_cons_self heq.symm

namespace TreeJob

/-- The line that is printed about an input whose output is free. -/
def statusLine (job : TreeJob) (config : Config) (w : Workspace) (input : Path) : Text :=
  (if w.takesFile (job.output config input) then
    writtenLine (job.output config input) config.suffix
  else unwrittenLine (job.output config input)) ++ ['\n']

end TreeJob

namespace Batch

open TreeJob

section Run

variable {job : TreeJob} {config : Config} {w : Workspace} {dir : Location}
  {done inputs : List Path} {b : Batch} {input : Path}

/-- The batch after the turns of some inputs. -/
structure After (job : TreeJob) (config : Config) (w : Workspace) (dir : Location)
    (done : List Path) (b : Batch) : Prop where
  attempted : Session.Attempted job config w dir (leaders done) b.session
  claimed : b.claimed = (leaders done).map (job.output config)
  stdout : b.stdout = (leaders done).flatMap (job.statusLine config w)
  written : b.summary.written = (leaders done).countP fun p => w.takesFile (job.output config p)
  failed : b.summary.failed = (leaders done).countP fun p => !w.takesFile (job.output config p)
  skipped : b.summary.skipped + (leaders done).length = done.length

private theorem after_nil (job : TreeJob) (config : Config) (w : Workspace) (dir : Location) :
    After job config w dir [] { session := ⟨w, .files, []⟩ } :=
  ⟨⟨rfl, rfl, nofun, nofun, fun _ _ => rfl⟩, rfl, rfl, rfl, rfl, rfl⟩

theorem After.isClaimed_iff (h : After job config w dir done b) (hready : Ready job config w dir)
    (hinput : input.Named) :
    b.isClaimed (job.output config input) ↔ ∃ p ∈ done, shownStem p = shownStem input := by
  have hsame : ∀ p ∈ leaders done,
      ((job.output config p).same (job.output config input) ↔ shownStem p = shownStem input) := by
    intro p hp
    have hnamed := h.attempted.named p hp
    have hplaces := Path.same_join_iff job.target (hready.isPlain hnamed) (hready.isPlain hinput)
    rw [output, output, defaultOutput, defaultOutput, hplaces, Text.bytes_injective.eq_iff]
    exact outputName_eq_iff
  rw [isClaimed, h.claimed, List.any_map, List.any_eq_true, ← exists_mem_leaders_iff]
  constructor
  · intro k
    obtain ⟨p, hp, hclaims⟩ := k
    exact ⟨p, hp, (hsame p hp).mp hclaims⟩
  · intro k
    obtain ⟨p, hp, hstem⟩ := k
    exact ⟨p, hp, (hsame p hp).mpr hstem⟩

theorem After.skip (h : After job config w dir done b)
    (hclaimed : ∃ p ∈ done, shownStem p = shownStem input) (output : Path) :
    After job config w dir (done ++ [input]) (b.skip input output) := by
  have hleaders : leaders (done ++ [input]) = leaders done := by
    rw [leaders_concat, if_pos hclaimed]
  constructor <;> simp only [hleaders, Batch.skip]
  · exact h.attempted
  · exact h.claimed
  · exact h.stdout
  · exact h.written
  · exact h.failed
  · have := h.skipped
    simp only [List.length_append, List.length_singleton]
    omega

private theorem summary_convert (b : Batch) (config : Config) (input output : Path) {written : Bool}
    (hwritten : (b.session.attempt config input output).failure.isNone = written) :
    (b.convert config input output).summary =
      { b.summary with
        written := b.summary.written + written.toNat
        failed := b.summary.failed + (!written).toNat } := by
  simp only [Batch.convert, hwritten]
  cases written <;> rfl

theorem After.convert (h : After job config w dir done b) (hready : Ready job config w dir)
    {name : Bytes} {location : Location} (hinput : w.IsSource input name location)
    (hfree : ¬ ∃ p ∈ done, shownStem p = shownStem input) :
    After job config w dir (done ++ [input])
      (b.convert config input (job.output config input)) := by
  have hleaders : leaders (done ++ [input]) = leaders done ++ [input] := by
    rw [leaders_concat, if_neg hfree]
  obtain ⟨hattempted, hfailure⟩ := h.attempted.attempt hready hinput
    fun p hp hstem => hfree (exists_mem_leaders_iff.mp ⟨p, hp, hstem⟩)
  have hstatus : (b.session.attempt config input (job.output config input)).status config
      (job.output config input) ++ ['\n'] = job.statusLine config w input := by
    unfold Attempt.status statusLine
    split
    · rename_i hnone
      rw [if_pos (hfailure.mp hnone)]
    · rename_i hsome
      rw [if_neg fun htakes => by simp [hfailure.mpr htakes] at hsome]
  have hnone : (b.session.attempt config input (job.output config input)).failure.isNone =
      w.takesFile (job.output config input) := by
    rw [Bool.eq_iff_iff, Option.isNone_iff_eq_none, hfailure]
  have hsummary := summary_convert b config input (job.output config input) hnone
  constructor
  · exact hleaders ▸ hattempted
  · simp [Batch.convert, hleaders, h.claimed]
  · simp only [Batch.convert, hleaders, List.flatMap_append]
    rw [List.append_assoc, hstatus, h.stdout]
    simp
  · rw [hsummary, hleaders, List.countP_append, h.written, List.countP_singleton]
    cases w.takesFile (job.output config input) <;> rfl
  · rw [hsummary, hleaders, List.countP_append, h.failed, List.countP_singleton]
    cases w.takesFile (job.output config input) <;> rfl
  · have := h.skipped
    simp only [hsummary, hleaders, List.length_append, List.length_singleton]
    omega

theorem After.turn (h : After job config w dir done b) (hready : Ready job config w dir)
    {name : Bytes} {location : Location} (hinput : w.IsSource input name location) :
    After job config w dir (done ++ [input]) (b.turn config job.target job.extension input) := by
  have hclaimed := h.isClaimed_iff hready hinput.named
  have hout : defaultOutput input job.target config.suffix job.extension =
    job.output config input := rfl
  simp only [Batch.turn, hout]
  split
  · exact h.skip (hclaimed.mp ‹_›) _
  · exact h.convert hready hinput fun k => ‹¬ _› (hclaimed.mpr k)

private theorem After.foldl_turn (h : After job config w dir done b)
    (hready : Ready job config w dir)
    (hinputs : ∀ p ∈ inputs, ∃ name location, w.IsSource p name location) :
    After job config w dir (done ++ inputs)
      (inputs.foldl (Batch.turn config job.target job.extension) b) := by
  induction inputs generalizing done b with
  | nil => simpa using h
  | cons input inputs ih =>
    obtain ⟨name, location, hinput⟩ := hinputs input List.mem_cons_self
    rw [List.foldl_cons, List.append_cons]
    exact ih (h.turn hready hinput) fun p hp => hinputs p (List.mem_cons_of_mem _ hp)

theorem after_convertAll (hready : Ready job config w dir)
    (hinputs : ∀ p ∈ inputs, ∃ name location, w.IsSource p name location) :
    After job config w dir inputs (job.convertAll config w inputs) := by
  have h := (after_nil job config w dir).foldl_turn hready hinputs
  rwa [List.nil_append] at h

private theorem skipped_concat_iff (hready : Ready job config w dir)
    (hinputs : ∀ p ∈ done ++ [input], ∃ name location, w.IsSource p name location) :
    (job.convertAll config w (done ++ [input])).summary.skipped =
        (job.convertAll config w done).summary.skipped + 1 ↔
      ∃ p ∈ done, shownStem p = shownStem input := by
  have hbefore := (after_convertAll hready fun p hp =>
    hinputs p (List.mem_append_left _ hp)).skipped
  have hafter := (after_convertAll hready hinputs).skipped
  rw [leaders_concat, List.length_append, List.length_singleton] at hafter
  by_cases h : ∃ p ∈ done, shownStem p = shownStem input
  · rw [if_pos h] at hafter
    exact iff_of_true (by omega) h
  · rw [if_neg h, List.length_append, List.length_singleton] at hafter
    exact iff_of_false (by omega) h

end Run
end Batch

namespace TreeJob

/-- What a batch leaves behind that starts in `w` and has made the directory for its outputs in
`made`. -/
structure Leaves (job : TreeJob) (config : Config) (w made : Workspace) (outcome : Outcome) :
    Prop where
  problem : outcome.problem = none
  /-- The first input shown with a stem has its declaration written, where a file can come. -/
  declarations : ∀ before input after, w.sources job.source = before ++ input :: after →
    (∀ earlier ∈ before, shownStem earlier ≠ shownStem input) →
    made.takesFile (job.output config input) →
      outcome.workspace.node? (job.output config input) =
        .ok (.file (.text (declarationOf config (Session.textOf { workspace := w } input))))
  /-- The text of an input is the one its file holds. It is empty when it cannot be read: when the
  file holds no text, or the path of the input is too long. -/
  texts : ∀ dir names content, w.Leads job.source dir →
    w.tree.node? (names ++ dir) = some (.file content) →
      Session.textOf { workspace := w } (job.source.below names) =
        if (job.source.below names).bytes.length ≤ Workspace.maxPathSize then content.legible
        else []
  /-- Everything else is as it was, a directory in the place of an output among it, but for the
  directory that was made and those above it. -/
  others : ∀ location,
    (∀ input ∈ w.sources job.source, made.takesFile (job.output config input) →
      made.locate (job.output config input) ≠ .ok location) →
    outcome.workspace.tree.node? location = w.tree.node? location ∨
      w.tree.node? location = none ∧
        outcome.workspace.tree.node? location = some .directory ∧
        ∃ p ∈ job.target :: job.target.above, outcome.workspace.locate p = .ok location
  inputs : ∀ input ∈ w.sources job.source, outcome.workspace.node? input = w.node? input
  stdout : outcome.stdout =
    (leaders (w.sources job.source)).flatMap (job.statusLine config made)
  /-- An input is skipped when an earlier one is shown with its stem. -/
  skips : ∀ before input after, w.sources job.source = before ++ input :: after →
    ((job.convertAll config made (before ++ [input])).summary.skipped =
        (job.convertAll config made before).summary.skipped + 1 ↔
      ∃ earlier ∈ before, shownStem earlier = shownStem input)
  summary : outcome.summary = some (job.convertAll config made (w.sources job.source)).summary
  written : (job.convertAll config made (w.sources job.source)).summary.written =
    (leaders (w.sources job.source)).countP fun input => made.takesFile (job.output config input)
  failed : (job.convertAll config made (w.sources job.source)).summary.failed =
    (leaders (w.sources job.source)).countP fun input => !made.takesFile (job.output config input)
  skipped : (job.convertAll config made (w.sources job.source)).summary.skipped +
    (leaders (w.sources job.source)).length = (w.sources job.source).length
  /-- The last entry of the log reports the counts. -/
  log : outcome.log.getLast? =
    some ((job.convertAll config made (w.sources job.source)).closingEntry
      (w.sources job.source) job.target)

def config (job : TreeJob) (env : Environment) : Config :=
  (Config.ofEnvironment env).override job.overrides

section

variable {job : TreeJob} {w made : Workspace}

theorem run_of_not_directory (env : Environment) (h : ¬ w.isDirectory job.source) :
    job.run env w = { workspace := w, problem := some (.notDirectory job.source) } := by
  simp [run, h]

theorem run_of_fault (env : Environment) (h : w.isDirectory job.source) {fault : Fault}
    (hmake : w.makeDirectories job.target = (made, some fault)) :
    job.run env w =
      { workspace := made, problem := some (.noOutputDirectory job.target fault) } := by
  simp [run, h, hmake]

theorem run_of_made (env : Environment) (h : w.isDirectory job.source)
    (hmake : w.makeDirectories job.target = (made, none)) :
    let inputs := made.sources job.source
    let b := job.convertAll (job.config env) made inputs
    job.run env w =
      { workspace := b.session.workspace
        stdout := b.stdout
        log := (made.closedDirectories job.source).map Batch.closedEntry ++
          Batch.openingEntry inputs job.source :: b.log ++ [b.closingEntry inputs job.target]
        summary := some b.summary } := by
  simp [run, config, h, hmake]

end

/-- What a batch leaves behind, for every tree, every directory of inputs and every directory for
outputs that can be made. -/
theorem run_leaves {job : TreeJob} {env : Environment} {w made : Workspace}
    (hsource : w.isDirectory job.source) (htarget : job.target.bytes ≠ [])
    (hmade : w.makeDirectories job.target = (made, none))
    (hnames : NamesOutputs (job.config env).suffix job.extension) :
    Leaves job (job.config env) w made (job.run env w) := by
  obtain ⟨hgrows, hdir⟩ := Workspace.makeDirectories_eq htarget hmade
  obtain ⟨dir, htargetDir⟩ := Workspace.exists_leads_iff.mpr hdir
  have hready : Ready job _ made dir := ⟨htargetDir, hnames⟩
  have hinputs : ∀ p ∈ w.sources job.source, ∃ name location, made.IsSource p name location :=
    fun p hp => hgrows.exists_isSource hsource hp
  have hkept : ∀ p ∈ w.sources job.source, made.node? p = w.node? p :=
    fun p hp => hgrows.node?_eq_of_mem_sources hsource hp
  have hafter := Batch.after_convertAll hready hinputs
  have hattempted := hafter.attempted
  rw [run_of_made env hsource hmade, hgrows.sources_eq hsource]
  refine
    { problem := rfl
      declarations := ?_
      texts := fun _ _ _ hsource hfile => Session.textOf_below hsource hfile
      others := ?_
      inputs := ?_
      stdout := hafter.stdout
      skips := ?_
      summary := rfl
      written := hafter.written
      failed := hafter.failed
      skipped := hafter.skipped
      log := List.getLast?_concat }
  · intro before input after hsplit hfirst htakes
    have hinput := mem_leaders_iff.mpr ⟨before, after, hsplit, hfirst⟩
    have hlocate := (hattempted.directoriesIn hready).locate
      (hready.locate_output (hattempted.named input hinput) htakes)
    have hmem := (leaders_sublist _).subset hinput
    have htext : Session.textOf { workspace := made } input =
        Session.textOf { workspace := w } input := by
      simp only [Session.textOf, Workspace.read, hkept input hmem]
    rw [Workspace.node?_eq_ok_iff_of_locate hlocate, hattempted.outputs input hinput htakes, htext]
  · intro location hlocation
    rw [hattempted.others location]
    · rcases hgrows.node?_eq_or location with hsame | ⟨hnone, hnew, p, hp, hlocate⟩
      · exact .inl hsame
      · exact .inr ⟨hnone, hnew, p, hp, (hattempted.directoriesIn hready).locate hlocate⟩
    · intro input hinput htakes heq
      refine hlocation input ((leaders_sublist _).subset hinput) htakes ?_
      rw [heq]
      exact hready.locate_output (hattempted.named input hinput) htakes
  · intro input hinput
    obtain ⟨name, location, hmadeInput⟩ := hinputs input hinput
    rw [← hkept input hinput]
    exact hattempted.node?_source hready hmadeInput
  · intro before input after hsplit
    refine Batch.skipped_concat_iff hready fun p hp => hinputs p ?_
    rw [hsplit, List.append_cons]
    exact List.mem_append_left _ hp

/-- Two source files of one stem, one of them farther below. -/
def twoSources : Workspace where
  tree := (((FileTree.empty.place "in" [] .directory).place "A.php" ["in"]
    (.file (.text "<?php\nclass A {}\n".toList))).place "b" ["in"] .directory).place
      "A.php" ["b", "in"] (.file (.text "<?php\nclass B {}\n".toList))
  home := []

private theorem sources_twoSources :
    twoSources.sources "in" = ["in/A.php", "in/b/A.php"] := by
  have hlocate : twoSources.locate "in" = .ok ["in"] := rfl
  exact Workspace.sources_of_found hlocate (by decide +kernel) (by decide)

theorem run_leaves_twoSources :
    let job : TreeJob := { source := "in", target := "out" }
    let outcome := job.run (fun _ => none) twoSources
    outcome.workspace.node? "out/A.ts" =
        .ok (.file (.text (declarationOf {} "<?php\nclass A {}\n".toList))) ∧
      outcome.stdout = "out/A.ts created\n".toList := by
  intro job outcome
  have h : Leaves job {} twoSources _ outcome :=
    @run_leaves job (fun _ => none) twoSources _ (by decide) (by decide) rfl
      ⟨by decide, by decide, by decide, by decide⟩
  refine ⟨?_, ?_⟩
  · exact h.declarations [] "in/A.php" _ sources_twoSources nofun (by decide)
  · rw [h.stdout, sources_twoSources]
    decide

/-- A job whose suffix makes names that are too long. -/
def longSuffix : TreeJob where
  source := "in"
  target := "out"
  overrides := { suffix := some (List.replicate 300 'a') }

theorem not_forall_first_written :
    ¬ ∀ (job : TreeJob) (env : Environment) (w made : Workspace), w.isDirectory job.source →
      job.target.bytes ≠ [] → w.makeDirectories job.target = (made, none) →
      NamesOutputs (job.config env).suffix job.extension →
      ∀ before input after, w.sources job.source = before ++ input :: after →
        (∀ earlier ∈ before, earlier.stem? ≠ input.stem?) →
        ¬ made.isDirectory (job.output (job.config env) input) →
          (job.run env w).workspace.node? (job.output (job.config env) input) =
            .ok (.file (.text (declarationOf (job.config env)
              (Session.textOf { workspace := w } input)))) := by
  intro h
  have hwritten := h longSuffix (fun _ => none) twoSources _ (by decide) (by decide) rfl
    ⟨by decide +kernel, by decide +kernel, by decide, by decide⟩ [] "in/A.php" _
    sources_twoSources nofun (by decide +kernel)
  rw [output, defaultOutput] at hwritten
  refine Workspace.node?_join_of_long ?_ ⟨?_, ?_, ?_, ?_⟩ ?_ _ hwritten
  all_goals decide +kernel

end TreeJob
end ClassTypings
