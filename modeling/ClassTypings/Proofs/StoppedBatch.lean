import ClassTypings.Proofs.BatchAgain
/-!
# Batches that are stopped

A batch is stopped when its source is no directory or its target cannot be made one. Then nothing
is printed, and whatever was there stays as it is. Directories that were missing above the target
may have been made by then, and they are not taken back. This needs a target that goes on behind
them with a step that stays or goes back, or with a name that is too long: as long as all that
follows are short names, nothing is in the way of what is made.
-/
namespace ClassTypings

/-- A step to a name that is not too long. -/
def Component.IsShortName (c : Component) : Prop :=
  ∃ name, c = .name name ∧ name.length ≤ Workspace.maxNameSize

namespace Path

variable {p q r : Path} {above : List Path}

theorem LiesBelow.trans (h : p.LiesBelow q) (h' : q.LiesBelow r) : p.LiesBelow r := by
  obtain ⟨c, more, hsteps⟩ := h.steps
  obtain ⟨c', more', hsteps'⟩ := h'.steps
  refine ⟨h'.bytes.trans h.bytes, c', more' ++ c :: more, ?_⟩
  rw [hsteps, hsteps', List.append_assoc, List.cons_append]

theorem LiesBelow.ne_nil (h : p.LiesBelow q) (hq : q.bytes ≠ []) : p.bytes ≠ [] := by
  intro hp
  have hprefix := h.bytes
  rw [hp, List.prefix_nil] at hprefix
  exact hq hprefix

theorem Descending.liesBelow (h : Descending (p :: above)) (hmem : q ∈ above)
    (hq : q.bytes ≠ []) : p.LiesBelow q := by
  induction above generalizing p with
  | nil => simp at hmem
  | cons r above ih =>
    obtain ⟨hfirst, htail⟩ := List.isChain_cons_cons.mp h
    rcases List.mem_cons.mp hmem with rfl | hmem
    · exact hfirst hq
    · have hlater := ih htail hmem
      exact (hfirst (hlater.ne_nil hq)).trans hlater

private theorem Descending.exists_back (h : Descending (p :: above)) (hmem : q ∈ p :: above)
    (hq : q.bytes ≠ []) : p.bytes ≠ [] ∧ ∃ back, p.steps = q.steps ++ back := by
  rcases List.mem_cons.mp hmem with rfl | hmem
  · exact ⟨hq, [], (List.append_nil _).symm⟩
  · have hbelow := h.liesBelow hmem hq
    obtain ⟨c, more, hsteps⟩ := hbelow.steps
    exact ⟨hbelow.ne_nil hq, c :: more, hsteps⟩

private theorem OneStepBelow.exists_name (h : p.OneStepBelow r) {front back : List Component}
    (hr : r.steps = q.steps ++ front) (hp : p.steps = q.steps ++ back)
    (hback : ∀ c ∈ back, c.IsShortName) :
    ∃ name, back = front ++ [.name name] ∧ name.length ≤ Workspace.maxNameSize := by
  obtain ⟨further, c, hfurther, hc⟩ := h.steps
  obtain rfl : back = front ++ further := by
    rw [hfurther, hr, List.append_assoc] at hp
    exact (List.append_cancel_left hp).symm
  have hmoves : further.filter (· != .here) = further := by
    refine List.filter_eq_self.mpr fun d hd => ?_
    obtain ⟨name, rfl, -⟩ := hback d (List.mem_append_right _ hd)
    rfl
  obtain rfl : further = [c] := hmoves.symm.trans hc
  obtain ⟨name, rfl, hsize⟩ := hback c (by simp)
  exact ⟨name, rfl, hsize⟩

end Path

namespace Workspace

section Missing

variable {w made below : Workspace} {p q r : Path} {above paths more : List Path}
  {tree : FileTree} {location last : Location} {cs : List Component} {name : Bytes}

private theorem walk_append {mid : Location} (h : walk tree location cs = .ok mid)
    (cs' : List Component) : walk tree location (cs ++ cs') = walk tree mid cs' := by
  induction cs generalizing location with
  | nil =>
    obtain rfl := Except.ok.inj h
    rfl
  | cons c cs ih =>
    obtain ⟨hdir, next, hstep, hrest⟩ := walk_cons_eq_ok_iff.mp h
    simp only [List.cons_append, walk, directoryFault?_eq_none_iff.mpr hdir, hstep, ih hrest]

private theorem suffix_of_walk (hcs : ∀ c ∈ cs, c.IsShortName)
    (h : walk tree location cs = .ok last) :
    location <:+ last := by
  induction cs generalizing location with
  | nil =>
    obtain rfl := Except.ok.inj h
    exact List.suffix_rfl
  | cons c cs ih =>
    obtain ⟨-, next, hstep, hrest⟩ := walk_cons_eq_ok_iff.mp h
    obtain ⟨name, rfl, hsize⟩ := hcs c List.mem_cons_self
    rw [step_name_of_size hsize] at hstep
    obtain rfl := Except.ok.inj hstep
    exact (List.suffix_cons _ _).trans (ih (fun c hc => hcs c (List.mem_cons_of_mem _ hc)) hrest)

/-- As things are, a directory can be made at the path: there is one above, and nothing is in its
place. -/
def CanMake (w : Workspace) (p : Path) : Prop := ∃ made, w.makeDirectory p = .ok made

private theorem canMake_iff :
    w.CanMake p ↔ ∃ dir name, w.lastStep p = .ok (dir, some (.name name)) ∧
      name.length ≤ maxNameSize ∧ w.tree.node? (name :: dir) = none := by
  constructor
  · intro h
    obtain ⟨made, h⟩ := h
    unfold makeDirectory at h
    split at h
    · simp at h
    · rename_i dir name hlast
      split at h
      · simp at h
      · rename_i hlong
        split at h
        · simp at h
        · rename_i hfree
          exact ⟨dir, name, hlast, Nat.not_lt.mp hlong, by simpa using hfree⟩
    · simp at h
  · intro h
    obtain ⟨dir, name, hlast, hsize, hfree⟩ := h
    exact ⟨_, by simp [makeDirectory, hlast, Nat.not_lt.mpr hsize, hfree]; rfl⟩

theorem CanMake.missing (h : w.CanMake p) :
    p.bytes ≠ [] ∧ ∃ location, walk w.tree (w.start p) p.steps = .ok location ∧
      w.tree.node? location = none := by
  obtain ⟨dir, name, hlast, hsize, hfree⟩ := canMake_iff.mp h
  obtain ⟨hspelling, hsteps, hwalk, hdir⟩ := lastStep_eq_name hlast
  refine ⟨(spellingFault?_eq_none_iff.mp hspelling).2.1, name :: dir, ?_, hfree⟩
  rw [hsteps]
  exact walk_concat_eq_ok_iff.mpr ⟨dir, hwalk, hdir, step_name_of_size hsize⟩

private theorem makeDirectory_below (h : p.LiesBelow q) (hspelling : spellingFault? p = none)
    (hmake : w.CanMake q) : w.makeDirectory p = .error .noEntry := by
  obtain ⟨hq, location, hwalk, hnone⟩ := hmake.missing
  obtain ⟨c, more, hsteps⟩ := h.steps
  have hfault : directoryFault? w.tree location = some .noEntry := by
    simp [directoryFault?, hnone]
  -- The walk comes to a place where nothing is, and at least one more step is to be taken.
  have hlast : w.lastStep p = .error .noEntry := by
    rw [lastStep, hspelling, hsteps, List.dropLast_append_cons, h.start hq]
    simp only [walk_append hwalk]
    cases (c :: more).dropLast with
    | nil => simp only [walk, hfault]
    | cons c' more' => simp only [walk, hfault]
  rw [makeDirectory, hlast]

theorem Grows.antisymm (h : w.Grows paths made) (h' : made.Grows more w) : made = w := by
  obtain ⟨extra, hextra, -⟩ := h.nodes
  obtain ⟨extra', hextra', -⟩ := h'.nodes
  have hlength := congrArg List.length hextra'
  rw [hextra, List.length_append, List.length_append] at hlength
  obtain rfl : extra = [] := List.length_eq_zero_iff.mp (by omega)
  rw [List.append_nil] at hextra
  cases w
  cases made
  obtain rfl := FileTree.eq_of_nodes hextra
  exact congrArg _ h.home

end Missing

section Chain

variable {w made below : Workspace} {p q r : Path} {above paths : List Path} {dir : Location}
  {name : Bytes}

private theorem makeChain_of_canMake (h : w.CanMake p) (above : List Path) :
    (w.makeChain (p :: above)).1 ≠ w ∧ (w.makeChain (p :: above)).2 = none := by
  have hne := h.missing.1
  obtain ⟨made, hmake⟩ := h
  have hchain : w.makeChain (p :: above) = (made, none) := by simp [makeChain, hne, hmake]
  refine ⟨?_, congrArg Prod.snd hchain⟩
  rw [hchain]
  rintro rfl
  have hdir := makeDirectory_of_isDirectory (makeDirectory_eq_ok hmake).2
  simp [hmake] at hdir

private theorem makeChain_of_noEntry (hmake : w.makeDirectory p = .error .noEntry)
    (hp : p.bytes ≠ [])
    (above : List Path) : (w.makeChain above).1.Grows [p] (w.makeChain (p :: above)).1 := by
  rw [makeChain, if_neg (by simpa using hp), hmake]
  cases w.makeChain above with
  | mk below cause =>
    cases cause with
    | some cause => exact .refl _ _
    | none =>
      cases hagain : below.makeDirectory p with
      | ok made => simpa [hagain] using (makeDirectory_eq_ok hagain).1
      | error fault =>
        by_cases hdir : below.isDirectory p <;> simpa [hagain, hdir] using Grows.refl _ _

private theorem makeChain_eq_none_of_above (hmake : w.makeDirectory p = .error .noEntry)
    (hp : p.bytes ≠ []) (habove : w.makeChain above = (below, none))
    (h : below.CanMake p ∨ below.isDirectory p) : (w.makeChain (p :: above)).2 = none := by
  rw [makeChain, if_neg (by simpa using hp), hmake]
  cases hagain : below.makeDirectory p with
  | ok made => simp [habove, hagain]
  | error fault =>
    have hdir : below.isDirectory p := h.resolve_left fun hcan => by
      obtain ⟨made, hok⟩ := hcan
      simp [hok] at hagain
    simp [habove, hagain, hdir]

private theorem makeChain_ne_self (hpaths : Path.Descending (p :: above))
    (hspelling : spellingFault? p = none) (hmem : q ∈ p :: above) (hmake : w.CanMake q) :
    (w.makeChain (p :: above)).1 ≠ w := by
  induction above generalizing p with
  | nil =>
    obtain rfl := List.mem_singleton.mp hmem
    exact (makeChain_of_canMake hmake []).1
  | cons r above ih =>
    rcases List.mem_cons.mp hmem with rfl | hmem
    · exact (makeChain_of_canMake hmake _).1
    · have hq := hmake.missing.1
      obtain ⟨hfirst, htail⟩ := List.isChain_cons_cons.mp hpaths
      have hr := (Path.Descending.exists_back htail hmem hq).1
      have hbelow := hpaths.liesBelow hmem hq
      have hentry := makeDirectory_below hbelow hspelling hmake
      intro hsame
      have hgrows := makeChain_of_noEntry hentry (hbelow.ne_nil hq) (r :: above)
      rw [hsame] at hgrows
      exact ih htail ((hfirst hr).spelling hr hspelling) hmem
        ((makeChain_grows w (r :: above)).antisymm hgrows)

private theorem exists_canMake (h : (w.makeChain paths).1 ≠ w) : ∃ q ∈ paths, w.CanMake q := by
  induction paths with
  | nil => exact absurd rfl h
  | cons p above ih =>
    by_cases hp : p.bytes = []
    · exact absurd (by simp [makeChain, hp]) h
    · by_cases habove : (w.makeChain above).1 = w
      · obtain ⟨base, hbase, hresult⟩ := makeChain_cons w hp above
        obtain rfl : base = w := hbase.elim id fun hsame => hsame.trans habove
        rcases hresult with ⟨made, hmake, -⟩ | ⟨-, hchain⟩ | ⟨fault, hchain⟩
        · exact ⟨p, List.mem_cons_self, made, hmake⟩
        · exact absurd (congrArg Prod.fst hchain) h
        · exact absurd (congrArg Prod.fst hchain) h
      · obtain ⟨q, hmem, hmake⟩ := ih habove
        exact ⟨q, List.mem_cons_of_mem _ hmem, hmake⟩

private theorem spellingFault?_ne_noEntry (hp : p.bytes ≠ []) :
    spellingFault? p ≠ some .noEntry := by
  unfold spellingFault?
  split
  · decide
  · rw [if_neg (by simpa using hp)]
    split <;> decide

private theorem makeChain_of_spelling (h : spellingFault? p ≠ none) (above : List Path) :
    (w.makeChain (p :: above)).1 = w := by
  obtain ⟨fault, hfault⟩ := Option.ne_none_iff_exists'.mp h
  by_cases hp : p.bytes = []
  · simp [makeChain, hp]
  · have hentry : fault ≠ .noEntry := by
      rintro rfl
      exact spellingFault?_ne_noEntry hp hfault
    have hmake : w.makeDirectory p = .error fault := by simp [makeDirectory, lastStep, hfault]
    by_cases hdir : w.isDirectory p <;> simp [makeChain, hp, hmake, hentry, hdir]

private theorem makeChain_refused {fault : Fault}
    (h : w.makeChain (p :: above) = (made, some fault)) :
    made = w ∨ spellingFault? p = none ∧ made = (w.makeChain above).1 := by
  by_cases hspelling : spellingFault? p = none
  · obtain ⟨-, hsame | ⟨cause, habove⟩ | ⟨habove, -⟩⟩ := makeChain_eq_fault h
    · exact .inl hsame
    · exact .inr ⟨hspelling, by rw [habove]⟩
    · exact .inr ⟨hspelling, by rw [habove]⟩
  · have hsame := makeChain_of_spelling (w := w) hspelling above
    rw [h] at hsame
    exact .inl hsame

private theorem lastStep_of_leads (hleads : w.Leads r dir) (h : p.LiesBelow r)
    (hspelling : spellingFault? p = none) (hsteps : p.steps = r.steps ++ [.name name]) :
    w.lastStep p = .ok (dir, some (.name name)) := by
  refine lastStep_eq_ok_iff.mpr ⟨hspelling, ?_, hleads.directory, ?_⟩
  · rw [hsteps, List.dropLast_concat, h.start hleads.ne_nil]
    exact (locate_eq_ok_iff.mp hleads.locate).2.1
  · rw [hsteps, List.getLast?_concat]

private theorem CanMake.node?_eq_none (h : w.CanMake q) (hw : w.DirectoriesIn below)
    (hleads : below.Leads r dir) (hstart : below.start r = w.start q) {front : List Component}
    (hsteps : r.steps = q.steps ++ front) (hfront : ∀ c ∈ front, c.IsShortName) (name : Bytes) :
    w.tree.node? (name :: dir) = none := by
  obtain ⟨-, location, hwalk, hnone⟩ := h.missing
  have hdown := (locate_eq_ok_iff.mp hleads.locate).2.1
  rw [hstart, hsteps, walk_append (walk_mono hw.directories hwalk)] at hdown
  exact FileTree.node?_eq_none_of_suffix hnone
    ((suffix_of_walk hfront hdown).trans (List.suffix_cons _ _))

private theorem canMake_or_isDirectory (hgrows : w.Grows paths below)
    (hlast : below.lastStep p = .ok (dir, some (.name name)))
    (hsize : name.length ≤ maxNameSize) (hfree : w.tree.node? (name :: dir) = none) :
    below.CanMake p ∨ below.isDirectory p := by
  rcases hgrows.node?_eq_or (name :: dir) with hsame | ⟨-, hnew, -⟩
  · exact .inl (canMake_iff.mpr ⟨dir, name, hlast, hsize, hsame.trans hfree⟩)
  · exact .inr (exists_leads_iff.mp ⟨_, locate_of_lastStep hlast hsize (.refl _) hnew, hnew⟩)

private theorem makeChain_of_shortNames (hpaths : Path.Nested (p :: above))
    (hspelling : spellingFault? p = none) (hmem : q ∈ p :: above) (hmake : w.CanMake q)
    {back : List Component} (hsteps : p.steps = q.steps ++ back)
    (hback : ∀ c ∈ back, c.IsShortName) : (w.makeChain (p :: above)).2 = none := by
  induction above generalizing p back with
  | nil =>
    obtain rfl := List.mem_singleton.mp hmem
    exact (makeChain_of_canMake hmake []).2
  | cons r above ih =>
    rcases List.mem_cons.mp hmem with rfl | hmem
    · exact (makeChain_of_canMake hmake _).2
    · have hq := hmake.missing.1
      obtain ⟨hfirst, htail⟩ := List.isChain_cons_cons.mp hpaths
      obtain ⟨hr, front, hfront⟩ := (Path.Nested.descending htail).exists_back hmem hq
      obtain ⟨name, rfl, hsize⟩ := (hfirst hr).exists_name hfront hsteps hback
      have hlonger : p.steps = r.steps ++ [.name name] := by
        rw [hsteps, hfront, List.append_assoc]
      have hbelow := hpaths.descending.liesBelow hmem hq
      have habove := (hfirst hr).liesBelow
      have hnames : ∀ c ∈ front, c.IsShortName :=
        fun c hc => hback c (List.mem_append_left _ hc)
      have hnone := ih htail (habove.spelling hr hspelling) hmem hfront hnames
      cases hchain : w.makeChain (r :: above) with
      | mk below failure =>
        obtain rfl : failure = none := by rwa [hchain] at hnone
        have hgrows := grows_of_makeChain hchain
        obtain ⟨dir, hleads⟩ := exists_leads_iff.mpr (isDirectory_of_makeChain hr hchain)
        have hstart : below.start r = w.start q := by
          rw [← habove.start hr, hgrows.directoriesIn.start, hbelow.start hq]
        have hlast := lastStep_of_leads hleads habove hspelling hlonger
        -- Nothing was where the last name leads, so that no file is in the way.
        have hfree := hmake.node?_eq_none hgrows.directoriesIn hleads hstart hfront hnames name
        exact makeChain_eq_none_of_above (makeDirectory_below hbelow hspelling hmake)
          (hbelow.ne_nil hq) hchain (canMake_or_isDirectory hgrows hlast hsize hfree)

end Chain
end Workspace

namespace TreeJob

variable {job : TreeJob} {env : Environment} {w made : Workspace}

/-- What a batch leaves behind that starts in `w` and is stopped by a problem. -/
structure Stops (job : TreeJob) (w : Workspace) (outcome : Outcome) : Prop where
  /-- The source is looked at first. -/
  problem : ¬ w.isDirectory job.source ∧ outcome.problem = some (.notDirectory job.source) ∨
    w.isDirectory job.source ∧ ∃ cause, outcome.problem = some (.noOutputDirectory job.target cause)
  stdout : outcome.stdout = []
  log : outcome.log = []
  /-- Everything is as it was, but for new directories above the target. -/
  grows : w.Grows job.target.above outcome.workspace
  /-- There are new directories when one above the target was missing and could be made. -/
  changed_iff : outcome.workspace ≠ w ↔
    w.isDirectory job.source ∧ Workspace.spellingFault? job.target = none ∧
      ∃ q ∈ job.target.above, w.CanMake q
  /-- Then the target goes on behind it with something else than short names. -/
  behind : outcome.workspace ≠ w → ∀ q ∈ job.target.above, w.CanMake q →
    ∃ back, job.target.steps = q.steps ++ back ∧ ∃ c ∈ back, ¬ c.IsShortName

private theorem stops_of_not_directory (env : Environment) (h : ¬ w.isDirectory job.source) :
    job.Stops w (job.run env w) := by
  rw [run_of_not_directory env h]
  exact
    { problem := .inl ⟨h, rfl⟩
      stdout := rfl
      log := rfl
      grows := .refl _ _
      changed_iff := iff_of_false (fun hne => hne rfl) fun hchanged => h hchanged.1
      behind := fun hne => absurd rfl hne }

private theorem stops_of_fault (env : Environment) (h : w.isDirectory job.source) {fault : Fault}
    (hmake : w.makeDirectories job.target = (made, some fault)) :
    job.Stops w (job.run env w) := by
  have hpaths := job.target.nested_above
  have hchain : w.makeChain (job.target :: job.target.above) = (made, some fault) := hmake
  have hrefused := Workspace.makeChain_refused hchain
  have hgrows := Workspace.makeChain_grows w job.target.above
  rw [run_of_fault env h hmake]
  refine
    { problem := .inr ⟨h, fault, rfl⟩
      stdout := rfl
      log := rfl
      grows := ?_
      changed_iff := ⟨fun hne => ?_, fun hcan => ?_⟩
      behind := fun hne q hq hcan => ?_ }
  · rcases hrefused with rfl | ⟨-, rfl⟩
    · exact .refl _ _
    · exact hgrows
  · obtain ⟨hspelling, hmade⟩ := hrefused.resolve_left hne
    exact ⟨h, hspelling, Workspace.exists_canMake (hmade ▸ hne)⟩
  · obtain ⟨-, hspelling, q, hq, hcan⟩ := hcan
    have hchanged := Workspace.makeChain_ne_self hpaths.descending hspelling
      (List.mem_cons_of_mem _ hq) hcan
    rwa [hchain] at hchanged
  · obtain ⟨hspelling, -⟩ := hrefused.resolve_left hne
    obtain ⟨-, back, hback⟩ := hpaths.descending.exists_back (List.mem_cons_of_mem _ hq)
      hcan.missing.1
    refine ⟨back, hback, ?_⟩
    by_contra hshort
    have hnone := Workspace.makeChain_of_shortNames hpaths hspelling (List.mem_cons_of_mem _ hq)
      hcan hback (by simpa using hshort)
    simp [hchain] at hnone

/-- What a batch that is stopped leaves behind, for every tree, every directory of inputs and every
directory for outputs. -/
theorem run_stopped (job : TreeJob) (env : Environment) (w : Workspace)
    (h : (job.run env w).problem ≠ none) : job.Stops w (job.run env w) := by
  by_cases hsource : w.isDirectory job.source
  · cases hmake : w.makeDirectories job.target with
    | mk made failure =>
      cases failure with
      | some fault => exact stops_of_fault env hsource hmake
      | none =>
        rw [run_of_made env hsource hmake] at h
        exact absurd rfl h
  · exact stops_of_not_directory env hsource

end TreeJob

/-- A directory for inputs and a file. -/
def inputsAndFile : Workspace where
  tree := (FileTree.empty.place "in" [] .directory).place "f" []
    (.file (.text "x".toList))
  home := []

/-- The job that looks for its target, a file, behind a directory that is missing. -/
def detourJob : TreeJob where
  source := "in"
  target := "new/../f"

theorem run_stopped_detour :
    (detourJob.run (fun _ => none) inputsAndFile).problem ≠ none ∧
      detourJob.Stops inputsAndFile (detourJob.run (fun _ => none) inputsAndFile) := by
  have hproblem : (detourJob.run (fun _ => none) inputsAndFile).problem ≠ none := by
    decide +kernel
  exact ⟨hproblem, detourJob.run_stopped (fun _ => none) inputsAndFile hproblem⟩

theorem not_forall_stopped_unchanged :
    ¬ ∀ (job : TreeJob) (env : Environment) (w : Workspace),
      (job.run env w).problem ≠ none →
        (∀ location, (job.run env w).workspace.tree.node? location = w.tree.node? location) ∧
          (job.run env w).stdout = [] := by
  intro h
  obtain ⟨hsame, -⟩ := h detourJob (fun _ => none) inputsAndFile (by decide +kernel)
  exact absurd (hsame ["new"]) (by decide +kernel)

end ClassTypings
