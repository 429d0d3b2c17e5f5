import ClassTypings.CommandLine.Invocation
import ClassTypings.Proofs.Sources
import ClassTypings.Session
/-!
# Attempts one after another

A session converts the source files of a directory and writes their declarations to another one. No
write touches a source file, since no declaration is named like one, and no write touches an earlier
declaration, since inputs shown with different stems have different names.
-/
namespace ClassTypings

/-- What can be read of the content of a file. Bytes that are no text cannot. -/
def Content.legible : Content → Text
  | .text t => t
  | .binary _ => []

namespace Session

/-- The text of a file below a directory is empty when its path is too long to read it. -/
theorem textOf_below {w : Workspace} {p : Path} {dir names : Location} {content : Content}
    (hp : w.Leads p dir) (hfile : w.tree.node? (names ++ dir) = some (.file content)) :
    textOf { workspace := w } (p.below names) =
      if (p.below names).bytes.length ≤ Workspace.maxPathSize then content.legible else [] := by
  split
  · rename_i hsize
    have hlocate := hp.locate_below hfile ((hp.spellingFault?_below_iff hfile).mpr hsize)
    cases content <;>
      simp [textOf, Workspace.read, Workspace.node?, hlocate, hfile, Content.legible]
  · rename_i hsize
    obtain ⟨fault, hfault⟩ := Option.ne_none_iff_exists'.mp
      (mt (hp.spellingFault?_below_iff hfile).mp hsize)
    simp [textOf, Workspace.read, Workspace.node?, Workspace.locate, hfault]

variable {s : Session} {target : Path} {dir : Location} {name : Bytes}

private theorem attempt_of_takesFile (config : Config) (input : Path)
    (hfiles : s.destination = .files) (htarget : s.workspace.Leads target dir)
    (hname : IsPlain name) (hnul : Byte.nul ∉ name)
    (htakes : s.workspace.takesFile (target.join name)) :
    (s.attempt config input (target.join name)).failure = none ∧
      (s.attempt config input (target.join name)).session.destination = .files ∧
      (s.attempt config input (target.join name)).session.workspace =
        { s.workspace with
          tree := s.workspace.tree.place name dir
            (.file (.text (declarationOf config (s.textOf input)))) } := by
  simp [attempt, write, hfiles, Workspace.write,
    Workspace.put_join_of_takesFile htarget hname hnul htakes]

private theorem attempt_of_not_takesFile (config : Config) (input : Path)
    (hfiles : s.destination = .files) (htarget : s.workspace.Leads target dir)
    (hname : IsPlain name) (hnul : Byte.nul ∉ name)
    (htakes : ¬ s.workspace.takesFile (target.join name)) :
    (s.attempt config input (target.join name)).failure.isSome ∧
      (s.attempt config input (target.join name)).session = s := by
  obtain ⟨fault, hfault⟩ := Workspace.put_join_of_not_takesFile htarget hname hnul htakes
    (.text (declarationOf config (s.textOf input)))
  simp [attempt, write, hfiles, Workspace.write, hfault]

end Session

namespace TreeJob

def output (job : TreeJob) (config : Config) (input : Path) : Path :=
  defaultOutput input job.target config.suffix job.extension

/-- What the attempts need: a directory for the outputs and names that fit in it. -/
structure Ready (job : TreeJob) (config : Config) (w : Workspace) (dir : Location) : Prop where
  target : w.Leads job.target dir
  names : NamesOutputs config.suffix job.extension

section

variable {job : TreeJob} {config : Config} {w : Workspace} {dir : Location} {input : Path}

theorem Ready.isPlain (h : Ready job config w dir) (hinput : input.Named) :
    IsPlain (outputName input config.suffix job.extension).bytes :=
  h.names.isPlain hinput

theorem Ready.takesFile_iff (h : Ready job config w dir) (hinput : input.Named) :
    w.takesFile (job.output config input) ↔
      Workspace.spellingFault? (job.output config input) = none ∧
        (outputName input config.suffix job.extension).bytes.length ≤ Workspace.maxNameSize ∧
        w.tree.node? ((outputName input config.suffix job.extension).bytes :: dir) ≠ some .directory :=
  Workspace.takesFile_join_iff h.target (h.isPlain hinput) (noNul_outputName h.names hinput)

theorem Ready.locate_output (h : Ready job config w dir) (hinput : input.Named)
    (htakes : w.takesFile (job.output config input)) :
    w.locate (job.output config input) =
      .ok ((outputName input config.suffix job.extension).bytes :: dir) := by
  obtain ⟨hspelling, hsize, -⟩ := (h.takesFile_iff hinput).mp htakes
  exact h.target.locate_join
    (isName_iff.mpr ⟨h.isPlain hinput, noNul_outputName h.names hinput, hsize⟩) hspelling

end
end TreeJob

namespace Session

open TreeJob

section Attempted

variable {job : TreeJob} {config : Config} {w : Workspace} {dir : Location} {tried : List Path}
  {s : Session} {input : Path}

/-- The session after attempts on some inputs. It began in the workspace `w`, in which the path for
the outputs leads to `dir`. -/
structure Attempted (job : TreeJob) (config : Config) (w : Workspace) (dir : Location)
    (tried : List Path) (s : Session) : Prop where
  destination : s.destination = .files
  home : s.workspace.home = w.home
  named : ∀ p ∈ tried, p.Named
  outputs : ∀ p ∈ tried, w.takesFile (job.output config p) →
    s.workspace.tree.node? ((outputName p config.suffix job.extension).bytes :: dir) =
      some (.file (.text (declarationOf config (textOf { workspace := w } p))))
  others : ∀ location,
    (∀ p ∈ tried, w.takesFile (job.output config p) →
      location ≠ (outputName p config.suffix job.extension).bytes :: dir) →
    s.workspace.tree.node? location = w.tree.node? location

theorem Attempted.directoriesIn (h : Attempted job config w dir tried s)
    (hready : Ready job config w dir) : w.DirectoriesIn s.workspace := by
  refine ⟨h.home, fun location hlocation => ?_⟩
  rw [h.others location, hlocation]
  rintro p hp htakes rfl
  exact ((hready.takesFile_iff (h.named p hp)).mp htakes).2.2 hlocation

theorem Attempted.node?_location (h : Attempted job config w dir tried s)
    (hready : Ready job config w dir) {name : Bytes} {location : Location}
    (hinput : w.IsSource input name location) :
    s.workspace.tree.node? (name :: location) = w.tree.node? (name :: location) := by
  refine h.others _ fun p _ _ heq => ?_
  exact outputName_ne_of_isSource hready.names.notSource hinput.extension (List.cons.inj heq).1.symm

theorem Attempted.node?_source (h : Attempted job config w dir tried s)
    (hready : Ready job config w dir) {name : Bytes} {location : Location}
    (hinput : w.IsSource input name location) : s.workspace.node? input = w.node? input :=
  hinput.node?_eq (h.directoriesIn hready) (h.node?_location hready hinput)

theorem Attempted.textOf_source (h : Attempted job config w dir tried s)
    (hready : Ready job config w dir) {name : Bytes} {location : Location}
    (hinput : w.IsSource input name location) :
    s.textOf input = textOf { workspace := w } input := by
  simp only [textOf, Workspace.read, h.node?_source hready hinput]

private theorem place_ne_of_shownStem_ne {p : Path} (hne : shownStem p ≠ shownStem input) :
    (outputName p config.suffix job.extension).bytes :: dir ≠
      (outputName input config.suffix job.extension).bytes :: dir := by
  intro heq
  apply hne
  exact outputName_eq_iff.mp (Text.bytes_injective (List.cons.inj heq).1)

theorem Attempted.takesFile_iff (h : Attempted job config w dir tried s)
    (hready : Ready job config w dir) (hinput : input.Named)
    (hfree : ∀ p ∈ tried, shownStem p ≠ shownStem input) :
    s.workspace.takesFile (job.output config input) ↔ w.takesFile (job.output config input) := by
  have hsame := h.others _ fun p hp _ => (place_ne_of_shownStem_ne (hfree p hp)).symm
  rw [hready.takesFile_iff hinput, ← hsame]
  exact Workspace.takesFile_join_iff (hready.target.mono (h.directoriesIn hready))
    (hready.isPlain hinput) (noNul_outputName hready.names hinput)

private theorem named_concat (h : Attempted job config w dir tried s) (hinput : input.Named) :
    ∀ p ∈ tried ++ [input], p.Named := by
  intro p hp
  rcases List.mem_append.mp hp with hp | hp
  · exact h.named p hp
  · exact List.mem_singleton.mp hp ▸ hinput

theorem Attempted.place (h : Attempted job config w dir tried s) (hinput : input.Named)
    (hfree : ∀ p ∈ tried, shownStem p ≠ shownStem input)
    (htakes : w.takesFile (job.output config input)) {content : Content}
    (hcontent : content = .text (declarationOf config (textOf { workspace := w } input)))
    (hmay : s.workspace.tree.MayPlace (outputName input config.suffix job.extension).bytes dir
      (.file content))
    {s' : Session} (hdestination : s'.destination = .files)
    (hworkspace : s'.workspace =
      { s.workspace with
        tree := s.workspace.tree.place (outputName input config.suffix job.extension).bytes dir
          (.file content) }) :
    Attempted job config w dir (tried ++ [input]) s' := by
  refine ⟨hdestination, ?_, named_concat h hinput, ?_, ?_⟩
  · rw [hworkspace]
    exact h.home
  · intro p hp hp'
    rw [hworkspace, FileTree.node?_place]
    rcases List.mem_append.mp hp with hp | hp
    · rw [if_neg fun k => place_ne_of_shownStem_ne (hfree p hp) k.2]
      exact h.outputs p hp hp'
    · obtain rfl := List.mem_singleton.mp hp
      rw [if_pos ⟨hmay, rfl⟩, hcontent]
  · intro other hother
    rw [hworkspace, FileTree.node?_place, if_neg]
    · exact h.others other fun p hp => hother p (List.mem_append_left _ hp)
    · exact fun k => hother input (by simp) htakes k.2

theorem Attempted.refuse (h : Attempted job config w dir tried s) (hinput : input.Named)
    (htakes : ¬ w.takesFile (job.output config input)) :
    Attempted job config w dir (tried ++ [input]) s := by
  refine ⟨h.destination, h.home, named_concat h hinput, ?_, ?_⟩
  · intro p hp hp'
    rcases List.mem_append.mp hp with hp | hp
    · exact h.outputs p hp hp'
    · exact absurd (List.mem_singleton.mp hp ▸ hp') htakes
  · exact fun other hother => h.others other fun p hp => hother p (List.mem_append_left _ hp)

theorem Attempted.attempt (h : Attempted job config w dir tried s)
    (hready : Ready job config w dir) {name : Bytes} {location : Location}
    (hinput : w.IsSource input name location) (hfree : ∀ p ∈ tried, shownStem p ≠ shownStem input) :
    Attempted job config w dir (tried ++ [input])
        (s.attempt config input (job.output config input)).session ∧
      ((s.attempt config input (job.output config input)).failure = none ↔
        w.takesFile (job.output config input)) := by
  have hplain := hready.isPlain hinput.named
  have hnul := noNul_outputName hready.names hinput.named
  have htarget := hready.target.mono (h.directoriesIn hready)
  have hnow := h.takesFile_iff hready hinput.named hfree
  have hout : job.target.join (outputName input config.suffix job.extension).bytes =
    job.output config input := rfl
  by_cases htakes : w.takesFile (job.output config input)
  · obtain ⟨hfailure, hdestination, hworkspace⟩ :=
      attempt_of_takesFile config input h.destination htarget hplain hnul (hnow.mpr htakes)
    have hmay := Workspace.mayPlace_of_takesFile htarget hplain hnul (hnow.mpr htakes)
    have hcontent := congrArg (fun t => Content.text (declarationOf config t))
      (h.textOf_source hready hinput)
    rw [hout] at hfailure hdestination hworkspace
    exact ⟨h.place hinput.named hfree htakes hcontent (hmay _) hdestination hworkspace,
      iff_of_true hfailure htakes⟩
  · obtain ⟨hfailure, hsession⟩ := attempt_of_not_takesFile config input h.destination htarget
      hplain hnul fun k => htakes (hnow.mp k)
    rw [hout] at hfailure hsession
    rw [hsession]
    exact ⟨h.refuse hinput.named htakes,
      iff_of_false (Option.isSome_iff_ne_none.mp hfailure) htakes⟩

end Attempted
end Session
end ClassTypings
