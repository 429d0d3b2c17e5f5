import ClassTypings.Proofs.BatchRun
import ClassTypings.Proofs.Writes
/-!
# Source files during a batch

A batch may write among the source files that it reads. No declaration is named like a source file,
so after each turn the same source files are found below every directory.
-/
namespace ClassTypings
namespace FileTree

private theorem filterMap_setNode {α : Type} {f : Location × Node → Option α} {location : Location}
    (hf : ∀ node, f (location, node) = none) (node : Node) (nodes : List (Location × Node)) :
    (setNode location node nodes).filterMap f = nodes.filterMap f := by
  induction nodes with
  | nil => simp [setNode, hf]
  | cons entry nodes ih =>
    obtain ⟨other, node'⟩ := entry
    by_cases hsame : other = location
    · subst hsame
      simp [setNode, hf]
    · simp only [setNode, if_neg hsame, List.filterMap_cons, ih]

end FileTree

namespace Workspace

/-- The workspace after changes that leave its directories and its source files in their places. -/
structure KeepsSources (w w' : Workspace) : Prop where
  directoriesIn : w.DirectoriesIn w'
  sources : ∀ p, w.isDirectory p → w'.sources p = w.sources p

section

variable {w w' w'' : Workspace} {p q : Path} {content : Content}

theorem DirectoriesIn.isDirectory (h : w.DirectoriesIn w') (hp : w.isDirectory p) :
    w'.isDirectory p := by
  obtain ⟨dir, hleads⟩ := exists_leads_iff.mpr hp
  exact exists_leads_iff.mp ⟨dir, hleads.mono h⟩

theorem KeepsSources.refl (w : Workspace) : w.KeepsSources w := ⟨.refl w, fun _ _ => rfl⟩

theorem KeepsSources.trans (h : w.KeepsSources w') (h' : w'.KeepsSources w'') :
    w.KeepsSources w'' := by
  refine ⟨h.directoriesIn.trans h'.directoriesIn, fun p hp => ?_⟩
  exact (h'.sources p (h.directoriesIn.isDirectory hp)).trans (h.sources p hp)

private theorem sourcePath?_eq_none {dir location : Location} {name : Bytes} (hp : w.Leads p dir)
    (hlocation : w.tree.node? location = some .directory) (hname : IsPlain name)
    (hfree : w.tree.node? (name :: location) ≠ some .directory)
    (hextension : (Path.splitName name).2 ≠ some sourceExtension.bytes) (node : Node) :
    sourcePath? p dir (name :: location, node) = none := by
  cases node with
  | directory => rfl
  | file content =>
    rw [Option.eq_none_iff_forall_ne_some]
    intro q hq
    obtain ⟨names, hnames, -⟩ := exists_below_of_sourcePath? hq
    cases names with
    | nil =>
      obtain rfl : name :: location = dir := hnames
      exact hfree hp.directory
    | cons other above =>
      obtain ⟨rfl, rfl⟩ := List.cons.inj hnames
      have habove := FileTree.isPlain_of_node? hlocation
      obtain ⟨hsource, -⟩ := (sourcePath?_eq_some_iff hp.ne_nil
        (List.forall_mem_cons.mpr ⟨hname, habove⟩) content).mp hq
      exact hextension (Path.splitName_eq_some_iff.mpr ⟨by decide, hsource⟩)

private theorem keepsSources_of_put (h : w.put q content = .ok w')
    (hextension : ∀ name, q.steps.getLast? = some (.name name) →
      (Path.splitName name).2 ≠ some sourceExtension.bytes) : w.KeepsSources w' := by
  obtain ⟨location, name, hlast, -, hsize, hfree, rfl⟩ := put_eq_ok h
  obtain ⟨-, hsteps, -, hlocation⟩ := lastStep_eq_name hlast
  obtain ⟨hplain, -⟩ := isName_iff.mp (isName_of_lastStep hlast hsize)
  have hkept : w.DirectoriesIn
      { w with tree := w.tree.place name location (.file content) } :=
    ⟨rfl, FileTree.directoriesIn_place _ _ _ _⟩
  refine ⟨hkept, fun p hp => ?_⟩
  obtain ⟨dir, hleads⟩ := exists_leads_iff.mpr hp
  have hnone := sourcePath?_eq_none hleads hlocation hplain hfree
    (hextension name (by rw [hsteps, List.getLast?_concat]))
  have hfound : (w.tree.place name location (.file content)).nodes.filterMap (sourcePath? p dir) =
      w.tree.nodes.filterMap (sourcePath? p dir) := by
    unfold FileTree.place
    split
    · exact FileTree.filterMap_setNode hnone _ _
    · rfl
  simp only [sources, hleads.locate, (hleads.mono hkept).locate, hfound]

end
end Workspace

namespace Session

private theorem keepsSources_of_attempt {s : Session} {config : Config} {input output : Path}
    (hfiles : s.destination = .files)
    (hextension : ∀ name, output.steps.getLast? = some (.name name) →
      (Path.splitName name).2 ≠ some Workspace.sourceExtension.bytes) :
    s.workspace.KeepsSources (s.attempt config input output).session.workspace := by
  rcases attempt_cases s config input output with ⟨s', hwrite, hsession, -⟩ | ⟨fault, hsession, -⟩
  · rw [hsession]
    exact Workspace.keepsSources_of_put (workspace_write hfiles hwrite) hextension
  · rw [hsession]
    exact .refl _

end Session

namespace TreeJob

section

variable {job : TreeJob} {config : Config} {input : Path} {inputs : List Path} {b : Batch}

private theorem extension_output (htarget : job.target.bytes ≠ [])
    (hnames : NamesOutputs config.suffix job.extension) (hinput : input.Named) {name : Bytes}
    (h : (job.output config input).steps.getLast? = some (.name name)) :
    (Path.splitName name).2 ≠ some Workspace.sourceExtension.bytes := by
  rw [output, defaultOutput,
    Path.steps_join htarget (hnames.isPlain hinput), List.getLast?_concat] at h
  obtain rfl := Component.name.inj (Option.some.inj h)
  exact fun hextension => outputName_ne_of_isSource hnames.notSource hextension rfl

private theorem keepsSources_of_turn (hfiles : b.session.destination = .files)
    (htarget : job.target.bytes ≠ []) (hnames : NamesOutputs config.suffix job.extension)
    (hinput : input.Named) :
    b.session.workspace.KeepsSources
      (b.turn config job.target job.extension input).session.workspace := by
  simp only [Batch.turn]
  split
  · exact .refl _
  · exact Session.keepsSources_of_attempt hfiles fun _ =>
      extension_output htarget hnames hinput

private theorem keepsSources_of_foldl_turn (hfiles : b.session.destination = .files)
    (htarget : job.target.bytes ≠ []) (hnames : NamesOutputs config.suffix job.extension)
    (hinputs : ∀ p ∈ inputs, p.Named) :
    b.session.workspace.KeepsSources
      (inputs.foldl (Batch.turn config job.target job.extension) b).session.workspace := by
  induction inputs generalizing b with
  | nil => exact .refl _
  | cons input inputs ih =>
    have hturn := keepsSources_of_turn hfiles htarget hnames (hinputs input List.mem_cons_self)
    have hrest := ih (b := b.turn config job.target job.extension input)
      (Batch.turn_destination.trans hfiles) fun p hp => hinputs p (List.mem_cons_of_mem _ hp)
    exact hturn.trans hrest

theorem keepsSources_of_convertAll (htarget : job.target.bytes ≠ [])
    (hnames : NamesOutputs config.suffix job.extension) (w : Workspace)
    (hinputs : ∀ p ∈ inputs, p.Named) :
    w.KeepsSources (job.convertAll config w inputs).session.workspace :=
  keepsSources_of_foldl_turn (b := { session := ⟨w, .files, []⟩ }) rfl htarget hnames hinputs

end
end TreeJob
end ClassTypings
