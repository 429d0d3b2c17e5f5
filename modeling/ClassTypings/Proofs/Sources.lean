import ClassTypings.Proofs.NewDirectories
/-!
# Source files

Below a directory the source files are found that lie in directories with short enough paths. Their
paths lead to them and end with their names. New directories and writes elsewhere change neither the
paths nor what they lead to.
-/
namespace ClassTypings
namespace Workspace

/-- A source file in a directory with a path that is short enough to list it. Both lie below `dir`,
which is where the path `p` leads. -/
structure SourceBelow (w : Workspace) (p : Path) (dir : Location) (name : Bytes)
    (above : Location) : Prop where
  isFile : ∃ content, w.tree.node? (name :: above ++ dir) = some (.file content)
  extension : ∃ stem, stem ≠ [] ∧ name = stem ++ Byte.dot :: sourceExtension.bytes
  listed : (p.below above).bytes.length ≤ maxPathSize

/-- A path ends with the name of a source file and leads to that file, unless it is too long. -/
structure IsSource (w : Workspace) (q : Path) (name : Bytes) (dir : Location) : Prop where
  fileName : q.fileName? = some name
  isName : IsName name
  extension : (Path.splitName name).2 = some sourceExtension.bytes
  isFile : ∃ content, w.tree.node? (name :: dir) = some (.file content)
  locate : spellingFault? q = none → w.locate q = .ok (name :: dir)

section

variable {w w' : Workspace} {p q : Path} {dir location names above : Location} {name : Bytes}

private theorem isListable_of_join (hp : p.bytes ≠ []) (hslash : Byte.slash ∉ name)
    (h : isListable (p.join name)) : isListable p := by
  have hsize : (p.join name).bytes.length ≤ maxPathSize := of_decide_eq_true h
  exact decide_eq_true (Nat.le_trans (Path.length_le_join hp hslash) hsize)

private theorem pathUnder?_self (p : Path) (dir : Location) : pathUnder? p dir dir = some p := by
  cases dir <;> simp [pathUnder?]

private theorem pathUnder?_cons (p : Path) (name : Bytes) (above dir : Location) :
    pathUnder? p dir (name :: above ++ dir) =
      ((pathUnder? p dir (above ++ dir)).filter isListable).map (·.join name) := by
  have hother : dir ≠ name :: (above ++ dir) := by
    intro h
    have := congrArg List.length h
    simp at this
    omega
  rw [List.cons_append, pathUnder?, if_neg hother]

private theorem filter_pathUnder? (hp : p.bytes ≠ []) (hnames : ∀ name ∈ names, IsPlain name) :
    (pathUnder? p dir (names ++ dir)).filter isListable =
      (some (p.below names)).filter isListable := by
  induction names with
  | nil => rw [List.nil_append, pathUnder?_self, Path.below]
  | cons name above ih =>
    obtain ⟨hname, habove⟩ := List.forall_mem_cons.mp hnames
    rw [pathUnder?_cons, ih habove, Path.below]
    by_cases hlisted : isListable (p.below above)
    · simp only [Option.filter_some, hlisted, if_true, Option.map_some]
    · -- paths grow on the way down, so that nothing farther below can be listed either
      have hlonger : ¬ isListable ((p.below above).join name) := fun h =>
        hlisted (isListable_of_join (Path.bytes_below_ne_nil hp habove) hname.noSlash h)
      simp [Option.filter_some, hlisted, hlonger]

private theorem exists_below_of_pathUnder? (h : pathUnder? p dir location = some q) :
    ∃ names, location = names ++ dir ∧ q = p.below names := by
  induction location generalizing q with
  | nil =>
    rw [pathUnder?] at h
    split at h
    · rename_i hroot
      exact ⟨[], hroot.symm, (Option.some.inj h).symm⟩
    · simp at h
  | cons name location ih =>
    rw [pathUnder?] at h
    split at h
    · rename_i hsame
      exact ⟨[], hsame.symm, (Option.some.inj h).symm⟩
    · obtain ⟨r, hlisted, rfl⟩ := Option.map_eq_some_iff.mp h
      obtain ⟨names, rfl, rfl⟩ := ih (Option.filter_eq_some_iff.mp hlisted).1
      exact ⟨name :: names, rfl, rfl⟩

theorem exists_below_of_sourcePath? {entry : Location × Node}
    (h : sourcePath? p dir entry = some q) :
    ∃ names, entry.1 = names ++ dir ∧ q = p.below names := by
  obtain ⟨location, node⟩ := entry
  cases node with
  | directory => simp [sourcePath?] at h
  | file content => exact exists_below_of_pathUnder? (Option.filter_eq_some_iff.mp h).1

theorem sourcePath?_eq_some_iff (hp : p.bytes ≠ []) (hnames : ∀ n ∈ name :: above, IsPlain n)
    (content : Content) :
    sourcePath? p dir (name :: above ++ dir, .file content) = some q ↔
      (∃ stem, stem ≠ [] ∧ name = stem ++ Byte.dot :: sourceExtension.bytes) ∧
        (p.below above).bytes.length ≤ maxPathSize ∧ q = p.below (name :: above) := by
  obtain ⟨hname, habove⟩ := List.forall_mem_cons.mp hnames
  have hfile := Path.fileName?_join (p.below above) hname
  have hextension : (p.below (name :: above)).extension? = some sourceExtension.bytes ↔
      ∃ stem, stem ≠ [] ∧ name = stem ++ Byte.dot :: sourceExtension.bytes := by
    simp only [Path.below, Path.extension?, hfile, Option.bind_some, Path.splitName_eq_some_iff]
    exact and_iff_right (by decide)
  rw [sourcePath?, pathUnder?_cons, filter_pathUnder? hp habove, Option.filter_eq_some_iff,
    Option.map_eq_some_iff]
  constructor
  · rintro ⟨⟨r, hlisted, rfl⟩, hsource⟩
    obtain ⟨hr, hlisted⟩ := Option.filter_eq_some_iff.mp hlisted
    obtain rfl := Option.some.inj hr
    exact ⟨hextension.mp (of_decide_eq_true hsource), of_decide_eq_true hlisted, rfl⟩
  · rintro ⟨hsource, hlisted, rfl⟩
    exact ⟨⟨_, Option.filter_eq_some_iff.mpr ⟨rfl, decide_eq_true hlisted⟩, rfl⟩,
      decide_eq_true (hextension.mpr hsource)⟩

theorem mem_sources_iff (hp : w.Leads p dir) :
    q ∈ w.sources p ↔
      ∃ name above, w.SourceBelow p dir name above ∧ q = p.below (name :: above) := by
  simp only [sources, hp.locate, List.mem_mergeSort, List.mem_filterMap]
  constructor
  · rintro ⟨⟨location, node⟩, hmem, hpath⟩
    have hnode := FileTree.node?_of_mem hmem
    obtain ⟨names, rfl, -⟩ := exists_below_of_sourcePath? hpath
    cases node with
    | directory => simp [sourcePath?] at hpath
    | file content =>
      cases names with
      | nil => simp [hp.directory] at hnode
      | cons name above =>
        obtain ⟨hextension, hlisted, rfl⟩ :=
          (sourcePath?_eq_some_iff hp.ne_nil (FileTree.isPlain_of_node? hnode) content).mp hpath
        exact ⟨name, above, ⟨⟨content, hnode⟩, hextension, hlisted⟩, rfl⟩
  · rintro ⟨name, above, ⟨⟨content, hfile⟩, hextension, hlisted⟩, rfl⟩
    have hmem := (FileTree.mem_of_node? hfile).resolve_left (by simp)
    refine ⟨_, hmem, ?_⟩
    exact (sourcePath?_eq_some_iff hp.ne_nil (FileTree.isPlain_of_node? hfile) content).mpr
      ⟨hextension, hlisted, rfl⟩

theorem IsSource.named (h : w.IsSource q name dir) : q.Named := ⟨name, h.fileName, h.isName⟩

theorem IsSource.node?_eq (h : w.IsSource q name dir) (hdirs : w.DirectoriesIn w')
    (hsame : w'.tree.node? (name :: dir) = w.tree.node? (name :: dir)) :
    w'.node? q = w.node? q := by
  cases hspelling : spellingFault? q with
  | some fault => simp [Workspace.node?, Workspace.locate, hspelling]
  | none =>
    have hlocate := h.locate hspelling
    simp only [Workspace.node?, hlocate, hdirs.locate hlocate, hsame]

theorem exists_isSource_of_mem_sources (hp : w.isDirectory p) (hq : q ∈ w.sources p) :
    ∃ name dir, w.IsSource q name dir := by
  obtain ⟨dir, hleads⟩ := exists_leads_iff.mpr hp
  obtain ⟨name, above, hsource, rfl⟩ := (mem_sources_iff hleads).mp hq
  obtain ⟨content, hfile⟩ := hsource.isFile
  obtain ⟨hname, -⟩ := FileTree.isDirectory_of_node? hfile
  exact ⟨name, above ++ dir,
    { fileName := Path.fileName?_join (p.below above) (isName_iff.mp hname).1
      isName := hname
      extension := Path.splitName_eq_some_iff.mpr ⟨by decide, hsource.extension⟩
      isFile := ⟨content, hfile⟩
      locate := hleads.locate_below hfile }⟩

theorem sources_of_found {found : List Path} (hlocate : w.locate p = .ok dir)
    (hfound : w.tree.nodes.filterMap (sourcePath? p dir) = found)
    (hsorted : found.Pairwise fun q r => Path.le q r) : w.sources p = found := by
  simp only [sources, hlocate, hfound]
  exact List.mergeSort_of_pairwise hsorted

/-- New directories bring no source files. -/
theorem Grows.sources_eq {paths : List Path} (h : w.Grows paths w') (hp : w.isDirectory p) :
    w'.sources p = w.sources p := by
  obtain ⟨dir, hleads⟩ := exists_leads_iff.mpr hp
  obtain ⟨extra, hextra, hdirs⟩ := h.nodes
  have hnone : extra.filterMap (sourcePath? p dir) = [] := by
    rw [List.filterMap_eq_nil_iff]
    intro entry hentry
    obtain ⟨location, node⟩ := entry
    obtain rfl : node = .directory := (hdirs _ hentry).1
    rfl
  simp only [sources, hleads.locate, (hleads.mono h.directoriesIn).locate, hextra,
    List.filterMap_append, hnone, List.append_nil]

theorem Grows.exists_isSource {paths : List Path} (h : w.Grows paths w') (hp : w.isDirectory p)
    (hq : q ∈ w.sources p) : ∃ name dir, w'.IsSource q name dir := by
  obtain ⟨dir, hleads⟩ := exists_leads_iff.mpr hp
  refine exists_isSource_of_mem_sources ?_ ((h.sources_eq hp).symm ▸ hq)
  exact exists_leads_iff.mp ⟨dir, hleads.mono h.directoriesIn⟩

theorem Grows.node?_eq_of_mem_sources {paths : List Path} (h : w.Grows paths w')
    (hp : w.isDirectory p) (hq : q ∈ w.sources p) : w'.node? q = w.node? q := by
  obtain ⟨name, dir, hsource⟩ := exists_isSource_of_mem_sources hp hq
  obtain ⟨content, hfile⟩ := hsource.isFile
  exact hsource.node?_eq h.directoriesIn ((h.node?_of_node? hfile).trans hfile.symm)

end
end Workspace
end ClassTypings
