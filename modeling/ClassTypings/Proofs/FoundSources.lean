import ClassTypings.Proofs.PathOrder
import ClassTypings.Proofs.Sources
/-!
# Which source files are found

Below a directory every file under the extension of a source is found, once and in the order of the
paths, in whatever order the tree lists its nodes. Only a directory whose path is too long cannot be
listed, and nothing in it is found.
-/
namespace ClassTypings
namespace FileTree

private theorem node?_of_perm {tree tree' : FileTree} (hperm : tree.nodes.Perm tree'.nodes)
    {location : Location} {node : Node} (h : tree.node? location = some node) :
    tree'.node? location = some node := by
  rcases mem_of_node? h with ⟨rfl, rfl⟩ | hmem
  · rfl
  · exact node?_of_mem (hperm.mem_iff.mp hmem)

end FileTree

namespace Workspace

section

variable {w w' : Workspace} {p q : Path} {dir location names above : Location} {name : Bytes}

private theorem below_mem_sources_iff (hp : w.Leads p dir) {node : Node}
    (hnode : w.tree.node? (names ++ dir) = some node) :
    p.below names ∈ w.sources p ↔
      ∃ name above, names = name :: above ∧ w.SourceBelow p dir name above := by
  rw [mem_sources_iff hp]
  constructor
  · rintro ⟨name, above, hsource, hsame⟩
    obtain ⟨content, hfile⟩ := hsource.isFile
    refine ⟨name, above, ?_, hsource⟩
    exact Path.below_inj p (FileTree.isPlain_of_node? hnode)
      (FileTree.isPlain_of_node? hfile) (congrArg Path.components hsame)
  · rintro ⟨name, above, rfl, hsource⟩
    exact ⟨name, above, hsource, rfl⟩

private theorem sources_eq_nil_of_fault {fault : Fault} (h : w.node? p = .error fault) :
    w.sources p = [] := by
  cases hlocate : w.locate p with
  | error fault' => simp only [sources, hlocate]
  | ok dir =>
    have hnone : w.tree.node? dir = none := by
      rw [Option.eq_none_iff_forall_ne_some]
      intro node hnode
      simp [(node?_eq_ok_iff_of_locate hlocate).mpr hnode] at h
    have hfound : w.tree.nodes.filterMap (sourcePath? p dir) = [] := by
      rw [List.filterMap_eq_nil_iff]
      intro entry hmem
      rw [Option.eq_none_iff_forall_ne_some]
      intro q hq
      obtain ⟨names, hlocation, -⟩ := exists_below_of_sourcePath? hq
      have hbelow := FileTree.node?_eq_none_of_suffix hnone (List.suffix_append names dir)
      have hnode := @FileTree.node?_of_mem _ entry.1 entry.2 hmem
      simp [hlocation, hbelow] at hnode
    simp [sources, hlocate, hfound]

private theorem pairwise_sources (w : Workspace) (p : Path) :
    (w.sources p).Pairwise fun q r => Path.compare q r = .lt := by
  cases hlocate : w.locate p with
  | error fault => simp [sources, hlocate]
  | ok dir =>
    have hlocations : w.tree.nodes.Pairwise fun entry other => entry.1 ≠ other.1 :=
      List.pairwise_map.mp w.tree.nodup
    simp only [sources, hlocate]
    refine Path.pairwise_lt_mergeSort (List.pairwise_filterMap.mpr ?_)
    refine hlocations.imp_of_mem fun {entry other} hentry hother hne q hq r hr hsame => hne ?_
    obtain ⟨names, hlocation, rfl⟩ := exists_below_of_sourcePath? hq
    obtain ⟨names', hlocation', rfl⟩ := exists_below_of_sourcePath? hr
    have hnode : w.tree.node? (names ++ dir) = some entry.2 :=
      hlocation ▸ FileTree.node?_of_mem hentry
    have hnode' : w.tree.node? (names' ++ dir) = some other.2 :=
      hlocation' ▸ FileTree.node?_of_mem hother
    rw [hlocation, hlocation', Path.below_inj p (FileTree.isPlain_of_node? hnode)
      (FileTree.isPlain_of_node? hnode') hsame]

private theorem sources_eq_of_perm (hhome : w'.home = w.home)
    (hperm : w'.tree.nodes.Perm w.tree.nodes)
    (p : Path) : w'.sources p = w.sources p := by
  have hdirs : w.DirectoriesIn w' := ⟨hhome, fun _ => FileTree.node?_of_perm hperm.symm⟩
  have hdirs' : w'.DirectoriesIn w := ⟨hhome.symm, fun _ => FileTree.node?_of_perm hperm⟩
  cases hlocate : w.locate p with
  | error fault =>
    cases hlocate' : w'.locate p with
    | error fault' => simp only [sources, hlocate, hlocate']
    | ok dir => simp [hdirs'.locate hlocate'] at hlocate
  | ok dir =>
    have hfound : (w'.sources p).Perm (w.sources p) := by
      simp only [sources, hlocate, hdirs.locate hlocate]
      exact (List.mergeSort_perm _ _).trans
        ((hperm.filterMap _).trans (List.mergeSort_perm _ _).symm)
    exact Path.eq_of_perm_of_pairwise_lt hfound (pairwise_sources w' p) (pairwise_sources w p)

end

/-- The paths that are found below a path, each once and in order. -/
structure Finds (w : Workspace) (p : Path) (found : List Path) : Prop where
  mem_iff : ∀ dir, w.Leads p dir → ∀ q, q ∈ found ↔
    ∃ name above, w.SourceBelow p dir name above ∧ q = p.below (name :: above)
  /-- A directory may be called like a source file. -/
  noDirectory : ∀ dir, w.Leads p dir → ∀ names,
    w.tree.node? (names ++ dir) = some .directory → p.below names ∉ found
  missing : ∀ fault, w.node? p = .error fault → found = []
  increasing : found.Pairwise Path.Before
  nodup : found.Nodup
  /-- The tree may list its nodes in any order. -/
  anyOrder : ∀ w' : Workspace, w'.home = w.home → w'.tree.nodes.Perm w.tree.nodes →
    w'.sources p = found

/-- For every tree and every path: what is found below the path are the source files there. -/
theorem sources_found_exactly (w : Workspace) (p : Path) : w.Finds p (w.sources p) where
  mem_iff _ hp _ := mem_sources_iff hp
  noDirectory dir hp names hdir := by
    rw [below_mem_sources_iff hp hdir]
    rintro ⟨name, above, rfl, hsource⟩
    obtain ⟨content, hfile⟩ := hsource.isFile
    have hsame := hdir.symm.trans hfile
    simp at hsame
  missing _ h := sources_eq_nil_of_fault h
  increasing := (pairwise_sources w p).imp Path.before_of_compare
  nodup := Path.nodup_of_pairwise_lt (pairwise_sources w p)
  anyOrder _ hhome hperm := sources_eq_of_perm hhome hperm p

/-- Source files in directories of close names, a directory that is called like a source file, and
files whose names only come close to those of source files. -/
def closeNames : Workspace where
  tree := (((((((((FileTree.empty.place "in" [] .directory).place
    "a-b" ["in"] .directory).place
    "x.php" ["a-b", "in"] (.file (.text []))).place
    "a" ["in"] .directory).place
    "x.php" ["a", "in"] (.file (.text []))).place
    "y.php" ["in"] .directory).place
    "B.b.php" ["y.php", "in"] (.file (.text []))).place
    ".php" ["in"] (.file (.text []))).place
    "C.PHP" ["in"] (.file (.text [])))
  home := []

private theorem leads_closeNames : closeNames.Leads "in" ["in"] := ⟨rfl, rfl⟩

theorem sources_found_closeNames :
    let found := closeNames.sources "in"
    (("in/a/x.php" : Path) ∈ found ∧ ("in/a-b/x.php" : Path) ∈ found ∧
      ("in/y.php/B.b.php" : Path) ∈ found) ∧
    (("in/y.php" : Path) ∉ found ∧ ("in/.php" : Path) ∉ found ∧ ("in/C.PHP" : Path) ∉ found) ∧
    found.Pairwise Path.Before ∧ Path.Before "in/a/x.php" "in/a-b/x.php" ∧
    closeNames.sources "no" = [] := by
  intro found
  have hfound := closeNames.sources_found_exactly "in"
  have hmem := hfound.mem_iff _ leads_closeNames
  have hother (name : Bytes) (node : Node)
      (hnode : closeNames.tree.node? ([name] ++ [("in" : Bytes)]) = some node)
      (hname : (Path.splitName name).2 ≠ some sourceExtension.bytes) :
      Path.below "in" [name] ∉ found := by
    intro h
    obtain ⟨_, _, hnames, hsource⟩ := (below_mem_sources_iff leads_closeNames hnode).mp h
    obtain ⟨rfl, rfl⟩ := List.cons.inj hnames
    exact hname (Path.splitName_eq_some_iff.mpr ⟨by decide, hsource.extension⟩)
  refine ⟨⟨(hmem _).mpr ?_, (hmem _).mpr ?_, (hmem _).mpr ?_⟩, ⟨?_, ?_, ?_⟩, ?_, ?_, ?_⟩
  · exact ⟨"x.php", ["a"], ⟨⟨_, rfl⟩, ⟨"x", by decide, rfl⟩, by decide⟩, rfl⟩
  · exact ⟨"x.php", ["a-b"], ⟨⟨_, rfl⟩, ⟨"x", by decide, rfl⟩, by decide⟩, rfl⟩
  · exact ⟨"B.b.php", ["y.php"],
      ⟨⟨_, rfl⟩, ⟨"B.b", by decide, rfl⟩, by decide⟩, rfl⟩
  · exact hfound.noDirectory _ leads_closeNames ["y.php"] rfl
  · exact hother ".php" _ rfl (by decide)
  · exact hother "C.PHP" _ rfl (by decide)
  · exact hfound.increasing
  · exact Path.before_of_compare (by decide)
  · exact (closeNames.sources_found_exactly "no").missing .noEntry rfl

/-- A directory below `in`, with a source file. -/
def deepSource : Workspace where
  tree := ((FileTree.empty.place "in" [] .directory).place
    "aaaaaaaa" ["in"] .directory).place
    "A.php" ["aaaaaaaa", "in"] (.file (.text "<?php\nclass A {}\n".toList))
  home := []

/-- The directory `in` under a long path, that of the directory below being longer than paths can
be. -/
def longSpelling : Path := ⟨(List.replicate 2044 [Byte.dot, Byte.slash]).flatten ++ "in"⟩

theorem not_forall_source_found :
    ¬ ∀ (w : Workspace) (p : Path) (dir : Location), w.Leads p dir →
      ∀ (name : Bytes) (above : Location) (content : Content),
        w.tree.node? (name :: above ++ dir) = some (.file content) →
        (∃ stem, stem ≠ [] ∧ name = stem ++ Byte.dot :: sourceExtension.bytes) →
        p.below (name :: above) ∈ w.sources p := by
  intro h
  have hleads : deepSource.Leads longSpelling ["in"] :=
    ⟨by decide +kernel, by decide +kernel⟩
  have hfound := h deepSource longSpelling _ hleads "A.php" ["aaaaaaaa"] _ rfl
    ⟨"A", by decide, rfl⟩
  obtain ⟨name, above, hnames, hsource⟩ := (below_mem_sources_iff hleads rfl).mp hfound
  obtain ⟨rfl, rfl⟩ := List.cons.inj hnames
  exact absurd hsource.listed (by decide +kernel)

end Workspace
end ClassTypings
