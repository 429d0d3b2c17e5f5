import ClassTypings.Proofs.Paths
/-!
# Walks through a tree

Where a path leads depends on the directories of the tree alone. So a path keeps its place as long
as directories stay directories, and a write to a path changes the node at one location or nothing.
-/
namespace ClassTypings
namespace FileTree

/-- Every directory of the one tree is a directory of the other. -/
def DirectoriesIn (tree tree' : FileTree) : Prop :=
  ∀ location, tree.node? location = some .directory → tree'.node? location = some .directory

theorem directoriesIn_place (tree : FileTree) (name : Bytes) (dir : Location) (node : Node) :
    tree.DirectoriesIn (tree.place name dir node) := by
  intro location hlocation
  rw [node?_place]
  split
  · rename_i h
    obtain ⟨⟨-, -, hfree⟩, rfl⟩ := h
    rw [hlocation] at hfree
    exact hfree.elim
  · exact hlocation

theorem node?_eq_none_of_suffix {tree : FileTree} {dir location : Location}
    (h : tree.node? dir = none) (hsuffix : dir <:+ location) : tree.node? location = none := by
  induction location with
  | nil =>
    obtain rfl := List.suffix_nil.mp hsuffix
    exact h
  | cons name location ih =>
    rcases List.suffix_cons_iff.mp hsuffix with rfl | hsuffix
    · exact h
    · rw [Option.eq_none_iff_forall_ne_some]
      intro node hnode
      have hdir := (isDirectory_of_node? hnode).2
      simp [ih hsuffix] at hdir

theorem isPlain_of_node? {tree : FileTree} {names dir : Location} {node : Node}
    (h : tree.node? (names ++ dir) = some node) : ∀ name ∈ names, IsPlain name := by
  induction names generalizing node with
  | nil => simp
  | cons name above ih =>
    obtain ⟨hname, hdir⟩ := isDirectory_of_node? h
    exact List.forall_mem_cons.mpr ⟨(isName_iff.mp hname).1, ih hdir⟩

end FileTree

namespace Workspace

theorem spellingFault?_eq_none_iff {p : Path} :
    spellingFault? p = none ↔
      Byte.nul ∉ p.bytes ∧ p.bytes ≠ [] ∧ p.bytes.length ≤ maxPathSize := by
  unfold spellingFault?
  split
  · simp_all
  · split
    · simp_all
    · split <;> simp_all

private theorem spellingFault?_of_join {p : Path} {name : Bytes} (hp : p.bytes ≠ [])
    (hslash : Byte.slash ∉ name)
    (h : spellingFault? (p.join name) = none) : spellingFault? p = none := by
  obtain ⟨hnul, -, hsize⟩ := spellingFault?_eq_none_iff.mp h
  rw [Path.mem_bytes_join hp hslash (by decide), not_or] at hnul
  have hshorter := Path.length_le_join hp hslash
  exact spellingFault?_eq_none_iff.mpr ⟨hnul.1, hp, Nat.le_trans hshorter hsize⟩

theorem directoryFault?_eq_none_iff {tree : FileTree} {location : Location} :
    directoryFault? tree location = none ↔ tree.node? location = some .directory := by
  unfold directoryFault?
  split <;> simp_all

theorem step_name_of_size {dir : Location} {name : Bytes}
    (h : name.length ≤ maxNameSize) : step dir (.name name) = .ok (name :: dir) := by
  rw [step, if_neg (Nat.not_lt.mpr h)]

section Walk

variable {tree : FileTree} {location last : Location} {c : Component} {cs : List Component}

theorem walk_cons_eq_ok_iff :
    walk tree location (c :: cs) = .ok last ↔
      tree.node? location = some .directory ∧
        ∃ next, step location c = .ok next ∧ walk tree next cs = .ok last := by
  rw [walk, ← directoryFault?_eq_none_iff]
  cases directoryFault? tree location with
  | some fault => simp
  | none => cases step location c <;> simp

theorem walk_append_eq_ok_iff {cs' : List Component} :
    walk tree location (cs ++ cs') = .ok last ↔
      ∃ mid, walk tree location cs = .ok mid ∧ walk tree mid cs' = .ok last := by
  induction cs generalizing location with
  | nil => simp [walk]
  | cons c cs ih =>
    simp only [List.cons_append, walk_cons_eq_ok_iff, ih]
    constructor
    · intro h
      obtain ⟨hdir, next, hstep, mid, hwalk, hrest⟩ := h
      exact ⟨mid, ⟨hdir, next, hstep, hwalk⟩, hrest⟩
    · intro h
      obtain ⟨mid, ⟨hdir, next, hstep, hwalk⟩, hrest⟩ := h
      exact ⟨hdir, next, hstep, mid, hwalk, hrest⟩

theorem walk_concat_eq_ok_iff :
    walk tree location (cs ++ [c]) = .ok last ↔
      ∃ dir, walk tree location cs = .ok dir ∧ tree.node? dir = some .directory ∧
        step dir c = .ok last := by
  have hlast (next : Location) : walk tree next [] = .ok last ↔ next = last := by simp [walk]
  simp only [walk_append_eq_ok_iff, walk_cons_eq_ok_iff, hlast, exists_eq_right]

theorem walk_mono {tree' : FileTree} (h : tree.DirectoriesIn tree')
    (hwalk : walk tree location cs = .ok last) : walk tree' location cs = .ok last := by
  induction cs generalizing location with
  | nil => exact hwalk
  | cons c cs ih =>
    obtain ⟨hdir, next, hstep, hrest⟩ := walk_cons_eq_ok_iff.mp hwalk
    exact walk_cons_eq_ok_iff.mpr ⟨h _ hdir, next, hstep, ih hrest⟩

end Walk

/-- The workspace starts where the other does and has all its directories. -/
structure DirectoriesIn (w w' : Workspace) : Prop where
  home : w'.home = w.home
  directories : w.tree.DirectoriesIn w'.tree

section Locate

variable {w w' w'' : Workspace} {p : Path} {location dir : Location} {name : Bytes}

theorem DirectoriesIn.refl (w : Workspace) : w.DirectoriesIn w := ⟨rfl, fun _ h => h⟩

theorem DirectoriesIn.trans (h : w.DirectoriesIn w') (h' : w'.DirectoriesIn w'') :
    w.DirectoriesIn w'' :=
  ⟨h'.home.trans h.home, fun location k => h'.directories location (h.directories location k)⟩

theorem locate_eq_ok_iff :
    w.locate p = .ok location ↔
      spellingFault? p = none ∧ walk w.tree (w.start p) p.steps = .ok location ∧
        (p.endsWithSlash → w.tree.node? location = some .directory) := by
  unfold locate
  cases hspelling : spellingFault? p with
  | some fault => simp
  | none =>
    cases hends : p.endsWithSlash with
    | false => simp
    | true =>
      simp only [if_true, walk_concat_eq_ok_iff, step, true_and, forall_const]
      constructor
      · intro h
        obtain ⟨dir, hwalk, hdir, hstep⟩ := h
        obtain rfl := Except.ok.inj hstep
        exact ⟨hwalk, hdir⟩
      · intro h
        exact ⟨location, h.1, h.2, rfl⟩

theorem DirectoriesIn.start (h : w.DirectoriesIn w') : w'.start p = w.start p := by
  rw [Workspace.start, Workspace.start, h.home]

theorem DirectoriesIn.locate (h : w.DirectoriesIn w') (hp : w.locate p = .ok location) :
    w'.locate p = .ok location := by
  obtain ⟨hspelling, hwalk, hends⟩ := locate_eq_ok_iff.mp hp
  refine locate_eq_ok_iff.mpr ⟨hspelling, ?_, fun k => h.directories _ (hends k)⟩
  rw [h.start]
  exact walk_mono h.directories hwalk

theorem node?_eq_ok_iff_of_locate {node : Node} (hp : w.locate p = .ok location) :
    w.node? p = .ok node ↔ w.tree.node? location = some node := by
  simp only [Workspace.node?, hp]
  cases w.tree.node? location <;> simp

theorem isDirectory_iff : w.isDirectory p ↔ w.node? p = .ok .directory := by
  unfold isDirectory
  cases w.node? p with
  | error fault => simp
  | ok node => cases node <;> simp

/-- A path leads to a directory. -/
structure Leads (w : Workspace) (p : Path) (dir : Location) : Prop where
  locate : w.locate p = .ok dir
  directory : w.tree.node? dir = some .directory

theorem exists_leads_iff : (∃ dir, w.Leads p dir) ↔ w.isDirectory p := by
  rw [isDirectory_iff]
  constructor
  · intro h
    obtain ⟨dir, hlocate, hdir⟩ := h
    exact (node?_eq_ok_iff_of_locate hlocate).mpr hdir
  · intro h
    cases hlocate : w.locate p with
    | error fault => simp [Workspace.node?, hlocate] at h
    | ok dir => exact ⟨dir, hlocate, (node?_eq_ok_iff_of_locate hlocate).mp h⟩

theorem Leads.ne_nil (h : w.Leads p dir) : p.bytes ≠ [] :=
  (spellingFault?_eq_none_iff.mp (locate_eq_ok_iff.mp h.locate).1).2.1

theorem Leads.mono (h : w.Leads p dir) (hw : w.DirectoriesIn w') : w'.Leads p dir :=
  ⟨hw.locate h.locate, hw.directories _ h.directory⟩

private theorem start_join (hp : p.bytes ≠ []) (hslash : Byte.slash ∉ name) :
    w.start (p.join name) = w.start p := by
  rw [start, start, Path.isAbsolute_join hp hslash]

theorem Leads.locate_join (h : w.Leads p dir) (hname : IsName name)
    (hspelling : spellingFault? (p.join name) = none) :
    w.locate (p.join name) = .ok (name :: dir) := by
  obtain ⟨hplain, -, hsize⟩ := isName_iff.mp hname
  refine locate_eq_ok_iff.mpr ⟨hspelling, ?_, ?_⟩
  · rw [start_join h.ne_nil hplain.noSlash, Path.steps_join h.ne_nil hplain]
    exact walk_concat_eq_ok_iff.mpr
      ⟨dir, (locate_eq_ok_iff.mp h.locate).2.1, h.directory, step_name_of_size hsize⟩
  · rw [Path.endsWithSlash_join h.ne_nil hplain]
    exact nofun

/-- A path below a directory leads there step by step, as the path above it is shorter. -/
theorem Leads.locate_below (h : w.Leads p dir) {names : Location} {node : Node}
    (hnode : w.tree.node? (names ++ dir) = some node)
    (hspelling : spellingFault? (p.below names) = none) :
    w.locate (p.below names) = .ok (names ++ dir) := by
  induction names generalizing node with
  | nil => exact h.locate
  | cons name above ih =>
    obtain ⟨hname, hdir⟩ := FileTree.isDirectory_of_node? hnode
    have hne := Path.bytes_below_ne_nil h.ne_nil (FileTree.isPlain_of_node? hdir)
    have habove := ih hdir (spellingFault?_of_join hne (isName_iff.mp hname).1.noSlash hspelling)
    exact Leads.locate_join ⟨habove, hdir⟩ hname hspelling

/-- Below a directory nothing but its size is wrong with the path of a file. -/
theorem Leads.spellingFault?_below_iff (h : w.Leads p dir) {names : Location} {node : Node}
    (hnode : w.tree.node? (names ++ dir) = some node) :
    spellingFault? (p.below names) = none ↔ (p.below names).bytes.length ≤ maxPathSize := by
  have hnul : Byte.nul ∉ (p.below names).bytes := by
    induction names generalizing node with
    | nil => exact (spellingFault?_eq_none_iff.mp (locate_eq_ok_iff.mp h.locate).1).1
    | cons name above ih =>
      obtain ⟨hname, hdir⟩ := FileTree.isDirectory_of_node? hnode
      have hne := Path.bytes_below_ne_nil h.ne_nil (FileTree.isPlain_of_node? hdir)
      obtain ⟨hplain, hnul, -⟩ := isName_iff.mp hname
      rw [Path.below, Path.mem_bytes_join hne hplain.noSlash (by decide)]
      exact not_or.mpr ⟨ih hdir, hnul⟩
  have hne := Path.bytes_below_ne_nil h.ne_nil (FileTree.isPlain_of_node? hnode)
  rw [spellingFault?_eq_none_iff, and_iff_right hnul, and_iff_right hne]

theorem node?_join_of_long (hp : p.bytes ≠ []) (hname : IsPlain name)
    (hlong : maxNameSize < name.length) (node : Node) :
    w.node? (p.join name) ≠ .ok node := by
  intro h
  cases hlocate : w.locate (p.join name) with
  | error fault => simp [Workspace.node?, hlocate] at h
  | ok location =>
    obtain ⟨-, hwalk, -⟩ := locate_eq_ok_iff.mp hlocate
    rw [Path.steps_join hp hname, walk_concat_eq_ok_iff] at hwalk
    obtain ⟨dir, -, -, hstep⟩ := hwalk
    simp [step, hlong] at hstep

end Locate

/-- Whether a file can come to a path: no directory is there, and neither the path nor the name at
its end is too long. -/
def takesFile (w : Workspace) (p : Path) : Bool :=
  !w.isDirectory p && p.fileName?.all (·.length ≤ maxNameSize) &&
    p.bytes.length ≤ maxPathSize

section Put

variable {w : Workspace} {p : Path} {dir : Location} {name : Bytes}

private theorem lastStep_join (h : w.Leads p dir) (hname : IsPlain name)
    (hspelling : spellingFault? (p.join name) = none) :
    w.lastStep (p.join name) = .ok (dir, some (.name name)) := by
  have hwalk := (locate_eq_ok_iff.mp h.locate).2.1
  simp only [lastStep, hspelling, start_join h.ne_nil hname.noSlash,
    Path.steps_join h.ne_nil hname, List.dropLast_concat, List.getLast?_concat, hwalk,
    directoryFault?_eq_none_iff.mpr h.directory]

theorem takesFile_join_iff (h : w.Leads p dir) (hname : IsPlain name) (hnul : Byte.nul ∉ name) :
    w.takesFile (p.join name) ↔
      spellingFault? (p.join name) = none ∧ name.length ≤ maxNameSize ∧
        w.tree.node? (name :: dir) ≠ some .directory := by
  obtain ⟨hp, -, -⟩ := spellingFault?_eq_none_iff.mp (locate_eq_ok_iff.mp h.locate).1
  have hspelling : spellingFault? (p.join name) = none ↔
      (p.join name).bytes.length ≤ maxPathSize := by
    have hne : (p.join name).bytes ≠ [] := by simp [Path.bytes_join h.ne_nil hname.noSlash, h.ne_nil]
    have hjoin := Path.mem_bytes_join h.ne_nil hname.noSlash (b := Byte.nul) (by decide)
    simp [spellingFault?_eq_none_iff, hne, hjoin, hp, hnul]
  simp only [takesFile, Path.fileName?_join p hname, Option.all_some, Bool.and_eq_true,
    Bool.not_eq_true', decide_eq_true_eq, ← hspelling]
  have hfree (hsize : name.length ≤ maxNameSize)
      (hpath : spellingFault? (p.join name) = none) :
      w.isDirectory (p.join name) = false ↔ w.tree.node? (name :: dir) ≠ some .directory := by
    have hlocate := h.locate_join (isName_iff.mpr ⟨hname, hnul, hsize⟩) hpath
    rw [← Bool.not_eq_true, isDirectory_iff, node?_eq_ok_iff_of_locate hlocate]
  constructor
  · intro k
    obtain ⟨⟨hdir, hsize⟩, hpath⟩ := k
    exact ⟨hpath, hsize, (hfree hsize hpath).mp hdir⟩
  · intro k
    obtain ⟨hpath, hsize, hdir⟩ := k
    exact ⟨⟨(hfree hsize hpath).mpr hdir, hsize⟩, hpath⟩

theorem mayPlace_of_takesFile (h : w.Leads p dir) (hname : IsPlain name) (hnul : Byte.nul ∉ name)
    (htakes : w.takesFile (p.join name)) (content : Content) :
    w.tree.MayPlace name dir (.file content) := by
  obtain ⟨-, hsize, hfree⟩ := (takesFile_join_iff h hname hnul).mp htakes
  refine ⟨isName_iff.mpr ⟨hname, hnul, hsize⟩, h.directory, ?_⟩
  cases hnode : w.tree.node? (name :: dir) with
  | none => trivial
  | some node =>
    cases node with
    | file content' => trivial
    | directory => exact absurd hnode hfree

theorem put_join_of_takesFile (h : w.Leads p dir) (hname : IsPlain name) (hnul : Byte.nul ∉ name)
    (htakes : w.takesFile (p.join name)) (content : Content) :
    w.put (p.join name) content =
      .ok { w with tree := w.tree.place name dir (.file content) } := by
  obtain ⟨hspelling, hsize, hfree⟩ := (takesFile_join_iff h hname hnul).mp htakes
  simp only [put, lastStep_join h hname hspelling, Path.endsWithSlash_join h.ne_nil hname,
    Bool.false_eq_true, if_false, if_neg (Nat.not_lt.mpr hsize), if_neg hfree]

theorem put_join_of_not_takesFile (h : w.Leads p dir) (hname : IsPlain name)
    (hnul : Byte.nul ∉ name) (htakes : ¬ w.takesFile (p.join name)) (content : Content) :
    ∃ fault, w.put (p.join name) content = .error fault := by
  rw [takesFile_join_iff h hname hnul] at htakes
  cases hspelling : spellingFault? (p.join name) with
  | some fault => exact ⟨fault, by simp [put, lastStep, hspelling]⟩
  | none =>
    simp only [put, lastStep_join h hname hspelling, Path.endsWithSlash_join h.ne_nil hname,
      Bool.false_eq_true, if_false]
    by_cases hsize : maxNameSize < name.length
    · exact ⟨_, if_pos hsize⟩
    · have hdir : w.tree.node? (name :: dir) = some .directory :=
        Decidable.byContradiction fun hfree =>
          htakes ⟨hspelling, Nat.not_lt.mp hsize, hfree⟩
      exact ⟨_, by rw [if_neg hsize, if_pos hdir]⟩

end Put
end Workspace
end ClassTypings
