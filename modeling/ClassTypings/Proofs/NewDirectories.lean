import ClassTypings.Proofs.Walks
/-!
# New directories

Making a directory with all that is missing above it adds directories behind the nodes that are
there and changes none of them. When nothing is refused, the path leads to a directory.
-/
namespace ClassTypings
namespace FileTree

private theorem setNode_of_lookup_eq_none {location : Location} {node : Node}
    {nodes : List (Location × Node)} (h : lookup location nodes = none) :
    setNode location node nodes = nodes ++ [(location, node)] := by
  induction nodes with
  | nil => rfl
  | cons entry nodes ih =>
    by_cases hsame : entry.1 = location
    · simp [lookup, hsame] at h
    · rw [lookup, if_neg hsame] at h
      rw [setNode, if_neg hsame, ih h, List.cons_append]

end FileTree

namespace Workspace

/-- The workspace after some of the paths have become directories, and nothing else. -/
structure Grows (paths : List Path) (w w' : Workspace) : Prop where
  home : w'.home = w.home
  nodes : ∃ extra, w'.tree.nodes = w.tree.nodes ++ extra ∧
    ∀ entry ∈ extra, entry.2 = .directory ∧ ∃ p ∈ paths, w'.locate p = .ok entry.1

section Grows

variable {paths more : List Path} {w w' w'' : Workspace}

theorem Grows.refl (paths : List Path) (w : Workspace) : w.Grows paths w :=
  ⟨rfl, [], (List.append_nil _).symm, nofun⟩

theorem Grows.node?_of_node? (h : w.Grows paths w') {location : Location} {node : Node}
    (hnode : w.tree.node? location = some node) : w'.tree.node? location = some node := by
  obtain ⟨extra, hextra, -⟩ := h.nodes
  rcases FileTree.mem_of_node? hnode with ⟨rfl, rfl⟩ | hmem
  · rfl
  · exact FileTree.node?_of_mem (hextra ▸ List.mem_append_left _ hmem)

theorem Grows.directoriesIn (h : w.Grows paths w') : w.DirectoriesIn w' :=
  ⟨h.home, fun _ => h.node?_of_node?⟩

/-- A location keeps its node, unless one of the paths has become a directory there. -/
theorem Grows.node?_eq_or (h : w.Grows paths w') (location : Location) :
    w'.tree.node? location = w.tree.node? location ∨
      w.tree.node? location = none ∧ w'.tree.node? location = some .directory ∧
        ∃ p ∈ paths, w'.locate p = .ok location := by
  cases hold : w.tree.node? location with
  | some node => exact .inl (h.node?_of_node? hold)
  | none =>
    cases hnew : w'.tree.node? location with
    | none => exact .inl rfl
    | some node =>
      obtain ⟨extra, hextra, hdirs⟩ := h.nodes
      rcases FileTree.mem_of_node? hnew with ⟨rfl, -⟩ | hmem
      · simp [FileTree.node?] at hold
      · rcases List.mem_append.mp (hextra ▸ hmem) with hmem | hmem
        · rw [FileTree.node?_of_mem hmem] at hold
          simp at hold
        · obtain ⟨hdir, hpath⟩ := hdirs _ hmem
          exact .inr ⟨rfl, congrArg some hdir, hpath⟩

theorem Grows.trans (h : w.Grows paths w') (h' : w'.Grows paths w'') : w.Grows paths w'' := by
  obtain ⟨extra, hextra, hdirs⟩ := h.nodes
  obtain ⟨extra', hextra', hdirs'⟩ := h'.nodes
  refine ⟨h'.home.trans h.home, extra ++ extra', ?_, ?_⟩
  · rw [hextra', hextra, List.append_assoc]
  · intro entry hentry
    rcases List.mem_append.mp hentry with hentry | hentry
    · obtain ⟨hdir, p, hp, hlocate⟩ := hdirs _ hentry
      exact ⟨hdir, p, hp, h'.directoriesIn.locate hlocate⟩
    · exact hdirs' _ hentry

theorem Grows.mono (h : w.Grows paths w') (hsub : ∀ p ∈ paths, p ∈ more) : w.Grows more w' := by
  obtain ⟨extra, hextra, hdirs⟩ := h.nodes
  refine ⟨h.home, extra, hextra, fun entry hentry => ?_⟩
  obtain ⟨hdir, p, hp, hlocate⟩ := hdirs entry hentry
  exact ⟨hdir, p, hsub p hp, hlocate⟩

end Grows

section Make

variable {w w' made : Workspace} {p : Path} {dir : Location} {name : Bytes}

theorem lastStep_eq_ok_iff {c : Option Component} :
    w.lastStep p = .ok (dir, c) ↔
      spellingFault? p = none ∧ walk w.tree (w.start p) p.steps.dropLast = .ok dir ∧
        w.tree.node? dir = some .directory ∧ p.steps.getLast? = c := by
  constructor
  · intro h
    unfold lastStep at h
    split at h
    · simp at h
    · split at h
      · simp at h
      · split at h
        · simp at h
        · obtain ⟨rfl, hlast⟩ := Prod.mk.inj (Except.ok.inj h)
          exact ⟨‹_›, ‹_›, directoryFault?_eq_none_iff.mp ‹_›, hlast⟩
  · intro h
    obtain ⟨hspelling, hwalk, hdir, rfl⟩ := h
    simp only [lastStep, hspelling, hwalk, directoryFault?_eq_none_iff.mpr hdir]

theorem lastStep_eq_name (h : w.lastStep p = .ok (dir, some (.name name))) :
    spellingFault? p = none ∧ p.steps = p.steps.dropLast ++ [.name name] ∧
      walk w.tree (w.start p) p.steps.dropLast = .ok dir ∧ w.tree.node? dir = some .directory := by
  obtain ⟨hspelling, hwalk, hdir, hlast⟩ := lastStep_eq_ok_iff.mp h
  obtain ⟨front, hfront⟩ := List.getLast?_eq_some_iff.mp hlast
  refine ⟨hspelling, ?_, hwalk, hdir⟩
  rw [hfront, List.dropLast_concat]

theorem isName_of_lastStep (h : w.lastStep p = .ok (dir, some (.name name)))
    (hsize : name.length ≤ maxNameSize) : IsName name := by
  obtain ⟨hspelling, hsteps, -, -⟩ := lastStep_eq_name h
  obtain ⟨hplain, hsub⟩ : IsPlain name ∧ ∀ c ∈ name, c ∈ p.bytes :=
    Path.isPlain_of_mem_steps (by rw [hsteps]; simp)
  exact isName_iff.mpr
    ⟨hplain, fun hnul => (spellingFault?_eq_none_iff.mp hspelling).1 (hsub _ hnul), hsize⟩

theorem locate_of_lastStep (h : w.lastStep p = .ok (dir, some (.name name)))
    (hsize : name.length ≤ maxNameSize) (hw : w.DirectoriesIn w')
    (hnew : w'.tree.node? (name :: dir) = some .directory) :
    w'.locate p = .ok (name :: dir) := by
  obtain ⟨hspelling, hsteps, hwalk, hdir⟩ := lastStep_eq_name h
  refine locate_eq_ok_iff.mpr ⟨hspelling, ?_, fun _ => hnew⟩
  rw [hsteps, hw.start]
  exact walk_concat_eq_ok_iff.mpr
    ⟨dir, walk_mono hw.directories hwalk, hw.directories _ hdir, step_name_of_size hsize⟩

theorem makeDirectory_eq_ok (h : w.makeDirectory p = .ok made) :
    w.Grows [p] made ∧ made.isDirectory p := by
  unfold makeDirectory at h
  split at h
  · simp at h
  · rename_i dir name hlast
    split at h
    · simp at h
    · rename_i hlong
      split at h
      · simp at h
      · rename_i hfree
        obtain rfl := Except.ok.inj h
        have hsize := Nat.not_lt.mp hlong
        have hnone : w.tree.node? (name :: dir) = none := by simpa using hfree
        have hmay : w.tree.MayPlace name dir .directory :=
          ⟨isName_of_lastStep hlast hsize, (lastStep_eq_name hlast).2.2.2, by rw [hnone]; trivial⟩
        have hnew : (w.tree.place name dir .directory).node? (name :: dir) = some .directory := by
          simp [FileTree.node?_place, hmay]
        have hkept : w.DirectoriesIn { w with tree := w.tree.place name dir .directory } :=
          ⟨rfl, FileTree.directoriesIn_place _ _ _ _⟩
        have hlocate := locate_of_lastStep hlast hsize hkept hnew
        refine ⟨⟨rfl, [(name :: dir, .directory)], ?_, ?_⟩, ?_⟩
        · rw [FileTree.place, dif_pos hmay]
          exact FileTree.setNode_of_lookup_eq_none hnone
        · intro entry hentry
          obtain rfl := List.mem_singleton.mp hentry
          exact ⟨rfl, p, by simp, hlocate⟩
        · exact isDirectory_iff.mpr ((node?_eq_ok_iff_of_locate hlocate).mpr hnew)
  · simp at h

/-- What making a chain can come to: starting from the workspace or from what making the paths
above has left, the first path is made, is a directory already, or is refused. -/
theorem makeChain_cons (w : Workspace) (hne : p.bytes ≠ []) (above : List Path) :
    ∃ base, (base = w ∨ base = (w.makeChain above).1) ∧
      ((∃ made, base.makeDirectory p = .ok made ∧ w.makeChain (p :: above) = (made, none)) ∨
        (base.isDirectory p ∧ w.makeChain (p :: above) = (base, none)) ∨
        ∃ fault, w.makeChain (p :: above) = (base, some fault)) := by
  rw [makeChain, if_neg (by simpa using hne)]
  cases hmake : w.makeDirectory p with
  | ok made => exact ⟨w, .inl rfl, .inl ⟨made, hmake, rfl⟩⟩
  | error fault =>
    by_cases hentry : fault = .noEntry
    · cases hchain : w.makeChain above with
      | mk below cause =>
        refine ⟨below, .inr rfl, ?_⟩
        cases cause with
        | some cause => exact .inr (.inr ⟨cause, by simp [hentry]⟩)
        | none =>
          cases hagain : below.makeDirectory p with
          | ok made => exact .inl ⟨made, rfl, by simp [hentry, hagain]⟩
          | error fault' =>
            by_cases hdir : below.isDirectory p
            · exact .inr (.inl ⟨hdir, by simp [hentry, hagain, hdir]⟩)
            · exact .inr (.inr ⟨fault', by simp [hentry, hagain, hdir]⟩)
    · by_cases hdir : w.isDirectory p
      · exact ⟨w, .inl rfl, .inr (.inl ⟨hdir, by simp [hentry, hdir]⟩)⟩
      · exact ⟨w, .inl rfl, .inr (.inr ⟨fault, by simp [hentry, hdir]⟩)⟩

theorem makeChain_grows (w : Workspace) (paths : List Path) :
    w.Grows paths (w.makeChain paths).1 := by
  induction paths with
  | nil => exact .refl _ _
  | cons p above ih =>
    by_cases hne : p.bytes = []
    · have hstop : w.makeChain (p :: above) = (w, none) := by simp [makeChain, hne]
      rw [hstop]
      exact .refl _ _
    · obtain ⟨base, hbase, hresult⟩ := makeChain_cons w hne above
      have hgrows : w.Grows (p :: above) base := by
        rcases hbase with rfl | rfl
        · exact .refl _ _
        · exact ih.mono fun _ => List.mem_cons_of_mem _
      rcases hresult with ⟨made, hmake, hchain⟩ | ⟨-, hchain⟩ | ⟨fault, hchain⟩
      · rw [hchain]
        exact hgrows.trans ((makeDirectory_eq_ok hmake).1.mono (by simp))
      · rwa [hchain]
      · rwa [hchain]

theorem grows_of_makeChain {paths : List Path} {failure : Option Fault}
    (h : w.makeChain paths = (made, failure)) : w.Grows paths made := by
  have hgrows := makeChain_grows w paths
  rwa [h] at hgrows

theorem isDirectory_of_makeChain {above : List Path} (hne : p.bytes ≠ [])
    (h : w.makeChain (p :: above) = (made, none)) : made.isDirectory p := by
  obtain ⟨base, -, hresult⟩ := makeChain_cons w hne above
  rw [h] at hresult
  rcases hresult with ⟨made', hmake, heq⟩ | ⟨hdir, heq⟩ | ⟨fault, heq⟩
  · obtain ⟨rfl, -⟩ := Prod.mk.inj heq
    exact (makeDirectory_eq_ok hmake).2
  · obtain ⟨rfl, -⟩ := Prod.mk.inj heq
    exact hdir
  · simp at heq

theorem makeDirectories_eq (hne : p.bytes ≠ []) (h : w.makeDirectories p = (made, none)) :
    w.Grows (p :: p.above) made ∧ made.isDirectory p :=
  ⟨grows_of_makeChain h, isDirectory_of_makeChain hne h⟩

end Make
end Workspace
end ClassTypings
