import ClassTypings.Path
/-!
# File trees

A file tree is a list of nodes, each at a location of its own. What holds a node is a directory, so
that a tree has no loose ends. `node?` looks a location up, and `place` is the only change: it adds
a node to a directory or gives a file new content.
-/
namespace ClassTypings

/-- What a file holds: a text, or bytes that are no text. -/
inductive Content where
  | text (text : Text)
  | binary (bytes : Bytes)
  deriving DecidableEq, Repr

/-- What bytes hold: a text, if they are UTF-8. -/
def Content.ofBytes (bytes : ByteArray) : Content :=
  match String.fromUTF8? bytes with
  | some string => .text string.toList
  | none => .binary bytes.toList

inductive Node where
  | file (content : Content)
  | directory
  deriving DecidableEq, Repr

/-- Where a node is: its name, then the names of the directories around it from the nearest to the
farthest. The root has no name. -/
abbrev Location := List Bytes

/-- A name that an entry of a directory can have. -/
def IsName (name : Bytes) : Prop :=
  name ≠ [] ∧ name ≠ [Byte.dot] ∧ name ≠ [Byte.dot, Byte.dot] ∧ Byte.slash ∉ name ∧
    Byte.nul ∉ name ∧ name.length ≤ 255

instance (name : Bytes) : Decidable (IsName name) := by
  unfold IsName
  infer_instance

/-- A tree of files and directories. The root is a directory that needs no node. -/
structure FileTree where
  nodes : List (Location × Node)
  nodup : (nodes.map Prod.fst).Nodup
  no_root : ∀ node, ([], node) ∉ nodes
  closed : ∀ name dir node, (name :: dir, node) ∈ nodes →
    IsName name ∧ (dir = [] ∨ (dir, Node.directory) ∈ nodes)
  deriving DecidableEq

namespace FileTree

def empty : FileTree := ⟨[], .nil, by simp, by simp⟩

def lookup (location : Location) : List (Location × Node) → Option Node
  | [] => none
  | entry :: nodes => if entry.1 = location then some entry.2 else lookup location nodes

def node? (tree : FileTree) : Location → Option Node
  | [] => some .directory
  | name :: dir => lookup (name :: dir) tree.nodes

/-- The list with a node at a location, in the place of the one that was there. -/
def setNode (location : Location) (node : Node) :
    List (Location × Node) → List (Location × Node)
  | [] => [(location, node)]
  | entry :: nodes =>
    if entry.1 = location then (location, node) :: nodes
    else entry :: setNode location node nodes

private theorem mem_of_lookup {location : Location} {node : Node} {nodes : List (Location × Node)}
    (h : lookup location nodes = some node) : (location, node) ∈ nodes := by
  induction nodes with
  | nil => simp [lookup] at h
  | cons entry nodes ih =>
    unfold lookup at h
    split at h
    · rename_i same
      obtain rfl : entry.2 = node := by simpa using h
      simp [← same]
    · exact List.mem_cons_of_mem _ (ih h)

private theorem lookup_of_mem {location : Location} {node : Node} {nodes : List (Location × Node)}
    (nodup : (nodes.map Prod.fst).Nodup) (h : (location, node) ∈ nodes) :
    lookup location nodes = some node := by
  induction nodes with
  | nil => simp at h
  | cons entry nodes ih =>
    rw [List.map_cons, List.nodup_cons] at nodup
    rcases List.mem_cons.mp h with rfl | later
    · simp [lookup]
    · have apart : entry.1 ≠ location := fun k => nodup.1 (k ▸ List.mem_map_of_mem later)
      rw [lookup, if_neg apart, ih nodup.2 later]

private theorem lookup_setNode (location : Location) (node : Node) (nodes : List (Location × Node))
    (other : Location) :
    lookup other (setNode location node nodes) =
      if other = location then some node else lookup other nodes := by
  induction nodes with
  | nil => simp [setNode, lookup, eq_comm]
  | cons entry nodes ih =>
    by_cases h : entry.1 = location
    · subst h
      by_cases k : entry.1 = other
      · simp [setNode, lookup, k]
      · simp [setNode, lookup, k, Ne.symm k]
    · by_cases k : entry.1 = other
      · subst k
        simp [setNode, lookup, h]
      · simp [setNode, lookup, h, k, ih]

private theorem map_fst_setNode (location : Location) (node : Node)
    (nodes : List (Location × Node)) :
    (setNode location node nodes).map Prod.fst =
      if location ∈ nodes.map Prod.fst then nodes.map Prod.fst
      else nodes.map Prod.fst ++ [location] := by
  induction nodes with
  | nil => simp [setNode]
  | cons entry nodes ih =>
    by_cases h : entry.1 = location
    · simp [setNode, h]
    · simp only [setNode, if_neg h, List.map_cons, ih, List.mem_cons, Ne.symm h, false_or]
      split <;> simp

private theorem mem_setNode {location : Location} {node : Node} {nodes : List (Location × Node)}
    (nodup : (nodes.map Prod.fst).Nodup) {entry : Location × Node} :
    entry ∈ setNode location node nodes ↔
      entry = (location, node) ∨ entry ∈ nodes ∧ entry.1 ≠ location := by
  induction nodes with
  | nil => simp [setNode]
  | cons first nodes ih =>
    rw [List.map_cons, List.nodup_cons] at nodup
    by_cases h : first.1 = location
    · have apart : ∀ e ∈ nodes, e.1 ≠ location := fun e he k =>
        nodup.1 (h ▸ k ▸ List.mem_map_of_mem he)
      simp only [setNode, h, if_pos, List.mem_cons]
      constructor
      · rintro (rfl | he)
        · exact .inl rfl
        · exact .inr ⟨.inr he, apart entry he⟩
      · rintro (rfl | ⟨rfl | he, k⟩)
        · exact .inl rfl
        · exact absurd h k
        · exact .inr he
    · simp only [setNode, if_neg h, List.mem_cons, ih nodup.2]
      constructor
      · rintro (rfl | rfl | ⟨he, k⟩)
        · exact .inr ⟨.inl rfl, h⟩
        · exact .inl rfl
        · exact .inr ⟨.inr he, k⟩
      · rintro (rfl | ⟨rfl | he, k⟩)
        · exact .inr (.inl rfl)
        · exact .inl rfl
        · exact .inr (.inr ⟨he, k⟩)

/-- Whether a node may come into a directory under a name: the name is free, or it names a file and
the node is a file. -/
def MayPlace (tree : FileTree) (name : Bytes) (dir : Location) (node : Node) : Prop :=
  IsName name ∧ tree.node? dir = some .directory ∧
    match tree.node? (name :: dir), node with
    | none, _ => True
    | some (.file _), .file _ => True
    | _, _ => False

instance (tree : FileTree) (name : Bytes) (dir : Location) (node : Node) :
    Decidable (tree.MayPlace name dir node) := by
  unfold MayPlace
  have : Decidable (match tree.node? (name :: dir), node with
    | none, _ => True
    | some (.file _), .file _ => True
    | _, _ => False) := by split <;> infer_instance
  infer_instance

theorem mem_of_node? {tree : FileTree} {location : Location} {node : Node}
    (h : tree.node? location = some node) :
    location = [] ∧ node = .directory ∨ (location, node) ∈ tree.nodes := by
  cases location with
  | nil => exact .inl ⟨rfl, by simpa [node?] using h.symm⟩
  | cons name dir => exact .inr (mem_of_lookup h)

theorem node?_of_mem {tree : FileTree} {location : Location} {node : Node}
    (h : (location, node) ∈ tree.nodes) : tree.node? location = some node := by
  cases location with
  | nil => exact absurd h (tree.no_root node)
  | cons name dir => exact lookup_of_mem tree.nodup h

/-- The tree with a node in a directory under a name. Where it may not come, nothing changes. -/
def place (tree : FileTree) (name : Bytes) (dir : Location) (node : Node) : FileTree :=
  if h : tree.MayPlace name dir node then
    { nodes := setNode (name :: dir) node tree.nodes
      nodup := by
        rw [map_fst_setNode]
        split
        · exact tree.nodup
        · rename_i fresh
          rw [List.nodup_append]
          exact ⟨tree.nodup, by simp,
            by simp; rintro l n hl rfl; exact fresh (List.mem_map_of_mem hl)⟩
      no_root := by
        intro other
        rw [mem_setNode tree.nodup]
        simp [tree.no_root other]
      closed := by
        obtain ⟨isName, isDir, free⟩ := h
        intro n l x hx
        have kept : ∀ d, (d, Node.directory) ∈ tree.nodes →
            (d, Node.directory) ∈ setNode (name :: dir) node tree.nodes := by
          intro d hd
          rw [mem_setNode tree.nodup]
          refine .inr ⟨hd, ?_⟩
          rintro rfl
          rw [node?_of_mem hd] at free
          simp at free
        rw [mem_setNode tree.nodup] at hx
        rcases hx with hx | ⟨hx, -⟩
        · obtain ⟨⟨rfl, rfl⟩, rfl⟩ : (n = name ∧ l = dir) ∧ x = node := by simpa using hx
          exact ⟨isName, (mem_of_node? isDir).imp And.left (kept _)⟩
        · exact ⟨(tree.closed n l x hx).1, (tree.closed n l x hx).2.imp id (kept _)⟩ }
  else tree

theorem node?_place (tree : FileTree) (name : Bytes) (dir : Location) (node : Node)
    (location : Location) :
    (tree.place name dir node).node? location =
      if tree.MayPlace name dir node ∧ location = name :: dir then some node
      else tree.node? location := by
  unfold place
  split
  · rename_i h
    cases location with
    | nil => simp [node?]
    | cons n l => simp [node?, lookup_setNode, h]
  · rename_i h
    simp [h]

theorem isDirectory_of_node? {tree : FileTree} {name : Bytes} {dir : Location} {node : Node}
    (h : tree.node? (name :: dir) = some node) :
    IsName name ∧ tree.node? dir = some .directory := by
  rcases mem_of_node? h with ⟨k, -⟩ | hmem
  · simp at k
  · obtain ⟨isName, rfl | isDir⟩ := tree.closed name dir node hmem
    · exact ⟨isName, rfl⟩
    · exact ⟨isName, node?_of_mem isDir⟩

end FileTree
end ClassTypings
