import ClassTypings.Text.Utf8
/-!
# Paths

A path keeps the bytes in which it was given, which may be no text. It is taken apart at its
slashes: an empty piece and a piece `.` say nothing, save a `.` at the very front. Paths are compared
component by component, so that two spellings of one path are equal.

The declaration of an input goes to a path that is made from the name of the input as it is shown.
-/
namespace ClassTypings

inductive Component where
  | root
  | here
  | up
  | name (bytes : Bytes)
  deriving DecidableEq, Repr

namespace Component

/-- The component that a piece between slashes stands for. -/
def ofPiece? (piece : Bytes) : Option Component :=
  if piece = [] then none
  else if piece = [Byte.dot] then some .here
  else if piece = [Byte.dot, Byte.dot] then some .up
  else some (.name piece)

/-- The place of the kind of a component in the order of components. -/
def rank : Component → Nat
  | .root => 0
  | .here => 1
  | .up => 2
  | .name _ => 3

/-- The name in a component, if it is one. -/
def label : Component → Bytes
  | .name bytes => bytes
  | _ => []

/-- The order of components: by kind, and names by their bytes. -/
def compare (a b : Component) : Ordering :=
  (Ord.compare a.rank b.rank).then (List.compareLex Ord.compare a.label b.label)

end Component

/-- A path, as it is written. -/
structure Path where
  bytes : Bytes
  deriving DecidableEq, Repr

namespace Path

def ofText (t : Text) : Path := ⟨t.bytes⟩

instance : Coe String Path := ⟨fun s => .ofText s.toList⟩

/-- The path as it is shown. -/
def text (p : Path) : Text := Bytes.text p.bytes

def isAbsolute (p : Path) : Bool := p.bytes.head? == some Byte.slash

def endsWithSlash (p : Path) : Bool := p.bytes.getLast? == some Byte.slash

def pieces (p : Path) : List Bytes := p.bytes.splitOn Byte.slash

/-- Whether a piece behind the first says nothing. -/
def isIdle (piece : Bytes) : Bool := piece == [] || piece == [Byte.dot]

/-- The components of the path. -/
def components (p : Path) : List Component :=
  let first :=
    if p.isAbsolute then some .root else (p.pieces.head?.bind Component.ofPiece?)
  first.toList ++ (p.pieces.tail.filter (!isIdle ·)).filterMap Component.ofPiece?

/-- The order of paths, component by component. -/
def compare (p q : Path) : Ordering := List.compareLex Component.compare p.components q.components

def le (p q : Path) : Bool := (compare p q).isLE

def same (p q : Path) : Bool := p.components == q.components

/-- The name at the end of the path, if it ends with one. -/
def fileName? (p : Path) : Option Bytes :=
  match p.components.getLast? with
  | some (.name name) => some name
  | _ => none

/-- A file name in two at its last dot. A dot at the very front does not count. -/
def splitName (name : Bytes) : Bytes × Option Bytes :=
  match name.reverse.dropWhile (· != Byte.dot) with
  | _ :: b :: stem => ((b :: stem).reverse, some (name.reverse.takeWhile (· != Byte.dot)).reverse)
  | _ => (name, none)

/-- The file name without its extension. -/
def stem? (p : Path) : Option Bytes := p.fileName?.map fun name => (splitName name).1

def extension? (p : Path) : Option Bytes := p.fileName?.bind fun name => (splitName name).2

/-- The path below `dir` that some bytes name. An absolute path among them stays as it is. -/
def join (dir : Path) (name : Bytes) : Path :=
  if name.head? == some Byte.slash then ⟨name⟩
  else if dir.bytes.isEmpty || dir.endsWithSlash then ⟨dir.bytes ++ name⟩
  else ⟨dir.bytes ++ Byte.slash :: name⟩

/-- The paths above a path whose first piece is `first`, given the pieces behind the first from the
last to the first. The nearest comes first. -/
def prefixes (first : Bytes) : List Bytes → List Path
  | [] => if first.isEmpty then [⟨[Byte.slash]⟩] else [⟨first⟩, ⟨[]⟩]
  | piece :: pieces =>
    if isIdle piece then prefixes first pieces
    else ⟨[Byte.slash].intercalate (first :: (piece :: pieces).reverse)⟩ :: prefixes first pieces

/-- The paths above the path, the nearest first. Nothing is above the root and the empty path. -/
def above (p : Path) : List Path :=
  match p.pieces with
  | [] => []
  | first :: pieces =>
    match pieces.reverse.dropWhile isIdle with
    | [] => if first.isEmpty then [] else [⟨[]⟩]
    | _ :: pieces => prefixes first pieces

/-- The path above the path. -/
def parent? (p : Path) : Option Path := p.above.head?

/-- The steps that the path takes through a tree of files, each piece but the empty ones. -/
def steps (p : Path) : List Component := p.pieces.filterMap Component.ofPiece?

end Path

/-- The stem of an input as it is shown. Bytes that are no text are shown by the replacement
character, so that inputs with different stems may have the same one. -/
def shownStem (input : Path) : Text := Bytes.text (input.stem?.getD [])

def outputName (input : Path) (suffix extension : Text) : Text :=
  shownStem input ++ suffix ++ '.' :: extension

/-- The path in `dir` for the declaration of an input. -/
def defaultOutput (input dir : Path) (suffix extension : Text) : Path :=
  dir.join (outputName input suffix extension).bytes

/-- The line about a declaration that was written. -/
def writtenLine (output : Path) (suffix : Text) : Text :=
  output.text ++ suffix ++ " created".toList

/-- The line about a declaration that could not be written. -/
def unwrittenLine (output : Path) : Text := "OOPS: could not create ".toList ++ output.text

end ClassTypings
