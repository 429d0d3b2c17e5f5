import ClassTypings.Text.Capital
import ClassTypings.Text.Basic
import ClassTypings.Text.WordChar
/-!
# Typed properties

The type that an interface gives to a declared type. Some words have a counterpart, a name that
starts with a backslash becomes `any`, and every other name stays as it is. Of several rules that
apply, the first alone is used, and it replaces all that it matches.
-/
namespace ClassTypings

/-- A word to look for. -/
abbrev Keyword := { w : Text // w ≠ [] }

namespace Text

/-- What stands after one of the keywords, when the text starts with it and it ends there. -/
def afterKeyword? (keywords : List Keyword) (t : Text) : Option Text :=
  keywords.findSome? fun keyword =>
    (after? keyword.val t).filter fun rest => !rest.head?.any isWordChar

private theorem length_lt_of_afterKeyword? {keywords : List Keyword} {t rest : Text}
    (h : afterKeyword? keywords t = some rest) : rest.length < t.length := by
  obtain ⟨keyword, -, found⟩ := List.exists_of_findSome?_eq_some h
  have := Text.length_of_after? (Option.filter_eq_some_iff.mp found).1
  have := List.length_pos_iff.mpr keyword.property
  omega

/-- Whether one of the keywords stands in the text as a word. -/
def hasKeyword (keywords : List Keyword) (t : Text) : Bool :=
  (firstReading startsWord (afterKeyword? keywords) none t).isSome

/-- The text with each of the keywords that stands as a word replaced by `target`. -/
def replaceKeywords (keywords : List Keyword) (target : Text) : Option Char → Text → Text
  | _, [] => []
  | before, c :: r =>
    match _h : if startsWord before then afterKeyword? keywords (c :: r) else none with
    | some rest => target ++ replaceKeywords keywords target (some c) rest
    | none => c :: replaceKeywords keywords target (some c) r
termination_by _ t => t.length
decreasing_by
  · split at _h
    · exact length_lt_of_afterKeyword? _h
    · simp at _h
  · simp

end Text

namespace TypeName

/-- A rule of the conversion: words with a counterpart, or names that start with a backslash. -/
inductive Mapping where
  | words (keywords : List Keyword) (target : Text)
  | qualified (target : Text)

/-- The converted type, when the rule applies. A qualified name is replaced up to the end of its
line, and a backslash alone on its line is not a name. -/
def Mapping.convert? : Mapping → Text → Option Text
  | .words keywords target, t =>
    if t.hasKeyword keywords then some (Text.replaceKeywords keywords target none t) else none
  | .qualified target, '\\' :: c :: r =>
    if c = '\n' then none else some (target ++ r.dropWhile (· != '\n'))
  | .qualified _, _ => none

/-- The rules, in the order in which they are tried. -/
def mappings : List Mapping := [
  .words [⟨"integer".toList, by decide⟩, ⟨"int".toList, by decide⟩] "number".toList,
  .words [⟨"float".toList, by decide⟩, ⟨"double".toList, by decide⟩] "number".toList,
  .qualified "any".toList,
  .words [⟨"array".toList, by decide⟩] "any[]".toList,
  .words [⟨"mixed".toList, by decide⟩] "any".toList,
  .words [⟨"boolean".toList, by decide⟩, ⟨"bool".toList, by decide⟩] "boolean".toList]

/-- The type that an interface gives to a declared type. Marks of nullability are dropped first. -/
def convert (t : Text) : Text :=
  let bare := t.filter (· != '?')
  (mappings.findSome? (·.convert? bare)).getD bare

end TypeName

/-! ## Properties and accessors

A property has a line in an interface. The accessors are the names of the methods that give access
to properties, each once. -/

/-- A typed property: its type as it is written, and its name without the leading `$`. -/
structure Property where
  type : Text
  name : Text
  deriving DecidableEq, Repr

namespace Property

/-- The property declared with a type and a name. Every leading `$` of the name is dropped. -/
def declared (type name : Text) : Property := ⟨type, name.dropWhile (· == '$')⟩

/-- The type without the marks of nullability. -/
def plainType (p : Property) : Text := p.type.filter (· != '?')

/-- The name with a capital, as it stands in the names of accessors. -/
def nameInAccessors (p : Property) : Text := p.name.capitalized

def member (p : Property) : Text :=
  p.name ++ ": ".toList ++ TypeName.convert p.plainType ++ ";".toList

end Property

/-- A set of method names. -/
structure Accessors where
  names : List Text
  nodup : names.Nodup
  deriving DecidableEq

namespace Accessors

instance : Membership Text Accessors := ⟨fun s m => m ∈ s.names⟩

instance (m : Text) (s : Accessors) : Decidable (m ∈ s) :=
  inferInstanceAs (Decidable (m ∈ s.names))

def empty : Accessors := ⟨[], .nil⟩

def insert (s : Accessors) (m : Text) : Accessors :=
  if h : m ∈ s.names then s else ⟨m :: s.names, List.nodup_cons.mpr ⟨h, s.nodup⟩⟩

def ofList (ms : List Text) : Accessors := ms.foldl insert empty

def size (s : Accessors) : Nat := s.names.length

theorem not_mem_empty (m : Text) : m ∉ empty := List.not_mem_nil

private theorem mem_insert {s : Accessors} {m k : Text} : k ∈ s.insert m ↔ k = m ∨ k ∈ s := by
  simp only [Membership.mem, insert]
  split
  · rename_i h
    constructor
    · exact .inr
    · rintro (rfl | hk)
      · exact h
      · exact hk
  · exact List.mem_cons

private theorem mem_foldl_insert {ms : List Text} {s : Accessors} {k : Text} :
    k ∈ ms.foldl insert s ↔ k ∈ ms ∨ k ∈ s := by
  induction ms generalizing s with
  | nil => simp
  | cons m ms ih =>
    rw [List.foldl_cons, ih, mem_insert, List.mem_cons, ← or_assoc, or_comm (a := k ∈ ms)]

theorem mem_ofList {ms : List Text} {k : Text} : k ∈ ofList ms ↔ k ∈ ms := by
  simp [ofList, mem_foldl_insert, not_mem_empty]

/-- The words that start the name of an accessor. -/
def verbs : List Text := ["get".toList, "has".toList, "is".toList]

/-- Whether the set has an accessor for the property. -/
def giveAccessTo (s : Accessors) (p : Property) : Bool :=
  verbs.any fun verb => verb ++ p.nameInAccessors ∈ s

end Accessors
end ClassTypings
