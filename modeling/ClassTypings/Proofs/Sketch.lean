import ClassTypings.Proofs.ClassHeader
import ClassTypings.Typings
/-!
# Sketches of classes

A sketch says of a class what an interface needs of it. Its text is the plainest file that declares
the class: a header, one line for each property and an empty body for each method.
-/
namespace ClassTypings

inductive ClassModifier where
  | final
  | abstract
  | readonly

def ClassModifier.word : ClassModifier → String
  | .final => "final"
  | .abstract => "abstract"
  | .readonly => "readonly"

/-- Who may use a property. -/
inductive Visibility where
  | everyone
  | heirs
  | itself

def Visibility.word : Visibility → String
  | .everyone => "public"
  | .heirs => "protected"
  | .itself => "private"

abbrev ClassName := { name : Text // ClassHeader.IsName name }

abbrev MethodName := { name : Text // name ≠ [] ∧ ∀ c ∈ name, c.isAlphanum ∨ c = '_' }

/-- A default that stays on its line and does not look like a class or a method. -/
structure IsPlainValue (value : Text) : Prop where
  ne_nil : value ≠ []
  noSemicolon : ';' ∉ value
  noNewline : '\n' ∉ value
  noClass : ¬ "class".toList <:+: value
  noFunction : ¬ "function".toList <:+: value

/-- A property as it is declared, perhaps with a default. -/
structure Field where
  visibility : Visibility
  type : Text
  name : Text
  value : Option Text
  type_ne_nil : type ≠ []
  type_noBlank : ∀ c ∈ type, ¬ isBlank c
  name_head : ∃ c r, name = c :: r ∧ (c.isAlpha ∨ c = '_')
  name_chars : ∀ c ∈ name, c.isAlphanum ∨ c = '_'
  value_plain : ∀ v, value = some v → IsPlainValue v

namespace Field

def valueClause (f : Field) : Text :=
  match f.value with
  | none => []
  | some v => " = ".toList ++ v

def text (f : Field) : Text :=
  "    ".toList ++ f.visibility.word.toList ++ " ".toList ++ f.type ++ " $".toList ++ f.name ++
    f.valueClause ++ ";\n".toList

def capitalName (f : Field) : Text := f.name.modifyHead Char.toUpper

def member (f : Field) : Text :=
  f.name ++ ": ".toList ++ TypeName.convert f.type ++ ";".toList

end Field

/-- A class as far as an interface needs it. -/
structure Sketch where
  modifiers : List ClassModifier
  name : ClassName
  parents : List ClassName
  fields : List Field
  methods : List MethodName

namespace Sketch

/-- The modifiers, each before a space. -/
def modifierClause (s : Sketch) : Text := s.modifiers.flatMap fun m => m.word.toList ++ " ".toList

/-- The parents after the name of the class, if it has any. -/
def extendsClause (s : Sketch) : Text :=
  match s.parents with
  | [] => []
  | p :: ps => " extends ".toList ++ p.val ++ ps.flatMap fun q => ", ".toList ++ q.val

/-- A method without a body. -/
def methodText (m : MethodName) : Text :=
  "    public function ".toList ++ m.val ++ "()\n    \x7b\n    \x7d\n".toList

/-- What stands between the braces of the class, and the closing brace. -/
def body (s : Sketch) : Text :=
  s.fields.flatMap Field.text ++ s.methods.flatMap methodText ++ "\x7d\n".toList

def text (s : Sketch) : Text :=
  "<?php\n".toList ++ s.modifierClause ++ "class ".toList ++ s.name.val ++ s.extendsClause ++
    "\n\x7b\n".toList ++ s.body

def givesAccessTo (s : Sketch) (f : Field) : Bool :=
  ["get".toList, "has".toList, "is".toList].any fun verb =>
    s.methods.any (·.val == verb ++ f.capitalName)

def isCollection (s : Sketch) : Bool := s.methods.any (·.val == "toArray".toList)

def members (s : Sketch) : CollectionMarks → List Text
  | .once =>
    (s.fields.filter s.givesAccessTo).map Field.member ++
      if s.isCollection && !s.fields.isEmpty then [collectionMember] else []
  | .each =>
    s.fields.flatMap fun f =>
      (if s.givesAccessTo f then [f.member] else []) ++
        if s.isCollection then [collectionMember] else []

def interface (s : Sketch) (config : Config) : Interface where
  name := s.name.val ++ config.suffix
  parents := s.parents.map fun p => p.val ++ config.suffix
  members := s.members config.marks

end Sketch
end ClassTypings
