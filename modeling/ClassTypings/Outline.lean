import ClassTypings.Interface
import ClassTypings.Log.Basic
import ClassTypings.Property
import ClassTypings.Text.Basic
import ClassTypings.Text.Quoted
import ClassTypings.Text.WordChar
/-!
# Outlines

The outline of a source text is what an interface needs of it: the name and the parents of its
class, its typed properties and its accessor methods. Each part is read on its own, by a rule that
knows nothing of the others, and a part that the text does not have is empty.
-/
namespace ClassTypings

/-! ## Property lines

A property line declares a typed property: at most one tab, spaces, a modifier, a type, a name,
perhaps a default, and a semicolon. It is read from the newline in front of it. A type runs to the
next space and a default to the next semicolon, even past the end of the line. -/

/-- What a property line says: its modifier, its type and its name with the leading `$`. -/
structure PropertyLine where
  modifier : Text
  type : Text
  name : Text
  deriving DecidableEq, Repr

namespace PropertyLine

def property (line : PropertyLine) : Property := Property.declared line.type line.name

/-- A character of a property name or of a method name. -/
def isNameChar (c : Char) : Bool := c.isAlphanum || c == '$' || c == '_' || c == '-'

/-- The text without the indentation at its front: at most one tab, then spaces. -/
def unindent : Text → Text
  | '\t' :: t => t.dropWhile (· == ' ')
  | t => t.dropWhile (· == ' ')

/-- What stands after the end of a property line: after its semicolon, or after its default. -/
def afterEnd? : Text → Option Text
  | ';' :: t => some t
  | ' ' :: '=' :: t => do
    let (_, t) ← Text.run? (· != ';') t
    Text.after? [';'] t
  | _ => none

/-- A property line after the newline in front of it. -/
def body? (t : Text) : Option (PropertyLine × Text) := do
  let (modifier, t) ← Text.run? Char.isLower (unindent t)
  let t ← Text.after? [' '] t
  let (type, t) ← Text.run? (· != ' ') t
  let t ← Text.after? [' '] t
  let (name, t) ← Text.run? isNameChar t
  let t ← afterEnd? t
  some (⟨modifier, type, name⟩, t)

/-- A property line with the newline in front of it. -/
def read? : Text → Option (PropertyLine × Text)
  | '\n' :: t => body? t
  | _ => none

private theorem length_unindent_le (t : Text) : (unindent t).length ≤ t.length := by
  unfold unindent
  split
  · rename_i r
    have := Text.length_dropWhile_le (· == ' ') r
    simp
    omega
  · exact Text.length_dropWhile_le _ _

private theorem length_lt_of_afterEnd? {t rest : Text} (h : afterEnd? t = some rest) :
    rest.length < t.length := by
  unfold afterEnd? at h
  split at h
  · simp_all
  · simp only [Option.bind_eq_bind, Option.bind_eq_some_iff, Prod.exists] at h
    obtain ⟨_, u, run, after⟩ := h
    have := Text.length_lt_of_run? run
    have := Text.length_of_after? after
    simp only [List.length_cons]
    omega
  · simp at h

private theorem length_lt_of_body? {t rest : Text} {line : PropertyLine}
    (h : body? t = some (line, rest)) : rest.length < t.length := by
  simp only [body?, Option.bind_eq_bind, Option.bind_eq_some_iff, Prod.exists, Option.some.injEq,
    Prod.mk.injEq] at h
  obtain ⟨_, t₁, h₁, t₂, h₂, _, t₃, h₃, t₄, h₄, _, t₅, h₅, t₆, h₆, -, rfl⟩ := h
  have := length_unindent_le t
  have := Text.length_lt_of_run? h₁
  have := Text.length_of_after? h₂
  have := Text.length_lt_of_run? h₃
  have := Text.length_of_after? h₄
  have := Text.length_lt_of_run? h₅
  have := length_lt_of_afterEnd? h₆
  omega

theorem length_lt_of_read? {t rest : Text} {line : PropertyLine}
    (h : read? t = some (line, rest)) : rest.length < t.length := by
  unfold read? at h
  split at h
  · have := length_lt_of_body? h
    simp only [List.length_cons]
    omega
  · simp at h

def rule : Rule PropertyLine := ⟨read?, length_lt_of_read?⟩

def lines (t : Text) : List PropertyLine := rule.readings t

/-- The typed properties that a text declares, in order. -/
def properties (t : Text) : List Property := (lines t).map property

end PropertyLine

/-! ## Accessor methods

A method counts as an accessor when its name is `get`, `has` or `is` and more, or when it is the
method that turns an object into an array. It is read from the word `function` between two spaces,
the name and an opening parenthesis. -/

namespace AccessorMethod

/-- The method that marks a class as a collection. -/
def toArray : Text := "toArray".toList

/-- Whether a name is one of the verbs and at least one more character. -/
def hasVerb (name : Text) : Bool :=
  Accessors.verbs.any fun verb => (Text.after? verb name).any (!·.isEmpty)

/-- An accessor method at the front of the text, and what stands after it. -/
def read? (t : Text) : Option (Text × Text) := do
  let t ← Text.after? " function ".toList t
  let (name, t) ← Text.run? PropertyLine.isNameChar t
  let t ← Text.after? ['('] t
  if hasVerb name || name == toArray then some (name, t) else none

theorem length_lt_of_read? {t name rest : Text} (h : read? t = some (name, rest)) :
    rest.length < t.length := by
  simp only [read?, Option.bind_eq_bind, Option.bind_eq_some_iff, Prod.exists] at h
  obtain ⟨t₁, h₁, _, t₂, h₂, t₃, h₃, h₄⟩ := h
  have := Text.length_of_after? h₁
  have := Text.length_lt_of_run? h₂
  have := Text.length_of_after? h₃
  split at h₄
  · simp only [Option.some.injEq, Prod.mk.injEq] at h₄
    obtain ⟨-, rfl⟩ := h₄
    omega
  · simp at h₄

def rule : Rule Text := ⟨read?, length_lt_of_read?⟩

def accessors (t : Text) : Accessors := Accessors.ofList (rule.readings t)

end AccessorMethod

/-! ## Class headers

A class header is the word `class`, blanks and a name. The name of a class is read from the first
line on which only small letters and spaces lead to a header; its parents are read from the first
header that goes on with `extends`. -/

namespace ClassHeader

def isNameChar (c : Char) : Bool := c.isAlphanum || c == '_' || c == '-'

/-- A character that may stand before a header on its line. -/
def isLead (c : Char) : Bool := c.isLower || c == ' '

/-- The name in a header at the front of the text, and what stands after it. -/
def nameAt? (t : Text) : Option (Text × Text) := do
  let t ← Text.after? "class".toList t
  let (_, t) ← Text.run? isBlank t
  Text.run? isNameChar t

/-- The name in the first header to which only small letters and spaces lead from the front of the
text. -/
def nameOnLine? : Text → Option Text
  | [] => none
  | c :: r =>
    match nameAt? (c :: r) with
    | some (name, _) => some name
    | none => if isLead c then nameOnLine? r else none

/-- Whether a line starts after this character, `none` being the start of the text. -/
def startsLine (before : Option Char) : Bool := before.all (· == '\n')

/-- The name of the class that a text declares. -/
def name? (t : Text) : Option Text := Text.firstReading startsLine nameOnLine? none t

/-- A comma and a name, with or without blanks around the comma. -/
def nextParent? (t : Text) : Option (Text × Text) := do
  let t ← Text.after? [','] (t.dropWhile isBlank)
  Text.run? isNameChar (t.dropWhile isBlank)

private theorem length_lt_of_nextParent? {t name rest : Text}
    (h : nextParent? t = some (name, rest)) :
    rest.length < t.length := by
  simp only [nextParent?, Option.bind_eq_bind, Option.bind_eq_some_iff] at h
  obtain ⟨u, after, run⟩ := h
  have := Text.length_lt_of_run? run
  have := Text.length_dropWhile_le isBlank u
  have := Text.length_of_after? after
  have := Text.length_dropWhile_le isBlank t
  omega

def furtherParent : Rule Text := ⟨nextParent?, length_lt_of_nextParent?⟩

/-- The name and the parents in a header at the front of the text that goes on with `extends`. -/
def extendingAt? (t : Text) : Option (Text × List Text) := do
  let (name, t) ← nameAt? t
  let (_, t) ← Text.run? isBlank t
  let t ← Text.after? "extends".toList t
  let (_, t) ← Text.run? isBlank t
  let (parent, t) ← Text.run? isNameChar t
  some (name, parent :: furtherParent.series t)

/-- The name and the parents in the first header of a text that goes on with `extends`. -/
def extending? (t : Text) : Option (Text × List Text) :=
  Text.firstReading startsWord extendingAt? none t

def parents (t : Text) : List Text := ((extending? t).map Prod.snd).getD []

end ClassHeader

/-! ## Outlines and interfaces

A property becomes a member when the class has an accessor for it. A class that turns into an array
is a collection, and its interface says so with one more member: once after the properties, or once
for each property that the class declares. -/

/-- The outline of a class. Its interface holds the name and the parents. -/
structure Outline where
  interface : Interface
  properties : List Property
  accessors : Accessors
  deriving DecidableEq

namespace Outline

/-- The outline of a source text. The suffix goes after the name and after each parent. -/
def ofSource (source suffix : Text) : Outline where
  interface := {
    name := ((ClassHeader.name? source).map (· ++ suffix)).getD []
    parents := (ClassHeader.parents source).map (· ++ suffix) }
  properties := PropertyLine.properties source
  accessors := AccessorMethod.accessors source

/-- The log entry about an outline that was read. -/
def entry (o : Outline) : LogEntry :=
  ⟨.debug, .outline, "Extracted class '".toList ++ o.interface.name ++ "' (extends: ".toList ++
    Text.quotedList o.interface.parents ++ ", ".toList ++ Text.ofNat o.properties.length ++
    " properties, ".toList ++ Text.ofNat o.accessors.size ++ " accessors)".toList⟩

end Outline

/-- How often the member of a collection is written. -/
inductive CollectionMarks where
  /-- Once, after the properties, if the class declares any. -/
  | once
  /-- After each declared property, whether the property is a member or not. -/
  | each
  deriving DecidableEq, Repr

/-- The member that marks a collection. -/
def collectionMember : Text := "collection: any;".toList

namespace Outline

/-- Whether the class turns into an array. -/
def isCollection (o : Outline) : Bool := AccessorMethod.toArray ∈ o.accessors

/-- The interface after the turn of one property. -/
def consider (o : Outline) (marks : CollectionMarks) (i : Interface) (p : Property) : Interface :=
  let i := if o.accessors.giveAccessTo p then i.addMember p.member else i
  if o.isCollection && marks == .each then i.addMember collectionMember else i

def toInterface (o : Outline) (marks : CollectionMarks) : Interface :=
  let i := o.properties.foldl (o.consider marks) o.interface
  if o.isCollection && marks == .once && !o.properties.isEmpty then i.addMember collectionMember
  else i

/-- The log entries about the properties that are left out, in order. -/
def droppedEntries (o : Outline) : List LogEntry :=
  (o.properties.filter (!o.accessors.giveAccessTo ·)).map fun p =>
    ⟨.debug, .members, "Dropping '".toList ++ p.name ++ "': no accessor found".toList⟩

end Outline
end ClassTypings
