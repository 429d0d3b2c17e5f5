import ClassTypings.Proofs.AccessorMethod
import ClassTypings.Proofs.Members
import ClassTypings.Proofs.SketchProperties
/-!
# Interfaces of sketches

In the text of a sketch the accessors among the methods are read and nothing else is taken for a
method. Together with the header and the properties this gives the interface of the class.
-/
namespace ClassTypings

namespace Field

open AccessorMethod

private theorem valueClause_silent (f : Field) (rest : Text) :
    Text.Silent read? f.valueClause (';' :: rest) := by
  unfold valueClause
  cases hv : f.value with
  | none => trivial
  | some v =>
    have hvalue := silent_of_noFunction (f.value_plain v hv).noFunction rest
    have hsplit : " = ".toList ++ v = ' ' :: '=' :: (' ' :: v) := by simp
    show Text.Silent read? (" = ".toList ++ v) (';' :: rest)
    rw [hsplit]
    refine ⟨by simp [read?, Text.after?], by simp [read?, Text.after?], hvalue⟩

theorem silent_read? (f : Field) (rest : Text) : Text.Silent read? f.text rest := by
  have htype : ' ' ∉ f.type := fun hmem => f.type_noBlank ' ' hmem (by decide)
  have hname : ' ' ∉ f.name := fun hmem => f.name_noBlank ' ' hmem (by decide)
  have hvisibility : ∀ t, Text.Silent read? ("    ".toList ++ f.visibility.word.toList) t := by
    intro t
    cases f.visibility <;> simp [Visibility.word, read?, Text.after?]
  rw [text_eq, ← List.append_assoc, Text.silent_append]
  refine ⟨hvisibility _, ?_⟩
  rw [Text.silent_cons, Text.silent_append, List.append_assoc, List.cons_append, List.cons_append]
  refine ⟨read?_sigil htype _, silent_of_noSpace htype _, by simp [read?, Text.after?],
    read?_of_ne (by decide) _, ?_⟩
  rw [Text.silent_append, Text.silent_append]
  exact ⟨silent_of_noSpace hname _, f.valueClause_silent _, silent_of_noSpace (by decide) _⟩

private theorem capitalized_name (f : Field) : f.name.capitalized = f.capitalName := by
  obtain ⟨c, r, hname, hc⟩ := f.name_head
  have hascii : c.toNat < 128 := by
    rcases hc with hc | rfl
    · have := ClassHeader.toNat_of_isNameChar (show ClassHeader.isNameChar c by
        simp [ClassHeader.isNameChar, Char.isAlphanum, hc])
      omega
    · decide
  simp [capitalName, hname, Text.capitalized, capital, hascii]

private theorem capitalName_ne_nil (f : Field) : f.capitalName ≠ [] := by
  obtain ⟨c, r, hname, -⟩ := f.name_head
  simp [capitalName, hname]

private theorem member_declared (f : Field) : (⟨f.type, f.name⟩ : Property).member = f.member := by
  simp [Property.member, Property.plainType, member, TypeName.convert]

end Field

namespace Sketch

open AccessorMethod

private theorem reads_opening (s : Sketch) : rule.Reads s.text [] s.body := by
  have hheader : '(' ∉ s.headerLine := fun hmem => absurd (isHeaderChar_of_mem hmem) (by decide)
  have hfront : '(' ∉ "<?php".toList ++ '\n' :: s.headerLine := by simp [hheader]
  have hbrace : ' ' ∉ "\n\x7b\n".toList := by decide
  have hsplit : s.text =
      ("<?php".toList ++ '\n' :: s.headerLine) ++ ("\n\x7b\n".toList ++ s.body) := by
    rw [text_eq_header]
    simp
  rw [hsplit]
  exact (Rule.reads_of_silent (silent_of_noParen hfront _)).trans
    (Rule.reads_of_silent (silent_of_noSpace hbrace _))

private theorem reads_methodName (m : MethodName) (rest : Text) :
    rule.Reads (" function ".toList ++ (m.val ++ '(' :: rest)) ([m.val].filter isAccessor)
      rest := by
  have hread := read?_append m.property.1 (methodLine_wellFormed m).name_isNameChar rest
  by_cases hm : isAccessor m.val
  · rw [if_pos hm] at hread
    rw [List.filter_cons_of_pos hm]
    exact .take hread (.done rest)
  · rw [if_neg hm] at hread
    rw [List.filter_cons_of_neg hm]
    have hsplit : " function ".toList ++ (m.val ++ '(' :: rest) =
        ' ' :: ("function".toList ++ ' ' :: (m.val ++ '(' :: rest)) := by simp
    have hword : ' ' ∉ "function".toList := by decide
    have hname : ' ' ∉ m.val := by
      intro hmem
      exact absurd (isNameChar_of_methodName m _ hmem) (by decide)
    rw [hsplit] at hread ⊢
    refine .skip hread ((Rule.reads_of_silent (silent_of_noSpace hword _)).trans ?_)
    refine .skip (read?_name hname rest) ?_
    refine (Rule.reads_of_silent (silent_of_noSpace hname _)).trans ?_
    exact .skip (read?_of_ne (by decide) _) (.done rest)

private theorem reads_accessorText (m : MethodName) (rest : Text) :
    rule.Reads (methodText m ++ rest) ([m.val].filter isAccessor) rest := by
  have hfront : Text.Silent rule.read "    public".toList (" function ".toList ++ (m.val ++
      '(' :: (")\n    \x7b\n    \x7d\n".toList ++ rest))) := by
    show Text.Silent read? _ _
    simp [read?, Text.after?]
  have hend : Text.Silent rule.read ")\n    \x7b\n    \x7d\n".toList rest := by
    show Text.Silent read? _ _
    simp [read?, Text.after?]
  have hsplit : methodText m ++ rest = "    public".toList ++ (" function ".toList ++ (m.val ++
      '(' :: (")\n    \x7b\n    \x7d\n".toList ++ rest))) := by
    rw [methodText_eq]
    simp
  have hreads := (Rule.reads_of_silent hfront).trans
    ((reads_methodName m _).trans (Rule.reads_of_silent hend))
  rw [hsplit]
  simpa using hreads

private theorem reads_accessors (ms : List MethodName) (rest : Text) :
    rule.Reads (ms.flatMap methodText ++ rest) ((ms.map Subtype.val).filter isAccessor) rest := by
  induction ms with
  | nil => exact .done _
  | cons m ms ih =>
    have hsplit : ((m :: ms).map Subtype.val).filter isAccessor =
        [m.val].filter isAccessor ++ (ms.map Subtype.val).filter isAccessor := by
      rw [← List.filter_append]
      rfl
    rw [List.flatMap_cons, List.append_assoc, hsplit]
    exact (reads_accessorText m _).trans ih

private theorem readings_text (s : Sketch) :
    rule.readings s.text = (s.methods.map Subtype.val).filter isAccessor := by
  have hclosing : Text.Silent rule.read "\x7d\n".toList [] := silent_of_noSpace (by decide) _
  have hend : rule.Reads "\x7d\n".toList [] [] := by simpa using Rule.reads_of_silent hclosing
  have hfields : Text.Silent rule.read (s.fields.flatMap Field.text)
      (s.methods.flatMap methodText ++ "\x7d\n".toList) :=
    Text.silent_flatMap (fun f _ => f.silent_read?) _
  have hbody : rule.Reads s.body ((s.methods.map Subtype.val).filter isAccessor) [] := by
    unfold body
    rw [List.append_assoc, ← List.append_nil (List.filter _ _)]
    exact (Rule.reads_of_silent hfields).trans ((reads_accessors s.methods _).trans hend)
  exact Rule.readings_eq_of_reads (s.reads_opening.trans hbody)

private theorem mem_accessors_text {s : Sketch} {name : Text} (h : isAccessor name) :
    name ∈ accessors s.text ↔ s.methods.any (·.val == name) := by
  rw [mem_accessors_iff, readings_text, List.mem_filter, List.any_eq_true]
  constructor
  · intro hmem
    obtain ⟨m, hm, rfl⟩ := List.mem_map.mp hmem.1
    exact ⟨m, hm, by simp⟩
  · intro hany
    obtain ⟨m, hm, hname⟩ := hany
    obtain rfl : m.val = name := by simpa using hname
    exact ⟨List.mem_map.mpr ⟨m, hm, rfl⟩, h⟩

private theorem giveAccessTo_text (s : Sketch) (f : Field) :
    (accessors s.text).giveAccessTo ⟨f.type, f.name⟩ = s.givesAccessTo f := by
  have hmem : ∀ verb ∈ Accessors.verbs, verb ++ f.capitalName ∈ accessors s.text ↔
      s.methods.any (·.val == verb ++ f.capitalName) := by
    intro verb hverb
    apply mem_accessors_text
    simp [isAccessor, hasVerb_append hverb f.capitalName_ne_nil]
  unfold Accessors.giveAccessTo givesAccessTo Property.nameInAccessors
  rw [f.capitalized_name, Bool.eq_iff_iff, List.any_eq_true, List.any_eq_true]
  constructor
  · intro h
    obtain ⟨verb, hverb, h⟩ := h
    exact ⟨verb, hverb, (hmem verb hverb).mp (of_decide_eq_true h)⟩
  · intro h
    obtain ⟨verb, hverb, h⟩ := h
    exact ⟨verb, hverb, decide_eq_true ((hmem verb hverb).mpr h)⟩

private theorem isCollection_text (s : Sketch) (suffix : Text) :
    (Outline.ofSource s.text suffix).isCollection = s.isCollection := by
  have htoArray : isAccessor toArray := by decide
  rw [Bool.eq_iff_iff, Outline.isCollection, decide_eq_true_iff]
  exact mem_accessors_text htoArray

private theorem flatMap_if {α β : Type} (p : α → Bool) (f : α → β) (xs : List α) :
    (xs.flatMap fun x => if p x then [f x] else []) = (xs.filter p).map f := by
  induction xs with
  | nil => rfl
  | cons x xs ih =>
    by_cases hx : p x <;> simp [hx, ih]

private theorem members_text (s : Sketch) (suffix : Text) (marks : CollectionMarks) :
    (Outline.ofSource s.text suffix).members marks = s.members marks := by
  have hproperties : (Outline.ofSource s.text suffix).properties =
      s.fields.map fun f => ⟨f.type, f.name⟩ := s.properties_text
  have haccess : ∀ f : Field, (Outline.ofSource s.text suffix).accessors.giveAccessTo
      ⟨f.type, f.name⟩ = s.givesAccessTo f := s.giveAccessTo_text
  unfold Outline.members Outline.turn Outline.closing
  simp only [hproperties, List.flatMap_map, haccess, isCollection_text, Field.member_declared]
  cases marks with
  | once => simp [members, flatMap_if]
  | each => simp [members]

/-- The interface of the class that a sketch describes is made from the text of the sketch. -/
theorem interfaceOf_text (s : Sketch) (config : Config) :
    interfaceOf config s.text = s.interface config := by
  rw [interfaceOf_eq, name?_text, parents_text, members_text]
  simp [interface]

/-- A collection with two parents and two properties, of which one has an accessor. -/
def bag : Sketch where
  modifiers := [.abstract]
  name := ⟨"Bag".toList, by decide, List.all_eq_true.mp (by decide)⟩
  parents :=
    [⟨"Base".toList, by decide, List.all_eq_true.mp (by decide)⟩,
      ⟨"Countable".toList, by decide, List.all_eq_true.mp (by decide)⟩]
  fields :=
    [{ visibility := .heirs
       type := "?int".toList
       name := "maxSize".toList
       value := some "8 * 2".toList
       type_ne_nil := by decide
       type_noBlank := by simp; decide
       name_head := ⟨'m', "axSize".toList, rfl, by decide⟩
       name_chars := by simp
       value_plain := by
         intro v hv
         obtain rfl := Option.some.inj hv
         exact ⟨by decide, by decide, by decide, by decide, by decide⟩ },
     { visibility := .itself
       type := "iterable".toList
       name := "_items".toList
       value := none
       type_ne_nil := by decide
       type_noBlank := by simp; decide
       name_head := ⟨'_', "items".toList, rfl, by decide⟩
       name_chars := by simp
       value_plain := nofun }]
  methods := [⟨"getMaxSize".toList, by simp⟩, ⟨"toArray".toList, by simp⟩]

theorem interfaceOf_text_bag :
    interfaceOf { suffix := "Dto".toList } bag.text =
      { name := "BagDto".toList
        parents := ["BaseDto".toList, "CountableDto".toList]
        members := ["maxSize: number;".toList, "collection: any;".toList] } := by
  rw [bag.interfaceOf_text]
  decide +kernel

end Sketch
end ClassTypings
