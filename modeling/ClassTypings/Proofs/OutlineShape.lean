import ClassTypings.Proofs.Access
import ClassTypings.Proofs.NameEnds
/-!
# The shape of an outline

Every part of an outline is a word of its kind, whatever the text. Two of these alphabets meet in
the members: a property whose name is all `$` is read without a name, and it is no member because an
accessor has a character behind its verb.
-/
namespace ClassTypings

namespace ClassHeader

private theorem isName_of_name? {source name : Text} (h : name? source = some name) :
    IsName name := by
  rw [name?_eq] at h
  obtain ⟨span, hspan, rfl⟩ := Option.map_eq_some_iff.mp h
  have hmem : span ∈ spans source := List.mem_append_left _ (Option.mem_toList.mpr hspan)
  exact (isSpan_of_mem_spans hmem).isName

private theorem isName_of_mem_parents {source parent : Text} (h : parent ∈ parents source) :
    IsName parent := by
  rw [parents_eq] at h
  obtain ⟨span, hspan, rfl⟩ := List.mem_map.mp h
  exact (isSpan_of_mem_spans (List.mem_append_right _ hspan)).isName

end ClassHeader

/-- The type is a word, and the name is a word of name characters without the sign in front of it,
which leaves nothing of a name that is all signs. -/
structure Property.HasShape (p : Property) : Prop where
  type_ne_nil : p.type ≠ []
  type_noSpace : ' ' ∉ p.type
  name_isNameChar : ∀ c ∈ p.name, PropertyLine.isNameChar c
  name_noSigil : p.name.head? ≠ some '$'

private theorem PropertyLine.hasShape_of_mem_properties {source : Text} {p : Property}
    (h : p ∈ properties source) : p.HasShape := by
  obtain ⟨lines, t, line, rest, -, hread, rfl⟩ := mem_properties_iff.mp h
  obtain ⟨indent, ending, -, hline, -, -⟩ := body?_eq_some_iff.mp hread
  refine ⟨hline.type_ne_nil, hline.type_noSpace, isNameChar_of_mem_properties h, ?_⟩
  intro hhead
  have hkept := List.head?_dropWhile_not (· == '$') line.name
  rw [show (line.name.dropWhile (· == '$')).head? = some '$' from hhead] at hkept
  simp at hkept

namespace Outline

/-- The parts of the outline are words of their kinds. The suffix stands behind the name, if there
is one, and behind each parent. -/
structure HasShape (suffix : Text) (o : Outline) : Prop where
  name : o.interface.name = [] ∨
    ∃ name, ClassHeader.IsName name ∧ o.interface.name = name ++ suffix
  parent : ∀ parent ∈ o.interface.parents,
    ∃ name, ClassHeader.IsName name ∧ parent = name ++ suffix
  member : o.interface.members = []
  property : ∀ p ∈ o.properties, p.HasShape
  accessor : ∀ m ∈ o.accessors, AccessorMethod.IsAccessorName m

private theorem hasShape_ofSource (source suffix : Text) :
    (ofSource source suffix).HasShape suffix := by
  refine ⟨?_, ?_, rfl, fun p => PropertyLine.hasShape_of_mem_properties, fun m hm => ?_⟩
  · cases hname : ClassHeader.name? source with
    | none => simp [ofSource, hname]
    | some name =>
      exact .inr ⟨name, ClassHeader.isName_of_name? hname, by simp [ofSource, hname]⟩
  · intro parent hparent
    obtain ⟨name, hname, rfl⟩ := List.mem_map.mp hparent
    exact ⟨name, ClassHeader.isName_of_mem_parents hname, rfl⟩
  · exact (AccessorMethod.mem_accessors_iff_declaration.mp hm).1

private theorem mem_members {o : Outline} {marks : CollectionMarks} {line : Text}
    (h : line ∈ o.members marks) :
    line = collectionMember ∨
      ∃ p ∈ o.properties, o.accessors.giveAccessTo p ∧ line = p.member := by
  have hmark : ∀ b : Bool, line ∈ (if b then [collectionMember] else []) →
      line = collectionMember := by
    intro b hline
    cases b <;> simp_all
  rcases List.mem_append.mp h with h | h
  · obtain ⟨p, hp, hturn⟩ := List.mem_flatMap.mp h
    rcases List.mem_append.mp hturn with hturn | hturn
    · by_cases haccess : o.accessors.giveAccessTo p
      · rw [if_pos haccess] at hturn
        exact .inr ⟨p, hp, haccess, List.mem_singleton.mp hturn⟩
      · simp [haccess] at hturn
    · exact .inl (hmark _ hturn)
  · exact .inl (hmark _ h)

theorem HasShape.name_ne_nil {o : Outline} {suffix : Text} (h : o.HasShape suffix) {p : Property}
    (hp : p ∈ o.properties) (haccess : o.accessors.giveAccessTo p) : p.name ≠ [] := by
  obtain ⟨verb, hverb, hmem⟩ := List.any_eq_true.mp haccess
  obtain ⟨hcapital, hchars⟩ :=
    PropertyLine.capitalized_of_isNameChar (h.property p hp).name_isNameChar
  have haccessor := h.accessor _ (of_decide_eq_true hmem)
  rw [Property.nameInAccessors, hcapital] at haccessor
  have hne := (AccessorMethod.isAccessorName_verb_iff hverb hchars).mp haccessor
  intro hname
  exact hne (by rw [hname]; rfl)

private theorem HasShape.mem_members {o : Outline} {suffix line : Text} {marks : CollectionMarks}
    (h : o.HasShape suffix) (hline : line ∈ o.members marks) :
    line = collectionMember ∨
      ∃ p ∈ o.properties, p.name ≠ [] ∧ (∀ c ∈ p.name, PropertyLine.isNameChar c) ∧
        line = p.name ++ ": ".toList ++ TypeName.convert p.plainType ++ ";".toList := by
  rcases Outline.mem_members hline with hmark | ⟨p, hp, haccess, hmember⟩
  · exact .inl hmark
  · exact .inr ⟨p, hp, h.name_ne_nil hp haccess, (h.property p hp).name_isNameChar, hmember⟩

/-- The parts that are read from a text are words of their kinds: the names of the class and of its
parents before the suffix, types and names of properties, names of accessors. So every member is
the mark of a collection or the line of a property that is read and has a name. -/
theorem shape_ofSource (source suffix : Text) :
    (∀ name, ClassHeader.name? source = some name → ClassHeader.IsName name) ∧
    (∀ parent ∈ ClassHeader.parents source, ClassHeader.IsName parent) ∧
    (ofSource source suffix).HasShape suffix ∧
    ∀ config, ∀ line ∈ (interfaceOf config source).members,
      line = collectionMember ∨
        ∃ p ∈ PropertyLine.properties source, p.name ≠ [] ∧
          (∀ c ∈ p.name, PropertyLine.isNameChar c) ∧
          line = p.name ++ ": ".toList ++ TypeName.convert p.plainType ++ ";".toList := by
  refine ⟨fun name => ClassHeader.isName_of_name?, fun parent => ClassHeader.isName_of_mem_parents,
    hasShape_ofSource source suffix, ?_⟩
  intro config line hline
  rw [interfaceOf_eq] at hline
  exact (hasShape_ofSource source config.suffix).mem_members hline

/-- Beside a property with a getter there are a property that is all signs and a method `get`. -/
theorem shape_ofSource_signs :
    let source :=
      "class User\n\tvar int $id;\n\tvar int $;\n function getId()\n function get()".toList
    ClassHeader.name? source = some "User".toList ∧ ClassHeader.IsName "User".toList ∧
      "id: number;".toList ∈ (interfaceOf {} source).members ∧
      ∃ p ∈ PropertyLine.properties source, p.name ≠ [] ∧
        "id: number;".toList = p.name ++ ": ".toList ++ TypeName.convert p.plainType ++
          ";".toList := by
  intro source
  obtain ⟨hname, -, -, hmembers⟩ := shape_ofSource source []
  have hread : ClassHeader.name? source = some "User".toList := by decide
  have hmember : "id: number;".toList ∈ (interfaceOf {} source).members := by decide +kernel
  refine ⟨hread, hname _ hread, hmember, ?_⟩
  rcases hmembers {} _ hmember with hmark | ⟨p, hp, hne, -, hline⟩
  · exact absurd hmark (by decide)
  · exact ⟨p, hp, hne, hline⟩

end Outline
end ClassTypings
