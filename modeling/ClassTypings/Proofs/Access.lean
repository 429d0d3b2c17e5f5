import ClassTypings.Proofs.AccessorMethod
import ClassTypings.Proofs.ClassHeader
import ClassTypings.Proofs.Members
import ClassTypings.Proofs.PropertyLine
import Mathlib.Data.List.Infix
/-!
# Access read off a text

A name is an accessor of a text when its declaration is a part of the text, wherever that part
stands. So the members of an interface can be read off the text without the rule for methods.
-/
namespace ClassTypings
namespace PropertyLine

private theorem capital_of_isNameChar {c : Char} (h : isNameChar c) :
    capital c = [c.toUpper] ∧ isNameChar c.toUpper := by
  have hascii : c.toNat < 128 := by
    simp only [isNameChar, Bool.or_eq_true, beq_iff_eq] at h
    rcases h with ((h | rfl) | rfl) | rfl
    · have := ClassHeader.toNat_of_isNameChar
        (ClassHeader.isNameChar_of_word (.inl h))
      omega
    all_goals decide
  have hupper : ∀ n < 128, isNameChar (Char.ofNat n) → isNameChar (Char.ofNat n).toUpper := by
    decide
  refine ⟨by simp [capital, hascii], ?_⟩
  have := hupper c.toNat hascii
  rw [Char.ofNat_toNat] at this
  exact this h

theorem capitalized_of_isNameChar {name : Text} (h : ∀ c ∈ name, isNameChar c) :
    name.capitalized = name.modifyHead Char.toUpper ∧
      ∀ c ∈ name.modifyHead Char.toUpper, isNameChar c := by
  cases name with
  | nil => simp [Text.capitalized]
  | cons c name =>
    obtain ⟨hcapital, hupper⟩ := capital_of_isNameChar (h c (by simp))
    refine ⟨by simp [Text.capitalized, hcapital], ?_⟩
    intro d hd
    rcases List.mem_cons.mp hd with rfl | hd
    · exact hupper
    · exact h d (by simp [hd])

theorem isNameChar_of_mem_properties {source : Text} {p : Property} (h : p ∈ properties source) :
    ∀ c ∈ p.name, isNameChar c := by
  obtain ⟨lines, t, line, rest, -, hread, rfl⟩ := mem_properties_iff.mp h
  obtain ⟨indent, ending, -, hline, -, -⟩ := body?_eq_some_iff.mp hread
  intro c hc
  exact hline.name_isNameChar c ((List.dropWhile_sublist _).subset hc)

end PropertyLine

namespace AccessorMethod

open PropertyLine (isNameChar)

/-- The name of an accessor: the one that turns an object into an array, or a verb and more. -/
def IsAccessorName (name : Text) : Prop :=
  name = toArray ∨
    ∃ verb ∈ ["get".toList, "has".toList, "is".toList], ∃ r, r ≠ [] ∧ (∀ c ∈ r, isNameChar c) ∧
      name = verb ++ r

/-- The text that declares a method, up to its parameters. -/
def declaration (name : Text) : Text := " function ".toList ++ (name ++ ['('])

/-- The text declares an accessor for the property, whose name it has with a capital letter. -/
def HasAccessor (source : Text) (p : Property) : Prop :=
  p.name ≠ [] ∧ ∃ verb ∈ ["get".toList, "has".toList, "is".toList],
    declaration (verb ++ p.name.modifyHead Char.toUpper) <:+: source

private theorem declaration_append (name rest : Text) :
    declaration name ++ rest = " function ".toList ++ (name ++ '(' :: rest) := by
  unfold declaration
  simp only [List.append_assoc, List.singleton_append]

instance (source : Text) (p : Property) : Decidable (HasAccessor source p) := by
  unfold HasAccessor
  infer_instance

private theorem isAccessor_iff {name : Text} (hname : ∀ c ∈ name, isNameChar c) :
    isAccessor name ↔ IsAccessorName name := by
  have hverb : ∀ verb : Text, (Text.after? verb name).any (!·.isEmpty) ↔
      ∃ r, r ≠ [] ∧ (∀ c ∈ r, isNameChar c) ∧ name = verb ++ r := by
    intro verb
    rw [Option.any_eq_true]
    constructor
    · intro h
      obtain ⟨r, hr, hne⟩ := h
      have hsplit := Text.after?_eq_some_iff.mp hr
      refine ⟨r, by simpa using hne, ?_, hsplit⟩
      intro c hc
      exact hname c (by simp [hsplit, hc])
    · intro h
      obtain ⟨r, hne, -, rfl⟩ := h
      exact ⟨r, by simp, by simpa using hne⟩
  simp only [isAccessor, hasVerb, Accessors.verbs, List.any_cons, List.any_nil, Bool.or_false,
    Bool.or_eq_true, hverb, beq_iff_eq, IsAccessorName, List.mem_cons, List.not_mem_nil, or_false,
    exists_eq_or_imp, exists_eq_left]
  exact or_comm

theorem IsAccessorName.chars {name : Text} (h : IsAccessorName name) :
    ∀ c ∈ name, isNameChar c := by
  have hverbs : ∀ verb ∈ ["get".toList, "has".toList, "is".toList], verb.all isNameChar := by
    decide
  rcases h with rfl | ⟨verb, hverb, r, -, hr, rfl⟩
  · exact List.all_eq_true.mp (by decide)
  · intro c hc
    rcases List.mem_append.mp hc with hc | hc
    · exact List.all_eq_true.mp (hverbs verb hverb) c hc
    · exact hr c hc

theorem IsAccessorName.ne_nil {name : Text} (h : IsAccessorName name) : name ≠ [] := by
  rcases h with rfl | ⟨verb, -, r, hne, -, rfl⟩
  · decide
  · simp [hne]

theorem read?_declaration {name : Text} (h : IsAccessorName name) (rest : Text) :
    read? (declaration name ++ rest) = some (name, rest) := by
  refine read?_eq_some_iff.mpr ⟨h.ne_nil, h.chars, (isAccessor_iff h.chars).mpr h, ?_⟩
  exact declaration_append name rest

private theorem exists_declaration_of_read? {t name rest : Text} (h : read? t = some (name, rest)) :
    IsAccessorName name ∧ t = declaration name ++ rest := by
  obtain ⟨-, hchars, haccessor, rfl⟩ := read?_eq_some_iff.mp h
  exact ⟨(isAccessor_iff hchars).mp haccessor, (declaration_append name rest).symm⟩

/-- A declaration holds two spaces. The second cannot begin another declaration, for the word before
a name is followed by a space and the name by a parenthesis. -/
theorem rule_apart : rule.Apart := by
  intro c t rest name hread
  obtain ⟨hname, ht⟩ := exists_declaration_of_read? hread
  have hword : ' ' ∉ "function".toList := by decide
  have hspace : ' ' ∉ name := fun hmem => absurd (hname.chars _ hmem) (by decide)
  have hsplit : declaration name = ' ' :: ("function".toList ++ ' ' :: (name ++ ['('])) := rfl
  rw [hsplit, List.cons_append] at ht
  refine ⟨_, (List.cons.inj ht).2, ?_⟩
  rw [Text.silent_append]
  refine ⟨silent_of_noSpace hword _, ?_, ?_⟩
  · rw [List.append_assoc]
    exact read?_name hspace rest
  · rw [Text.silent_append]
    exact ⟨silent_of_noSpace hspace _, read?_of_ne (by decide) _, trivial⟩

theorem read?_suffix {t name rest : Text} (h : read? t = some (name, rest)) : rest <:+ t := by
  obtain ⟨-, rfl⟩ := exists_declaration_of_read? h
  exact List.suffix_append _ _

theorem mem_accessors_iff_declaration {source m : Text} :
    m ∈ accessors source ↔ IsAccessorName m ∧ declaration m <:+: source := by
  rw [mem_accessors_iff]
  constructor
  · intro h
    obtain ⟨as, u, rest, hway, hread⟩ := Rule.mem_readings_iff.mp h
    obtain ⟨hname, rfl⟩ := exists_declaration_of_read? hread
    exact ⟨hname, (List.prefix_append _ _).isInfix.trans (hway.suffix read?_suffix).isInfix⟩
  · intro h
    obtain ⟨hname, front, back, rfl⟩ := h
    rw [List.append_assoc]
    exact rule_apart.mem_readings (read?_declaration hname back)

theorem isAccessorName_verb_iff {verb word : Text}
    (hverb : verb ∈ ["get".toList, "has".toList, "is".toList])
    (hword : ∀ c ∈ word, isNameChar c) : IsAccessorName (verb ++ word) ↔ word ≠ [] := by
  constructor
  · intro h hnil
    have halone : ∀ v ∈ ["get".toList, "has".toList, "is".toList], isAccessor v = false := by decide
    rw [hnil, List.append_nil] at h
    have haccessor := (isAccessor_iff h.chars).mpr h
    rw [halone verb hverb] at haccessor
    simp at haccessor
  · intro hne
    exact .inr ⟨verb, hverb, word, hne, hword, rfl⟩

theorem giveAccessTo_iff_hasAccessor {source : Text} {p : Property}
    (h : p ∈ PropertyLine.properties source) :
    (accessors source).giveAccessTo p ↔ HasAccessor source p := by
  obtain ⟨hcapital, hchars⟩ :=
    PropertyLine.capitalized_of_isNameChar (PropertyLine.isNameChar_of_mem_properties h)
  have hempty : p.name.modifyHead Char.toUpper ≠ [] ↔ p.name ≠ [] := by
    cases p.name <;> simp
  unfold Accessors.giveAccessTo Property.nameInAccessors HasAccessor
  rw [List.any_eq_true, hcapital]
  constructor
  · intro haccess
    obtain ⟨verb, hverb, hmem⟩ := haccess
    obtain ⟨hname, hdeclared⟩ := mem_accessors_iff_declaration.mp (of_decide_eq_true hmem)
    exact ⟨hempty.mp ((isAccessorName_verb_iff hverb hchars).mp hname), verb, hverb, hdeclared⟩
  · intro haccess
    obtain ⟨hne, verb, hverb, hdeclared⟩ := haccess
    have hname := (isAccessorName_verb_iff hverb hchars).mpr (hempty.mpr hne)
    exact ⟨verb, hverb, decide_eq_true (mem_accessors_iff_declaration.mpr ⟨hname, hdeclared⟩)⟩

theorem isCollection_ofSource_iff (source suffix : Text) :
    (Outline.ofSource source suffix).isCollection ↔ declaration toArray <:+: source := by
  have hname : IsAccessorName toArray := .inl rfl
  rw [Outline.isCollection, decide_eq_true_iff]
  exact mem_accessors_iff_declaration.trans (and_iff_right hname)

/-- The accessors of a text are the accessor names that it declares, and a property is kept exactly
when it has a name and the text declares an accessor for it. -/
theorem access_read_off_text (source : Text) :
    (∀ m, m ∈ accessors source ↔ IsAccessorName m ∧ declaration m <:+: source) ∧
    (∀ p ∈ PropertyLine.properties source,
      (accessors source).giveAccessTo p ↔ HasAccessor source p) ∧
    ∀ config, (interfaceOf config source).members =
      ((PropertyLine.properties source).flatMap fun p =>
        (if HasAccessor source p then [p.member] else []) ++
          if declaration toArray <:+: source ∧ config.marks = .each then [collectionMember]
          else []) ++
      if declaration toArray <:+: source ∧ config.marks = .once ∧ PropertyLine.properties source ≠ []
      then [collectionMember] else [] := by
  refine ⟨fun m => mem_accessors_iff_declaration, fun p => giveAccessTo_iff_hasAccessor, ?_⟩
  intro config
  have hcollection := isCollection_ofSource_iff source config.suffix
  have hturn : ∀ p ∈ PropertyLine.properties source,
      (Outline.ofSource source config.suffix).turn config.marks p =
        (if HasAccessor source p then [p.member] else []) ++
          if declaration toArray <:+: source ∧ config.marks = .each then [collectionMember]
          else [] := by
    intro p hp
    have haccess : (Outline.ofSource source config.suffix).accessors.giveAccessTo p ↔
        HasAccessor source p := giveAccessTo_iff_hasAccessor hp
    simp only [Outline.turn, haccess, Bool.and_eq_true, hcollection, beq_iff_eq]
  have hclosing : (Outline.ofSource source config.suffix).closing config.marks =
      if declaration toArray <:+: source ∧ config.marks = .once ∧ PropertyLine.properties source ≠ []
      then [collectionMember] else [] := by
    simp only [Outline.closing, Bool.and_eq_true, hcollection, beq_iff_eq, and_assoc,
      Bool.not_eq_true', List.isEmpty_eq_false_iff]
    rfl
  rw [interfaceOf_eq]
  show (Outline.ofSource source config.suffix).members config.marks = _
  rw [Outline.members, hclosing]
  congr 1
  exact List.flatMap_congr hturn

/-- A property with a getter is kept. One without a name is not, although there is a method `get`. -/
theorem access_of_named_property :
    (⟨"int".toList, "id".toList⟩ ∈ PropertyLine.properties
        "\n\tvar int $id;\n\tvar int $;\n function getId()\n function get()".toList ∧
      (accessors "\n\tvar int $id;\n\tvar int $;\n function getId()\n function get()".toList
        ).giveAccessTo ⟨"int".toList, "id".toList⟩) ∧
    ⟨"int".toList, []⟩ ∈ PropertyLine.properties
        "\n\tvar int $id;\n\tvar int $;\n function getId()\n function get()".toList ∧
      ¬ (accessors "\n\tvar int $id;\n\tvar int $;\n function getId()\n function get()".toList
        ).giveAccessTo ⟨"int".toList, []⟩ := by
  have hread : PropertyLine.properties
      "\n\tvar int $id;\n\tvar int $;\n function getId()\n function get()".toList =
        [⟨"int".toList, "id".toList⟩, ⟨"int".toList, []⟩] := by decide +kernel
  have haccess := (access_read_off_text
    "\n\tvar int $id;\n\tvar int $;\n function getId()\n function get()".toList).2.1
  rw [hread] at haccess ⊢
  refine ⟨⟨by simp, (haccess _ (by simp)).mpr (by decide +kernel)⟩, by simp, ?_⟩
  intro hnameless
  exact ((haccess _ (by simp)).mp hnameless).1 rfl

end AccessorMethod
end ClassTypings
