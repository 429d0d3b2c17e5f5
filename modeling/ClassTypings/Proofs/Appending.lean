import ClassTypings.Proofs.Access
/-!
# Texts that go on

What is found in a text is found again when the text goes on. A rule that lacks text at the end
waits for it, and while it waits nothing else is read, so that no later reading is lost.
-/
namespace ClassTypings

namespace PropertyLine

theorem IsEnding.split {ending : Text} (h : IsEnding ending) :
    ∃ front, ending = front ++ [';'] ∧ ';' ∉ front := by
  cases h with
  | plain => exact ⟨[], rfl, by simp⟩
  | @default value _ hfree => exact ⟨' ' :: '=' :: value, rfl, by simp [hfree]⟩

private theorem exists_semicolon_of_read? {t rest : Text} {line : PropertyLine}
    (h : read? t = some (line, rest)) : ∃ y z, t = '\n' :: (y ++ ';' :: z) ∧ ' ' ∈ y := by
  obtain ⟨indent, ending, -, -, hending, rfl⟩ := read?_eq_some_iff.mp h
  obtain ⟨front, rfl, -⟩ := hending.split
  exact ⟨indent ++ (line.core ++ front), rest, by simp, by simp [core]⟩

/-- No property line stands inside another one that still lacks its end. The type of the one that
waits has no space, and behind its type there is no semicolon but the last. -/
private theorem read?_eq_none_of_infix {indent ending front v tail : Text} {line : PropertyLine}
    (hindent : IsIndent indent) (hline : line.WellFormed) (hending : IsEnding ending)
    (h : indent ++ (line.core ++ ending) = front ++ (v ++ tail)) (htail : tail ≠ []) :
    read? v = none := by
  cases hread : read? v with
  | none => rfl
  | some found =>
    obtain ⟨y, z, rfl, hspace⟩ := exists_semicolon_of_read? hread
    obtain ⟨valued, rfl, hfree⟩ := hending.split
    have hlead : '\n' ∉ indent ++ (line.modifier ++ [' ']) := by
      have hmodifier : '\n' ∉ line.modifier := fun hmem =>
        absurd (hline.modifier_isLower _ hmem) (by decide)
      simp [hindent.noNewline, hmodifier]
    have hname : ';' ∉ ' ' :: (line.name ++ valued) := by
      have hchars : ';' ∉ line.name := fun hmem =>
        absurd (hline.name_isNameChar _ hmem) (by decide)
      simp [hchars, hfree]
    -- the newline stands in the type or behind it
    have hsplit : (indent ++ (line.modifier ++ [' '])) ++
        (line.type ++ (' ' :: (line.name ++ valued) ++ [';'])) =
          front ++ '\n' :: (y ++ ';' :: (z ++ tail)) := by
      simpa [core] using h
    obtain ⟨w, -, hw⟩ := Text.append_eq_append_cons hlead hsplit
    have hsemicolon : line.type ++ (' ' :: (line.name ++ valued) ++ [';']) =
        (w ++ '\n' :: y) ++ ';' :: (z ++ tail) := by
      simpa using hw
    rcases List.append_eq_append_iff.mp hsemicolon with ⟨u, -, hu⟩ | ⟨u, htype, -⟩
    · obtain ⟨x, -, hx⟩ := Text.append_eq_append_cons hname hu
      cases x with
      | nil => simp_all
      | cons c x => simp at hx
    · exact absurd (by simp [htype, hspace]) hline.type_noSpace

theorem read?_append {t rest : Text} {line : PropertyLine} (h : read? t = some (line, rest))
    (u : Text) : read? (t ++ u) = some (line, rest ++ u) := by
  obtain ⟨indent, ending, hindent, hline, hending, rfl⟩ := read?_eq_some_iff.mp h
  exact read?_eq_some_iff.mpr ⟨indent, ending, hindent, hline, hending, by simp⟩

private theorem rule_settles : rule.Settles where
  stays u h := read?_append h u
  waits := by
    intro t u hnone hsome
    obtain ⟨⟨line, rest⟩, hread⟩ := Option.ne_none_iff_exists'.mp hsome
    obtain ⟨indent, ending, hindent, hline, hending, htext⟩ := read?_eq_some_iff.mp hread
    have hsplit : t ++ u = ('\n' :: (indent ++ (line.core ++ ending))) ++ rest := by
      simpa using htext
    have hshort : ∀ tail, t ≠ ('\n' :: (indent ++ (line.core ++ ending))) ++ tail := by
      intro tail ht
      have hfound : read? t = some (line, tail) :=
        read?_eq_some_iff.mpr ⟨indent, ending, hindent, hline, hending, by simpa using ht⟩
      rw [show read? t = none from hnone] at hfound
      simp at hfound
    rcases List.append_eq_append_iff.mp hsplit with ⟨tail, hwhole, -⟩ | ⟨tail, ht, -⟩
    · have htail : tail ≠ [] := by
        rintro rfl
        exact hshort [] (by simpa using hwhole.symm)
      rw [Text.silent_iff]
      intro front v hv hne
      rw [List.append_nil]
      cases front with
      | nil =>
        obtain rfl : t = v := hv
        exact hnone
      | cons c front =>
        rw [hv] at hwhole
        have hinner : indent ++ (line.core ++ ending) = front ++ (v ++ tail) := by
          simpa using (List.cons.inj hwhole).2
        exact read?_eq_none_of_infix hindent hline hending hinner htail
    · exact absurd ht (hshort tail)

end PropertyLine

namespace AccessorMethod

private theorem mem_accessors_append {t m : Text} (h : m ∈ accessors t) (u : Text) :
    m ∈ accessors (t ++ u) := by
  obtain ⟨hname, hdeclared⟩ := mem_accessors_iff_declaration.mp h
  exact mem_accessors_iff_declaration.mpr
    ⟨hname, hdeclared.trans (List.prefix_append t u).isInfix⟩

end AccessorMethod

namespace ClassHeader

theorem IsName.noNewline {name : Text} (h : IsName name) : '\n' ∉ name := fun hmem =>
  absurd (h.2 _ hmem) (by decide)

private theorem nameAt?_append {t name rest : Text} (h : nameAt? t = some (name, rest))
    (hend : t.getLast? = some '\n') (u : Text) : nameAt? (t ++ u) = some (name, rest ++ u) := by
  obtain ⟨gap, hgap, hname, hrest, rfl⟩ := nameAt?_eq_some_iff.mp h
  refine nameAt?_eq_some_iff.mpr ⟨gap, hgap, hname, ?_, by simp⟩
  cases rest with
  | nil =>
    -- the text ends in a newline, which no name has
    have hmem : '\n' ∈ name := by
      rw [List.append_nil, List.getLast?_append_of_ne_nil _ (by simp [hname.1]),
        List.getLast?_append_of_ne_nil _ hname.1] at hend
      exact List.mem_of_getLast? hend
    exact absurd hmem hname.noNewline
  | cons c rest => simpa using hrest

private theorem nameAt?_of_blanks {front header blanks : Text} (hblanks : ∀ c ∈ blanks, isBlank c)
    (h : "class".toList ++ blanks = front ++ header) : nameAt? header = none := by
  cases hread : nameAt? header with
  | none => rfl
  | some found =>
    obtain ⟨name, rest⟩ := found
    obtain ⟨gap, -, hname, -, rfl⟩ := nameAt?_eq_some_iff.mp hread
    have hbehind : gap ++ (name ++ rest) <:+ blanks := by
      have hsplit : "class".toList ++ blanks = (front ++ "class".toList) ++
          (gap ++ (name ++ rest)) := by rw [h, List.append_assoc]
      rcases List.append_eq_append_iff.mp hsplit with ⟨u, -, hu⟩ | ⟨u, hword, hu⟩
      · exact ⟨u, hu.symm⟩
      · have hlength := congrArg List.length hword
        simp only [List.length_append] at hlength
        obtain rfl : u = [] := List.length_eq_zero_iff.mp (by omega)
        exact ⟨[], hu⟩
    obtain ⟨hne, hchars⟩ := hname
    cases name with
    | nil => exact absurd rfl hne
    | cons c name =>
      have hc : isBlank c := hblanks c (hbehind.subset (by simp))
      exact absurd hc (not_isBlank_of_isNameChar (hchars c (by simp)))

private theorem blanks_before_newline {t v gap name : Text} (hgap : IsGap gap) (hname : IsName name)
    (h : "class".toList ++ (gap ++ name) = t ++ '\n' :: v) :
    ∃ w, t = "class".toList ++ w ∧ ∀ c ∈ w ++ ['\n'], isBlank c := by
  obtain ⟨w, rfl, hw⟩ := Text.append_eq_append_cons (by decide) h
  refine ⟨w, rfl, ?_⟩
  rcases List.append_eq_append_iff.mp hw with ⟨x, -, hx⟩ | ⟨x, hsplit, hx⟩
  · exact absurd (by simp [hx]) hname.noNewline
  · cases x with
    | nil =>
      rw [List.nil_append] at hx
      exact absurd (by simp [← hx]) hname.noNewline
    | cons d x =>
      obtain ⟨rfl, -⟩ := List.cons.inj hx
      intro c hc
      refine hgap.2 c ?_
      rw [hsplit]
      simp only [List.mem_append, List.mem_cons, List.not_mem_nil, or_false] at hc ⊢
      tauto

/-- A header that comes about when the text goes on waits for its name at the end of the text. In a
text that ends in a newline no header is then read at all. -/
private theorem nameAt?_append_eq_none {t u : Text} (hend : t.getLast? = some '\n')
    (hnone : nameAt? t = none)
    (hlater : ∃ front header, t = front ++ header ∧ nameAt? header ≠ none) :
    nameAt? (t ++ u) = none := by
  cases hread : nameAt? (t ++ u) with
  | none => rfl
  | some found =>
    obtain ⟨name, rest⟩ := found
    obtain ⟨gap, hgap, hname, hrest, htext⟩ := nameAt?_eq_some_iff.mp hread
    have hsplit : t ++ u = ("class".toList ++ (gap ++ name)) ++ rest := by
      simpa using htext
    obtain ⟨t', rfl⟩ := List.getLast?_eq_some_iff.mp hend
    rcases List.append_eq_append_iff.mp hsplit with ⟨v, hwhole, hu⟩ | ⟨v, ht, hv⟩
    · -- the newline at the end stands in the gap
      have hwait : "class".toList ++ (gap ++ name) = t' ++ '\n' :: v := by simpa using hwhole
      obtain ⟨w, rfl, hblanks⟩ := blanks_before_newline hgap hname hwait
      obtain ⟨front, header, hheader, hfound⟩ := hlater
      rw [List.append_assoc] at hheader
      exact absurd (nameAt?_of_blanks hblanks hheader) hfound
    · -- the name ends before the newline, and is read already
      have hfound : nameAt? (t' ++ ['\n']) = some (name, v) := by
        refine nameAt?_eq_some_iff.mpr ⟨gap, hgap, hname, ?_, by simpa using ht⟩
        cases v with
        | nil =>
          rw [List.append_nil] at ht
          have hlast := congrArg List.getLast? ht
          rw [← List.append_assoc, List.getLast?_append_of_ne_nil _ hname.1] at hlast
          have hmem : '\n' ∈ name := List.mem_of_getLast? (hlast.symm.trans (by simp))
          exact absurd hmem hname.noNewline
        | cons c v =>
          intro d hd
          exact hrest d (by simpa [hv] using hd)
      rw [hnone] at hfound
      simp at hfound

private theorem nameOnLine?_append_eq_none {t u : Text} (hend : t.getLast? = some '\n')
    (hnone : nameOnLine? t = none)
    (hlater : ∃ front header, t = front ++ header ∧ nameAt? header ≠ none) :
    nameOnLine? (t ++ u) = none := by
  induction t with
  | nil => simp at hend
  | cons c r ih =>
    have hhere : nameAt? (c :: r) = none := by
      cases hread : nameAt? (c :: r) with
      | none => rfl
      | some found => simp [nameOnLine?, hread] at hnone
    have happended : nameAt? (c :: (r ++ u)) = none :=
      nameAt?_append_eq_none hend hhere hlater
    rw [nameOnLine?, hhere] at hnone
    rw [List.cons_append, nameOnLine?, happended]
    dsimp only at hnone ⊢
    split
    · rename_i hc
      rw [if_pos hc] at hnone
      obtain ⟨front, header, hheader, hfound⟩ := hlater
      cases front with
      | nil =>
        obtain rfl : c :: r = header := hheader
        exact absurd hhere hfound
      | cons d front =>
        have hr : r = front ++ header := (List.cons.inj hheader).2
        subst hr
        have hne : front ++ header ≠ [] := by
          intro hnil
          rw [(List.append_eq_nil_iff.mp hnil).2] at hfound
          exact hfound (by simp [nameAt?, Text.after?])
        rw [← List.singleton_append, List.getLast?_append_of_ne_nil _ hne] at hend
        exact ih hend hnone ⟨front, header, rfl, hfound⟩
    · rfl

private theorem name?_append {t name : Text} (hend : t.getLast? = some '\n')
    (h : name? t = some name)
    (u : Text) : name? (t ++ u) = some name := by
  obtain ⟨front, header, rfl, start, lead, rest, rfl, hpassed, hstart, hlead, hsilent, hread⟩ :=
    name?_eq_some_iff.mp h
  have hfound : nameAt? header ≠ none := by simp [hread]
  have hne : header ≠ [] := by
    rintro rfl
    exact hfound (by simp [nameAt?, Text.after?])
  rw [List.getLast?_append_of_ne_nil _ hne] at hend
  have hends : ∀ v, (v ++ header).getLast? = some '\n' := by
    intro v
    rw [List.getLast?_append_of_ne_nil _ hne, hend]
  refine name?_eq_some_iff.mpr ⟨start ++ lead, header ++ u, by simp, start, lead, rest ++ u, rfl,
    ?_, hstart, hlead, ?_, nameAt?_append hread hend u⟩
  · intro v w hvw hw hs
    have hnone := hpassed v w hvw hw hs
    rw [← List.append_assoc] at hnone
    have happended := nameOnLine?_append_eq_none (u := u) (hends _) hnone ⟨_, header, rfl, hfound⟩
    rwa [List.append_assoc, List.append_assoc] at happended
  · rw [Text.silent_iff] at hsilent ⊢
    intro v w hvw hw
    have happended := nameAt?_append_eq_none (u := u) (hends _) (hsilent v w hvw hw)
      ⟨_, header, rfl, hfound⟩
    rwa [List.append_assoc] at happended

end ClassHeader

/-- When a text goes on, its properties come first and as they were, its accessors and the members
of its interface stay, and a class whose header stands on whole lines keeps its name. -/
theorem found_again_in_append (s t : Text) :
    PropertyLine.properties s <+: PropertyLine.properties (s ++ t) ∧
    (∀ m ∈ AccessorMethod.accessors s, m ∈ AccessorMethod.accessors (s ++ t)) ∧
    (∀ config, (interfaceOf config s).members.Sublist (interfaceOf config (s ++ t)).members) ∧
    (s.getLast? = some '\n' →
      ∀ name, ClassHeader.name? s = some name → ClassHeader.name? (s ++ t) = some name) := by
  have hproperties : PropertyLine.properties s <+: PropertyLine.properties (s ++ t) :=
    (PropertyLine.rule_settles.readings_prefix s t).map _
  have haccessors : ∀ m ∈ AccessorMethod.accessors s, m ∈ AccessorMethod.accessors (s ++ t) :=
    fun m hm => AccessorMethod.mem_accessors_append hm t
  refine ⟨hproperties, haccessors, ?_, fun hend name h => ClassHeader.name?_append hend h t⟩
  intro config
  simp only [interfaceOf_eq]
  exact Outline.members_sublist hproperties.sublist haccessors config.marks

/-- A class with a getter, and a second class behind it. -/
theorem found_again_in_user :
    ("getId".toList ∈ AccessorMethod.accessors "class User\n function getId()\n".toList ∧
      "class User\n function getId()\n".toList.getLast? = some '\n' ∧
      ClassHeader.name? "class User\n function getId()\n".toList = some "User".toList) ∧
    "getId".toList ∈ AccessorMethod.accessors
      ("class User\n function getId()\n".toList ++ "class Guest\n".toList) ∧
    ClassHeader.name? ("class User\n function getId()\n".toList ++ "class Guest\n".toList) =
      some "User".toList := by
  have hname : AccessorMethod.IsAccessorName "getId".toList :=
    .inr ⟨"get".toList, by simp, "Id".toList, by simp, List.all_eq_true.mp (by decide), by simp⟩
  have hgetter : "getId".toList ∈
      AccessorMethod.accessors "class User\n function getId()\n".toList :=
    AccessorMethod.mem_accessors_iff_declaration.mpr ⟨hname, by decide +kernel⟩
  have hend : "class User\n function getId()\n".toList.getLast? = some '\n' := by decide
  have huser : ClassHeader.name? "class User\n function getId()\n".toList = some "User".toList := by
    decide
  have hagain := found_again_in_append "class User\n function getId()\n".toList
    "class Guest\n".toList
  exact ⟨⟨hgetter, hend, huser⟩, hagain.2.1 _ hgetter, hagain.2.2.2 hend _ huser⟩

end ClassTypings
