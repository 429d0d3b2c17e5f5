import ClassTypings.Proofs.SketchHeader
/-!
# Properties of sketches

In the text of a sketch each property line gives its property. The header and the methods give none.
-/
namespace ClassTypings

namespace PropertyLine

private theorem isIndent_spaces : IsIndent "    ".toList := ⟨"    ".toList, by simp, .inl rfl⟩

theorem isNameChar_of_word {c : Char} (h : c.isAlphanum ∨ c = '_') : isNameChar c := by
  rcases h with h | rfl
  · simp [isNameChar, h]
  · decide

private theorem isNameChar_of_className {c : Char} (h : ClassHeader.isNameChar c) :
    isNameChar c := by
  simp only [ClassHeader.isNameChar, Bool.or_eq_true] at h
  rcases h with (h | h) | h <;> simp [isNameChar, h]

end PropertyLine

namespace Field

open PropertyLine

def line (f : Field) : PropertyLine := ⟨f.visibility.word.toList, f.type, '$' :: f.name⟩

private theorem line_wellFormed (f : Field) : f.line.WellFormed where
  modifier_ne_nil := by cases h : f.visibility <;> simp [line, h, Visibility.word]
  modifier_isLower := by
    show ∀ c ∈ f.visibility.word.toList, c.isLower
    exact List.all_eq_true.mp (by cases f.visibility <;> decide)
  type_ne_nil := f.type_ne_nil
  type_noSpace := fun hmem => f.type_noBlank ' ' hmem (by decide)
  name_ne_nil := by simp [line]
  name_isNameChar := by
    intro c hc
    rcases List.mem_cons.mp hc with rfl | hc
    · decide
    · exact isNameChar_of_word (f.name_chars c hc)

private theorem isEnding (f : Field) : IsEnding (f.valueClause ++ [';']) := by
  cases hv : f.value with
  | none => simpa [valueClause, hv] using IsEnding.plain
  | some v =>
    have hfree : ';' ∉ ' ' :: v := by simp [(f.value_plain v hv).noSemicolon]
    simpa [valueClause, hv] using IsEnding.default (by simp) hfree

private theorem read?_text (f : Field) (rest : Text) :
    read? ('\n' :: (f.text ++ rest)) = some (f.line, '\n' :: rest) := by
  refine read?_eq_some_iff.mpr ⟨"    ".toList, f.valueClause ++ [';'], ?_, f.line_wellFormed,
    f.isEnding, ?_⟩
  · exact isIndent_spaces
  · rw [text_eq]
    simp [line, core]

private theorem property_line (f : Field) : f.line.property = ⟨f.type, f.name⟩ := by
  obtain ⟨c, r, hname, hc⟩ := f.name_head
  have hsigil : c ≠ '$' := by
    intro h
    subst h
    exact absurd hc (by decide)
  simp [line, property, Property.declared, hname, hsigil]

end Field

namespace Sketch

open PropertyLine
open ClassHeader (class_isName extends_isName)

private theorem reads_fields (fs : List Field) (rest : Text) :
    rule.Reads ('\n' :: (fs.flatMap Field.text ++ rest)) (fs.map Field.line) ('\n' :: rest) := by
  induction fs with
  | nil => exact .done _
  | cons f fs ih =>
    rw [List.flatMap_cons, List.append_assoc, List.map_cons]
    exact .take (f.read?_text _) ih

/-- A method as far as it looks like the line of a property. -/
def methodLine (m : MethodName) : PropertyLine := ⟨"public".toList, "function".toList, m.val⟩

theorem methodLine_wellFormed (m : MethodName) : (methodLine m).WellFormed where
  modifier_ne_nil := by
    show "public".toList ≠ []
    simp
  modifier_isLower := by
    show ∀ c ∈ "public".toList, c.isLower
    exact List.all_eq_true.mp (by decide)
  type_ne_nil := by
    show "function".toList ≠ []
    simp
  type_noSpace := by
    show ' ' ∉ "function".toList
    decide
  name_ne_nil := m.property.1
  name_isNameChar := by
    intro c hc
    exact isNameChar_of_word (m.property.2 c hc)

private theorem methodText_eq_line (m : MethodName) :
    methodText m = "    ".toList ++ ((methodLine m).core ++ "()\n    \x7b\n    \x7d\n".toList) := by
  unfold methodText core methodLine
  simp

private theorem body?_methodText (m : MethodName) (rest : Text) : body?
    (methodText m ++ rest) = none := by
  have hend : ∀ c, ("()\n    \x7b\n    \x7d\n".toList ++ rest).head? = some c →
      ¬ PropertyLine.isNameChar c := by
    intro c hc
    obtain rfl : '(' = c := by simpa using hc
    decide
  rw [methodText_eq_line, List.append_assoc, List.append_assoc,
    body?_append isIndent_spaces (methodLine_wellFormed m) hend]
  simp [afterEnd?]

private theorem reads_methodText (m : MethodName) (rest : Text) :
    rule.Reads ('\n' :: (methodText m ++ rest)) [] ('\n' :: rest) := by
  have hcore : '\n' ∉ "    ".toList ++ ((methodLine m).core ++ "()".toList) := by
    have htype : '\n' ∉ "function".toList := by decide
    have hline : '\n' ∉ (methodLine m).core := core_noNewline (methodLine_wellFormed m) htype
    simp [hline]
  have hsplit : methodText m ++ rest =
      ("    ".toList ++ ((methodLine m).core ++ "()".toList)) ++
        ("\n    \x7b\n    \x7d".toList ++ '\n' :: rest) := by
    rw [methodText_eq_line]
    simp
  have hbraces : Text.Silent read? "\n    \x7b\n    \x7d".toList ('\n' :: rest) := by
    simp [read?, body?, unindent, Text.run?]
  refine .skip (body?_methodText m rest) ?_
  rw [hsplit]
  exact (Rule.reads_of_silent (silent_read? hcore _)).trans (Rule.reads_of_silent hbraces)

private theorem reads_methods (ms : List MethodName) (rest : Text) :
    rule.Reads ('\n' :: (ms.flatMap methodText ++ rest)) [] ('\n' :: rest) := by
  induction ms with
  | nil => exact .done _
  | cons m ms ih =>
    rw [List.flatMap_cons, List.append_assoc]
    exact (reads_methodText m _).trans ih

def headerLine (s : Sketch) : Text :=
  s.modifierClause ++ ("class ".toList ++ (s.name.val ++ s.extendsClause))

theorem text_eq_header (s : Sketch) :
    s.text = "<?php".toList ++ '\n' :: (s.headerLine ++ ("\n\x7b".toList ++ '\n' :: s.body)) := by
  unfold Sketch.text headerLine
  simp

/-- A character of the line of a header. -/
def isHeaderChar (c : Char) : Bool := ClassHeader.isNameChar c || c == ' ' || c == ','

private theorem isHeaderChar_of_mem_extendsClause {s : Sketch} {c : Char}
    (hc : c ∈ s.extendsClause) :
    isHeaderChar c := by
  have hname : ∀ p : ClassName, c ∈ p.val → isHeaderChar c := by
    intro p hp
    simp [isHeaderChar, p.property.2 c hp]
  have hword : ∀ d ∈ " extends ".toList, isHeaderChar d := List.all_eq_true.mp (by decide)
  have hcomma : ∀ d ∈ ", ".toList, isHeaderChar d := List.all_eq_true.mp (by decide)
  unfold extendsClause at hc
  cases hp : s.parents with
  | nil => simp [hp] at hc
  | cons p ps =>
    rw [hp] at hc
    rcases List.mem_append.mp hc with hc | hc
    · rcases List.mem_append.mp hc with hc | hc
      · exact hword c hc
      · exact hname p hc
    · obtain ⟨q, -, hc⟩ := List.mem_flatMap.mp hc
      rcases List.mem_append.mp hc with hc | hc
      · exact hcomma c hc
      · exact hname q hc

theorem isHeaderChar_of_mem {s : Sketch} {c : Char} (hc : c ∈ s.headerLine) : isHeaderChar c := by
  have hclass : ∀ d ∈ "class ".toList, isHeaderChar d := List.all_eq_true.mp (by decide)
  unfold headerLine at hc
  rcases List.mem_append.mp hc with hc | hc
  · have hlead := s.isLead_modifierClause c hc
    simp only [ClassHeader.isLead, Bool.or_eq_true, beq_iff_eq] at hlead
    rcases hlead with h | h
    · simp [isHeaderChar, ClassHeader.isNameChar_of_isLower h]
    · simp [isHeaderChar, h]
  · rcases List.mem_append.mp hc with hc | hc
    · exact hclass c hc
    · rcases List.mem_append.mp hc with hc | hc
      · simp [isHeaderChar, s.name.property.2 c hc]
      · exact isHeaderChar_of_mem_extendsClause hc

private theorem headerLine_noNewline (s : Sketch) : '\n' ∉ s.headerLine :=
  fun hmem => absurd (isHeaderChar_of_mem hmem) (by decide)

private theorem body?_words {first second third t : Text} (hfirst : first ≠ [])
    (hlower : ∀ c ∈ first, c.isLower) (hsecond : ClassHeader.IsName second)
    (hthird : ClassHeader.IsName third) (ht : ∀ c, t.head? = some c → ¬ PropertyLine.isNameChar c)
    (hend : afterEnd? t = none) :
    body? (first ++ ' ' :: (second ++ ' ' :: (third ++ t))) = none := by
  have hline : (⟨first, second, third⟩ : PropertyLine).WellFormed := by
    refine ⟨hfirst, hlower, hsecond.1, ?_, hthird.1, ?_⟩
    · intro hmem
      exact absurd (hsecond.2 _ hmem) (by decide)
    · intro c hc
      exact isNameChar_of_className (hthird.2 c hc)
  have hread := body?_append ⟨[], by simp, .inl rfl⟩ hline ht
  rw [hend, Option.map_none] at hread
  simpa [core] using hread

private theorem modifier_isLower (m : ClassModifier) :
    m.word.toList ≠ [] ∧ ∀ c ∈ m.word.toList, c.isLower := by
  refine ⟨?_, List.all_eq_true.mp (by cases m <;> decide)⟩
  cases m <;> simp [ClassModifier.word]

private theorem modifier_isName (m : ClassModifier) : ClassHeader.IsName m.word.toList := by
  obtain ⟨hne, hlower⟩ := modifier_isLower m
  refine ⟨hne, ?_⟩
  intro c hc
  exact ClassHeader.isNameChar_of_isLower (hlower c hc)

private theorem exists_word_of_modifiers (ms : List ClassModifier) {name : Text}
    (hname : ClassHeader.IsName name) (rest : Text) :
    ∃ word next u, ClassHeader.IsName word ∧ ClassHeader.IsName next ∧
      (ms.flatMap fun m => m.word.toList ++ " ".toList) ++ ("class ".toList ++ (name ++ rest)) =
        word ++ ' ' :: (next ++ u) := by
  match ms with
  | [] =>
    exact ⟨"class".toList, name, rest, class_isName, hname, by simp⟩
  | [m] =>
    exact ⟨m.word.toList, "class".toList, ' ' :: (name ++ rest), modifier_isName m, class_isName,
      by simp⟩
  | m :: m' :: ms =>
    exact ⟨m.word.toList, m'.word.toList, ' ' :: ((ms.flatMap fun m => m.word.toList ++
      " ".toList) ++ ("class ".toList ++ (name ++ rest))), modifier_isName m, modifier_isName m',
      by simp⟩

private theorem afterEnd?_of_name {name : Text} (hname : ClassHeader.IsName name) (t : Text) :
    afterEnd? (' ' :: (name ++ t)) = none := by
  obtain ⟨hne, hchars⟩ := hname
  cases name with
  | nil => exact absurd rfl hne
  | cons c name =>
    have hc : c ≠ '=' := by
      intro h
      subst h
      exact absurd (hchars '=' (by simp)) (by decide)
    unfold afterEnd?
    split
    · simp_all
    · simp_all
    · rfl

private theorem body_eq_or (s : Sketch) :
    s.body = "\x7d\n".toList ∨ ∃ t, s.body = ' ' :: ' ' :: t := by
  unfold body
  cases s.fields with
  | cons f fs =>
    right
    rw [List.flatMap_cons, f.text_eq]
    simp
  | nil =>
    cases s.methods with
    | nil => simp
    | cons m ms =>
      right
      rw [List.flatMap_cons, methodText_eq]
      simp

private theorem body?_plainHeader (s : Sketch) :
    body? ("class ".toList ++ (s.name.val ++ ("\n\x7b".toList ++ '\n' :: s.body))) = none := by
  have hname : ' ' ∉ s.name.val := fun hmem => absurd (s.name.property.2 _ hmem) (by decide)
  have hlower : ∀ c ∈ "class".toList, c.isLower := List.all_eq_true.mp (by decide)
  have hindent : IsIndent [] := ⟨[], by simp, .inl rfl⟩
  rcases s.body_eq_or with hbody | ⟨t, hbody⟩
  · have hread : body? ([] ++ ("class".toList ++ ' ' :: ((s.name.val ++
        "\n\x7b\n\x7d\n".toList) ++ []))) = none := by
      rw [body?_append_type hindent (by simp) hlower (by simp) (by simp [hname]) (by simp)]
      rfl
    rw [hbody]
    simpa using hread
  · have hread : body? ([] ++ ("class".toList ++ ' ' :: ((s.name.val ++ "\n\x7b\n".toList) ++
        ' ' :: ' ' :: t))) = none := by
      rw [body?_append_type hindent (by simp) hlower (by simp) (by simp [hname]) (by simp)]
      simp [Text.after?, Text.run?, PropertyLine.isNameChar]
    rw [hbody]
    simpa using hread

private theorem afterEnd?_extendsClause (s : Sketch) (rest : Text) :
    (∀ c, (s.extendsClause ++ '\n' :: rest).head? = some c → ¬ PropertyLine.isNameChar c) ∧
      afterEnd? (s.extendsClause ++ '\n' :: rest) = none := by
  unfold extendsClause
  cases s.parents with
  | nil =>
    refine ⟨?_, by simp [afterEnd?]⟩
    exact Text.head_cons (by decide) _
  | cons p ps =>
    refine ⟨?_, by simp [afterEnd?]⟩
    exact Text.head_cons (by decide) _

private theorem body?_header (s : Sketch) :
    body? (s.headerLine ++ ("\n\x7b".toList ++ '\n' :: s.body)) = none := by
  have hspace : ∀ t c, (' ' :: t).head? = some c → ¬ PropertyLine.isNameChar c :=
    Text.head_cons (by decide)
  unfold headerLine modifierClause
  -- the first three words look like a property, so what stands after the third one has to refute it
  match hm : s.modifiers with
  | [] =>
    cases hp : s.parents with
    | nil => simpa [extendsClause, hp] using s.body?_plainHeader
    | cons p ps =>
      have hlower : ∀ c ∈ "class".toList, c.isLower := List.all_eq_true.mp (by decide)
      have hend := afterEnd?_of_name p.property ((ps.flatMap fun q => ", ".toList ++ q.val) ++
        ("\n\x7b".toList ++ '\n' :: s.body))
      have hread := body?_words class_isName.1 hlower s.name.property extends_isName (hspace _) hend
      simpa [extendsClause, hp] using hread
  | [m] =>
    obtain ⟨hne, hlower⟩ := modifier_isLower m
    obtain ⟨hhead, hend⟩ := s.afterEnd?_extendsClause ('\x7b' :: '\n' :: s.body)
    have hread := body?_words hne hlower class_isName s.name.property hhead hend
    simpa using hread
  | m :: m' :: ms =>
    obtain ⟨hne, hlower⟩ := modifier_isLower m
    obtain ⟨word, next, u, hword, hnext, hsplit⟩ := exists_word_of_modifiers ms s.name.property
      (s.extendsClause ++ ("\n\x7b".toList ++ '\n' :: s.body))
    have hread := body?_words hne hlower (modifier_isName m') hword (hspace _)
      (afterEnd?_of_name hnext u)
    rw [← hsplit] at hread
    simpa using hread

private theorem reads_header (s : Sketch) : rule.Reads s.text [] ('\n' :: s.body) := by
  have hopening : Text.Silent read? "<?php".toList
      ('\n' :: (s.headerLine ++ ("\n\x7b".toList ++ '\n' :: s.body))) :=
    silent_read? (by decide) _
  have hbrace : Text.Silent read? "\n\x7b".toList ('\n' :: s.body) := by
    simp [read?, body?, unindent, Text.run?]
  rw [text_eq_header]
  refine (Rule.reads_of_silent hopening).trans (.skip s.body?_header ?_)
  refine (Rule.reads_of_silent (silent_read? s.headerLine_noNewline _)).trans ?_
  exact Rule.reads_of_silent hbrace

/-- The properties of the class are read back, and nothing else is taken for one. -/
theorem properties_text (s : Sketch) :
    properties s.text = s.fields.map fun f => ⟨f.type, f.name⟩ := by
  have hsilent : Text.Silent rule.read "\n\x7d\n".toList [] := by
    show Text.Silent read? "\n\x7d\n".toList []
    simp [read?, body?, unindent, Text.run?]
  have hclosing : rule.Reads ('\n' :: "\x7d\n".toList) [] [] := by
    simpa using Rule.reads_of_silent hsilent
  have hbody : rule.Reads ('\n' :: s.body) (s.fields.map Field.line) [] := by
    unfold body
    rw [List.append_assoc, ← List.append_nil (s.fields.map Field.line)]
    exact (reads_fields s.fields _).trans ((reads_methods s.methods _).trans hclosing)
  have hreadings := Rule.readings_eq_of_reads (s.reads_header.trans hbody)
  rw [List.nil_append] at hreadings
  simp [properties, lines, hreadings, Field.property_line]

end Sketch
end ClassTypings
