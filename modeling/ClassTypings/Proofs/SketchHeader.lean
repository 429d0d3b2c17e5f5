import ClassTypings.Proofs.HeaderSpelling
import ClassTypings.Proofs.Members
import ClassTypings.Proofs.PropertyLine
/-!
# Headers of sketches

In the text of a sketch the header gives the name and the parents of the class. No other part of
the text is taken for a header.
-/
namespace ClassTypings

namespace Sketch

open ClassHeader

def afterName (s : Sketch) : Text := s.extendsClause ++ ("\n\x7b\n".toList ++ s.body)

def headerFront (s : Sketch) : HeaderFront where
  opening := "<?php\n".toList
  modifiers := s.modifiers.map (⟨·, 0⟩)
  opening_noClass := by decide +kernel
  opening_ends := .inr (by decide)

private theorem modifierClause_headerFront (s : Sketch) :
    s.headerFront.modifierClause = s.modifierClause := by
  unfold HeaderFront.modifierClause headerFront
  rw [List.flatMap_map]
  rfl

private theorem front_headerFront (s : Sketch) :
    s.headerFront.front = "<?php\n".toList ++ s.modifierClause := by
  rw [HeaderFront.front, modifierClause_headerFront]
  rfl

theorem text_eq (s : Sketch) :
    s.text = s.headerFront.front ++ ("class ".toList ++ (s.name.val ++ s.afterName)) := by
  rw [front_headerFront]
  unfold Sketch.text afterName
  rw [List.append_assoc, List.append_assoc, List.append_assoc, List.append_assoc]

theorem isLead_modifierClause (s : Sketch) : ∀ c ∈ s.modifierClause, isLead c := by
  rw [← modifierClause_headerFront]
  exact s.headerFront.isLead_modifierClause

private theorem afterName_head (s : Sketch) : ∀ c, s.afterName.head? = some c → ¬ isNameChar c := by
  unfold afterName extendsClause
  split
  · exact Text.head_cons (by decide) _
  · exact Text.head_cons (by decide) _

theorem nameAt?_header (s : Sketch) :
    nameAt? ("class ".toList ++ (s.name.val ++ s.afterName)) = some (s.name.val, s.afterName) := by
  refine nameAt?_eq_some_iff.mpr ⟨" ".toList, isGap_space, s.name.property, s.afterName_head,
    ?_⟩
  simp

theorem name?_text (s : Sketch) : name? s.text = some s.name.val := by
  rw [text_eq]
  exact HeaderFront.name?_front_append s.nameAt?_header

def spelledHeader (s : Sketch) (p : ClassName) (ps : List ClassName) : SpelledHeader where
  toHeaderFront := s.headerFront
  classGap := ⟨" ".toList, isGap_space⟩
  name := s.name
  nameGap := ⟨" ".toList, isGap_space⟩
  extendsGap := ⟨" ".toList, isGap_space⟩
  parent := p
  further := ps.map (⟨[], " ".toList, ·, by simp, isGap_space.2⟩)
  rest := "\n\x7b\n".toList ++ s.body
  rest_head := Text.head_cons (by decide) _
  rest_noComma := by
    simp [isBlank]

private theorem further_spelledHeader (s : Sketch) (p : ClassName) (ps : List ClassName) :
    (s.spelledHeader p ps).further.flatMap FurtherParent.text =
      ps.flatMap fun q => ", ".toList ++ q.val := by
  rw [spelledHeader, List.flatMap_map]
  rfl

private theorem text_spelledHeader {s : Sketch} {p : ClassName} {ps : List ClassName}
    (h : s.parents = p :: ps) : (s.spelledHeader p ps).text = s.text := by
  have hclass : "class ".toList = "class".toList ++ " ".toList := rfl
  have hextends : " extends ".toList = " ".toList ++ ("extends".toList ++ " ".toList) := rfl
  rw [SpelledHeader.text_eq, text_eq]
  refine congrArg (s.headerFront.front ++ ·) ?_
  unfold SpelledHeader.header SpelledHeader.afterName SpelledHeader.afterParent
  rw [further_spelledHeader, afterName, extendsClause, h]
  dsimp only
  simp only [spelledHeader, hclass, hextends, List.append_assoc]

end Sketch

namespace Field

open ClassHeader

theorem text_eq (f : Field) :
    f.text = "    ".toList ++ (f.visibility.word.toList ++ ' ' :: (f.type ++ ' ' :: '$' ::
      (f.name ++ (f.valueClause ++ [';', '\n'])))) := by
  unfold Field.text
  simp

theorem name_noBlank (f : Field) : ∀ c ∈ f.name, ¬ isBlank c := by
  intro c hc
  apply not_isBlank_of_isNameChar
  exact isNameChar_of_word (f.name_chars c hc)

private theorem silent_nameAt?_type (f : Field) (rest : Text) :
    Text.Silent nameAt? f.type (' ' :: '$' :: rest) := by
  apply silent_nameAt?_of_noBlank f.type_noBlank (by decide)
  intro c hc
  obtain rfl : '$' = c := by simpa [isBlank] using hc
  decide

private theorem silent_nameAt?_name (f : Field) (rest : Text) :
    Text.Silent nameAt? f.name (f.valueClause ++ ';' :: rest) := by
  unfold valueClause
  cases f.value with
  | none =>
    apply silent_nameAt?_of_noBlank f.name_noBlank (by decide)
    intro c hc
    obtain rfl : ';' = c := by simpa [isBlank] using hc
    decide
  | some v =>
    have hsplit : " = ".toList ++ v ++ ';' :: rest = ' ' :: '=' :: ' ' :: (v ++ ';' :: rest) := by
      simp
    dsimp only
    rw [hsplit]
    apply silent_nameAt?_of_noBlank f.name_noBlank (by decide)
    intro c hc
    obtain rfl : '=' = c := by simpa [isBlank] using hc
    decide

private theorem silent_nameAt?_valueClause (f : Field) (rest : Text) :
    Text.Silent nameAt? f.valueClause (';' :: rest) := by
  unfold valueClause
  cases hv : f.value with
  | none => trivial
  | some v =>
    have hend : ';' ∉ "class".toList := by decide
    have hvalue := silent_nameAt?_of_noClass (f.value_plain v hv).noClass hend rest
    simpa [nameAt?, Text.after?] using hvalue

private theorem silent_nameAt? (f : Field) (rest : Text) : Text.Silent nameAt? f.text rest := by
  have hfront : ∀ t, Text.Silent nameAt? ("    ".toList ++ f.visibility.word.toList) (' ' :: t) := by
    intro t
    cases f.visibility <;> simp [Visibility.word, nameAt?, Text.after?]
  have hother : ∀ c t, c ≠ 'c' → nameAt? (c :: t) = none := by
    intro c t h
    exact nameAt?_of_ne h t
  rw [text_eq, ← List.append_assoc, Text.silent_append]
  refine ⟨hfront _, hother _ _ (by decide), ?_⟩
  rw [Text.silent_append]
  refine ⟨f.silent_nameAt?_type _, hother _ _ (by decide), hother _ _ (by decide), ?_⟩
  rw [Text.silent_append, Text.silent_append, List.append_assoc]
  exact ⟨f.silent_nameAt?_name _, f.silent_nameAt?_valueClause _, hother _ _ (by decide),
    hother _ _ (by decide), trivial⟩

end Field

namespace Sketch

open ClassHeader

theorem methodText_eq (m : MethodName) :
    methodText m = "    public".toList ++ (" function ".toList ++ (m.val ++ '(' ::
      ")\n    \x7b\n    \x7d\n".toList)) := by
  unfold methodText
  simp

theorem isNameChar_of_methodName (m : MethodName) : ∀ c ∈ m.val, isNameChar c := by
  intro c hc
  exact isNameChar_of_word (m.property.2 c hc)

private theorem silent_nameAt?_methodText (m : MethodName) (rest : Text) :
    Text.Silent nameAt? (methodText m) rest := by
  have hname : ∀ t, Text.Silent nameAt? m.val ('(' :: t) := by
    intro t
    apply silent_nameAt?_of_noBlank
    · intro c hc
      exact not_isBlank_of_isNameChar (isNameChar_of_methodName m c hc)
    · decide
    · intro c hc
      obtain rfl : '(' = c := by simpa [isBlank] using hc
      decide
  rw [methodText_eq]
  simp only [Text.silent_append, Text.silent_cons, List.cons_append]
  refine ⟨?_, ?_, hname _, ?_, ?_⟩
  · simp [nameAt?, Text.after?]
  · simp [nameAt?, Text.after?]
  · simp [nameAt?, Text.after?]
  · simp [nameAt?, Text.after?]

private theorem silent_nameAt?_body (s : Sketch) : Text.Silent nameAt? s.body [] := by
  unfold body
  rw [Text.silent_append, Text.silent_append]
  refine ⟨⟨?_, ?_⟩, by simp [nameAt?, Text.after?]⟩
  · exact Text.silent_flatMap (fun f _ => f.silent_nameAt?) _
  · exact Text.silent_flatMap (fun m _ => silent_nameAt?_methodText m) _

private theorem afterName_of_nil {s : Sketch} (h : s.parents = []) :
    s.afterName = '\n' :: '\x7b' :: '\n' :: s.body := by
  unfold afterName extendsClause
  rw [h]
  rfl

private theorem silent_extendingAt?_name {s : Sketch} (h : s.parents = []) :
    Text.Silent extendingAt? s.name.val s.afterName := by
  rw [afterName_of_nil h]
  have hname : Text.Silent nameAt? s.name.val ('\n' :: '\x7b' :: '\n' :: s.body) := by
    apply silent_nameAt?_of_noBlank
    · intro c hc
      exact not_isBlank_of_isNameChar (s.name.property.2 c hc)
    · decide
    · intro c hc
      obtain rfl : '\x7b' = c := by simpa [isBlank] using hc
      decide
  exact hname.imp fun _ => extendingAt?_of_nameAt?

private theorem extendingAt?_header_of_nil {s : Sketch} (h : s.parents = []) :
    extendingAt? ("class ".toList ++ (s.name.val ++ s.afterName)) = none := by
  have hheader := s.nameAt?_header
  rw [afterName_of_nil h] at hheader ⊢
  have hgap : Text.run? isBlank (['\n'] ++ '\x7b' :: '\n' :: s.body) =
      some (['\n'], '\x7b' :: '\n' :: s.body) := by
    apply Text.run?_append
    · simp
    · exact List.all_eq_true.mp (by decide)
    · exact Text.head_cons (by decide) _
  rw [List.singleton_append] at hgap
  have hend : Text.after? "extends".toList ('\x7b' :: '\n' :: s.body) = none := by
    simp [Text.after?]
  simp only [extendingAt?, Option.bind_eq_bind, hheader, Option.bind_some, hgap, hend,
    Option.bind_none]

private theorem extending?_text_of_nil {s : Sketch} (h : s.parents = []) :
    extending? s.text = none := by
  have hclass : Text.Silent extendingAt? "class ".toList (s.name.val ++ s.afterName) := by
    have hheader := extendingAt?_header_of_nil h
    rw [show "class ".toList = 'c' :: "lass ".toList by simp] at hheader ⊢
    refine ⟨hheader, ?_⟩
    simp [extendingAt?, nameAt?, Text.after?]
  have hafter : Text.Silent extendingAt? s.afterName [] := by
    rw [afterName_of_nil h]
    refine ⟨?_, ?_, ?_, s.silent_nameAt?_body.imp fun _ => extendingAt?_of_nameAt?⟩
    · exact extendingAt?_of_nameAt? (nameAt?_of_ne (by decide) _)
    · exact extendingAt?_of_nameAt? (nameAt?_of_ne (by decide) _)
    · exact extendingAt?_of_nameAt? (nameAt?_of_ne (by decide) _)
  have hall : Text.Silent extendingAt? s.text [] := by
    rw [text_eq, Text.silent_append]
    refine ⟨(s.headerFront.silent_front _).imp fun _ => extendingAt?_of_nameAt?, ?_⟩
    simp only [Text.silent_append, List.append_nil]
    exact ⟨hclass, silent_extendingAt?_name h, hafter⟩
  rw [extending?, ← List.append_nil s.text, Text.firstReading_append (hall.passed _ _)]
  simp [Text.firstReading, extendingAt?, nameAt?, Text.after?]

theorem parents_text (s : Sketch) : ClassHeader.parents s.text = s.parents.map Subtype.val := by
  cases h : s.parents with
  | nil =>
    rw [ClassHeader.parents, extending?_text_of_nil h]
    rfl
  | cons p ps =>
    rw [← text_spelledHeader h, SpelledHeader.parents_text]
    simp [SpelledHeader.parents, spelledHeader]

end Sketch
end ClassTypings
