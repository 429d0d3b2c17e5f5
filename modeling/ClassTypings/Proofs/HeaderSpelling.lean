import ClassTypings.Outline
import ClassTypings.Proofs.Sketch
/-!
# Spellings of a class header

A header with parents may be spelled in many ways: any blanks between its words and around its
commas, any spaces behind its modifiers, and any text in front of its line and behind its parents.
All of them are read alike.
-/
namespace ClassTypings

open ClassHeader

abbrev Gap := { gap : Text // IsGap gap }

/-- A modifier and the spaces after it, one at least. -/
structure SpacedModifier where
  modifier : ClassModifier
  moreSpaces : Nat

/-- A parent behind the first, with the blanks on both sides of its comma. -/
structure FurtherParent where
  before : Text
  after : Text
  name : ClassName
  before_blank : ∀ c ∈ before, isBlank c
  after_blank : ∀ c ∈ after, isBlank c

/-- What stands in front of a class header: any lines without the word, then modifiers. -/
structure HeaderFront where
  opening : Text
  modifiers : List SpacedModifier
  opening_noClass : ¬ "class".toList <:+: opening
  opening_ends : opening = [] ∨ ['\n'] <:+ opening

/-- A class header as it is spelled in a text. -/
structure SpelledHeader extends HeaderFront where
  classGap : Gap
  name : ClassName
  nameGap : Gap
  extendsGap : Gap
  parent : ClassName
  further : List FurtherParent
  rest : Text
  rest_head : ∀ c, rest.head? = some c → ¬ isNameChar c
  rest_noComma : (rest.dropWhile isBlank).head? ≠ some ','

namespace SpacedModifier

def text (m : SpacedModifier) : Text :=
  m.modifier.word.toList ++ List.replicate (m.moreSpaces + 1) ' '

private theorem isLead_text (m : SpacedModifier) : ∀ c ∈ m.text, isLead c := by
  intro c hc
  rcases List.mem_append.mp hc with hword | hspace
  · have hall : ∀ d ∈ m.modifier.word.toList, isLead d :=
      List.all_eq_true.mp (by cases m.modifier <;> decide)
    exact hall c hword
  · obtain rfl := List.eq_of_mem_replicate hspace
    decide

private theorem silent_text (m : SpacedModifier) (rest : Text) :
    Text.Silent nameAt? m.text rest := by
  rw [text, Text.silent_append]
  refine ⟨?_, Text.silent_of_head (p := (· = 'c')) (fun c t hc => nameAt?_of_ne hc t) ?_ rest⟩
  · have hword : ¬ "class".toList <:+: m.modifier.word.toList := by
      cases m.modifier <;> decide +kernel
    exact silent_nameAt?_of_noClass hword (by decide) _
  · intro c hc
    obtain rfl := List.eq_of_mem_replicate hc
    decide

private theorem getLast?_text (m : SpacedModifier) : m.text.getLast? = some ' ' := by
  rw [text, List.replicate_succ', ← List.append_assoc, List.getLast?_concat]

end SpacedModifier

namespace FurtherParent

def text (p : FurtherParent) : Text := p.before ++ ',' :: (p.after ++ p.name.val)

private theorem nextParent?_text (p : FurtherParent) {rest : Text}
    (hrest : ∀ c, rest.head? = some c → ¬ isNameChar c) :
    nextParent? (p.text ++ rest) = some (p.name.val, rest) := by
  rw [text, List.append_assoc, List.cons_append, List.append_assoc]
  exact nextParent?_append p.before_blank p.after_blank p.name.property hrest

private theorem head_text (p : FurtherParent) (rest : Text) :
    ∀ c, (p.text ++ rest).head? = some c → ¬ isNameChar c := by
  intro c hc
  cases hbefore : p.before with
  | nil =>
    obtain rfl : ',' = c := by simpa [text, hbefore] using hc
    decide
  | cons d before =>
    obtain rfl : d = c := by simpa [text, hbefore] using hc
    exact fun hname => not_isBlank_of_isNameChar hname (p.before_blank d (by simp [hbefore]))

end FurtherParent

namespace ClassHeader

private theorem nextParent?_eq_none_of_noComma {t : Text}
    (h : (t.dropWhile isBlank).head? ≠ some ',') :
    nextParent? t = none := by
  have hnone : Text.after? [','] (t.dropWhile isBlank) = none := by
    cases hdrop : t.dropWhile isBlank with
    | nil => rfl
    | cons c r =>
      have hc : ',' ≠ c := fun heq => h (by rw [hdrop, heq, List.head?_cons])
      simp [Text.after?, hc]
  simp only [nextParent?, hnone, Option.bind_eq_bind, Option.bind_none]

private theorem nameOnLine?_eq_none_of_silent {u rest : Text} (h : Text.Silent nameAt? u rest)
    (hstop : ∃ c ∈ u, ¬ isLead c) : nameOnLine? (u ++ rest) = none := by
  induction u with
  | nil => simp at hstop
  | cons c u ih =>
    obtain ⟨hhere, hlater⟩ := h
    rw [List.cons_append, nameOnLine?, hhere]
    dsimp only
    split
    · rename_i hc
      exact ih hlater (by simpa [hc] using hstop)
    · rfl

end ClassHeader

namespace HeaderFront

variable (f : HeaderFront)

def modifierClause : Text := f.modifiers.flatMap SpacedModifier.text

def front : Text := f.opening ++ f.modifierClause

theorem silent_opening (rest : Text) : Text.Silent nameAt? f.opening rest := by
  rcases f.opening_ends with hnil | ⟨above, habove⟩
  · rw [hnil]
    trivial
  · have hnone : ¬ "class".toList <:+: above := fun h =>
      f.opening_noClass (habove ▸ h.trans (List.prefix_append _ _).isInfix)
    rw [← habove, Text.silent_append]
    exact ⟨silent_nameAt?_of_noClass hnone (by decide) rest, nameAt?_of_ne (by decide) _, trivial⟩

private theorem silent_modifierClause (rest : Text) : Text.Silent nameAt? f.modifierClause rest :=
  Text.silent_flatMap (fun m _ => m.silent_text) rest

theorem silent_front (rest : Text) : Text.Silent nameAt? f.front rest :=
  Text.silent_append.mpr ⟨f.silent_opening _, f.silent_modifierClause rest⟩

theorem isLead_modifierClause : ∀ c ∈ f.modifierClause, isLead c := by
  intro c hc
  obtain ⟨m, -, hm⟩ := List.mem_flatMap.mp hc
  exact m.isLead_text c hm

private theorem passed_opening (rest : Text) :
    Text.Passed startsLine nameOnLine? none f.opening rest := by
  intro u v huv hv _
  apply nameOnLine?_eq_none_of_silent
  · exact (Text.silent_append.mp (huv ▸ f.silent_opening rest)).2
  · rcases f.opening_ends with hnil | ⟨above, habove⟩
    · exact absurd (List.append_eq_nil_iff.mp (huv.symm.trans hnil)).2 hv
    · have hlast : v.getLast? = some '\n' := by
        rw [← List.getLast?_append_of_ne_nil u hv, ← huv, ← habove, List.getLast?_concat]
      exact ⟨'\n', List.mem_of_getLast? hlast, by decide⟩

private theorem startsLine_opening : startsLine f.opening.getLast? := by
  rcases f.opening_ends with hnil | ⟨above, habove⟩
  · rw [hnil]
    rfl
  · rw [← habove, List.getLast?_concat]
    rfl

private theorem startsWord_front : startsWord f.front.getLast? := by
  rw [front]
  rcases List.eq_nil_or_concat f.modifiers with hnil | ⟨ms, m, hms⟩
  · rw [modifierClause, hnil, List.flatMap_nil, List.append_nil]
    rcases f.opening_ends with hopening | ⟨above, habove⟩
    · rw [hopening]
      rfl
    · rw [← habove, List.getLast?_concat]
      decide
  · rw [modifierClause, hms, List.concat_eq_append, List.flatMap_append, List.flatMap_singleton,
      ← List.append_assoc, List.getLast?_append, m.getLast?_text, Option.some_or]
    decide

variable {f}

theorem name?_front_append {header name rest : Text} (h : nameAt? header = some (name, rest)) :
    name? (f.front ++ header) = some name :=
  name?_eq_some_iff.mpr ⟨_, _, rfl, f.opening, f.modifierClause, rest, rfl, f.passed_opening _,
    f.startsLine_opening, f.isLead_modifierClause, f.silent_modifierClause _, h⟩

private theorem parents_front_append {header name : Text} {parents : List Text}
    (h : extendingAt? header = some (name, parents)) :
    ClassHeader.parents (f.front ++ header) = parents :=
  parents_of_parentsStand rfl
    ⟨((f.silent_front _).imp fun _ => extendingAt?_of_nameAt?).passed _ _, f.startsWord_front, h⟩

end HeaderFront

namespace SpelledHeader

variable (s : SpelledHeader)

def text : Text :=
  s.opening ++ s.modifierClause ++ "class".toList ++ s.classGap.val ++ s.name.val ++
    s.nameGap.val ++ "extends".toList ++ s.extendsGap.val ++ s.parent.val ++
    s.further.flatMap FurtherParent.text ++ s.rest

def parents : List ClassName := s.parent :: s.further.map FurtherParent.name

/-- What stands behind the first parent. -/
def afterParent : Text := s.further.flatMap FurtherParent.text ++ s.rest

/-- What stands behind the name of the class. -/
def afterName : Text :=
  s.nameGap.val ++ ("extends".toList ++ (s.extendsGap.val ++ (s.parent.val ++ s.afterParent)))

def header : Text := "class".toList ++ (s.classGap.val ++ (s.name.val ++ s.afterName))

theorem text_eq : s.text = s.front ++ s.header := by
  unfold text HeaderFront.front header afterName afterParent
  simp only [List.append_assoc]

theorem nameAt?_header : nameAt? s.header = some (s.name.val, s.afterName) :=
  nameAt?_eq_some_iff.mpr
    ⟨s.classGap.val, s.classGap.property, s.name.property, s.nameGap.property.head _, rfl⟩

private theorem afterParent_head (ps : List FurtherParent) :
    ∀ c, (ps.flatMap FurtherParent.text ++ s.rest).head? = some c → ¬ isNameChar c := by
  cases ps with
  | nil => exact s.rest_head
  | cons p ps =>
    rw [List.flatMap_cons, List.append_assoc]
    exact p.head_text _

private theorem series_further (ps : List FurtherParent) :
    furtherParent.series (ps.flatMap FurtherParent.text ++ s.rest) =
      ps.map fun p => p.name.val := by
  induction ps with
  | nil => exact Rule.series_of_none (nextParent?_eq_none_of_noComma s.rest_noComma)
  | cons p ps ih =>
    have hread : furtherParent.read (p.text ++ (ps.flatMap FurtherParent.text ++ s.rest)) =
        some (p.name.val, ps.flatMap FurtherParent.text ++ s.rest) :=
      p.nextParent?_text (s.afterParent_head ps)
    rw [List.flatMap_cons, List.append_assoc, Rule.series_of_read hread, ih, List.map_cons]

private theorem extendingAt?_header :
    extendingAt? s.header = some (s.name.val, s.parents.map Subtype.val) := by
  have hparent := Text.run?_append s.parent.property.1 s.parent.property.2
    (s.afterParent_head s.further)
  have hseries := s.series_further s.further
  simp only [extendingAt?, Option.bind_eq_bind, s.nameAt?_header, Option.bind_some, afterName,
    run?_gap s.nameGap.property (extends_isName.head _), Text.after?_append,
    run?_gap s.extendsGap.property (s.parent.property.head _), afterParent, hparent, hseries,
    parents, List.map_cons, List.map_map, Function.comp_def]

theorem name?_text : name? s.text = some s.name.val := by
  rw [text_eq]
  exact HeaderFront.name?_front_append s.nameAt?_header

theorem parents_text : ClassHeader.parents s.text = s.parents.map Subtype.val := by
  rw [text_eq]
  exact HeaderFront.parents_front_append s.extendingAt?_header

/-- However a header is spelled, its name and its parents are read back, each with the suffix. -/
theorem interface_ofSource (suffix : Text) :
    (Outline.ofSource s.text suffix).interface =
      { name := s.name.val ++ suffix
        parents := s.parents.map fun p => p.val ++ suffix } := by
  simp [Outline.ofSource, name?_text, parents_text]

/-- A header on several lines, whose parents are called like its own words. -/
example : ∃ s : SpelledHeader,
    s.text = "<?php\nfinal  class\tAdmin\n  extends class ,\n  extends\n\x7b\x7d\n".toList :=
  ⟨{ opening := "<?php\n".toList
     modifiers := [⟨.final, 1⟩]
     classGap := ⟨"\t".toList, by simp, List.all_eq_true.mp (by decide)⟩
     name := ⟨"Admin".toList, by simp, List.all_eq_true.mp (by decide)⟩
     nameGap := ⟨"\n  ".toList, by simp, List.all_eq_true.mp (by decide)⟩
     extendsGap := ⟨" ".toList, isGap_space⟩
     parent := ⟨"class".toList, class_isName⟩
     further := [⟨" ".toList, "\n  ".toList, ⟨"extends".toList, extends_isName⟩,
       List.all_eq_true.mp (by decide), List.all_eq_true.mp (by decide)⟩]
     rest := "\n\x7b\x7d\n".toList
     opening_noClass := by decide +kernel
     opening_ends := .inr (by decide)
     rest_head := Text.head_cons (by decide) _
     rest_noComma := by decide }, by decide +kernel⟩

end SpelledHeader
end ClassTypings
