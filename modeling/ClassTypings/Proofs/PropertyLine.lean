import ClassTypings.Outline
import ClassTypings.Proofs.Places
/-!
# The shape of property lines

What the rule for property lines accepts, and when a property that it reads stands on one line.
-/
namespace ClassTypings.PropertyLine

/-- An indentation: at most one tab, then spaces. -/
def IsIndent (t : Text) : Prop :=
  ∃ spaces, (∀ c ∈ spaces, c = ' ') ∧ (t = spaces ∨ t = '\t' :: spaces)

/-- The end of a property line: a semicolon, perhaps after a default. -/
inductive IsEnding : Text → Prop where
  | plain : IsEnding [';']
  | default {value : Text} (nonempty : value ≠ []) (free : ';' ∉ value) :
      IsEnding (' ' :: '=' :: (value ++ [';']))

/-- The parts of a property line are words of their kinds. -/
structure WellFormed (line : PropertyLine) : Prop where
  modifier_ne_nil : line.modifier ≠ []
  modifier_isLower : ∀ c ∈ line.modifier, c.isLower
  type_ne_nil : line.type ≠ []
  type_noSpace : ' ' ∉ line.type
  name_ne_nil : line.name ≠ []
  name_isNameChar : ∀ c ∈ line.name, isNameChar c

/-- A property line as text, between its indentation and its end. -/
def core (line : PropertyLine) : Text :=
  line.modifier ++ ' ' :: (line.type ++ ' ' :: line.name)

private theorem exists_indent (t : Text) :
    ∃ indent, IsIndent indent ∧ t = indent ++ unindent t := by
  unfold unindent
  split
  · rename_i r
    refine ⟨'\t' :: r.takeWhile (· == ' '), ⟨r.takeWhile (· == ' '), ?_, .inr rfl⟩, ?_⟩
    · intro c hc
      simpa using List.all_eq_true.mp List.all_takeWhile c hc
    · rw [List.cons_append, List.takeWhile_append_dropWhile]
  · refine ⟨t.takeWhile (· == ' '), ⟨t.takeWhile (· == ' '), ?_, .inl rfl⟩, ?_⟩
    · intro c hc
      simpa using List.all_eq_true.mp List.all_takeWhile c hc
    · rw [List.takeWhile_append_dropWhile]

private theorem unindent_append {indent : Text} (h : IsIndent indent) {c : Char} (hspace : c ≠ ' ')
    (htab : c ≠ '\t') (rest : Text) : unindent (indent ++ c :: rest) = c :: rest := by
  have hdrop (spaces : Text) (hs : ∀ d ∈ spaces, d = ' ') :
      (spaces ++ c :: rest).dropWhile (· == ' ') = c :: rest := by
    rw [List.dropWhile_append_of_pos (by simpa using hs)]
    simp [hspace]
  obtain ⟨spaces, hs, hindent | rfl⟩ := h
  · subst indent
    cases spaces with
    | nil =>
      rw [List.nil_append]
      unfold unindent
      split
      · simp_all
      · simp [hspace]
    | cons d spaces =>
      obtain rfl : d = ' ' := hs d (by simp)
      exact hdrop (' ' :: spaces) hs
  · exact hdrop spaces hs

private theorem afterEnd?_eq_some_iff {t rest : Text} :
    afterEnd? t = some rest ↔ ∃ ending, IsEnding ending ∧ t = ending ++ rest := by
  constructor
  · intro h
    unfold afterEnd? at h
    split at h
    · rename_i t
      obtain rfl : t = rest := by simpa using h
      exact ⟨[';'], .plain, rfl⟩
    · simp only [Option.bind_eq_bind, Option.bind_eq_some_iff, Prod.exists] at h
      obtain ⟨value, u, hrun, hafter⟩ := h
      obtain ⟨hne, rfl, hvalue, -⟩ := Text.run?_eq_some hrun
      obtain rfl := Text.after?_eq_some_iff.mp hafter
      refine ⟨_, .default hne ?_, ?_⟩
      · intro hmem
        simpa using hvalue ';' hmem
      · simp
    · simp at h
  · intro h
    obtain ⟨ending, hending, rfl⟩ := h
    cases hending with
    | plain => rfl
    | @default value hne hfree =>
      have hrun : Text.run? (· != ';') (value ++ ';' :: rest) = some (value, ';' :: rest) := by
        apply Text.run?_append hne
        · intro c hc
          have : c ≠ ';' := fun h => hfree (h ▸ hc)
          simpa using this
        · simp
      simp [afterEnd?, hrun, Text.after?]

theorem IsEnding.head {ending : Text} (h : IsEnding ending) (rest : Text) :
    ∀ c, (ending ++ rest).head? = some c → ¬ isNameChar c := by
  cases h with
  | plain => exact Text.head_cons (by decide) _
  | default => exact Text.head_cons (by decide) _

theorem body?_append_type {indent modifier type t : Text} (hindent : IsIndent indent)
    (hmodifierNe : modifier ≠ []) (hmodifier : ∀ c ∈ modifier, c.isLower) (htypeNe : type ≠ [])
    (htype : ' ' ∉ type) (ht : ∀ c, t.head? = some c → c = ' ') :
    body? (indent ++ (modifier ++ ' ' :: (type ++ t))) =
      (do
        let t ← Text.after? [' '] t
        let (name, t) ← Text.run? isNameChar t
        let t ← afterEnd? t
        some (⟨modifier, type, name⟩, t)) := by
  have hunindent : unindent (indent ++ (modifier ++ ' ' :: (type ++ t))) =
      modifier ++ ' ' :: (type ++ t) := by
    cases modifier with
    | nil => exact absurd rfl hmodifierNe
    | cons c modifier =>
      have hc : c.isLower := hmodifier c (by simp)
      have hspace : c ≠ ' ' := by
        intro h
        subst h
        exact absurd hc (by decide)
      have htab : c ≠ '\t' := by
        intro h
        subst h
        exact absurd hc (by decide)
      exact unindent_append hindent hspace htab (modifier ++ ' ' :: (type ++ t))
  have hrunModifier : Text.run? Char.isLower (modifier ++ ' ' :: (type ++ t)) =
      some (modifier, ' ' :: (type ++ t)) :=
    Text.run?_append hmodifierNe hmodifier (Text.head_cons (by decide) _)
  have hrunType : Text.run? (· != ' ') (type ++ t) = some (type, t) := by
    apply Text.run?_append htypeNe
    · intro c hc
      have : c ≠ ' ' := fun h => htype (h ▸ hc)
      simpa using this
    · intro c hc
      simpa using ht c hc
  simp only [body?, hunindent, hrunModifier, hrunType, Text.after?, Option.bind_eq_bind,
    Option.bind_some, if_true]

theorem body?_append {indent : Text} {line : PropertyLine} {t : Text} (hindent : IsIndent indent)
    (hline : line.WellFormed) (ht : ∀ c, t.head? = some c → ¬ isNameChar c) :
    body? (indent ++ (line.core ++ t)) = (afterEnd? t).map fun rest => (line, rest) := by
  have hcore : line.core ++ t = line.modifier ++ ' ' :: (line.type ++ ' ' :: (line.name ++ t)) := by
    simp [core]
  have hrunName := Text.run?_append hline.name_ne_nil hline.name_isNameChar ht
  rw [hcore, body?_append_type hindent hline.modifier_ne_nil hline.modifier_isLower
    hline.type_ne_nil hline.type_noSpace (by simp)]
  simp only [Text.after?, if_true, Option.bind_eq_bind, Option.bind_some, hrunName]
  cases afterEnd? t <;> rfl

theorem body?_eq_some_iff {t rest : Text} {line : PropertyLine} :
    body? t = some (line, rest) ↔
      ∃ indent ending, IsIndent indent ∧ line.WellFormed ∧ IsEnding ending ∧
        t = indent ++ (line.core ++ (ending ++ rest)) := by
  constructor
  · intro h
    simp only [body?, Option.bind_eq_bind, Option.bind_eq_some_iff, Prod.exists, Option.some.injEq,
      Prod.mk.injEq] at h
    obtain ⟨modifier, t₁, hmodifier, t₂, hspace, type, t₃, htype, t₄, hspace', name, t₅, hname,
      t₆, hend, rfl, rfl⟩ := h
    obtain ⟨hmodifierNe, hunindent, hmodifierChars, -⟩ := Text.run?_eq_some hmodifier
    obtain rfl := Text.after?_eq_some_iff.mp hspace
    obtain ⟨htypeNe, rfl, htypeChars, -⟩ := Text.run?_eq_some htype
    obtain rfl := Text.after?_eq_some_iff.mp hspace'
    obtain ⟨hnameNe, rfl, hnameChars, -⟩ := Text.run?_eq_some hname
    obtain ⟨ending, hending, rfl⟩ := afterEnd?_eq_some_iff.mp hend
    obtain ⟨indent, hindent, ht⟩ := exists_indent t
    refine ⟨indent, ending, hindent, ⟨hmodifierNe, hmodifierChars, htypeNe, ?_, hnameNe,
      hnameChars⟩, hending, ?_⟩
    · intro hmem
      simpa using htypeChars ' ' hmem
    · rw [ht, hunindent]
      simp [core]
  · intro h
    obtain ⟨indent, ending, hindent, hline, hending, rfl⟩ := h
    rw [body?_append hindent hline (hending.head rest),
      afterEnd?_eq_some_iff.mpr ⟨ending, hending, rfl⟩]
    rfl

theorem read?_eq_some_iff {t rest : Text} {line : PropertyLine} :
    read? t = some (line, rest) ↔
      ∃ indent ending, IsIndent indent ∧ line.WellFormed ∧ IsEnding ending ∧
        t = '\n' :: (indent ++ (line.core ++ (ending ++ rest))) := by
  constructor
  · intro h
    unfold read? at h
    split at h
    · rename_i t
      obtain ⟨indent, ending, hindent, hline, hending, rfl⟩ := body?_eq_some_iff.mp h
      exact ⟨indent, ending, hindent, hline, hending, rfl⟩
    · simp at h
  · intro h
    obtain ⟨indent, ending, hindent, hline, hending, rfl⟩ := h
    exact body?_eq_some_iff.mpr ⟨indent, ending, hindent, hline, hending, rfl⟩

theorem read?_of_ne {c : Char} (h : c ≠ '\n') (t : Text) : read? (c :: t) = none := by
  unfold read?
  split
  · simp_all
  · rfl

theorem silent_read? {front : Text} (h : '\n' ∉ front) (rest : Text) :
    Text.Silent read? front rest := by
  apply Text.silent_of_head (p := (· = '\n')) (fun c t hc => read?_of_ne hc t)
  intro c hc hnewline
  exact h (hnewline ▸ hc)

theorem read?_suffix {t rest : Text} {line : PropertyLine} (h : read? t = some (line, rest)) :
    rest <:+ t := by
  obtain ⟨indent, ending, -, -, -, rfl⟩ := read?_eq_some_iff.mp h
  exact ⟨'\n' :: (indent ++ (line.core ++ ending)), by simp⟩

theorem mem_properties_iff {source : Text} {p : Property} :
    p ∈ properties source ↔
      ∃ lines t line rest, rule.Reads source lines ('\n' :: t) ∧ body? t = some (line, rest) ∧
        p = line.property := by
  simp only [properties, PropertyLine.lines, List.mem_map, Rule.mem_readings_iff]
  constructor
  · intro h
    obtain ⟨line, ⟨lines, u, rest, hway, hread⟩, rfl⟩ := h
    obtain ⟨indent, ending, hindent, hline, hending, rfl⟩ := read?_eq_some_iff.mp hread
    exact ⟨lines, _, line, rest, hway, hread, rfl⟩
  · intro h
    obtain ⟨lines, t, line, rest, hway, hread, rfl⟩ := h
    exact ⟨line, ⟨lines, '\n' :: t, rest, hway, hread⟩, rfl⟩

/-- A line of the text that comes after a newline and reaches to the next one or to the end. -/
def HasLaterLine (source line : Text) : Prop :=
  '\n' ∉ line ∧ ∃ front rest, source = front ++ '\n' :: (line ++ rest) ∧
    ∀ c, rest.head? = some c → c = '\n'

/-- The property is written on one line of the text: an indentation, a word of small letters, its
type and its name with any number of `$` in front, and then `;` or ` =`. -/
def OnOneLine (source : Text) (p : Property) : Prop :=
  ∃ indent modifier sigils tail, IsIndent indent ∧ modifier ≠ [] ∧ (∀ c ∈ modifier, c.isLower) ∧
    (∀ c ∈ sigils, c = '$') ∧ ([';'] <+: tail ∨ [' ', '='] <+: tail) ∧
    HasLaterLine source (indent ++ (modifier ++ ' ' :: (p.type ++ ' ' :: (sigils ++ (p.name ++
      tail)))))

/-- A line that has no space but the one after its first word is joined with what follows up to the
next space, for a name and the end of a property line stand there. -/
def JoinsLines (t : Text) : Prop :=
  ∃ indent modifier first second name ending rest, IsIndent indent ∧ modifier ≠ [] ∧
    (∀ c ∈ modifier, c.isLower) ∧ ' ' ∉ first ∧ '\n' ∉ first ∧ ' ' ∉ second ∧ name ≠ [] ∧
    (∀ c ∈ name, isNameChar c) ∧ IsEnding ending ∧
    t = indent ++ (modifier ++ ' ' :: (first ++ '\n' :: (second ++ ' ' :: (name ++
      (ending ++ rest)))))

private theorem joinsLines_iff {t : Text} :
    JoinsLines t ↔ ∃ line rest, body? t = some (line, rest) ∧ '\n' ∈ line.type := by
  constructor
  · intro h
    obtain ⟨indent, modifier, first, second, name, ending, rest, hindent, hmodifierNe, hmodifier,
      hfirst, -, hsecond, hnameNe, hname, hending, rfl⟩ := h
    refine ⟨⟨modifier, first ++ '\n' :: second, name⟩, rest, ?_, by simp⟩
    refine body?_eq_some_iff.mpr ⟨indent, ending, hindent, ?_, hending, by simp [core]⟩
    exact ⟨hmodifierNe, hmodifier, by simp, by simp [hfirst, hsecond], hnameNe, hname⟩
  · intro h
    obtain ⟨⟨modifier, type, name⟩, rest, hread, hnewline⟩ := h
    obtain ⟨indent, ending, hindent, hline, hending, rfl⟩ := body?_eq_some_iff.mp hread
    obtain ⟨hmodifierNe, hmodifier, -, htype, hnameNe, hname⟩ := hline
    obtain ⟨first, second, rfl, hfirst⟩ := List.eq_append_cons_of_mem hnewline
    have hspaces : ' ' ∉ first ∧ ' ' ∉ second := by simpa using htype
    exact ⟨indent, modifier, first, second, name, ending, rest, hindent, hmodifierNe, hmodifier,
      hspaces.1, hfirst, hspaces.2, hnameNe, hname, hending, by simp [core]⟩

theorem IsIndent.noNewline {indent : Text} (h : IsIndent indent) : '\n' ∉ indent := by
  obtain ⟨spaces, hs, rfl | rfl⟩ := h
  · intro hmem
    exact absurd (hs _ hmem) (by decide)
  · intro hmem
    rcases List.mem_cons.mp hmem with hmem | hmem
    · exact absurd hmem (by decide)
    · exact absurd (hs _ hmem) (by decide)

/-- Only the type of a property line can hold a newline. -/
theorem core_noNewline {line : PropertyLine} (h : line.WellFormed) (htype : '\n' ∉ line.type) :
    '\n' ∉ line.core := by
  have hmodifier : '\n' ∉ line.modifier := fun hmem =>
    absurd (h.modifier_isLower _ hmem) (by decide)
  have hname : '\n' ∉ line.name := fun hmem => absurd (h.name_isNameChar _ hmem) (by decide)
  simp [core, hmodifier, hname, htype]

private theorem OnOneLine.type_noNewline {source : Text} {p : Property} (h : OnOneLine source p) :
    '\n' ∉ p.type := by
  obtain ⟨indent, modifier, sigils, tail, -, -, -, -, -, hline, -⟩ := h
  intro hmem
  apply hline
  simp [hmem]

private theorem onOneLine_of_body? {source front t rest : Text} {line : PropertyLine}
    (hsource : source = front ++ '\n' :: t) (h : body? t = some (line, rest))
    (htype : '\n' ∉ line.type) : OnOneLine source line.property := by
  obtain ⟨indent, ending, hindent, hline, hending, rfl⟩ := body?_eq_some_iff.mp h
  -- the line goes on behind the name up to the next newline, which may be inside the default
  let tail := (ending ++ rest).takeWhile (· != '\n')
  let after := (ending ++ rest).dropWhile (· != '\n')
  have hsplit : ending ++ rest = tail ++ after := List.takeWhile_append_dropWhile.symm
  have htail : '\n' ∉ tail := by
    intro hmem
    simpa using List.all_eq_true.mp List.all_takeWhile _ hmem
  have hafter : ∀ c, after.head? = some c → c = '\n' := by
    intro c hc
    have := List.head?_dropWhile_not (· != '\n') (ending ++ rest)
    rw [show (ending ++ rest).dropWhile (· != '\n') = after from rfl, hc] at this
    simpa using this
  have hend : [';'] <+: tail ∨ [' ', '='] <+: tail := by
    cases hending with
    | plain =>
      left
      simp [tail]
    | default =>
      right
      simp [tail]
  have hname : line.name = line.name.takeWhile (· == '$') ++ line.property.name :=
    List.takeWhile_append_dropWhile.symm
  have hsigils : ∀ c ∈ line.name.takeWhile (· == '$'), c = '$' := by
    intro c hc
    simpa using List.all_eq_true.mp List.all_takeWhile c hc
  have hcore : line.modifier ++ ' ' :: (line.property.type ++ ' ' ::
      (line.name.takeWhile (· == '$') ++ (line.property.name ++ tail))) = line.core ++ tail := by
    rw [core, ← List.append_assoc (line.name.takeWhile _), ← hname]
    simp [property, Property.declared]
  refine ⟨indent, line.modifier, line.name.takeWhile (· == '$'), tail, hindent,
    hline.modifier_ne_nil, hline.modifier_isLower, hsigils, hend, ?_, front, after, ?_, hafter⟩
  · rw [hcore]
    have := core_noNewline hline htype
    have := hindent.noNewline
    simp [*]
  · rw [hcore, hsource, hsplit]
    simp

/-- A property stands on one line exactly when its type has no newline. All properties of a text do
so exactly when the rule meets no line that it joins with the next ones. -/
theorem properties_onOneLine_iff (source : Text) :
    (∀ p ∈ properties source, OnOneLine source p ↔ '\n' ∉ p.type) ∧
    ((∀ p ∈ properties source, OnOneLine source p) ↔
      ∀ lines t, rule.Reads source lines ('\n' :: t) → ¬ JoinsLines t) := by
  have hone : ∀ p ∈ properties source, '\n' ∉ p.type → OnOneLine source p := by
    intro p hp htype
    obtain ⟨lines, t, line, rest, hway, hread, rfl⟩ := mem_properties_iff.mp hp
    obtain ⟨front, hsource⟩ := hway.suffix read?_suffix
    exact onOneLine_of_body? hsource.symm hread htype
  refine ⟨?_, ?_⟩
  · intro p hp
    exact ⟨OnOneLine.type_noNewline, hone p hp⟩
  · constructor
    · intro hall lines t hway hjoins
      obtain ⟨line, rest, hread, hnewline⟩ := joinsLines_iff.mp hjoins
      have hp := mem_properties_iff.mpr ⟨lines, t, line, rest, hway, hread, rfl⟩
      exact (hall _ hp).type_noNewline hnewline
    · intro hnone p hp
      apply hone p hp
      intro hnewline
      obtain ⟨lines, t, line, rest, hway, hread, rfl⟩ := mem_properties_iff.mp hp
      exact hnone lines t hway (joinsLines_iff.mpr ⟨line, rest, hread, hnewline⟩)

/-- A property without a type takes the text from the name of its class on for its type, when the
line is indented by a tab. -/
theorem not_forall_properties_onOneLine :
    ¬ ∀ source, ∀ p ∈ properties source, OnOneLine source p := by
  intro h
  have hread : properties "<?php\nclass Legacy\n\x7b\n\tprivate $name;\n\x7d\n".toList =
      [⟨"Legacy\n\x7b\n\tprivate".toList, "name".toList⟩] := by decide +kernel
  have hone := h _ ⟨"Legacy\n\x7b\n\tprivate".toList, "name".toList⟩ (by rw [hread]; simp)
  exact hone.type_noNewline (by simp)

end ClassTypings.PropertyLine
