import ClassTypings.Proofs.Access
/-!
# Line ends

A text with a carriage return before each newline is read like the text itself. Every rule goes
through both texts at the same pace: what it takes off the front of the one, it takes off the front
of the other, and at a carriage return nothing begins.
-/
namespace ClassTypings

namespace Text

/-- The text with a carriage return before each newline. -/
def withReturns (t : Text) : Text := t.flatMap fun c => if c = '\n' then ['\r', '\n'] else [c]

@[simp] theorem withReturns_nil : withReturns [] = [] := rfl

@[simp] theorem withReturns_newline (t : Text) :
    withReturns ('\n' :: t) = '\r' :: '\n' :: withReturns t := rfl

private theorem withReturns_cons {c : Char} (h : c ≠ '\n') (t : Text) :
    withReturns (c :: t) = c :: withReturns t := by
  simp [withReturns, h]

private theorem withReturns_of_noNewline {t : Text} (h : '\n' ∉ t) : withReturns t = t := by
  induction t with
  | nil => rfl
  | cons c t ih =>
    rw [List.mem_cons, not_or] at h
    rw [withReturns_cons (Ne.symm h.1), ih h.2]

private theorem withReturns_eq_nil_iff {t : Text} : withReturns t = [] ↔ t = [] := by
  cases t with
  | nil => simp
  | cons c t =>
    by_cases h : c = '\n'
    · simp [h]
    · simp [withReturns_cons h]

section Scan

variable {p : Char → Bool}

private theorem takeWhile_withReturns (hp : p '\r' = p '\n') (t : Text) :
    (withReturns t).takeWhile p = withReturns (t.takeWhile p) := by
  induction t with
  | nil => rfl
  | cons c t ih =>
    by_cases h : c = '\n'
    · subst h
      cases hn : p '\n' <;> simp [hp, hn, ih]
    · rw [withReturns_cons h]
      cases hc : p c <;> simp [hc, ih, withReturns_cons h]

private theorem dropWhile_withReturns (hp : p '\r' = p '\n') (t : Text) :
    (withReturns t).dropWhile p = withReturns (t.dropWhile p) := by
  induction t with
  | nil => rfl
  | cons c t ih =>
    by_cases h : c = '\n'
    · subst h
      cases hn : p '\n' <;> simp [hp, hn, ih]
    · rw [withReturns_cons h]
      cases hc : p c <;> simp [hc, ih, withReturns_cons h]

private theorem run?_withReturns (hp : p '\r' = p '\n') (t : Text) :
    run? p (withReturns t) = (run? p t).map (Prod.map withReturns withReturns) := by
  unfold run?
  rw [takeWhile_withReturns hp, dropWhile_withReturns hp]
  cases hword : t.takeWhile p with
  | nil => rfl
  | cons c word =>
    have hne : withReturns (c :: word) ≠ [] := by simp [withReturns_eq_nil_iff]
    obtain ⟨d, word', hsplit⟩ := List.exists_cons_of_ne_nil hne
    simp [hsplit]

private theorem run?_withReturns_of_not (hreturn : p '\r' = false) (hnewline : p '\n' = false)
    (t : Text) :
    run? p (withReturns t) = (run? p t).map (Prod.map id withReturns) := by
  rw [run?_withReturns (hreturn.trans hnewline.symm)]
  cases hrun : run? p t with
  | none => rfl
  | some found =>
    obtain ⟨word, rest⟩ := found
    have hfree : '\n' ∉ word := fun hmem => by
      simpa [hnewline] using (run?_eq_some hrun).2.2.1 _ hmem
    simp [withReturns_of_noNewline hfree]

end Scan

private theorem after?_withReturns (front : Text) (hreturn : '\r' ∉ front) (hnewline : '\n' ∉ front)
    (t : Text) : after? front (withReturns t) = (after? front t).map withReturns := by
  induction front generalizing t with
  | nil => rfl
  | cons a front ih =>
    rw [List.mem_cons, not_or] at hreturn hnewline
    cases t with
    | nil => rfl
    | cons c t =>
      by_cases h : c = '\n'
      · subst h
        simp [after?, Ne.symm hreturn.1, Ne.symm hnewline.1]
      · rw [withReturns_cons h, after?, after?, ih hreturn.2 hnewline.2]
        split <;> rfl

private theorem firstReading_withReturns {α : Type} {starts : Option Char → Bool}
    {read : Text → Option α} (hread : ∀ t, read (withReturns t) = read t)
    (hnewline : ∀ t, read ('\n' :: t) = none) (before : Option Char) (t : Text) :
    firstReading starts read before (withReturns t) = firstReading starts read before t := by
  induction t generalizing before with
  | nil => rfl
  | cons c t ih =>
    by_cases h : c = '\n'
    · subst h
      have hreturn : read ('\r' :: '\n' :: withReturns t) = none :=
        (hread ('\n' :: t)).trans (hnewline t)
      simp only [withReturns_newline, firstReading, hreturn, hnewline, ite_self, ih]
    · have hhere := hread (c :: t)
      rw [withReturns_cons h] at hhere ⊢
      rw [firstReading, firstReading, hhere, ih]

end Text

namespace Rule

open Text (withReturns withReturns_cons)

variable {α : Type} {rule : Rule α}

/-- The readings of a rule correspond when each one does. A reading may begin with a newline, which
is then read alike behind a carriage return. -/
private theorem readings_withReturns {f : α → α} (hreturn : ∀ t, rule.read ('\r' :: t) = none)
    (hread : ∀ c t, rule.read (c :: withReturns t) =
      (rule.read (c :: t)).map (Prod.map f withReturns)) (t : Text) :
    rule.readings (withReturns t) = (rule.readings t).map f := by
  have hhere : ∀ c t, rule.readings (withReturns (c :: t)) =
      rule.readings (c :: withReturns t) := by
    intro c t
    by_cases h : c = '\n'
    · subst h
      exact readings_of_none (hreturn _)
    · rw [withReturns_cons h]
  fun_induction Rule.readings rule t with
  | case1 => simp [readings]
  | case2 c t a rest here ih =>
    have hfound := hread c t
    rw [here] at hfound
    rw [hhere, readings_of_read hfound, ih, List.map_cons]
  | case3 c t here ih =>
    have hnone := hread c t
    rw [here] at hnone
    rw [hhere, readings_of_none hnone, ih]

private theorem series_withReturns (rule : Rule α)
    (hread : ∀ t, rule.read (withReturns t) = (rule.read t).map (Prod.map id withReturns))
    (t : Text) : rule.series (withReturns t) = rule.series t := by
  fun_induction Rule.series rule t with
  | case1 t a rest here ih =>
    have hfound := hread t
    rw [here] at hfound
    rw [series_of_read hfound, ih]
    rfl
  | case2 t here =>
    have hnone := hread t
    rw [here] at hnone
    exact series_of_none hnone

end Rule

namespace ClassHeader

open Text (withReturns withReturns_cons)

private theorem nameAt?_withReturns (t : Text) :
    nameAt? (withReturns t) = (nameAt? t).map (Prod.map id withReturns) := by
  have hname := Text.run?_withReturns_of_not (p := isNameChar) (by decide) (by decide)
  have hgap := Text.run?_withReturns (p := isBlank) (by decide)
  simp only [nameAt?, Option.bind_eq_bind,
    Text.after?_withReturns "class".toList (by decide) (by decide), Option.bind_map,
    Option.map_bind, Function.comp_def, hgap, Prod.map_snd, hname]

private theorem nameOnLine?_withReturns (t : Text) : nameOnLine?
    (withReturns t) = nameOnLine? t := by
  induction t with
  | nil => rfl
  | cons c t ih =>
    by_cases h : c = '\n'
    · subst h
      have hreturn : isLead '\r' = false := by decide
      have hnewline : isLead '\n' = false := by decide
      simp [nameOnLine?, nameAt?_of_ne, hreturn, hnewline]
    · have hhere := nameAt?_withReturns (c :: t)
      rw [withReturns_cons h] at hhere ⊢
      rw [nameOnLine?, nameOnLine?, hhere, ih]
      cases nameAt? (c :: t) <;> rfl

private theorem name?_withReturns (t : Text) : name? (withReturns t) = name? t := by
  apply Text.firstReading_withReturns nameOnLine?_withReturns
  intro u
  have hnewline : isLead '\n' = false := by decide
  simp [nameOnLine?, nameAt?_of_ne, hnewline]

private theorem nextParent?_withReturns (t : Text) :
    nextParent? (withReturns t) = (nextParent? t).map (Prod.map id withReturns) := by
  have hname := Text.run?_withReturns_of_not (p := isNameChar) (by decide) (by decide)
  have hblanks := Text.dropWhile_withReturns (p := isBlank) (by decide)
  simp only [nextParent?, Option.bind_eq_bind, hblanks,
    Text.after?_withReturns [','] (by decide) (by decide), Option.bind_map,
    Option.map_bind, Function.comp_def, hname]

private theorem extendingAt?_withReturns (t : Text) : extendingAt?
    (withReturns t) = extendingAt? t := by
  have hname := Text.run?_withReturns_of_not (p := isNameChar) (by decide) (by decide)
  have hgap := Text.run?_withReturns (p := isBlank) (by decide)
  simp only [extendingAt?, Option.bind_eq_bind, nameAt?_withReturns,
    Text.after?_withReturns "extends".toList (by decide) (by decide), Option.bind_map,
    Function.comp_def, hgap, Prod.map_fst, Prod.map_snd, hname, id_eq,
    Rule.series_withReturns furtherParent nextParent?_withReturns]

private theorem parents_withReturns (t : Text) : parents (withReturns t) = parents t := by
  have hsearch : extending? (withReturns t) = extending? t :=
    Text.firstReading_withReturns extendingAt?_withReturns
      (fun u => extendingAt?_of_nameAt? (nameAt?_of_ne (by decide) u)) none t
  rw [parents, parents, hsearch]

end ClassHeader

namespace AccessorMethod

open Text (withReturns withReturns_cons)

private theorem read?_withReturns (t : Text) :
    read? (withReturns t) = (read? t).map (Prod.map id withReturns) := by
  have hname := Text.run?_withReturns_of_not (p := PropertyLine.isNameChar) (by decide) (by decide)
  have hif : ∀ (b : Bool) (name u : Text),
      (if b then some (name, withReturns u) else none) =
        (if b then some (name, u) else none).map (Prod.map id withReturns) := by
    intro b name u
    cases b <;> rfl
  simp only [read?, Option.bind_eq_bind,
    Text.after?_withReturns " function ".toList (by decide) (by decide),
    Text.after?_withReturns ['('] (by decide) (by decide), Option.bind_map,
    Option.map_bind, Function.comp_def, hname, Prod.map_fst, Prod.map_snd, id_eq, hif]

private theorem accessors_withReturns (t : Text) : accessors (withReturns t) = accessors t := by
  have hread : ∀ c u, read? (c :: withReturns u) =
      (read? (c :: u)).map (Prod.map id withReturns) := by
    intro c u
    by_cases h : c = ' '
    · subst h
      exact read?_withReturns (' ' :: u)
    · rw [read?_of_ne h, read?_of_ne h]
      rfl
  have hreadings : rule.readings (withReturns t) = (rule.readings t).map id :=
    Rule.readings_withReturns (fun u => read?_of_ne (by decide) u) hread t
  rw [accessors, accessors, hreadings, List.map_id]

end AccessorMethod

namespace PropertyLine

open Text (withReturns withReturns_cons)

/-- The line with a carriage return before each newline of its type. -/
def withReturns (line : PropertyLine) : PropertyLine := { line with type := line.type.withReturns }

private theorem unindent_withReturns (t : Text) : unindent t.withReturns =
    (unindent t).withReturns := by
  have hspaces := Text.dropWhile_withReturns (p := (· == ' ')) (by decide)
  cases t with
  | nil => rfl
  | cons c t =>
    by_cases htab : c = '\t'
    · subst htab
      exact hspaces t
    · have hplain : ∀ u : Text, unindent (c :: u) = (c :: u).dropWhile (· == ' ') := by
        intro u
        unfold unindent
        split <;> simp_all
      by_cases h : c = '\n'
      · subst h
        rfl
      · rw [withReturns_cons h, hplain, hplain, ← withReturns_cons h, hspaces]

private theorem afterEnd?_eq (t : Text) :
    afterEnd? t = (Text.after? [';'] t).or
      ((Text.after? [' ', '='] t).bind fun u =>
        (Text.run? (· != ';') u).bind fun found => Text.after? [';'] found.2) := by
  unfold afterEnd?
  split
  · simp [Text.after?]
  · simp [Text.after?]
  · rename_i hplain hdefault
    cases t with
    | nil => rfl
    | cons c t =>
      have hc : ';' ≠ c := by
        rintro rfl
        exact hplain t rfl
      cases t with
      | nil => simp [Text.after?, hc]
      | cons d t =>
        have hcd : ' ' = c → '=' ≠ d := by
          rintro rfl rfl
          exact hdefault t rfl
        by_cases hspace : ' ' = c
        · simp [Text.after?, hc, hcd hspace]
        · simp [Text.after?, hc, hspace]

private theorem afterEnd?_withReturns (t : Text) :
    afterEnd? t.withReturns = (afterEnd? t).map Text.withReturns := by
  have hend := Text.after?_withReturns [';'] (by decide) (by decide)
  have hvalue := Text.run?_withReturns (p := (· != ';')) (by decide)
  simp only [afterEnd?_eq, hend, Text.after?_withReturns [' ', '='] (by decide)
    (by decide), Option.map_or, Option.bind_map, Option.map_bind, Function.comp_def, hvalue,
    Prod.map_snd]

private theorem body?_withReturns (t : Text) :
    body? t.withReturns = (body? t).map (Prod.map withReturns Text.withReturns) := by
  have hmodifier := Text.run?_withReturns_of_not (p := Char.isLower) (by decide) (by decide)
  have htype := Text.run?_withReturns (p := (· != ' ')) (by decide)
  have hname := Text.run?_withReturns_of_not (p := isNameChar) (by decide) (by decide)
  simp only [body?, Option.bind_eq_bind, unindent_withReturns, hmodifier,
    Text.after?_withReturns [' '] (by decide) (by decide), Option.bind_map,
    Option.map_bind, Function.comp_def, htype, hname, afterEnd?_withReturns, Prod.map_fst,
    Prod.map_snd, id_eq, Option.map_some]
  rfl

private theorem lines_withReturns (t : Text) : lines t.withReturns = (lines t).map withReturns := by
  have hreturn : ∀ u, read? ('\r' :: u) = none := fun u => read?_of_ne (by decide) u
  have hread : ∀ (c : Char) (u : Text), read? (c :: u.withReturns) =
      (read? (c :: u)).map (Prod.map withReturns Text.withReturns) := by
    intro c u
    by_cases h : c = '\n'
    · subst h
      exact body?_withReturns u
    · rw [read?_of_ne h, read?_of_ne h]
      rfl
  exact Rule.readings_withReturns hreturn hread t

private theorem properties_withReturns (t : Text) :
    properties t.withReturns =
      (properties t).map fun p => { p with type := p.type.withReturns } := by
  simp only [properties, lines_withReturns, List.map_map]
  rfl

end PropertyLine

/-- With a carriage return before each newline a text has the same name, parents and accessors, and
the same properties but for the newlines in their types. So it has the same declaration when no type
of a property runs over a line. -/
theorem declarationOf_withReturns (source : Text) :
    ClassHeader.name? source.withReturns = ClassHeader.name? source ∧
    ClassHeader.parents source.withReturns = ClassHeader.parents source ∧
    AccessorMethod.accessors source.withReturns = AccessorMethod.accessors source ∧
    PropertyLine.properties source.withReturns =
      (PropertyLine.properties source).map (fun p => { p with type := p.type.withReturns }) ∧
    ((∀ p ∈ PropertyLine.properties source, '\n' ∉ p.type) →
      ∀ config, declarationOf config source.withReturns = declarationOf config source) := by
  have hname := ClassHeader.name?_withReturns source
  have hparents := ClassHeader.parents_withReturns source
  have haccessors := AccessorMethod.accessors_withReturns source
  have hproperties := PropertyLine.properties_withReturns source
  refine ⟨hname, hparents, haccessors, hproperties, ?_⟩
  intro hlines config
  have hsame : PropertyLine.properties source.withReturns = PropertyLine.properties source := by
    have hkept : ∀ p ∈ PropertyLine.properties source,
        ({ p with type := p.type.withReturns } : Property) = p := by
      intro p hp
      rw [Text.withReturns_of_noNewline (hlines p hp)]
    rw [hproperties, List.map_congr_left hkept, List.map_id']
  have houtline : Outline.ofSource source.withReturns config.suffix =
      Outline.ofSource source config.suffix := by
    simp only [Outline.ofSource, hname, hparents, haccessors, hsame]
  rw [declarationOf, declarationOf, interfaceOf, interfaceOf, houtline]

/-- A class whose header and default run over lines, and whose one type does not. -/
theorem declarationOf_withReturns_user :
    (∀ p ∈ PropertyLine.properties
        "class\nUser extends\nBase\n\tvar int $id =\n7;\n function getId()\n".toList,
      '\n' ∉ p.type) ∧
    declarationOf {}
        "class\r\nUser extends\r\nBase\r\n\tvar int $id =\r\n7;\r\n function getId()\r\n".toList =
      declarationOf {}
        "class\nUser extends\nBase\n\tvar int $id =\n7;\n function getId()\n".toList := by
  have hread : PropertyLine.properties
      "class\nUser extends\nBase\n\tvar int $id =\n7;\n function getId()\n".toList =
        [⟨"int".toList, "id".toList⟩] := by decide +kernel
  have hlines : ∀ p ∈ PropertyLine.properties
      "class\nUser extends\nBase\n\tvar int $id =\n7;\n function getId()\n".toList,
      '\n' ∉ p.type := by
    rw [hread]
    simp
  have hreturns :
      Text.withReturns "class\nUser extends\nBase\n\tvar int $id =\n7;\n function getId()\n".toList =
        "class\r\nUser extends\r\nBase\r\n\tvar int $id =\r\n7;\r\n function getId()\r\n".toList := by
    decide
  refine ⟨hlines, ?_⟩
  rw [← hreturns]
  exact (declarationOf_withReturns _).2.2.2.2 hlines {}

end ClassTypings
