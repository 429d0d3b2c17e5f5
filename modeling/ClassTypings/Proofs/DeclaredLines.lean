import ClassTypings.Proofs.Appending
import Mathlib.Data.List.Infix
/-!
# Lines that declare properties

A line with a modifier, a type and a name declares a property, and none that comes behind the first
line of a text is lost. A reading that begins on an earlier line can run over line ends in its type
alone, and it never ends inside such a line.
-/
namespace ClassTypings.PropertyLine

/-- The line declares the property: an indentation, a modifier, a type, a name, perhaps a default,
and a semicolon, with anything behind it. The type has neither a semicolon nor an equals sign. -/
def Declares (text : Text) (p : Property) : Prop :=
  ∃ (indent ending tail : Text) (line : PropertyLine), IsIndent indent ∧ line.WellFormed ∧
    ';' ∉ line.type ∧ '=' ∉ line.type ∧ IsEnding ending ∧
    text = indent ++ (line.core ++ (ending ++ tail)) ∧ p = line.property

/-- The properties that lines declare, in order. Lines that declare none are passed over. -/
inductive DeclaredBy : List Text → List Property → Prop where
  | nil : DeclaredBy [] []
  | line {text : Text} {texts : List Text} {p : Property} {ps : List Property}
      (here : Declares text p) (later : DeclaredBy texts ps) : DeclaredBy (text :: texts) (p :: ps)
  | other {text : Text} {texts : List Text} {ps : List Property}
      (here : ∀ p, ¬ Declares text p) (later : DeclaredBy texts ps) : DeclaredBy (text :: texts) ps

/-- A line by itself, on which each equals sign is followed by a semicolon. -/
structure IsPlainLine (text : Text) : Prop where
  noNewline : '\n' ∉ text
  closed : ∀ u v, text = u ++ '=' :: v → ';' ∈ v

/-- Lines as they stand behind a first one. -/
def below (texts : List Text) : Text := texts.flatMap ('\n' :: ·)

private theorem below_cons (text : Text) (texts : List Text) :
    below (text :: texts) = '\n' :: (text ++ below texts) := rfl

private theorem intercalate_eq_below (text : Text) (texts : List Text) :
    ['\n'].intercalate (text :: texts) = text ++ below texts :=
  Text.intercalate_cons_eq '\n' text texts

private theorem body?_of_declares {text : Text} {p : Property} (h : Declares text p) :
    ∃ line tail, body? text = some (line, tail) ∧ p = line.property := by
  obtain ⟨indent, ending, tail, line, hindent, hline, -, -, hending, rfl, rfl⟩ := h
  exact ⟨line, tail, body?_eq_some_iff.mpr ⟨indent, ending, hindent, hline, hending, rfl⟩, rfl⟩

theorem Declares.unique {text : Text} {p q : Property} (hp : Declares text p)
    (hq : Declares text q) : p = q := by
  obtain ⟨line, tail, hread, rfl⟩ := body?_of_declares hp
  obtain ⟨line', tail', hread', rfl⟩ := body?_of_declares hq
  rw [hread] at hread'
  simp_all

private theorem exists_declaredBy (texts : List Text) : ∃ ps, DeclaredBy texts ps := by
  induction texts with
  | nil => exact ⟨[], .nil⟩
  | cons text texts ih =>
    obtain ⟨ps, hps⟩ := ih
    by_cases h : ∃ p, Declares text p
    · obtain ⟨p, hp⟩ := h
      exact ⟨p :: ps, .line hp hps⟩
    · exact ⟨ps, .other (fun p hp => h ⟨p, hp⟩) hps⟩

theorem DeclaredBy.unique {texts : List Text} {ps qs : List Property} (hp : DeclaredBy texts ps)
    (hq : DeclaredBy texts qs) : qs = ps := by
  induction hp generalizing qs with
  | nil =>
    cases hq
    rfl
  | line here _ ih =>
    cases hq with
    | line here' later => rw [here'.unique here, ih later]
    | other here' _ => exact absurd here (here' _)
  | other here _ ih =>
    cases hq with
    | line here' _ => exact absurd here' (here _)
    | other _ later => exact ih later

private theorem DeclaredBy.of_append {passed texts : List Text} {ps : List Property}
    (hpassed : ∀ text ∈ passed, ∀ p, ¬ Declares text p) (h : DeclaredBy (passed ++ texts) ps) :
    DeclaredBy texts ps := by
  induction passed with
  | nil => exact h
  | cons text passed ih =>
    cases h with
    | line here _ => exact absurd here (hpassed text (by simp) _)
    | other _ later => exact ih (fun t ht => hpassed t (by simp [ht])) later

private theorem exists_equals_of_word {name ending tail word rest : Text}
    (hname : ∀ c ∈ name, isNameChar c) (hending : IsEnding ending) (hspace : ' ' ∉ word)
    (hsemicolon : ';' ∉ word) (h : name ++ (ending ++ tail) = word ++ ' ' :: rest) :
    ∃ more, rest = '=' :: more := by
  have hnameSpace : ' ' ∉ name := fun hmem => absurd (hname _ hmem) (by decide)
  cases hending with
  | plain =>
    obtain ⟨t, rfl, ht⟩ := Text.append_eq_append_cons hsemicolon h.symm
    cases t with
    | nil => simp at ht
    | cons c t =>
      obtain rfl : ' ' = c := (List.cons.inj ht).1
      exact absurd (by simp) hnameSpace
  | default =>
    obtain ⟨-, hrest⟩ := Text.append_cons_inj hnameSpace hspace h
    exact ⟨_, hrest.symm⟩

private theorem not_two_words {name ending tail word next more : Text}
    (hname : ∀ c ∈ name, isNameChar c)
    (hending : IsEnding ending) (hspace : ' ' ∉ word) (hsemicolon : ';' ∉ word) (hne : next ≠ [])
    (hequals : '=' ∉ next) :
    name ++ (ending ++ tail) ≠ word ++ ' ' :: (next ++ more) := by
  intro h
  obtain ⟨rest, hrest⟩ := exists_equals_of_word hname hending hspace hsemicolon h
  cases next with
  | nil => exact hne rfl
  | cons c next =>
    obtain rfl : c = '=' := (List.cons.inj hrest).1
    exact hequals List.mem_cons_self

/-- A line that has its first space in front of a name and an ending declares nothing. The first
space of a line that does is followed by a modifier or by a type, and then by another word. -/
private theorem not_declares_of_firstSpace {u name ending tail : Text} (hu : ' ' ∉ u)
    (hne : name ≠ [])
    (hname : ∀ c ∈ name, isNameChar c) (hending : IsEnding ending) (p : Property) :
    ¬ Declares (u ++ ' ' :: (name ++ (ending ++ tail))) p := by
  intro h
  obtain ⟨indent, ending', tail', line, ⟨spaces, hspaces, hindent⟩, hline, hsemicolon, hequals,
    -, htext, -⟩ := h
  obtain ⟨margin, rfl, hmargin⟩ : ∃ margin, indent = margin ++ spaces ∧ ' ' ∉ margin := by
    rcases hindent with rfl | rfl
    · exact ⟨[], rfl, by simp⟩
    · exact ⟨['\t'], rfl, by decide⟩
  have hmodifier : ∀ c ∈ line.modifier, c ≠ ' ' ∧ c ≠ ';' := by
    intro c hc
    have hlower := hline.modifier_isLower c hc
    constructor <;> rintro rfl <;> exact absurd hlower (by decide)
  have hmodifierSpace : ' ' ∉ line.modifier := fun hmem => (hmodifier _ hmem).1 rfl
  have hmodifierSemicolon : ';' ∉ line.modifier := fun hmem => (hmodifier _ hmem).2 rfl
  cases spaces with
  | nil =>
    have hfirst : u ++ ' ' :: (name ++ (ending ++ tail)) = (margin ++ line.modifier) ++
        ' ' :: (line.type ++ ' ' :: (line.name ++ (ending' ++ tail'))) := by
      simpa [core] using htext
    obtain ⟨-, hrest⟩ := Text.append_cons_inj hu (by simp [hmargin, hmodifierSpace]) hfirst
    have hnameEquals : '=' ∉ line.name := fun hmem =>
      absurd (hline.name_isNameChar '=' hmem) (by decide)
    exact not_two_words hname hending hline.type_noSpace hsemicolon hline.name_ne_nil hnameEquals
      hrest
  | cons c spaces =>
    obtain rfl : c = ' ' := hspaces c (by simp)
    have hfirst : u ++ ' ' :: (name ++ (ending ++ tail)) = margin ++
        ' ' :: (spaces ++ (line.modifier ++ ' ' :: (line.type ++
          ' ' :: (line.name ++ (ending' ++ tail'))))) := by
      simpa [core] using htext
    obtain ⟨-, hrest⟩ := Text.append_cons_inj hu hmargin hfirst
    cases spaces with
    | nil =>
      exact not_two_words hname hending hmodifierSpace hmodifierSemicolon hline.type_ne_nil hequals
        hrest
    | cons d spaces =>
      obtain rfl : d = ' ' := hspaces d (by simp)
      cases name with
      | nil => exact hne rfl
      | cons e name =>
        obtain rfl : e = ' ' := (List.cons.inj hrest).1
        exact absurd (hname ' ' (by simp)) (by decide)

private theorem not_declares_of_noSpace {text : Text} (h : ' ' ∉ text) (p : Property) :
    ¬ Declares text p := by
  intro hdeclares
  obtain ⟨indent, ending, tail, line, -, -, -, -, -, rfl, -⟩ := hdeclares
  exact h (by simp [core])

private theorem exists_tail_of_ending {u v name ending rest : Text} {texts : List Text}
    (hline : IsPlainLine (u ++ v)) (hname : ∀ c ∈ name, isNameChar c) (hending : IsEnding ending)
    (h : v ++ below texts = name ++ (ending ++ rest)) :
    ∃ tail, v = name ++ (ending ++ tail) ∧ rest = tail ++ below texts := by
  have hsplit : v ++ below texts = (name ++ ending) ++ rest := by simpa using h
  rcases List.append_eq_append_iff.mp hsplit with ⟨w, hwhole, hbelow⟩ | ⟨tail, hv, hrest⟩
  · cases w with
    | nil => exact ⟨[], by simpa using hwhole.symm, by simpa using hbelow.symm⟩
    | cons c w =>
      obtain ⟨text, texts, rfl⟩ : ∃ text more, texts = text :: more := by
        cases texts with
        | nil => simp [below] at hbelow
        | cons text texts => exact ⟨text, texts, rfl⟩
      obtain rfl : '\n' = c := (List.cons.inj hbelow).1
      -- the ending would run over the end of the line, behind an equals sign without a semicolon
      have hnewline : '\n' ∉ name := fun hmem => absurd (hname _ hmem) (by decide)
      obtain ⟨x, rfl, hx⟩ := Text.append_eq_append_cons hnewline hwhole
      cases hending with
      | plain =>
        cases x <;> simp at hx
      | @default value _ hfree =>
        match x, hx with
        | [], hx => simp at hx
        | [d], hx => simp at hx
        | d :: e :: x, hx =>
          simp only [List.cons_append, List.cons.injEq] at hx
          obtain ⟨rfl, rfl, hx⟩ := hx
          have hmem := hline.closed (u ++ (name ++ [' '])) x (by simp)
          obtain ⟨a, b, rfl⟩ := List.append_of_mem hmem
          have hvalue : value ++ [';'] = a ++ ';' :: (b ++ '\n' :: w) := by simpa using hx
          obtain ⟨t, -, ht⟩ := Text.append_eq_append_cons hfree hvalue
          cases t <;> simp at ht
  · exact ⟨tail, by simpa using hv, hrest⟩

private theorem first_or_later {text w s : Text} {texts : List Text} {c : Char} (hc : c ≠ '\n')
    (h : text ++ below texts = w ++ c :: s) :
    (∃ v, text = w ++ c :: v ∧ s = v ++ below texts) ∨
      ∃ next more w', texts = next :: more ∧ w = text ++ '\n' :: w' ∧
        next ++ below more = w' ++ c :: s := by
  have hlater : ∀ u, below texts = u ++ c :: s → ∃ next more w', texts = next :: more ∧
      u = '\n' :: w' ∧ next ++ below more = w' ++ c :: s := by
    intro u hu
    cases texts with
    | nil => simp [below] at hu
    | cons next more =>
      rw [below_cons] at hu
      cases u with
      | nil => exact absurd (List.cons.inj hu).1.symm hc
      | cons d u =>
        obtain ⟨rfl, hrest⟩ := List.cons.inj hu
        exact ⟨next, more, u, rfl, rfl, hrest⟩
  rcases List.append_eq_append_iff.mp h with ⟨u, rfl, hu⟩ | ⟨u, htext, hu⟩
  · obtain ⟨next, more, w', htexts, rfl, hrest⟩ := hlater u hu
    exact .inr ⟨next, more, w', htexts, rfl, hrest⟩
  · cases u with
    | nil =>
      obtain ⟨next, more, w', -, hnil, -⟩ := hlater [] hu.symm
      simp at hnil
    | cons d u =>
      obtain ⟨rfl, hs⟩ := List.cons.inj hu
      exact .inl ⟨u, htext, hs⟩

/-- Reading goes on behind the lines `passed`, with `rest`: the end of the last of them, and the
lines that are left. -/
def GoesOn (passed texts : List Text) (rest : Text) : Prop :=
  passed ≠ [] ∧ ∃ tail left, texts = passed ++ left ∧ '\n' ∉ tail ∧ rest = tail ++ below left

theorem GoesOn.cons {passed texts : List Text} {rest : Text} (h : GoesOn passed texts rest)
    (text : Text) : GoesOn (text :: passed) (text :: texts) rest := by
  obtain ⟨-, tail, left, rfl, htail, hrest⟩ := h
  exact ⟨by simp, tail, left, rfl, htail, hrest⟩

private theorem goesOn_of_line {w v name ending rest : Text} {texts : List Text}
    (hline : IsPlainLine (w ++ ' ' :: v)) (hw : ' ' ∉ w) (hne : name ≠ [])
    (hname : ∀ c ∈ name, isNameChar c) (hending : IsEnding ending)
    (h : name ++ (ending ++ rest) = v ++ below texts) :
    ∃ passed, GoesOn passed ((w ++ ' ' :: v) :: texts) rest ∧
      ∀ t ∈ passed, ∀ p, ¬ Declares t p := by
  obtain ⟨tail, rfl, hrest⟩ := exists_tail_of_ending (u := w ++ [' ']) (by simpa using hline)
    hname hending h.symm
  refine ⟨[w ++ ' ' :: (name ++ (ending ++ tail))], ⟨by simp, tail, texts, rfl, ?_, hrest⟩, ?_⟩
  · intro hmem
    exact hline.noNewline (by simp [hmem])
  · intro t ht
    obtain rfl := List.mem_singleton.mp ht
    exact not_declares_of_firstSpace hw hne hname hending

/-- A reading whose type reaches into a line without a space before it ends on a line that declares
nothing, and the lines between declare nothing either. -/
private theorem exists_goesOn_of_type {texts : List Text} {text w name ending rest : Text}
    (hplain : ∀ t ∈ text :: texts, IsPlainLine t) (hw : ' ' ∉ w) (hne : name ≠ [])
    (hname : ∀ c ∈ name, isNameChar c) (hending : IsEnding ending)
    (h : text ++ below texts = w ++ ' ' :: (name ++ (ending ++ rest))) :
    ∃ passed, GoesOn passed (text :: texts) rest ∧ ∀ t ∈ passed, ∀ p, ¬ Declares t p := by
  induction texts generalizing text w with
  | nil =>
    rcases first_or_later (by decide) h with ⟨v, rfl, hv⟩ | ⟨next, more, w', hmore, -⟩
    · exact goesOn_of_line (hplain _ (by simp)) hw hne hname hending hv
    · simp at hmore
  | cons next more ih =>
    rcases first_or_later (by decide) h with ⟨v, rfl, hv⟩ | ⟨next', more', w', hmore, rfl, hrest⟩
    · exact goesOn_of_line (hplain _ (by simp)) hw hne hname hending hv
    · obtain ⟨rfl, rfl⟩ := List.cons.inj hmore
      have hspaces : ' ' ∉ text ∧ ' ' ∉ w' := by simpa using hw
      obtain ⟨passed, hgoesOn, hpassed⟩ :=
        ih (fun t ht => hplain t (by simp [ht])) hspaces.2 hrest
      refine ⟨text :: passed, hgoesOn.cons text, ?_⟩
      intro t ht
      rcases List.mem_cons.mp ht with rfl | ht
      · exact not_declares_of_noSpace hspaces.1
      · exact hpassed t ht

private theorem read?_of_declares {text : Text} {p : Property} (h : Declares text p)
    (texts : List Text) :
    ∃ line tail, read? (below (text :: texts)) = some (line, tail ++ below texts) ∧
      p = line.property ∧ ∀ c ∈ tail, c ∈ text := by
  obtain ⟨line, tail, hbody, hproperty⟩ := body?_of_declares h
  have hread : read? ('\n' :: text ++ below texts) = some (line, tail ++ below texts) :=
    read?_append (t := '\n' :: text) hbody _
  rw [List.cons_append, ← below_cons] at hread
  refine ⟨line, tail, hread, hproperty, ?_⟩
  obtain ⟨indent, ending, -, -, -, rfl⟩ := body?_eq_some_iff.mp hbody
  intro c hc
  simp [hc]

/-- A reading that begins on a line either is what the line declares and ends on it, or passes over
lines that declare nothing. -/
private theorem exists_goesOn_of_read? {texts : List Text} {text rest : Text} {line : PropertyLine}
    (hplain : ∀ t ∈ text :: texts, IsPlainLine t)
    (h : read? (below (text :: texts)) = some (line, rest)) :
    ∃ passed, GoesOn passed (text :: texts) rest ∧
      (passed = [text] ∧ Declares text line.property ∨ ∀ t ∈ passed, ∀ p, ¬ Declares t p) := by
  by_cases hdeclares : ∃ p, Declares text p
  · obtain ⟨p, hp⟩ := hdeclares
    obtain ⟨line', tail, hread, hproperty, hsub⟩ := read?_of_declares hp texts
    rw [h] at hread
    obtain ⟨rfl, rfl⟩ : line = line' ∧ rest = tail ++ below texts := by simpa using hread
    have htail : '\n' ∉ tail := fun hmem =>
      (hplain _ List.mem_cons_self).noNewline (hsub _ hmem)
    exact ⟨[text], ⟨by simp, tail, texts, rfl, htail, rfl⟩, .inl ⟨rfl, hproperty ▸ hp⟩⟩
  · have hnone : ∀ p, ¬ Declares text p := fun p hp => hdeclares ⟨p, hp⟩
    obtain ⟨indent, ending, hindent, hline, hending, htext⟩ := read?_eq_some_iff.mp h
    have hsplit : text ++ below texts = (indent ++ (line.modifier ++ ' ' :: line.type)) ++
        ' ' :: (line.name ++ (ending ++ rest)) := by
      rw [below_cons] at htext
      simpa [core] using (List.cons.inj htext).2
    rcases first_or_later (by decide) hsplit with ⟨v, htext', hv⟩ | ⟨next, more, w, rfl, hw, hrest⟩
    · subst htext'
      have hplainText := hplain _ List.mem_cons_self
      obtain ⟨tail, rfl, hrest⟩ := exists_tail_of_ending
        (u := indent ++ (line.modifier ++ ' ' :: line.type) ++ [' ']) (by simpa using hplainText)
        hline.name_isNameChar hending hv.symm
      refine ⟨[indent ++ (line.modifier ++ ' ' :: line.type) ++
        ' ' :: (line.name ++ (ending ++ tail))], ⟨by simp, tail, texts, rfl, ?_, hrest⟩, .inr ?_⟩
      · intro hmem
        exact hplainText.noNewline (by simp [hmem])
      · intro t ht
        obtain rfl := List.mem_singleton.mp ht
        exact hnone
    · -- the line ends inside the type, for neither the indentation nor the modifier has a newline
      have hlead : '\n' ∉ indent ++ (line.modifier ++ [' ']) := by
        have hmodifier : '\n' ∉ line.modifier := fun hmem =>
          absurd (hline.modifier_isLower _ hmem) (by decide)
        simp [hindent.noNewline, hmodifier]
      have htype : (indent ++ (line.modifier ++ [' '])) ++ line.type = text ++ '\n' :: w := by
        simpa using hw
      obtain ⟨t, -, ht⟩ := Text.append_eq_append_cons hlead htype
      have hspace : ' ' ∉ w := by
        intro hmem
        exact hline.type_noSpace (by simp [ht, hmem])
      obtain ⟨passed, hgoesOn, hpassed⟩ := exists_goesOn_of_type
        (fun t ht => hplain t (by simp [List.mem_cons.mp ht])) hspace hline.name_ne_nil
        hline.name_isNameChar hending hrest
      refine ⟨text :: passed, hgoesOn.cons text, .inr ?_⟩
      intro t ht
      rcases List.mem_cons.mp ht with rfl | ht
      · exact hnone
      · exact hpassed t ht

/-- From the end of a line on, what the lines behind it declare is read. -/
private theorem declaredBy_sublist_readings {texts : List Text} {tail : Text} {ps : List Property}
    (hplain : ∀ t ∈ texts, IsPlainLine t) (htail : '\n' ∉ tail) (h : DeclaredBy texts ps) :
    ps.Sublist ((rule.readings (tail ++ below texts)).map property) := by
  induction hn : texts.length using Nat.strongRecOn generalizing texts tail ps with
  | ind n ih =>
    have hway : rule.readings (tail ++ below texts) = rule.readings (below texts) :=
      (Rule.reads_of_silent (silent_read? htail _)).readings_eq
    rw [hway]
    cases texts with
    | nil =>
      cases h
      exact List.nil_sublist _
    | cons text texts =>
      cases hread : read? (below (text :: texts)) with
      | none =>
        have hnone : ∀ p, ¬ Declares text p := by
          intro p hp
          obtain ⟨line, tail, hfound, -⟩ := read?_of_declares hp texts
          simp [hread] at hfound
        rw [below_cons] at hread ⊢
        rw [Rule.readings_of_none hread]
        cases h with
        | line here _ => exact absurd here (hnone _)
        | other _ later =>
          refine ih texts.length ?_ (fun t ht => hplain t (by simp [ht]))
            (hplain text (by simp)).noNewline later rfl
          rw [← hn]
          simp
      | some found =>
        obtain ⟨line, rest⟩ := found
        obtain ⟨passed, ⟨hne, tail', left, hsplit, htail', rfl⟩, hpassed⟩ :=
          exists_goesOn_of_read? hplain hread
        have hshorter : left.length < n := by
          have := List.length_pos_iff.mpr hne
          rw [← hn, hsplit]
          simp
          omega
        have hleft : ∀ t ∈ left, IsPlainLine t := fun t ht => hplain t (by simp [hsplit, ht])
        rw [Rule.readings_of_read hread, List.map_cons]
        rcases hpassed with ⟨rfl, hdeclares⟩ | hpassed
        · obtain ⟨-, rfl⟩ := List.cons.inj hsplit
          cases h with
          | line here later =>
            rw [here.unique hdeclares]
            exact (ih _ hshorter hleft htail' later rfl).cons_cons _
          | other here _ => exact absurd hdeclares (here _)
        · rw [hsplit] at h
          exact (ih _ hshorter hleft htail' (h.of_append hpassed) rfl).cons _

/-- Of plain lines, each but the first that declares a property has its property read, and these
are read in the order of the lines. -/
theorem declared_properties_are_read (texts : List Text) (plain : ∀ t ∈ texts, IsPlainLine t) :
    ∃ ps, DeclaredBy texts.tail ps ∧ (∀ qs, DeclaredBy texts.tail qs → qs = ps) ∧
      ps.Sublist (properties (['\n'].intercalate texts)) := by
  obtain ⟨ps, hps⟩ := exists_declaredBy texts.tail
  refine ⟨ps, hps, fun qs => hps.unique, ?_⟩
  cases texts with
  | nil =>
    cases hps
    exact List.nil_sublist _
  | cons first texts =>
    rw [intercalate_eq_below]
    exact declaredBy_sublist_readings (fun t ht => plain t (by simp [ht]))
      (plain first (by simp)).noNewline hps

/-- A property with a default behind a line that declares none. -/
theorem id_is_read_behind_untyped :
    (∀ t ∈ ["class A".toList, "\tvar $a;".toList, "\tvar int $id = 7; // one".toList],
      IsPlainLine t) ∧
    Declares "\tvar int $id = 7; // one".toList ⟨"int".toList, "id".toList⟩ ∧
    ∃ ps, DeclaredBy ["\tvar $a;".toList, "\tvar int $id = 7; // one".toList] ps ∧
      ⟨"int".toList, "id".toList⟩ ∈ ps ∧
      ps.Sublist (properties (['\n'].intercalate
        ["class A".toList, "\tvar $a;".toList, "\tvar int $id = 7; // one".toList])) := by
  have hplain : ∀ t ∈ ["class A".toList, "\tvar $a;".toList, "\tvar int $id = 7; // one".toList],
      IsPlainLine t := by
    have hnewline : ∀ t ∈ ["class A".toList, "\tvar $a;".toList,
        "\tvar int $id = 7; // one".toList], '\n' ∉ t := by decide
    have hclosed : ∀ t ∈ ["class A".toList, "\tvar $a;".toList,
        "\tvar int $id = 7; // one".toList], ∀ s ∈ t.tails, s.head? = some '=' → ';' ∈ s := by
      decide
    intro t ht
    refine ⟨hnewline t ht, ?_⟩
    intro u v hsplit
    have hmem := hclosed t ht ('=' :: v) ((List.mem_tails _ _).mpr ⟨u, hsplit.symm⟩) rfl
    simpa using hmem
  have hid : Declares "\tvar int $id = 7; // one".toList ⟨"int".toList, "id".toList⟩ := by
    refine ⟨"\t".toList, " = 7;".toList, " // one".toList, ⟨"var".toList, "int".toList,
      "$id".toList⟩, ⟨[], by simp, .inr rfl⟩, ?_, by decide, by decide, ?_, by decide, by decide⟩
    · exact ⟨by decide, List.all_eq_true.mp (by decide), by decide, by decide, by decide,
        List.all_eq_true.mp (by decide)⟩
    · exact @IsEnding.default " 7".toList (by decide) (by decide)
  obtain ⟨ps, hps, -, hread⟩ := declared_properties_are_read _ hplain
  refine ⟨hplain, hid, ps, hps, ?_, hread⟩
  cases hps with
  | line _ later =>
    cases later with
    | line here _ => simp [here.unique hid]
    | other here _ => exact absurd hid (here _)
  | other _ later =>
    cases later with
    | line here _ => simp [here.unique hid]
    | other here _ => exact absurd hid (here _)

end ClassTypings.PropertyLine
