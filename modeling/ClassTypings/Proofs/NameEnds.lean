import ClassTypings.Proofs.ClassHeader
import ClassTypings.Proofs.Members
/-!
# Where names end

The name of a class and the names of its parents are read as far as ASCII letters, digits, `_` and
`-` go. Here they are read with what stands behind them, to tell which names are cut short.
-/
namespace ClassTypings

private theorem Text.firstReading_map {α β : Type} (starts : Option Char → Bool)
    (read : Text → Option α)
    (f : α → β) (before : Option Char) (t : Text) :
    firstReading starts (fun t => (read t).map f) before t =
      (firstReading starts read before t).map f := by
  induction t generalizing before with
  | nil => cases hs : starts before <;> simp [firstReading, hs]
  | cons c t ih =>
    cases hs : starts before with
    | false => simp [firstReading, hs, ih]
    | true =>
      cases hread : read (c :: t) with
      | none => simp [firstReading, hs, hread, ih]
      | some a => simp [firstReading, hs, hread]

namespace Rule

variable {α : Type} {rule : Rule α}

/-- The rule that also answers what stands behind its reading. -/
def withRest (rule : Rule α) : Rule (α × Text) where
  read t := (rule.read t).map fun found => (found, found.2)
  shortens := by
    intro t found rest h
    obtain ⟨⟨a, u⟩, hread, heq⟩ := Option.map_eq_some_iff.mp h
    obtain ⟨rfl, rfl⟩ := Prod.mk.inj heq
    exact rule.shortens hread

private theorem map_series_withRest (t : Text) :
    (rule.withRest.series t).map Prod.fst = rule.series t := by
  fun_induction Rule.series rule t with
  | case1 t a rest here ih =>
    have hread : rule.withRest.read t = some ((a, rest), rest) := by simp [withRest, here]
    rw [series_of_read hread, List.map_cons, ih]
  | case2 t here =>
    have hread : rule.withRest.read t = none := by simp [withRest, here]
    rw [series_of_none hread, List.map_nil]

end Rule

namespace ClassHeader

/-- A name with what stands behind it. -/
abbrev Span := Text × Text

/-- The name in the first header on a line and what stands behind it. -/
def nameSpanOnLine? : Text → Option Span
  | [] => none
  | c :: r =>
    match nameAt? (c :: r) with
    | some span => some span
    | none => if isLead c then nameSpanOnLine? r else none

def nameSpan? (t : Text) : Option Span := Text.firstReading startsLine nameSpanOnLine? none t

/-- The parents in a header at the front of the text, each with what stands behind it. -/
def parentSpansAt? (t : Text) : Option (List Span) := do
  let (_, t) ← nameAt? t
  let (_, t) ← Text.run? isBlank t
  let t ← Text.after? "extends".toList t
  let (_, t) ← Text.run? isBlank t
  let (parent, t) ← Text.run? isNameChar t
  some ((parent, t) :: furtherParent.withRest.series t)

def parentSpans (t : Text) : List Span :=
  (Text.firstReading startsWord parentSpansAt? none t).getD []

/-- The names that are read from a text, each with what stands behind it. -/
def spans (t : Text) : List Span := (nameSpan? t).toList ++ parentSpans t

/-- A character that goes on a name in the source language. -/
def goesOn (c : Char) : Bool := c.isAlphanum || c == '_' || c == '\\' || 128 ≤ c.toNat

/-- The name goes on behind the part that is read. -/
def IsCut (span : Span) : Prop := ∃ c, span.2.head? = some c ∧ goesOn c

/-- The name as it is written in the source language. -/
def written (span : Span) : Text := span.1 ++ span.2.takeWhile goesOn

/-- A name that stands in the text, read as far as its characters go. -/
structure IsSpan (source : Text) (span : Span) : Prop where
  isName : IsName span.1
  suffix : span.1 ++ span.2 <:+ source
  ends : ∀ c, span.2.head? = some c → ¬ isNameChar c

private theorem nameOnLine?_eq (t : Text) : nameOnLine? t = (nameSpanOnLine? t).map Prod.fst := by
  induction t with
  | nil => rfl
  | cons c t ih =>
    rw [nameOnLine?, nameSpanOnLine?]
    cases nameAt? (c :: t) with
    | some span => rfl
    | none =>
      cases isLead c with
      | false => rfl
      | true => exact ih

theorem name?_eq (t : Text) : name? t = (nameSpan? t).map Prod.fst := by
  rw [nameSpan?, ← Text.firstReading_map, name?]
  congr 1
  funext u
  exact nameOnLine?_eq u

private theorem map_extendingAt?_eq (t : Text) :
    (extendingAt? t).map Prod.snd = (parentSpansAt? t).map (·.map Prod.fst) := by
  simp only [extendingAt?, parentSpansAt?, Option.bind_eq_bind, Option.map_bind,
    Function.comp_def, Option.map_some, List.map_cons, Rule.map_series_withRest]

theorem parents_eq (t : Text) : parents t = (parentSpans t).map Prod.fst := by
  have hread : (extending? t).map Prod.snd =
      (Text.firstReading startsWord parentSpansAt? none t).map (·.map Prod.fst) := by
    rw [extending?, ← Text.firstReading_map, ← Text.firstReading_map]
    congr 1
    funext u
    exact map_extendingAt?_eq u
  rw [parents, hread, parentSpans]
  cases Text.firstReading startsWord parentSpansAt? none t <;> rfl

section

variable {source t : Text} {span : Span}

private theorem IsSpan.of_suffix (h : IsSpan t span) (ht : t <:+ source) : IsSpan source span :=
  ⟨h.isName, h.suffix.trans ht, h.ends⟩

private theorem isSpan_of_run? (h : Text.run? isNameChar t = some span) : IsSpan t span := by
  obtain ⟨hne, hsplit, hchars, hends⟩ := Text.run?_eq_some h
  exact ⟨⟨hne, hchars⟩, hsplit ▸ List.suffix_refl _, hends⟩

private theorem isSpan_of_nameAt? (h : nameAt? t = some span) : IsSpan t span := by
  obtain ⟨gap, -, hname, hends, ht⟩ := nameAt?_eq_some_iff.mp h
  refine ⟨hname, ⟨"class".toList ++ gap, ?_⟩, hends⟩
  rw [ht, List.append_assoc]

private theorem isSpan_of_nameSpanOnLine? (h : nameSpanOnLine? t = some span) : IsSpan t span := by
  induction t with
  | nil => simp [nameSpanOnLine?] at h
  | cons c t ih =>
    rw [nameSpanOnLine?] at h
    split at h
    · rename_i hread
      obtain rfl := Option.some.inj h
      exact isSpan_of_nameAt? hread
    · split at h
      · exact (ih h).of_suffix (List.suffix_cons c t)
      · simp at h

private theorem isSpan_of_nextParent? (h : nextParent? t = some span) : IsSpan t span := by
  simp only [nextParent?, Option.bind_eq_bind, Option.bind_eq_some_iff] at h
  obtain ⟨u, hcomma, hrun⟩ := h
  have hu : u <:+ t.dropWhile isBlank := ⟨[','], (Text.after?_eq_some_iff.mp hcomma).symm⟩
  exact (isSpan_of_run? hrun).of_suffix
    ((List.dropWhile_suffix _).trans (hu.trans (List.dropWhile_suffix _)))

private theorem isSpan_of_mem_series (h : span ∈ furtherParent.withRest.series t) :
    IsSpan t span := by
  fun_induction Rule.series furtherParent.withRest t with
  | case1 t found rest here ih =>
    obtain ⟨⟨parent, u⟩, hread, heq⟩ := Option.map_eq_some_iff.mp here
    obtain ⟨rfl, rfl⟩ := Prod.mk.inj heq
    have hspan := isSpan_of_nextParent? hread
    rcases List.mem_cons.mp h with rfl | h
    · exact hspan
    · exact (ih h).of_suffix ((List.suffix_append _ _).trans hspan.suffix)
  | case2 t here => simp at h

private theorem isSpan_of_parentSpansAt? {found : List Span} (h : parentSpansAt? t = some found)
    (hspan : span ∈ found) : IsSpan t span := by
  simp only [parentSpansAt?, Option.bind_eq_bind, Option.bind_eq_some_iff, Prod.exists,
    Option.some.injEq] at h
  obtain ⟨_, t₁, hname, _, t₂, hgap, t₃, hword, _, t₄, hgap', parent, t₅, hparent, rfl⟩ := h
  have h₁ : t₁ <:+ t := (List.suffix_append _ _).trans (isSpan_of_nameAt? hname).suffix
  have h₂ : t₂ <:+ t₁ := ⟨_, (Text.run?_eq_some hgap).2.1.symm⟩
  have h₃ : t₃ <:+ t₂ := ⟨_, (Text.after?_eq_some_iff.mp hword).symm⟩
  have h₄ : t₄ <:+ t₃ := ⟨_, (Text.run?_eq_some hgap').2.1.symm⟩
  have hfirst := (isSpan_of_run? hparent).of_suffix (h₄.trans (h₃.trans (h₂.trans h₁)))
  rcases List.mem_cons.mp hspan with rfl | hspan
  · exact hfirst
  · exact (isSpan_of_mem_series hspan).of_suffix ((List.suffix_append _ _).trans hfirst.suffix)

theorem isSpan_of_mem_spans (h : span ∈ spans source) : IsSpan source span := by
  rcases List.mem_append.mp h with h | h
  · have hread := Option.mem_toList.mp h
    obtain ⟨front, rest, hsource, -, -, hread⟩ := Text.firstReading_eq_some_iff.mp hread
    exact (isSpan_of_nameSpanOnLine? hread).of_suffix (hsource ▸ List.suffix_append _ _)
  · cases hread : Text.firstReading startsWord parentSpansAt? none source with
    | none => simp [parentSpans, hread] at h
    | some found =>
      rw [parentSpans, hread] at h
      obtain ⟨front, rest, hsource, -, -, hread⟩ := Text.firstReading_eq_some_iff.mp hread
      exact (isSpan_of_parentSpansAt? hread h).of_suffix (hsource ▸ List.suffix_append _ _)

private theorem IsSpan.isCut_iff (h : IsSpan source span) :
    IsCut span ↔ ∃ c, span.2.head? = some c ∧ (c = '\\' ∨ 128 ≤ c.toNat) := by
  refine exists_congr fun c => and_congr_right fun hc => ?_
  have hend := h.ends c hc
  simp only [isNameChar, Bool.or_eq_true, not_or] at hend
  simp [goesOn, hend]

private theorem written_eq_iff : span.1 = written span ↔ ¬ IsCut span := by
  rw [written, List.self_eq_append_right]
  cases hrest : span.2 with
  | nil => simp [IsCut, hrest]
  | cons c r => simp [IsCut, hrest, List.takeWhile_cons]

end

/-- A name that is read is cut short when a backslash or a character outside of ASCII stands behind
it. The interface is called and extends what is written exactly when no name is cut short, and none
is in an ASCII text without backslashes. -/
theorem names_whole_iff (source : Text) :
    (name? source = (nameSpan? source).map Prod.fst ∧
      parents source = (parentSpans source).map Prod.fst) ∧
    (∀ span ∈ spans source, IsSpan source span ∧
      (IsCut span ↔ ∃ c, span.2.head? = some c ∧ (c = '\\' ∨ 128 ≤ c.toNat))) ∧
    (∀ config, (interfaceOf config source).name =
          ((nameSpan? source).map (written · ++ config.suffix)).getD [] ∧
        (interfaceOf config source).parents =
          (parentSpans source).map (written · ++ config.suffix) ↔
      ∀ span ∈ spans source, ¬ IsCut span) ∧
    ((∀ c ∈ source, c ≠ '\\' ∧ c.toNat < 128) → ∀ span ∈ spans source, ¬ IsCut span) := by
  have hcut : ∀ span ∈ spans source, IsSpan source span ∧
      (IsCut span ↔ ∃ c, span.2.head? = some c ∧ (c = '\\' ∨ 128 ≤ c.toNat)) := by
    intro span hspan
    exact ⟨isSpan_of_mem_spans hspan, (isSpan_of_mem_spans hspan).isCut_iff⟩
  refine ⟨⟨name?_eq source, parents_eq source⟩, hcut, ?_, ?_⟩
  · intro config
    have hone : ∀ span : Span, span.1 ++ config.suffix = written span ++ config.suffix ↔
        ¬ IsCut span := by
      intro span
      rw [List.append_cancel_right_eq, written_eq_iff]
    have hname : ((nameSpan? source).map (·.1 ++ config.suffix)).getD [] =
          ((nameSpan? source).map (written · ++ config.suffix)).getD [] ↔
        ∀ span ∈ (nameSpan? source).toList, ¬ IsCut span := by
      cases nameSpan? source with
      | none => simp
      | some span => simpa using hone span
    have hparents : (parentSpans source).map (·.1 ++ config.suffix) =
          (parentSpans source).map (written · ++ config.suffix) ↔
        ∀ span ∈ parentSpans source, ¬ IsCut span := by
      rw [List.map_inj_left]
      exact forall₂_congr fun span _ => hone span
    rw [interfaceOf_eq, name?_eq, parents_eq, Option.map_map, List.map_map]
    exact (and_congr hname hparents).trans List.forall_mem_append.symm
  · intro hascii span hspan h
    obtain ⟨hplace, hiff⟩ := hcut span hspan
    obtain ⟨c, hhead, hc⟩ := hiff.mp h
    have hmem : c ∈ source := hplace.suffix.subset
      (List.mem_append_right _ (List.mem_of_mem_head? hhead))
    have := hascii c hmem
    rcases hc with hc | hc
    · exact this.1 hc
    · omega

/-- An accented letter ends the name of a class, and a backslash ends the name of a parent. -/
theorem not_forall_not_isCut :
    (¬ ∀ source, ∀ span ∈ (nameSpan? source).toList, ¬ IsCut span) ∧
      ¬ ∀ source, ∀ span ∈ parentSpans source, ¬ IsCut span := by
  have hname : nameSpan? "<?php\nclass Caf\u00e9 \x7b\x7d\n".toList =
      some ("Caf".toList, "\u00e9 \x7b\x7d\n".toList) := by decide
  have hparents : parentSpans "<?php\nclass Admin extends App\\User \x7b\x7d\n".toList =
      [("App".toList, "\\User \x7b\x7d\n".toList)] := by decide +kernel
  refine ⟨?_, ?_⟩
  · intro h
    refine h _ _ (by rw [hname]; exact List.mem_singleton_self _) ⟨'\u00e9', ?_, ?_⟩
    · decide
    · decide
  · intro h
    refine h _ _ (by rw [hparents]; exact List.mem_singleton_self _) ⟨'\\', ?_, ?_⟩
    · decide
    · decide

end ClassHeader
end ClassTypings
