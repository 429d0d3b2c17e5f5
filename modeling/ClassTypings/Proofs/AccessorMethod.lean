import ClassTypings.Outline
import ClassTypings.Proofs.Places
/-!
# The shape of accessor methods

What the rule for accessor methods accepts, and the parts of a text in which it accepts nothing.
-/
namespace ClassTypings.AccessorMethod

/-- Whether a method of this name is an accessor. -/
def isAccessor (name : Text) : Bool := hasVerb name || name == toArray

theorem hasVerb_append {verb : Text} (hverb : verb ∈ Accessors.verbs) {name : Text}
    (hname : name ≠ []) : hasVerb (verb ++ name) := by
  unfold hasVerb
  rw [List.any_eq_true]
  refine ⟨verb, hverb, ?_⟩
  simpa using hname

private theorem isAccessor_head {name : Text} (h : isAccessor name) :
    ∃ c r, name = c :: r ∧ c ≠ '$' := by
  simp only [isAccessor, hasVerb, Accessors.verbs, List.any_cons, List.any_nil, Bool.or_false,
    Bool.or_eq_true, beq_iff_eq, Option.any_eq_true] at h
  have hfront : ∀ word : Text, '$' ∉ word → word ≠ [] → ∀ rest,
      ∃ c r, word ++ rest = c :: r ∧ c ≠ '$' := by
    intro word hword hne rest
    cases word with
    | nil => exact absurd rfl hne
    | cons c word =>
      refine ⟨c, word ++ rest, rfl, ?_⟩
      intro hc
      exact hword (by simp [hc])
  rcases h with (⟨r, hr, -⟩ | ⟨r, hr, -⟩ | ⟨r, hr, -⟩) | h
  · rw [Text.after?_eq_some_iff.mp hr]
    exact hfront "get".toList (by decide) (by simp) r
  · rw [Text.after?_eq_some_iff.mp hr]
    exact hfront "has".toList (by decide) (by simp) r
  · rw [Text.after?_eq_some_iff.mp hr]
    exact hfront "is".toList (by decide) (by simp) r
  · rw [h]
    simpa using hfront toArray (by decide) (by decide) []

theorem read?_of_ne {c : Char} (h : c ≠ ' ') (t : Text) : read? (c :: t) = none := by
  have hc : ' ' ≠ c := fun h' => h h'.symm
  simp [read?, Text.after?, hc]

theorem silent_of_noSpace {front : Text} (h : ' ' ∉ front) (rest : Text) :
    Text.Silent read? front rest := by
  apply Text.silent_of_head (p := (· = ' ')) (fun c t hc => read?_of_ne hc t)
  intro c hc hspace
  exact h (hspace ▸ hc)

theorem read?_append {name : Text} (hne : name ≠ [])
    (hname : ∀ c ∈ name, PropertyLine.isNameChar c) (rest : Text) :
    read? (" function ".toList ++ (name ++ '(' :: rest)) =
      if isAccessor name then some (name, rest) else none := by
  have hrun : Text.run? PropertyLine.isNameChar (name ++ '(' :: rest) = some (name, '(' :: rest) :=
    Text.run?_append hne hname (Text.head_cons (by decide) _)
  simp only [read?, Option.bind_eq_bind, Text.after?_append, Option.bind_some, hrun]
  simp [Text.after?, isAccessor]

theorem read?_eq_some_iff {t name rest : Text} :
    read? t = some (name, rest) ↔
      name ≠ [] ∧ (∀ c ∈ name, PropertyLine.isNameChar c) ∧ isAccessor name ∧
        t = " function ".toList ++ (name ++ '(' :: rest) := by
  constructor
  · intro h
    simp only [read?, Option.bind_eq_bind, Option.bind_eq_some_iff, Prod.exists] at h
    obtain ⟨t₁, hword, name', t₂, hrun, t₃, hparen, hname⟩ := h
    obtain rfl := Text.after?_eq_some_iff.mp hword
    obtain ⟨hne, rfl, hchars, -⟩ := Text.run?_eq_some hrun
    obtain rfl := Text.after?_eq_some_iff.mp hparen
    split at hname
    · rename_i haccessor
      obtain ⟨rfl, rfl⟩ : name' = name ∧ t₃ = rest := by simpa using hname
      exact ⟨hne, hchars, haccessor, rfl⟩
    · simp at hname
  · intro h
    obtain ⟨hne, hchars, haccessor, rfl⟩ := h
    rw [read?_append hne hchars, if_pos haccessor]

theorem silent_of_noParen {front : Text} (h : '(' ∉ front) (rest : Text) :
    Text.Silent read? front ('\n' :: rest) := by
  rw [Text.silent_iff]
  intro u v huv _
  cases hread : read? (v ++ '\n' :: rest) with
  | none => rfl
  | some found =>
    obtain ⟨name, r⟩ := found
    obtain ⟨-, hchars, -, htext⟩ := read?_eq_some_iff.mp hread
    have hnewline : '\n' ∉ " function ".toList ++ (name ++ ['(']) := by
      have hname : '\n' ∉ name := fun hmem => absurd (hchars _ hmem) (by decide)
      simp [hname]
    have hafter : Text.after? (" function ".toList ++ (name ++ ['('])) (v ++ '\n' :: rest) =
        some r := by
      rw [htext, Text.after?_eq_some_iff]
      simp
    rw [Text.after?_append_cons hnewline] at hafter
    obtain ⟨w, hw, -⟩ := Option.map_eq_some_iff.mp hafter
    have hv := Text.after?_eq_some_iff.mp hw
    exact absurd (by simp [huv, hv]) h

theorem silent_of_noFunction {front : Text} (h : ¬ "function".toList <:+: front) (rest : Text) :
    Text.Silent read? (' ' :: front) (';' :: rest) := by
  rw [Text.silent_iff]
  intro u v huv _
  have hafter := Text.after?_append_cons (show ';' ∉ " function ".toList by decide) v rest
  cases hword : Text.after? " function ".toList v with
  | none =>
    rw [hword, Option.map_none] at hafter
    simp only [read?, hafter, Option.bind_eq_bind, Option.bind_none]
  | some w =>
    obtain rfl := Text.after?_eq_some_iff.mp hword
    have hword : " function ".toList ++ w = ' ' :: ("function".toList ++ ' ' :: w) := by simp
    rw [hword] at huv
    refine absurd ?_ h
    cases u with
    | nil =>
      obtain ⟨-, rfl⟩ := List.cons.inj huv
      exact ⟨[], ' ' :: w, by simp⟩
    | cons c u =>
      obtain ⟨-, rfl⟩ := List.cons.inj huv
      exact ⟨u ++ [' '], ' ' :: w, by simp⟩

theorem read?_sigil {type : Text} (htype : ' ' ∉ type) (rest : Text) :
    read? (' ' :: (type ++ ' ' :: '$' :: rest)) = none := by
  cases hread : read? (' ' :: (type ++ ' ' :: '$' :: rest)) with
  | none => rfl
  | some found =>
    obtain ⟨name, r⟩ := found
    obtain ⟨-, -, haccessor, htext⟩ := read?_eq_some_iff.mp hread
    obtain ⟨c, name, rfl, hc⟩ := isAccessor_head haccessor
    have hword : ' ' ∉ "function".toList := by decide
    have hsplit : type ++ ' ' :: '$' :: rest =
        "function".toList ++ ' ' :: (c :: name ++ '(' :: r) := by
      simpa using htext
    have hsigil := (Text.append_cons_inj htype hword hsplit).2
    exact absurd (List.cons.inj hsigil).1.symm hc

theorem read?_name {name : Text} (hname : ' ' ∉ name) (rest : Text) :
    read? (' ' :: (name ++ '(' :: rest)) = none := by
  have hparen : '(' ∉ " function ".toList := by decide
  have hafter := Text.after?_append_cons hparen (' ' :: name) rest
  have hnone : Text.after? " function ".toList (' ' :: name) = none := by
    cases hword : Text.after? " function ".toList (' ' :: name) with
    | none => rfl
    | some w =>
      have hsplit := Text.after?_eq_some_iff.mp hword
      rw [show " function ".toList ++ w = ' ' :: ("function".toList ++ ' ' :: w) by simp] at hsplit
      obtain ⟨-, rfl⟩ := List.cons.inj hsplit
      simp at hname
  rw [hnone, Option.map_none, List.cons_append] at hafter
  simp only [read?, hafter, Option.bind_eq_bind, Option.bind_none]

theorem mem_accessors_iff {source m : Text} : m ∈ accessors source ↔ m ∈ rule.readings source :=
  Accessors.mem_ofList

end ClassTypings.AccessorMethod
