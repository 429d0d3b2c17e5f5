import ClassTypings.Proofs.Access
/-!
# Where accessors are declared

A method counts as an accessor when its declaration stands behind a space. Behind another character
and at the start of the text, it adds nothing to what is declared before it and behind it.
-/
namespace ClassTypings.AccessorMethod

/-- The declaration of a method from the word `function` on. -/
def opening (name : Text) : Text := "function ".toList ++ (name ++ ['('])

/-- A declaration stands in the text behind a character, `none` being the start of the text. -/
def StandsBehind (source name : Text) (before : Option Char) : Prop :=
  ∃ front back, source = front ++ (opening name ++ back) ∧ front.getLast? = before

private theorem declaration_eq (name : Text) : declaration name = ' ' :: opening name := by
  unfold declaration opening
  simp

private theorem opening_append (name back : Text) :
    opening name ++ back = "function".toList ++ ' ' :: (name ++ '(' :: back) := by
  unfold opening
  simp

private theorem declaration_infix_iff {source name : Text} :
    declaration name <:+: source ↔ StandsBehind source name (some ' ') := by
  rw [declaration_eq]
  constructor
  · intro h
    obtain ⟨u, v, rfl⟩ := h
    exact ⟨u ++ [' '], v, by simp, List.getLast?_concat⟩
  · intro h
    obtain ⟨front, back, rfl, hlast⟩ := h
    obtain ⟨u, rfl⟩ := List.getLast?_eq_some_iff.mp hlast
    exact ⟨u, back, by simp⟩

section

variable {front back name k : Text}

theorem silent_opening (hname : IsAccessorName name) (back : Text) :
    Text.Silent read? (opening name) back := by
  have hread : read? (' ' :: (opening name ++ back)) = some (name, back) :=
    read?_declaration hname back
  obtain ⟨inner, hsplit, hsilent⟩ := rule_apart hread
  rwa [List.append_cancel_right hsplit]

private theorem infix_of_infix_opening_append (hname : IsAccessorName name) (hk : IsAccessorName k)
    (h : declaration k <:+: opening name ++ back) : declaration k <:+: back := by
  obtain ⟨u, v, huv⟩ := h
  rw [List.append_assoc] at huv
  rcases List.append_eq_append_iff.mp huv with ⟨t, hopening, hrest⟩ | ⟨t, -, hback⟩
  · by_cases ht : t = []
    · subst ht
      exact ⟨[], v, by simpa using hrest⟩
    · have hnone := Text.silent_iff.mp (silent_opening hname back) u t hopening ht
      rw [← hrest, read?_declaration hk v] at hnone
      simp at hnone
  · exact ⟨t, v, by rw [hback, List.append_assoc]⟩

/-- A declaration that begins before the word `function` of another one ends before it, unless the
two begin together. -/
private theorem not_straddles {t s v : Text} (hk : IsAccessorName k)
    (hsplit : declaration k = t ++ s) (ht : t ≠ []) (hs : s ≠ []) (hlast : t.getLast? ≠ some ' ')
    (hrest : s ++ v = opening name ++ back) : False := by
  have hfree : 'f' ∉ "unction ".toList := by decide
  obtain ⟨c, t, rfl⟩ := List.exists_cons_of_ne_nil ht
  obtain ⟨e, s, rfl⟩ := List.exists_cons_of_ne_nil hs
  rw [opening_append] at hrest
  obtain rfl : e = 'f' := (List.cons.inj hrest).1
  have hword : declaration k = ' ' :: 'f' :: ("unction ".toList ++ (k ++ ['('])) := by
    unfold declaration
    simp
  rw [hword] at hsplit
  obtain ⟨rfl, htail⟩ := List.cons.inj hsplit
  cases t with
  | nil => exact hlast rfl
  | cons d t =>
    obtain ⟨r, -, hname⟩ := Text.append_eq_append_cons hfree (List.cons.inj htail).2
    have hspace : ' ' ∉ 'f' :: s := by
      intro hmem
      have hmem' : ' ' ∈ k ++ ['('] := hname ▸ List.mem_append_right r hmem
      rcases List.mem_append.mp hmem' with hmem' | hmem'
      · exact absurd (hk.chars _ hmem') (by decide)
      · exact absurd hmem' (by decide)
    have hparen : '(' ∈ 'f' :: s := by
      have hend : (r ++ 'f' :: s).getLast? = some '(' := by
        rw [← hname]
        exact List.getLast?_concat
      rw [List.getLast?_append_of_ne_nil _ (by simp)] at hend
      exact List.mem_of_getLast? hend
    -- without a space in it, the rest of the declaration is a part of the word `function`
    obtain ⟨w, hpart, -⟩ := Text.append_eq_append_cons hspace hrest
    exact absurd (hpart ▸ List.mem_append_left w hparen) (by decide)

private theorem infix_append_opening_iff (hname : IsAccessorName name) (hk : IsAccessorName k)
    (hfront : front.getLast? ≠ some ' ') :
    declaration k <:+: front ++ (opening name ++ back) ↔
      declaration k <:+: front ∨ declaration k <:+: back := by
  constructor
  · intro h
    obtain ⟨u, v, huv⟩ := h
    rw [List.append_assoc] at huv
    rcases List.append_eq_append_iff.mp huv with ⟨t, rfl, hrest⟩ | ⟨t, -, hrest⟩
    · rcases List.append_eq_append_iff.mp hrest with ⟨s, rfl, -⟩ | ⟨s, hsplit, hrest⟩
      · exact .inl ⟨u, s, by rw [List.append_assoc]⟩
      · by_cases ht : t = []
        · subst ht
          rw [List.nil_append] at hsplit
          rw [List.nil_append] at hrest
          exact .inr (infix_of_infix_opening_append hname hk ⟨[], v, hrest⟩)
        · by_cases hs : s = []
          · subst hs
            rw [List.append_nil] at hsplit
            exact .inl ⟨u, [], by rw [hsplit, List.append_nil]⟩
          · rw [List.getLast?_append_of_ne_nil _ ht] at hfront
            exact (not_straddles hk hsplit ht hs hfront hrest.symm).elim
    · refine .inr (infix_of_infix_opening_append hname hk ⟨t, v, ?_⟩)
      rw [hrest, List.append_assoc]
  · intro h
    rcases h with h | h
    · exact h.trans (List.prefix_append _ _).isInfix
    · exact h.trans ((List.suffix_append _ _).trans (List.suffix_append _ _)).isInfix

end

private theorem mem_accessors_append_opening_iff {front back name : Text}
    (hname : IsAccessorName name)
    (hfront : front.getLast? ≠ some ' ') (k : Text) :
    k ∈ accessors (front ++ (opening name ++ back)) ↔ k ∈ accessors front ∨ k ∈ accessors back := by
  simp only [mem_accessors_iff_declaration, ← and_or_left]
  exact and_congr_right fun hk => infix_append_opening_iff hname hk hfront

/-- The text declares an accessor at its start or behind a blank. Its name is of letters, digits and
underscores. -/
def DeclaredBehindBlank (source name : Text) : Prop :=
  IsAccessorName name ∧ (∀ c ∈ name, c.isAlphanum ∨ c = '_') ∧
    ∃ before, (∀ c, before = some c → isBlank c) ∧ StandsBehind source name before

/-- A declaration counts behind a space; elsewhere the accessors are those that are declared before
it and behind it. So all that are declared behind blanks count exactly when each of them stands
behind a space as well, and only a declaration behind a space keeps a property. -/
theorem accessors_complete_iff (source : Text) :
    (∀ front name back, IsAccessorName name → source = front ++ (opening name ++ back) →
      if front.getLast? = some ' ' then name ∈ accessors source
      else ∀ k, k ∈ accessors source ↔ k ∈ accessors front ∨ k ∈ accessors back) ∧
    ((∀ name, DeclaredBehindBlank source name → name ∈ accessors source) ↔
      ∀ name, DeclaredBehindBlank source name → StandsBehind source name (some ' ')) ∧
    ∀ p ∈ PropertyLine.properties source, (accessors source).giveAccessTo p ↔
      p.name ≠ [] ∧ ∃ verb ∈ ["get".toList, "has".toList, "is".toList],
        StandsBehind source (verb ++ p.name.modifyHead Char.toUpper) (some ' ') := by
  have hcounts : ∀ name, IsAccessorName name →
      (name ∈ accessors source ↔ StandsBehind source name (some ' ')) := by
    intro name hname
    rw [mem_accessors_iff_declaration, declaration_infix_iff]
    exact and_iff_right hname
  refine ⟨?_, ?_, ?_⟩
  · intro front name back hname hsource
    split
    · rename_i hlast
      exact (hcounts name hname).mpr ⟨front, back, hsource, hlast⟩
    · rename_i hlast
      rw [hsource]
      exact mem_accessors_append_opening_iff hname hlast
  · constructor
    · intro h name hname
      exact (hcounts name hname.1).mp (h name hname)
    · intro h name hname
      exact (hcounts name hname.1).mpr (h name hname)
  · intro p hp
    simp only [giveAccessTo_iff_hasAccessor hp, HasAccessor, declaration_infix_iff]

/-- A getter behind a tab is lost. The method below it, behind a space, is not. -/
theorem accessors_of_tabbed_getter :
    IsAccessorName "getId".toList ∧
      "getId".toList ∉ accessors "\n\tfunction getId() {}\n function isNew() {}".toList ∧
      "isNew".toList ∈ accessors "\n\tfunction getId() {}\n function isNew() {}".toList := by
  have hname : IsAccessorName "getId".toList :=
    .inr ⟨"get".toList, by simp, "Id".toList, by simp, List.all_eq_true.mp (by decide), rfl⟩
  have hgap := (accessors_complete_iff "\n\tfunction getId() {}\n function isNew() {}".toList).1
    "\n\t".toList "getId".toList ") {}\n function isNew() {}".toList hname (by decide)
  rw [if_neg (by decide)] at hgap
  refine ⟨hname, ?_, ?_⟩
  · rw [hgap]
    decide +kernel
  · rw [hgap]
    decide +kernel

/-- A class that is indented by tabs. Its getter has no modifier. -/
def tabbedSource : Text :=
  "<?php\nclass Point\n\x7b\n\tprivate int $x;\n\tfunction getX() \x7b\x7d\n\x7d\n".toList

theorem not_forall_declaredBehindBlank_mem :
    ¬ ∀ source name, DeclaredBehindBlank source name → name ∈ accessors source := by
  intro h
  have hlost : "getX".toList ∉ accessors tabbedSource := by decide +kernel
  refine hlost (h _ "getX".toList ⟨?_, ?_, some '\t', ?_, ?_⟩)
  · exact .inr ⟨"get".toList, by simp, "X".toList, by simp, List.all_eq_true.mp (by decide), rfl⟩
  · simp
  · intro c hc
    obtain rfl : '\t' = c := Option.some.inj hc
    decide
  · exact ⟨"<?php\nclass Point\n\x7b\n\tprivate int $x;\n\t".toList,
      ") \x7b\x7d\n\x7d\n".toList, by decide, by decide⟩

end ClassTypings.AccessorMethod
