import ClassTypings.Outline
import ClassTypings.Proofs.Places
/-!
# The shape of class headers

What the rules for the name and for the parents of a class accept, and the two headers that they
read: the name comes from the first line that leads to a header, the parents from the first header
that goes on with `extends`.
-/
namespace ClassTypings.ClassHeader

/-- The blanks between two words of a header. -/
def IsGap (t : Text) : Prop := t ≠ [] ∧ ∀ c ∈ t, isBlank c

def IsName (t : Text) : Prop := t ≠ [] ∧ ∀ c ∈ t, isNameChar c

theorem class_isName : IsName "class".toList := ⟨by simp, List.all_eq_true.mp (by decide)⟩

theorem extends_isName : IsName "extends".toList := ⟨by simp, List.all_eq_true.mp (by decide)⟩

theorem isGap_space : IsGap " ".toList := ⟨by simp, List.all_eq_true.mp (by decide)⟩

theorem isNameChar_of_word {c : Char} (h : c.isAlphanum ∨ c = '_') : isNameChar c := by
  rcases h with h | rfl
  · simp [isNameChar, h]
  · decide

theorem isNameChar_of_isLower {c : Char} (h : c.isLower) : isNameChar c := by
  unfold isNameChar Char.isAlphanum Char.isAlpha
  simp [h]

theorem toNat_of_isNameChar {c : Char} (h : isNameChar c) :
    c.toNat = 45 ∨ (48 ≤ c.toNat ∧ c.toNat ≤ 122) := by
  unfold isNameChar Char.isAlphanum Char.isAlpha Char.isUpper Char.isLower Char.isDigit at h
  simp only [Bool.or_eq_true, Bool.and_eq_true, decide_eq_true_eq, UInt32.le_iff_toNat_le,
    ge_iff_le, beq_iff_eq] at h
  change ((((65 ≤ c.toNat ∧ c.toNat ≤ 90) ∨ (97 ≤ c.toNat ∧ c.toNat ≤ 122)) ∨
    (48 ≤ c.toNat ∧ c.toNat ≤ 57)) ∨ c = '_') ∨ c = '-' at h
  rcases h with (h | rfl) | rfl
  · omega
  · decide
  · decide

theorem toNat_of_isBlank {c : Char} (h : isBlank c) :
    (9 ≤ c.toNat ∧ c.toNat ≤ 13) ∨ c.toNat = 32 ∨ 128 ≤ c.toNat := by
  simp only [isBlank, Bool.or_eq_true, Bool.and_eq_true, decide_eq_true_eq, beq_iff_eq,
    Char.le_def, UInt32.le_iff_toNat_le] at h
  change ((((((((((9 ≤ c.toNat ∧ c.toNat ≤ 13) ∨ c = ' ') ∨ c = '\x85') ∨ c = '\xa0') ∨
    c = '\u1680') ∨ (8192 ≤ c.toNat ∧ c.toNat ≤ 8202)) ∨ c = '\u2028') ∨ c = '\u2029') ∨
    c = '\u202f') ∨ c = '\u205f') ∨ c = '\u3000' at h
  rcases h with (((((((((h | rfl) | rfl) | rfl) | rfl) | h) | rfl) | rfl) | rfl) | rfl) | rfl
  · exact .inl h
  · decide
  · decide
  · decide
  · decide
  · omega
  all_goals decide

theorem not_isBlank_of_isNameChar {c : Char} (h : isNameChar c) : ¬ isBlank c := by
  intro hb
  have := toNat_of_isNameChar h
  have := toNat_of_isBlank hb
  omega

theorem IsName.head {name : Text} (h : IsName name) (rest : Text) :
    ∀ c, (name ++ rest).head? = some c → isNameChar c := by
  obtain ⟨hne, hchars⟩ := h
  cases name with
  | nil => exact absurd rfl hne
  | cons d name =>
    intro c hc
    obtain rfl : d = c := by simpa using hc
    exact hchars d (by simp)

theorem IsGap.head {gap : Text} (h : IsGap gap) (rest : Text) :
    ∀ c, (gap ++ rest).head? = some c → ¬ isNameChar c := by
  obtain ⟨hne, hchars⟩ := h
  cases gap with
  | nil => exact absurd rfl hne
  | cons d gap =>
    intro c hc hname
    obtain rfl : d = c := by simpa using hc
    exact not_isBlank_of_isNameChar hname (hchars d (by simp))

theorem run?_gap {gap rest : Text} (h : IsGap gap) (hr : ∀ c, rest.head? = some c → isNameChar c) :
    Text.run? isBlank (gap ++ rest) = some (gap, rest) :=
  Text.run?_append h.1 h.2 fun c hc => not_isBlank_of_isNameChar (hr c hc)

theorem nameAt?_eq_some_iff {t name rest : Text} :
    nameAt? t = some (name, rest) ↔
      ∃ gap, IsGap gap ∧ IsName name ∧ (∀ c, rest.head? = some c → ¬ isNameChar c) ∧
        t = "class".toList ++ (gap ++ (name ++ rest)) := by
  constructor
  · intro h
    simp only [nameAt?, Option.bind_eq_bind, Option.bind_eq_some_iff, Prod.exists] at h
    obtain ⟨t₁, hword, gap, t₂, hgap, hname⟩ := h
    have hword := Text.after?_eq_some_iff.mp hword
    obtain ⟨hgapNe, rfl, hgapBlank, -⟩ := Text.run?_eq_some hgap
    obtain ⟨hnameNe, rfl, hnameChars, hend⟩ := Text.run?_eq_some hname
    exact ⟨gap, ⟨hgapNe, hgapBlank⟩, ⟨hnameNe, hnameChars⟩, hend, hword⟩
  · intro h
    obtain ⟨gap, hgap, hname, hend, rfl⟩ := h
    simp only [nameAt?, Option.bind_eq_bind, Text.after?_append, Option.bind_some,
      run?_gap hgap (hname.head rest)]
    exact Text.run?_append hname.1 hname.2 hend

theorem nameAt?_of_ne {c : Char} (h : c ≠ 'c') (t : Text) : nameAt? (c :: t) = none := by
  have hc : 'c' ≠ c := fun h' => h h'.symm
  simp [nameAt?, Text.after?, hc]

theorem extendingAt?_of_nameAt? {t : Text} (h : nameAt? t = none) : extendingAt? t = none := by
  simp [extendingAt?, h]

theorem silent_nameAt?_of_noBlank {u t : Text} {d : Char} (hu : ∀ c ∈ u, ¬ isBlank c)
    (hd : d ∉ "class".toList) (ht : ∀ c, ((d :: t).dropWhile isBlank).head? = some c →
      ¬ isNameChar c) : Text.Silent nameAt? u (d :: t) := by
  rw [Text.silent_iff]
  intro front v huv hv
  have hafter := Text.after?_append_cons hd v t
  cases hword : Text.after? "class".toList v with
  | none =>
    rw [hword, Option.map_none] at hafter
    simp only [nameAt?, hafter, Option.bind_eq_bind, Option.bind_none]
  | some w =>
    rw [hword, Option.map_some] at hafter
    obtain rfl := Text.after?_eq_some_iff.mp hword
    have hrun : ∀ gap rest, Text.run? isBlank (w ++ d :: t) = some (gap, rest) →
        Text.run? isNameChar rest = none := by
      intro gap rest hgap
      cases w with
      | nil =>
        have hrest : rest = (d :: t).dropWhile isBlank := by
          simp only [Text.run?, List.nil_append] at hgap
          split at hgap
          · simp at hgap
          · simp_all
        exact Text.run?_eq_none_of_head (hrest ▸ ht)
      | cons c w =>
        have hc : ¬ isBlank c := hu c (by simp [huv])
        rw [Text.run?_eq_none_of_head (by simpa using hc)] at hgap
        simp at hgap
    simp only [nameAt?, hafter, Option.bind_eq_bind, Option.bind_some]
    cases hgap : Text.run? isBlank (w ++ d :: t) with
    | none => rfl
    | some found => exact hrun found.1 found.2 hgap

theorem silent_nameAt?_of_noClass {u : Text} {d : Char} (hu : ¬ "class".toList <:+: u)
    (hd : d ∉ "class".toList) (t : Text) : Text.Silent nameAt? u (d :: t) := by
  rw [Text.silent_iff]
  intro front v huv _
  have hafter := Text.after?_append_cons hd v t
  cases hword : Text.after? "class".toList v with
  | none =>
    rw [hword, Option.map_none] at hafter
    simp only [nameAt?, hafter, Option.bind_eq_bind, Option.bind_none]
  | some w =>
    obtain rfl := Text.after?_eq_some_iff.mp hword
    exact absurd ⟨front, w, by simp [huv]⟩ hu

theorem nextParent?_append {before after name rest : Text} (hbefore : ∀ c ∈ before, isBlank c)
    (hafter : ∀ c ∈ after, isBlank c) (hname : IsName name)
    (hrest : ∀ c, rest.head? = some c → ¬ isNameChar c) :
    nextParent? (before ++ ',' :: (after ++ (name ++ rest))) = some (name, rest) := by
  have hcomma : ¬ isBlank ',' := by decide
  have hfirst : (before ++ ',' :: (after ++ (name ++ rest))).dropWhile isBlank =
      [','] ++ (after ++ (name ++ rest)) := by
    rw [List.dropWhile_append_of_pos hbefore, List.dropWhile_cons_of_neg hcomma]
    rfl
  have hsecond : (after ++ (name ++ rest)).dropWhile isBlank = name ++ rest := by
    rw [List.dropWhile_append_of_pos hafter]
    obtain ⟨c, r, rfl⟩ := List.exists_cons_of_ne_nil hname.1
    have hc := not_isBlank_of_isNameChar (hname.2 c (by simp))
    rw [List.cons_append, List.dropWhile_cons_of_neg hc]
  simp only [nextParent?, hfirst, Text.after?_append, Option.bind_eq_bind, Option.bind_some,
    hsecond, Text.run?_append hname.1 hname.2 hrest]

/-- A header, whatever stands after it. -/
def Header (t : Text) : Prop :=
  ∃ gap name rest, IsGap gap ∧ IsName name ∧ t = "class".toList ++ (gap ++ (name ++ rest))

/-- A header of the class `name` that goes on with `extends` and a parent. -/
def Extending (name t : Text) : Prop :=
  ∃ gap gap' gap'' parent rest, IsGap gap ∧ IsName name ∧ IsGap gap' ∧ IsGap gap'' ∧
    IsName parent ∧ t = "class".toList ++ (gap ++ (name ++ (gap' ++ ("extends".toList ++
      (gap'' ++ (parent ++ rest))))))

theorem Extending.header {name t : Text} (h : Extending name t) : Header t := by
  obtain ⟨gap, gap', gap'', parent, rest, hgap, hname, -, -, -, rfl⟩ := h
  exact ⟨gap, name, _, hgap, hname, rfl⟩

theorem header_of_nameAt? {t name rest : Text} (h : nameAt? t = some (name, rest)) : Header t := by
  obtain ⟨gap, hgap, hname, -, rfl⟩ := nameAt?_eq_some_iff.mp h
  exact ⟨gap, name, rest, hgap, hname, rfl⟩

theorem exists_run?_name {name : Text} (h : IsName name) (rest : Text) :
    ∃ word u, Text.run? isNameChar (name ++ rest) = some (word, u) := by
  obtain ⟨hne, hchars⟩ := h
  cases name with
  | nil => exact absurd rfl hne
  | cons c name =>
    have hc : isNameChar c := hchars c (by simp)
    exact ⟨c :: (name ++ rest).takeWhile isNameChar, (name ++ rest).dropWhile isNameChar,
      by simp [Text.run?, hc]⟩

private theorem extendingAt?_eq_some {t name : Text} {parents : List Text}
    (h : extendingAt? t = some (name, parents)) :
    Extending name t ∧ parents ≠ [] ∧ ∃ rest, nameAt? t = some (name, rest) := by
  simp only [extendingAt?, Option.bind_eq_bind, Option.bind_eq_some_iff, Prod.exists,
    Option.some.injEq, Prod.mk.injEq] at h
  obtain ⟨_, t₁, hheader, gap', t₂, hgap', t₃, hword, gap'', t₄, hgap'', parent, t₅, hparent,
    rfl, rfl⟩ := h
  obtain ⟨gap, hgap, hname, -, rfl⟩ := nameAt?_eq_some_iff.mp hheader
  obtain ⟨hne', rfl, hblank', -⟩ := Text.run?_eq_some hgap'
  obtain rfl := Text.after?_eq_some_iff.mp hword
  obtain ⟨hne'', rfl, hblank'', -⟩ := Text.run?_eq_some hgap''
  obtain ⟨hparentNe, rfl, hparentChars, -⟩ := Text.run?_eq_some hparent
  refine ⟨?_, by simp, _, hheader⟩
  exact ⟨gap, gap', gap'', parent, t₅, hgap, hname, ⟨hne', hblank'⟩, ⟨hne'', hblank''⟩,
    ⟨hparentNe, hparentChars⟩, rfl⟩

private theorem exists_extendingAt?_iff {t name : Text} :
    (∃ parents, extendingAt? t = some (name, parents)) ↔ Extending name t := by
  constructor
  · intro h
    obtain ⟨parents, h⟩ := h
    exact (extendingAt?_eq_some h).1
  · intro h
    obtain ⟨gap, gap', gap'', parent, rest, hgap, hname, hgap', hgap'', hparent, rfl⟩ := h
    have hheader : nameAt? ("class".toList ++ (gap ++ (name ++ (gap' ++ ("extends".toList ++
        (gap'' ++ (parent ++ rest))))))) =
        some (name, gap' ++ ("extends".toList ++ (gap'' ++ (parent ++ rest)))) :=
      nameAt?_eq_some_iff.mpr ⟨gap, hgap, hname, hgap'.head _, rfl⟩
    obtain ⟨word, u, hrun⟩ := exists_run?_name hparent rest
    refine ⟨word :: furtherParent.series u, ?_⟩
    simp only [extendingAt?, Option.bind_eq_bind, hheader, Option.bind_some,
      run?_gap hgap' (extends_isName.head _),
      Text.after?_append, run?_gap hgap'' (hparent.head rest), hrun]

private theorem nameOnLine?_eq_some_iff {t name : Text} :
    nameOnLine? t = some name ↔
      ∃ lead header rest, t = lead ++ header ∧ (∀ c ∈ lead, isLead c) ∧
        Text.Silent nameAt? lead header ∧ nameAt? header = some (name, rest) := by
  constructor
  · intro h
    induction t with
    | nil => simp [nameOnLine?] at h
    | cons c t ih =>
      rw [nameOnLine?] at h
      split at h
      · rename_i name' rest hhere
        obtain rfl : name' = name := by simpa using h
        exact ⟨[], c :: t, rest, rfl, by simp, trivial, hhere⟩
      · rename_i hhere
        split at h
        · rename_i hc
          obtain ⟨lead, header, rest, rfl, hlead, hsilent, hread⟩ := ih h
          exact ⟨c :: lead, header, rest, rfl, by simpa [hc] using hlead, ⟨hhere, hsilent⟩, hread⟩
        · simp at h
  · intro h
    obtain ⟨lead, header, rest, rfl, hlead, hsilent, hread⟩ := h
    induction lead with
    | nil =>
      cases header with
      | nil => simp [nameAt?, Text.after?] at hread
      | cons c header => simp [nameOnLine?, hread]
    | cons c lead ih =>
      have hc : isLead c := hlead c (by simp)
      rw [List.cons_append, nameOnLine?, hsilent.1]
      simp only [hc, if_true]
      exact ih (fun d hd => hlead d (by simp [hd])) hsilent.2

/-- The name of the class is read from `header`, which stands after `front`: only small letters and
spaces lead to it on its line, and no header is read before it on its line or on an earlier one. -/
def NameStands (front header name : Text) : Prop :=
  ∃ start lead rest, front = start ++ lead ∧
    Text.Passed startsLine nameOnLine? none start (lead ++ header) ∧ startsLine start.getLast? ∧
    (∀ c ∈ lead, isLead c) ∧ Text.Silent nameAt? lead header ∧ nameAt? header = some (name, rest)

/-- The parents are read from `header`, which stands after `front` at the start of a word: it is
the header of the class `name`, and no header before it goes on with `extends`. -/
def ParentsStand (front header name : Text) (parents : List Text) : Prop :=
  Text.Passed startsWord extendingAt? none front header ∧ startsWord front.getLast? ∧
    extendingAt? header = some (name, parents)

/-- All headers of the text are one and the same. -/
def HasOneHeader (t : Text) : Prop :=
  ∀ u v u' v', t = u ++ v → t = u' ++ v' → Header v → Header v' → u = u'

theorem NameStands.header {front header name : Text} (h : NameStands front header name) :
    Header header := by
  obtain ⟨start, lead, rest, -, -, -, -, -, hread⟩ := h
  exact header_of_nameAt? hread

theorem ParentsStand.header {front header name : Text} {parents : List Text}
    (h : ParentsStand front header name parents) : Header header :=
  (extendingAt?_eq_some h.2.2).1.header

theorem name?_eq_some_iff {t name : Text} :
    name? t = some name ↔ ∃ front header, t = front ++ header ∧ NameStands front header name := by
  rw [name?, Text.firstReading_eq_some_iff]
  simp only [Option.or_none]
  constructor
  · intro h
    obtain ⟨start, line, rfl, hpassed, hstart, hline⟩ := h
    obtain ⟨lead, header, rest, rfl, hlead, hsilent, hread⟩ := nameOnLine?_eq_some_iff.mp hline
    exact ⟨start ++ lead, header, by rw [List.append_assoc], start, lead, rest, rfl, hpassed,
      hstart, hlead, hsilent, hread⟩
  · intro h
    obtain ⟨front, header, rfl, start, lead, rest, rfl, hpassed, hstart, hlead, hsilent, hread⟩ := h
    refine ⟨start, lead ++ header, by rw [List.append_assoc], hpassed, hstart, ?_⟩
    exact nameOnLine?_eq_some_iff.mpr ⟨lead, header, rest, rfl, hlead, hsilent, hread⟩

private theorem extending?_eq_some_iff {t name : Text} {parents : List Text} :
    extending? t = some (name, parents) ↔
      ∃ front header, t = front ++ header ∧ ParentsStand front header name parents := by
  rw [extending?, Text.firstReading_eq_some_iff]
  simp only [Option.or_none]
  rfl

private theorem exists_parentsStand {t : Text} (h : parents t ≠ []) :
    ∃ front header name, t = front ++ header ∧ ParentsStand front header name (parents t) := by
  cases hread : extending? t with
  | none => simp [parents, hread] at h
  | some found =>
    obtain ⟨name, ps⟩ := found
    have hps : parents t = ps := by simp [parents, hread]
    obtain ⟨front, header, ht, hstand⟩ := extending?_eq_some_iff.mp hread
    exact ⟨front, header, name, ht, hps ▸ hstand⟩

theorem parents_of_parentsStand {t front header name : Text} {ps : List Text}
    (ht : t = front ++ header) (h : ParentsStand front header name ps) : parents t = ps := by
  have hread := extending?_eq_some_iff.mpr ⟨front, header, ht, h⟩
  simp [parents, hread]

private theorem passed_extendingAt?_iff {front header : Text} :
    Text.Passed startsWord extendingAt? none front header ↔
      ∀ u v, front = u ++ v → v ≠ [] → startsWord u.getLast? →
        ∀ k, ¬ Extending k (v ++ header) := by
  constructor
  · intro h u v huv hv hs k hk
    obtain ⟨ps, hread⟩ := exists_extendingAt?_iff.mpr hk
    have hnone := h u v huv hv (by simpa using hs)
    rw [hread] at hnone
    simp at hnone
  · intro h u v huv hv hs
    cases hread : extendingAt? (v ++ header) with
    | none => rfl
    | some found =>
      obtain ⟨k, ps⟩ := found
      exact absurd (extendingAt?_eq_some hread).1 (h u v huv hv (by simpa using hs) k)

private theorem name_of_stands {front front' header name k : Text} {ps : List Text}
    (hname : NameStands front header name) (hparents : ParentsStand front' header k ps) :
    k = name := by
  obtain ⟨start, lead, rest, -, -, -, -, -, hread⟩ := hname
  obtain ⟨-, -, rest', hread'⟩ := extendingAt?_eq_some hparents.2.2
  rw [hread] at hread'
  simp_all

/-- Name and parents belong to one declaration exactly when the header that names the class starts a
word and goes on with `extends`, and no header that does so stands before it. Otherwise the parents
are those of another header. In a text with one header they always belong together. -/
theorem parents_of_named_class {source name : Text} (named : name? source = some name)
    (declared : parents source ≠ []) :
    (∃ front header, source = front ++ header ∧ NameStands front header name) ∧
    (∃ front header k, source = front ++ header ∧ ParentsStand front header k (parents source)) ∧
    ∀ front header, source = front ++ header → NameStands front header name →
      (ParentsStand front header name (parents source) ↔
        startsWord front.getLast? ∧ Extending name header ∧
          ∀ u v, front = u ++ v → v ≠ [] → startsWord u.getLast? →
            ∀ k, ¬ Extending k (v ++ header)) ∧
      (HasOneHeader source → ParentsStand front header name (parents source)) := by
  have hparents := exists_parentsStand declared
  refine ⟨name?_eq_some_iff.mp named, hparents, ?_⟩
  intro front header hsource hname
  refine ⟨?_, ?_⟩
  · constructor
    · intro h
      obtain ⟨hpassed, hstart, hread⟩ := h
      exact ⟨hstart, (extendingAt?_eq_some hread).1, passed_extendingAt?_iff.mp hpassed⟩
    · intro h
      obtain ⟨hstart, hextending, hfirst⟩ := h
      obtain ⟨ps, hread⟩ := exists_extendingAt?_iff.mpr hextending
      have hstand : ParentsStand front header name ps :=
        ⟨passed_extendingAt?_iff.mpr hfirst, hstart, hread⟩
      rwa [parents_of_parentsStand hsource hstand]
  · intro hone
    obtain ⟨front', header', k, hsource', hstand⟩ := hparents
    obtain rfl : front = front' := hone _ _ _ _ hsource hsource' hname.header hstand.header
    obtain rfl : header = header' := List.append_cancel_left (hsource.symm.trans hsource')
    obtain rfl := name_of_stands hname hstand
    exact hstand

/-- A class with a parent, under the opening of its file. -/
theorem admin_and_user_together :
    name? "<?php\nclass Admin extends User\n".toList = some "Admin".toList ∧
    parents "<?php\nclass Admin extends User\n".toList = ["User".toList] ∧
    ParentsStand "<?php\n".toList "class Admin extends User\n".toList "Admin".toList
      ["User".toList] := by
  have named : name? "<?php\nclass Admin extends User\n".toList = some "Admin".toList := by decide
  have hparents : parents "<?php\nclass Admin extends User\n".toList = ["User".toList] := by
    decide +kernel
  have hsilent : Text.Silent extendingAt? "<?php\n".toList "class Admin extends User\n".toList := by
    simp [extendingAt?, nameAt?, Text.after?]
  have hstand : NameStands "<?php\n".toList "class Admin extends User\n".toList "Admin".toList := by
    refine ⟨"<?php\n".toList, [], " extends User\n".toList, rfl, ?_, by decide, by simp, trivial,
      by decide⟩
    apply Text.Silent.passed
    simp [nameOnLine?, nameAt?, Text.after?, isLead]
  refine ⟨named, hparents, ?_⟩
  have hboth := (parents_of_named_class named (by rw [hparents]; simp)).2.2 _ _ rfl hstand
  rw [← hparents]
  refine hboth.1.mpr ⟨by decide, ?_, passed_extendingAt?_iff.mp (hsilent.passed _ _)⟩
  exact exists_extendingAt?_iff.mp ⟨["User".toList], by decide +kernel⟩

/-- The parents in a remark above the class are taken for its own. -/
theorem not_forall_name_and_parents_together :
    ¬ ∀ source name, name? source = some name → parents source ≠ [] →
      ∃ front header, source = front ++ header ∧ NameStands front header name ∧
        ParentsStand front header name (parents source) := by
  intro h
  have hname : name? "<?php\n// class Guest extends Person\nclass Admin extends User\n".toList =
      some "Admin".toList := by decide
  have hfound :
      extending? "<?php\n// class Guest extends Person\nclass Admin extends User\n".toList =
        some ("Guest".toList, ["Person".toList]) := by decide +kernel
  obtain ⟨front, header, hsource, -, hstand⟩ := h _ _ hname (by rw [parents, hfound]; simp)
  have hread := extending?_eq_some_iff.mpr ⟨front, header, hsource, hstand⟩
  rw [hfound] at hread
  simp at hread

end ClassTypings.ClassHeader
