import ClassTypings.Text.Basic
import Mathlib.Data.List.Basic
/-!
# Places of a text

A rule is tried at one place of a text after another. Here stand the places at which nothing is
read, the place of the first reading, and the way of a rule through a text.
-/
namespace ClassTypings
namespace Text

variable {α : Type}

theorem head_cons {p : Char → Bool} {c : Char} (hc : ¬ p c) (t : Text) :
    ∀ d, (c :: t).head? = some d → ¬ p d := by
  intro d hd
  obtain rfl : c = d := by simpa using hd
  exact hc

theorem run?_append {p : Char → Bool} {word rest : Text} (hne : word ≠ [])
    (hw : ∀ c ∈ word, p c) (hr : ∀ c, rest.head? = some c → ¬ p c) :
    run? p (word ++ rest) = some (word, rest) := by
  have hrest : rest.takeWhile p = [] ∧ rest.dropWhile p = rest := by
    cases rest with
    | nil => simp
    | cons c r =>
      have hc := hr c rfl
      simp [hc]
  have htake : (word ++ rest).takeWhile p = word := by
    rw [List.takeWhile_append_of_pos hw, hrest.1, List.append_nil]
  have hdrop : (word ++ rest).dropWhile p = rest := by
    rw [List.dropWhile_append_of_pos hw, hrest.2]
  unfold run?
  rw [htake, hdrop]
  cases word with
  | nil => exact absurd rfl hne
  | cons c r => rfl

theorem run?_eq_none_of_head {p : Char → Bool} {t : Text} (h : ∀ c, t.head? = some c → ¬ p c) :
    run? p t = none := by
  cases t with
  | nil => rfl
  | cons c r =>
    have hc := h c rfl
    simp [run?, hc]

@[simp] theorem after?_append (front rest : Text) : after? front (front ++ rest) = some rest :=
  after?_eq_some_iff.mpr rfl

theorem after?_append_cons {front : Text} {c : Char} (hc : c ∉ front) (t rest : Text) :
    after? front (t ++ c :: rest) = (after? front t).map (· ++ c :: rest) := by
  induction front generalizing t with
  | nil => simp [after?]
  | cons a front ih =>
    have hac : a ≠ c := fun h => hc (by simp [h])
    have hf : c ∉ front := fun h => hc (by simp [h])
    cases t with
    | nil => simp [after?, hac]
    | cons d t =>
      by_cases had : a = d
      · simp [after?, had, ih hf]
      · simp [after?, had]

theorem append_eq_append_cons {c : Char} {u v w z : Text} (hu : c ∉ u)
    (h : u ++ v = w ++ c :: z) : ∃ t, w = u ++ t ∧ v = t ++ c :: z := by
  rcases List.append_eq_append_iff.mp h with ⟨t, hw, hv⟩ | ⟨t, hu', hz⟩
  · exact ⟨t, hw, hv⟩
  · cases t with
    | nil => exact ⟨[], by simpa using hu'.symm, hz.symm⟩
    | cons d t =>
      obtain rfl : c = d := (List.cons.inj hz).1
      exact absurd (by simp [hu']) hu

theorem append_cons_inj {c : Char} {u v r s : Text} (hu : c ∉ u) (hv : c ∉ v)
    (h : u ++ c :: r = v ++ c :: s) : u = v ∧ r = s := by
  obtain ⟨t, rfl, ht⟩ := append_eq_append_cons hu h
  cases t with
  | nil => exact ⟨by simp, (List.cons.inj ht).2⟩
  | cons d t =>
    obtain rfl : c = d := (List.cons.inj ht).1
    exact absurd (by simp) hv

theorem intercalate_cons (separator t : Text) (ts : List Text) :
    separator.intercalate (t :: ts) = t ++ ts.flatMap (separator ++ ·) := by
  induction ts generalizing t with
  | nil => simp
  | cons next ts ih => simp [List.intercalate_cons_cons, ih]

theorem intercalate_cons_eq (c : Char) (t : Text) (ts : List Text) :
    [c].intercalate (t :: ts) = t ++ ts.flatMap (c :: ·) := intercalate_cons [c] t ts

/-- Nothing is read at any place of `front` when `rest` follows it. -/
def Silent (read : Text → Option α) : Text → Text → Prop
  | [], _ => True
  | c :: front, rest => read (c :: (front ++ rest)) = none ∧ Silent read front rest

@[simp] theorem silent_nil (read : Text → Option α) (rest : Text) : Silent read [] rest := trivial

@[simp] theorem silent_cons {read : Text → Option α} {c : Char} {front rest : Text} :
    Silent read (c :: front) rest ↔ read (c :: (front ++ rest)) = none ∧ Silent read front rest :=
  Iff.rfl

theorem silent_append {read : Text → Option α} {u v rest : Text} :
    Silent read (u ++ v) rest ↔ Silent read u (v ++ rest) ∧ Silent read v rest := by
  induction u with
  | nil => simp
  | cons c u ih => simp [ih, and_assoc]

theorem silent_flatMap {β : Type} {read : Text → Option α} {f : β → Text} {xs : List β}
    (h : ∀ x ∈ xs, ∀ rest, Silent read (f x) rest) (rest : Text) :
    Silent read (xs.flatMap f) rest := by
  induction xs with
  | nil => simp
  | cons x xs ih =>
    rw [List.flatMap_cons, silent_append]
    refine ⟨h x (by simp) _, ih ?_⟩
    intro y hy
    exact h y (by simp [hy])

theorem silent_iff {read : Text → Option α} {front rest : Text} :
    Silent read front rest ↔ ∀ u v, front = u ++ v → v ≠ [] → read (v ++ rest) = none := by
  induction front with
  | nil =>
    constructor
    · intro _ u v h hv
      exact absurd (List.append_eq_nil_iff.mp h.symm).2 hv
    · intro _
      trivial
  | cons c front ih =>
    rw [silent_cons, ih]
    constructor
    · intro h u v huv hv
      obtain ⟨hhere, hlater⟩ := h
      cases u with
      | nil =>
        obtain rfl : c :: front = v := huv
        exact hhere
      | cons d u =>
        obtain ⟨-, rfl⟩ := List.cons.inj huv
        exact hlater u v rfl hv
    · intro h
      refine ⟨h [] (c :: front) rfl (by simp), ?_⟩
      intro u v huv hv
      exact h (c :: u) v (by simp [huv]) hv

theorem silent_of_head {read : Text → Option α} {p : Char → Prop}
    (hread : ∀ c t, ¬ p c → read (c :: t) = none) {front : Text} (h : ∀ c ∈ front, ¬ p c)
    (rest : Text) : Silent read front rest := by
  induction front with
  | nil => trivial
  | cons c front ih =>
    refine ⟨hread c _ (h c (by simp)), ih ?_⟩
    intro d hd
    exact h d (by simp [hd])

theorem Silent.imp {β : Type} {read : Text → Option α} {read' : Text → Option β}
    (himp : ∀ t, read t = none → read' t = none) {front rest : Text} (h : Silent read front rest) :
    Silent read' front rest := by
  induction front with
  | nil => trivial
  | cons c front ih => exact ⟨himp _ h.1, ih h.2⟩

/-- No place of `front` that counts is read when `rest` follows it. The character before `front` is
`before`. -/
def Passed (starts : Option Char → Bool) (read : Text → Option α) (before : Option Char)
    (front rest : Text) : Prop :=
  ∀ u v, front = u ++ v → v ≠ [] → starts (u.getLast?.or before) → read (v ++ rest) = none

theorem Silent.passed {read : Text → Option α} {front rest : Text} (h : Silent read front rest)
    (starts : Option Char → Bool) (before : Option Char) :
    Passed starts read before front rest := by
  intro u v huv hv _
  exact silent_iff.mp h u v huv hv

private theorem getLast?_cons_or (c : Char) (u : Text) (before : Option Char) :
    (c :: u).getLast?.or before = u.getLast?.or (some c) := by
  cases u with
  | nil => rfl
  | cons d u => simp [List.getLast?_cons]

theorem passed_nil (starts : Option Char → Bool) (read : Text → Option α) (before : Option Char)
    (rest : Text) : Passed starts read before [] rest := by
  intro u v huv hv _
  exact absurd (List.append_eq_nil_iff.mp huv.symm).2 hv

theorem passed_cons {starts : Option Char → Bool} {read : Text → Option α} {before : Option Char}
    {c : Char} {front rest : Text} :
    Passed starts read before (c :: front) rest ↔
      (starts before → read (c :: (front ++ rest)) = none) ∧
        Passed starts read (some c) front rest := by
  constructor
  · intro h
    refine ⟨?_, ?_⟩
    · intro hs
      exact h [] (c :: front) rfl (by simp) hs
    · intro u v huv hv hs
      exact h (c :: u) v (by rw [huv, List.cons_append]) hv (by rwa [getLast?_cons_or])
  · intro h u v huv hv hs
    obtain ⟨hhere, hlater⟩ := h
    cases u with
    | nil =>
      obtain rfl : c :: front = v := huv
      exact hhere hs
    | cons d u =>
      obtain ⟨rfl, rfl⟩ := List.cons.inj huv
      exact hlater u v rfl hv (by rwa [getLast?_cons_or] at hs)

/-- Where nothing is read, the search for the first reading goes on after it. -/
theorem firstReading_append {starts : Option Char → Bool} {read : Text → Option α}
    {before : Option Char} {front rest : Text} (h : Passed starts read before front rest) :
    firstReading starts read before (front ++ rest) =
      firstReading starts read (front.getLast?.or before) rest := by
  induction front generalizing before with
  | nil => rfl
  | cons c front ih =>
    obtain ⟨hhere, hlater⟩ := passed_cons.mp h
    have hnone : (if starts before then read (c :: (front ++ rest)) else none) = none := by
      split
      · exact hhere ‹_›
      · rfl
    rw [List.cons_append, firstReading, hnone]
    dsimp only
    rw [ih hlater, getLast?_cons_or]

theorem firstReading_of_read {starts : Option Char → Bool} {read : Text → Option α}
    {before : Option Char} {t : Text} {a : α} (hs : starts before) (h : read t = some a) :
    firstReading starts read before t = some a := by
  cases t <;> simp [firstReading, hs, h]

/-- The first reading is at the leftmost place that counts and where something is read. -/
theorem firstReading_eq_some_iff {starts : Option Char → Bool} {read : Text → Option α}
    {before : Option Char} {t : Text} {a : α} :
    firstReading starts read before t = some a ↔
      ∃ front rest, t = front ++ rest ∧ Passed starts read before front rest ∧
        starts (front.getLast?.or before) ∧ read rest = some a := by
  constructor
  · intro h
    induction t generalizing before with
    | nil =>
      by_cases hs : starts before
      · exact ⟨[], [], rfl, passed_nil _ _ _ _, hs, by simpa [firstReading, hs] using h⟩
      · simp [firstReading, hs] at h
    | cons c r ih =>
      cases hhere : (if starts before then read (c :: r) else none) with
      | some b =>
        have hs : starts before := by
          by_contra hs
          simp [hs] at hhere
        have hread : read (c :: r) = some b := by simpa [hs] using hhere
        rw [firstReading_of_read hs hread] at h
        obtain rfl : b = a := by simpa using h
        exact ⟨[], c :: r, rfl, passed_nil _ _ _ _, hs, hread⟩
      | none =>
        rw [firstReading, hhere] at h
        obtain ⟨front, rest, rfl, hp, hs, hread⟩ := ih h
        refine ⟨c :: front, rest, rfl, passed_cons.mpr ⟨?_, hp⟩, by rwa [getLast?_cons_or], hread⟩
        intro hs
        simpa [hs] using hhere
  · intro h
    obtain ⟨front, rest, rfl, hp, hs, hread⟩ := h
    rw [firstReading_append hp, firstReading_of_read hs hread]

theorem firstReading_eq_none_iff {starts : Option Char → Bool} {read : Text → Option α}
    {before : Option Char} {t : Text} :
    firstReading starts read before t = none ↔
      ∀ u v, t = u ++ v → starts (u.getLast?.or before) → read v = none := by
  induction t generalizing before with
  | nil =>
    by_cases hs : starts before
    · simp [firstReading, hs]
    · simp [firstReading, hs]
  | cons c r ih =>
    constructor
    · intro h u v huv hs
      have hpassed : (if starts before then read (c :: r) else none) = none ∧
          firstReading starts read (some c) r = none := by
        rw [firstReading] at h
        split at h
        · simp at h
        · exact ⟨‹_›, h⟩
      cases u with
      | nil =>
        obtain rfl : c :: r = v := huv
        have hs : starts before := hs
        simpa [hs] using hpassed.1
      | cons d u =>
        obtain ⟨rfl, rfl⟩ := List.cons.inj huv
        exact ih.mp hpassed.2 u v rfl (by rwa [getLast?_cons_or] at hs)
    · intro h
      have hhere : (if starts before then read (c :: r) else none) = none := by
        split
        · exact h [] (c :: r) rfl ‹_›
        · rfl
      rw [firstReading, hhere]
      refine ih.mpr fun u v huv hs => h (c :: u) v (by rw [huv, List.cons_append]) ?_
      rwa [getLast?_cons_or]

end Text

namespace Rule

variable {α : Type} {rule : Rule α}

/-- The way of a rule through a text: it reads `as` one after another, passes over what it does not
read, and goes on with `rest`. -/
inductive Reads (rule : Rule α) : Text → List α → Text → Prop where
  | done (t : Text) : Reads rule t [] t
  | skip {c : Char} {t rest : Text} {as : List α} (here : rule.read (c :: t) = none)
      (later : Reads rule t as rest) : Reads rule (c :: t) as rest
  | take {t u rest : Text} {a : α} {as : List α} (here : rule.read t = some (a, u))
      (later : Reads rule u as rest) : Reads rule t (a :: as) rest

theorem Reads.trans {t u v : Text} {as bs : List α} (h : rule.Reads t as u)
    (h' : rule.Reads u bs v) : rule.Reads t (as ++ bs) v := by
  induction h with
  | done t => exact h'
  | skip here _ ih => exact .skip here (ih h')
  | take here _ ih => exact .take here (ih h')

theorem reads_of_silent {front rest : Text} (h : Text.Silent rule.read front rest) :
    rule.Reads (front ++ rest) [] rest := by
  induction front with
  | nil => exact .done rest
  | cons c front ih => exact .skip h.1 (ih h.2)

theorem readings_of_read {t rest : Text} {a : α} (h : rule.read t = some (a, rest)) :
    rule.readings t = a :: rule.readings rest := by
  cases t with
  | nil =>
    have := rule.shortens h
    simp at this
  | cons c r =>
    rw [readings]
    split
    · rename_i b u hb
      obtain ⟨rfl, rfl⟩ : b = a ∧ u = rest := by simpa [hb] using h
      rfl
    · rename_i hnone
      rw [hnone] at h
      simp at h

theorem readings_of_none {c : Char} {t : Text} (h : rule.read (c :: t) = none) :
    rule.readings (c :: t) = rule.readings t := by
  rw [readings]
  split
  · rename_i hb
    rw [hb] at h
    simp at h
  · rfl

theorem Reads.readings_eq {t rest : Text} {as : List α} (h : rule.Reads t as rest) :
    rule.readings t = as ++ rule.readings rest := by
  induction h with
  | done t => rfl
  | skip here _ ih => rw [readings_of_none here, ih]
  | take here _ ih => rw [readings_of_read here, ih, List.cons_append]

theorem readings_eq_of_reads {t : Text} {as : List α} (h : rule.Reads t as []) :
    rule.readings t = as := by
  rw [h.readings_eq, readings, List.append_nil]

private theorem reads_readings (t : Text) : rule.Reads t (rule.readings t) [] := by
  fun_induction Rule.readings rule t with
  | case1 => exact .done []
  | case2 c r a rest here ih => exact .take here ih
  | case3 c r here ih => exact .skip here ih

/-- A reading is made at a place on the way. -/
theorem mem_readings_iff {t : Text} {a : α} :
    a ∈ rule.readings t ↔
      ∃ as u rest, rule.Reads t as u ∧ rule.read u = some (a, rest) := by
  constructor
  · suffices ∀ bs v, rule.Reads t bs v → a ∈ bs →
        ∃ as u rest, rule.Reads t as u ∧ rule.read u = some (a, rest) from
      fun h => this _ _ (reads_readings t) h
    intro bs v h ha
    induction h with
    | done t => simp at ha
    | skip here _ ih =>
      obtain ⟨as, u, rest, hway, hread⟩ := ih ha
      exact ⟨as, u, rest, .skip here hway, hread⟩
    | @take t w rest b bs here later ih =>
      rcases List.mem_cons.mp ha with rfl | ha
      · exact ⟨[], t, w, .done t, here⟩
      · obtain ⟨as, u, rest, hway, hread⟩ := ih ha
        exact ⟨b :: as, u, rest, .take here hway, hread⟩
  · intro h
    obtain ⟨as, u, rest, hway, hread⟩ := h
    rw [hway.readings_eq, readings_of_read hread]
    simp

/-- No reading of the rule begins inside another one. -/
def Apart (rule : Rule α) : Prop :=
  ∀ {c : Char} {t rest : Text} {a : α}, rule.read (c :: t) = some (a, rest) →
    ∃ inner, t = inner ++ rest ∧ Text.Silent rule.read inner rest

/-- A rule whose readings lie apart misses none: what it would read at a place, it reads. -/
theorem Apart.mem_readings (apart : rule.Apart) {front place rest : Text} {a : α}
    (h : rule.read place = some (a, rest)) : a ∈ rule.readings (front ++ place) := by
  induction hn : front.length using Nat.strongRecOn generalizing front with
  | ind n ih =>
    cases front with
    | nil =>
      rw [List.nil_append, readings_of_read h]
      exact List.mem_cons_self
    | cons c front =>
      have hlt : front.length < n := by
        rw [← hn]
        simp
      rw [List.cons_append]
      cases hread : rule.read (c :: (front ++ place)) with
      | none =>
        rw [readings_of_none hread]
        exact ih front.length hlt rfl
      | some found =>
        obtain ⟨b, u⟩ := found
        obtain ⟨inner, hsplit, hsilent⟩ := apart hread
        rw [readings_of_read hread]
        apply List.mem_cons_of_mem
        -- the place lies behind the reading, for nothing is read inside of it
        rcases List.append_eq_append_iff.mp hsplit with ⟨v, hinner, hplace⟩ | ⟨v, hfront, hu⟩
        · cases v with
          | nil =>
            rw [List.nil_append] at hplace
            rw [← hplace, readings_of_read h]
            exact List.mem_cons_self
          | cons d v =>
            have hnone := Text.silent_iff.mp hsilent front (d :: v) hinner (by simp)
            rw [← hplace, h] at hnone
            simp at hnone
        · rw [hu]
          refine ih v.length ?_ rfl
          have := congrArg List.length hfront
          simp only [List.length_append] at this
          omega

/-- What the rule reads stays as it is when the text goes on, and where it waits for more text
nothing is read later on. -/
structure Settles (rule : Rule α) : Prop where
  stays {t rest : Text} {a : α} (u : Text) (h : rule.read t = some (a, rest)) :
    rule.read (t ++ u) = some (a, rest ++ u)
  waits {t u : Text} (h : rule.read t = none) (h' : rule.read (t ++ u) ≠ none) :
    Text.Silent rule.read t []

/-- When a text goes on, its readings come first and as they were. -/
theorem Settles.readings_prefix (settles : rule.Settles) (t u : Text) :
    rule.readings t <+: rule.readings (t ++ u) := by
  fun_induction Rule.readings rule t with
  | case1 => exact List.nil_prefix
  | case2 c r a rest here ih =>
    rw [readings_of_read (settles.stays u here)]
    exact (List.prefix_cons_inj a).mpr ih
  | case3 c r here ih =>
    rw [List.cons_append]
    by_cases h : rule.read (c :: (r ++ u)) = none
    · rw [readings_of_none h]
      exact ih
    · have hsilent := (Text.silent_cons.mp (settles.waits (t := c :: r) here h)).2
      have hnone : rule.readings r = [] := by
        apply readings_eq_of_reads
        simpa using reads_of_silent hsilent
      rw [hnone]
      exact List.nil_prefix

theorem Reads.suffix (hread : ∀ {t a rest}, rule.read t = some (a, rest) → rest <:+ t)
    {t rest : Text} {as : List α} (h : rule.Reads t as rest) : rest <:+ t := by
  induction h with
  | done t => exact List.suffix_refl t
  | skip _ _ ih => exact ih.trans (List.suffix_cons _ _)
  | take here _ ih => exact ih.trans (hread here)

theorem series_of_read {t rest : Text} {a : α} (h : rule.read t = some (a, rest)) :
    rule.series t = a :: rule.series rest := by
  rw [series]
  split
  · rename_i b u hb
    obtain ⟨rfl, rfl⟩ : b = a ∧ u = rest := by simpa [hb] using h
    rfl
  · rename_i hnone
    rw [hnone] at h
    simp at h

theorem series_of_none {t : Text} (h : rule.read t = none) : rule.series t = [] := by
  rw [series]
  split
  · rename_i hb
    rw [hb] at h
    simp at h
  · rfl

end Rule
end ClassTypings
