import ClassTypings.Proofs.CharRanges
import Mathlib.Data.List.Infix
/-!
# What a pattern matches

The places that are reached part by part are those at which a text of the pattern ends. A round of a
repetition goes forward or stays where it is, so that no more rounds have to be tried than there are
characters, and a place that has been reached once need not be left again.
-/
namespace ClassTypings

/-- One place is reached from another in a number of steps of a relation. -/
def Rounds (R : Place → Place → Prop) : Nat → Place → Place → Prop
  | 0, x, y => x = y
  | n + 1, x, y => ∃ z, R x z ∧ Rounds R n z y

/-- Whether the text between two places is one of the pattern. -/
def Pattern.Spans : Pattern → Place → Place → Prop
  | .empty, x, y => x = y
  | .one set, x, y => ∃ c r, x.rest = c :: r ∧ set.holds c.toNat ∧ y = ⟨some c, r⟩
  | .edge e, x, y => x = y ∧ e.holds x
  | .seq p q, x, y => ∃ z, p.Spans x z ∧ q.Spans z y
  | .alt p q, x, y => p.Spans x y ∨ q.Spans x y
  | .repeated p least most, x, y =>
    ∃ n, least ≤ n ∧ (∀ m ∈ most, n ≤ max least m) ∧ Rounds p.Spans n x y
  | .captured p, x, y => p.Spans x y

/-- From a place a relation goes to places farther on, or it stays there. -/
def GoesForward (R : Place → Place → Prop) : Prop :=
  ∀ x y, R x y → y = x ∨ y.rest.length < x.rest.length

namespace Rounds

variable {R : Place → Place → Prop} {x y z : Place} {m n : Nat}

private theorem goesForward (hR : GoesForward R) (n : Nat) : GoesForward (Rounds R n) := by
  induction n with
  | zero =>
    rintro x y rfl
    exact .inl rfl
  | succ n ih =>
    rintro x y ⟨z, hstep, hrest⟩
    rcases hR x z hstep with rfl | hfirst
    · exact ih _ _ hrest
    · rcases ih z y hrest with rfl | hlater
      · exact .inr hfirst
      · exact .inr (Nat.lt_trans hlater hfirst)

private theorem trans (h : Rounds R m x y) (h' : Rounds R n y z) : Rounds R (m + n) x z := by
  induction m generalizing x with
  | zero =>
    obtain rfl := h
    rwa [Nat.zero_add]
  | succ m ih =>
    obtain ⟨next, hstep, hrest⟩ := h
    rw [Nat.succ_add]
    exact ⟨next, hstep, ih hrest⟩

private theorem split (h : Rounds R (m + n) x z) : ∃ y, Rounds R m x y ∧ Rounds R n y z := by
  induction m generalizing x with
  | zero => exact ⟨x, rfl, by rwa [Nat.zero_add] at h⟩
  | succ m ih =>
    rw [Nat.succ_add] at h
    obtain ⟨next, hstep, hrest⟩ := h
    obtain ⟨y, hfront, hback⟩ := ih hrest
    exact ⟨y, ⟨next, hstep, hfront⟩, hback⟩

/-- Among more rounds than there are characters one stays where it is. It can be done once more. -/
private theorem more (hR : GoesForward R) (hn : x.rest.length < n) (h : Rounds R n x y) :
    Rounds R (n + 1) x y := by
  induction n generalizing x with
  | zero => simp at hn
  | succ n ih =>
    obtain ⟨z, hstep, hrest⟩ := h
    rcases hR x z hstep with rfl | hfirst
    · exact ⟨z, hstep, z, hstep, hrest⟩
    · exact ⟨z, hstep, ih (by omega) hrest⟩

/-- Among more rounds than there are characters one stays where it is. It can be left out. -/
private theorem fewer (hR : GoesForward R) (hn : x.rest.length ≤ n) (h : Rounds R (n + 1) x y) :
    Rounds R n x y := by
  induction n generalizing x with
  | zero =>
    obtain ⟨z, hstep, rfl⟩ := h
    rcases hR x z hstep with rfl | hfirst
    · rfl
    · omega
  | succ n ih =>
    obtain ⟨z, hstep, hrest⟩ := h
    rcases hR x z hstep with rfl | hfirst
    · exact hrest
    · exact ⟨z, hstep, ih (by omega) hrest⟩

private theorem iff_of_lt (hR : GoesForward R) (hm : x.rest.length < m) (hn : m ≤ n) :
    Rounds R n x y ↔ Rounds R m x y := by
  induction n, hn using Nat.le_induction with
  | base => rfl
  | succ n hle ih =>
    exact ⟨fun h => ih.mp (fewer hR (by omega) h), fun h => more hR (by omega) (ih.mpr h)⟩

private theorem exists_le (hR : GoesForward R) (h : Rounds R n x y) :
    ∃ m ≤ n, m ≤ x.rest.length ∧ Rounds R m x y := by
  induction n generalizing x with
  | zero => exact ⟨0, Nat.le_refl 0, Nat.zero_le _, h⟩
  | succ n ih =>
    obtain ⟨z, hstep, hrest⟩ := h
    obtain ⟨m, hle, hlength, hrounds⟩ := ih hrest
    rcases hR x z hstep with rfl | hfirst
    · exact ⟨m, by omega, hlength, hrounds⟩
    · exact ⟨m + 1, by omega, by omega, z, hstep, hrounds⟩

end Rounds

namespace Pattern

variable {R : Place → Place → Prop} {step : List Place → List Place} {xs : List Place}
  {x y : Place}

theorem goesForward_spans (p : Pattern) : GoesForward p.Spans := by
  induction p with
  | empty =>
    rintro x y rfl
    exact .inl rfl
  | one set =>
    rintro x y ⟨c, r, hrest, -, rfl⟩
    apply Or.inr
    show r.length < x.rest.length
    rw [hrest]
    exact Nat.lt_succ_self _
  | edge e =>
    rintro x y ⟨rfl, -⟩
    exact .inl rfl
  | seq p q ihp ihq =>
    rintro x y ⟨z, hp, hq⟩
    rcases ihp x z hp with rfl | hfirst
    · exact ihq _ _ hq
    · rcases ihq z y hq with rfl | hlater
      · exact .inr hfirst
      · exact .inr (Nat.lt_trans hlater hfirst)
  | alt p q ihp ihq =>
    rintro x y (hp | hq)
    · exact ihp x y hp
    · exact ihq x y hq
  | repeated p least most ih =>
    rintro x y ⟨n, -, -, hrounds⟩
    exact Rounds.goesForward ih n x y hrounds
  | captured p ih => exact ih

private theorem length_le_longestRest (h : x ∈ xs) : x.rest.length ≤ longestRest xs := by
  have hfold : ∀ (lengths : List Nat) (start : Nat), start ≤ lengths.foldl max start ∧
      ∀ n ∈ lengths, n ≤ lengths.foldl max start := by
    intro lengths
    induction lengths with
    | nil => simp
    | cons n lengths ih =>
      intro start
      obtain ⟨hstart, hall⟩ := ih (max start n)
      rw [List.foldl_cons]
      refine ⟨Nat.le_trans (Nat.le_max_left ..) hstart, fun m hm => ?_⟩
      rcases List.mem_cons.mp hm with rfl | hm
      · exact Nat.le_trans (Nat.le_max_right ..) hstart
      · exact hall m hm
  exact (hfold _ 0).2 _ (List.mem_map_of_mem h)

private theorem mem_repeat_iff (hstep : ∀ xs y, y ∈ step xs ↔ ∃ x ∈ xs, R x y) (n : Nat) :
    y ∈ Nat.repeat step n xs ↔ ∃ x ∈ xs, Rounds R n x y := by
  induction n generalizing y with
  | zero => simp [Nat.repeat, Rounds]
  | succ n ih =>
    rw [Nat.repeat, hstep]
    constructor
    · rintro ⟨z, hz, hlast⟩
      obtain ⟨x, hx, hrounds⟩ := ih.mp hz
      exact ⟨x, hx, hrounds.trans (n := 1) ⟨y, hlast, rfl⟩⟩
    · rintro ⟨x, hx, hrounds⟩
      obtain ⟨z, hfront, y', hlast, rfl⟩ := Rounds.split (m := n) (n := 1) hrounds
      exact ⟨z, ih.mpr ⟨x, hx, hfront⟩, hlast⟩

/-- Places are added round by round. The new places of the last round are the only ones that
something new can follow. -/
private theorem mem_reach_iff (hstep : ∀ xs y, y ∈ step xs ↔ ∃ x ∈ xs, R x y) (rounds : Nat)
    {seen fresh : List Place} (hfresh : ∀ x ∈ fresh, x ∈ seen)
    (hclosed : ∀ x ∈ seen, ∀ y, R x y → y ∈ seen ∨ x ∈ fresh) :
    y ∈ reach step rounds seen fresh ↔
      y ∈ seen ∨ ∃ n ≤ rounds, ∃ x ∈ fresh, Rounds R n x y := by
  induction rounds generalizing seen fresh with
  | zero =>
    refine ⟨.inl, ?_⟩
    rintro (hy | ⟨n, hn, x, hx, hrounds⟩)
    · exact hy
    · obtain rfl := Nat.le_zero.mp hn
      obtain rfl := hrounds
      exact hfresh x hx
  | succ rounds ih =>
    have hfound : ∀ y, y ∈ (step fresh).filter (!seen.contains ·) ↔
        (∃ x ∈ fresh, R x y) ∧ y ∉ seen := by
      intro y
      simp [hstep]
    rw [reach]
    generalize (step fresh).filter (!seen.contains ·) = found at hfound
    have hnext : ∀ x ∈ seen ++ found, ∀ y, R x y → y ∈ seen ++ found ∨ x ∈ found := by
      intro x hx y hxy
      rcases List.mem_append.mp hx with hx | hx
      · apply Or.inl
        rw [List.mem_append]
        by_cases hy : y ∈ seen
        · exact .inl hy
        · exact .inr ((hfound y).mpr ⟨⟨x, (hclosed x hx y hxy).resolve_left hy, hxy⟩, hy⟩)
      · exact .inr hx
    -- a path that leaves the places reached so far goes through one of the new ones
    have hpaths : ∀ n ≤ rounds, ∀ x ∈ seen ++ found, Rounds R n x y →
        y ∈ seen ++ found ∨ ∃ n ≤ rounds, ∃ x ∈ found, Rounds R n x y := by
      intro n
      induction n with
      | zero =>
        rintro - x hx rfl
        exact .inl hx
      | succ n ihn =>
        rintro hn x hx ⟨z, hxz, hrest⟩
        rcases hnext x hx z hxz with hz | hx
        · exact ihn (by omega) z hz hrest
        · exact .inr ⟨n + 1, hn, x, hx, z, hxz, hrest⟩
    have hunion : y ∈ seen ∨ (∃ n ≤ rounds + 1, ∃ x ∈ fresh, Rounds R n x y) ↔
        y ∈ seen ++ found ∨ ∃ n ≤ rounds, ∃ x ∈ found, Rounds R n x y := by
      constructor
      · rintro (hy | ⟨n, hn, x, hx, hrounds⟩)
        · exact .inl (List.mem_append_left _ hy)
        · cases n with
          | zero =>
            obtain rfl := hrounds
            exact .inl (List.mem_append_left _ (hfresh x hx))
          | succ n =>
            obtain ⟨z, hxz, hrest⟩ := hrounds
            refine hpaths n (by omega) z ?_ hrest
            rw [List.mem_append]
            by_cases hz : z ∈ seen
            · exact .inl hz
            · exact .inr ((hfound z).mpr ⟨⟨x, hx, hxz⟩, hz⟩)
      · rintro (hy | ⟨n, hn, x, hx, hrounds⟩)
        · rcases List.mem_append.mp hy with hy | hy
          · exact .inl hy
          · obtain ⟨⟨x, hx, hxy⟩, -⟩ := (hfound y).mp hy
            exact .inr ⟨1, by omega, x, hx, y, hxy, rfl⟩
        · obtain ⟨⟨w, hw, hwx⟩, -⟩ := (hfound x).mp hx
          exact .inr ⟨n + 1, by omega, w, hw, x, hwx, hrounds⟩
    rw [hunion]
    split
    · rename_i hempty
      obtain rfl := List.isEmpty_iff.mp hempty
      simp
    · exact ih (fun x hx => List.mem_append_right _ hx) hnext

private theorem mem_ends_repeated {p : Pattern} {least : Nat} {most : Option Nat}
    (hstep : ∀ xs y, y ∈ p.ends xs ↔ ∃ x ∈ xs, p.Spans x y) (hforward : GoesForward p.Spans) :
    y ∈ (repeated p least most).ends xs ↔ ∃ x ∈ xs, (repeated p least most).Spans x y := by
  have hstart : ∀ z, z ∈ Nat.repeat p.ends (min least (longestRest xs + 1)) xs ↔
      ∃ x ∈ xs, Rounds p.Spans least x z := by
    intro z
    rw [mem_repeat_iff hstep]
    apply exists_congr
    intro x
    apply and_congr_right
    intro hx
    rcases Nat.le_total least (longestRest xs + 1) with hfew | hmany
    · rw [Nat.min_eq_left hfew]
    · have hlength := Nat.lt_succ_of_le (length_le_longestRest hx)
      rw [Nat.min_eq_right hmany]
      exact (Rounds.iff_of_lt hforward hlength hmany).symm
  rw [ends]
  generalize Nat.repeat p.ends (min least (longestRest xs + 1)) xs = start at hstart
  rw [mem_reach_iff hstep _ (fun _ h => h) fun x hx _ _ => .inr hx]
  constructor
  · rintro (hy | ⟨n, hn, z, hz, hrounds⟩)
    · obtain ⟨x, hx, hfront⟩ := (hstart y).mp hy
      exact ⟨x, hx, least, Nat.le_refl _, fun m _ => Nat.le_max_left .., hfront⟩
    · obtain ⟨x, hx, hfront⟩ := (hstart z).mp hz
      refine ⟨x, hx, least + n, Nat.le_add_right .., ?_, hfront.trans hrounds⟩
      rintro m rfl
      have : n ≤ min (longestRest start) (m - least) := hn
      omega
  · rintro ⟨x, hx, n, hleast, hmost, hrounds⟩
    obtain ⟨k, rfl⟩ := Nat.exists_eq_add_of_le hleast
    obtain ⟨z, hfront, hback⟩ := hrounds.split
    have hz := (hstart z).mpr ⟨x, hx, hfront⟩
    obtain ⟨n, hle, hlength, hrounds⟩ := Rounds.exists_le hforward hback
    have hlongest := length_le_longestRest hz
    refine .inr ⟨n, ?_, z, hz, hrounds⟩
    cases most with
    | none =>
      show n ≤ longestRest start
      omega
    | some m =>
      have := hmost m rfl
      show n ≤ min (longestRest start) (m - least)
      omega

/-- The places that are found are those where a text of the pattern ends. -/
theorem mem_ends_iff (p : Pattern) : y ∈ p.ends xs ↔ ∃ x ∈ xs, p.Spans x y := by
  induction p generalizing xs y with
  | empty => simp [ends, Spans]
  | one set =>
    rw [ends, List.mem_filterMap]
    constructor
    · rintro ⟨x, hx, htaken⟩
      split at htaken
      · rename_i c r hrest
        split at htaken
        · rename_i hset
          exact ⟨x, hx, c, r, hrest, hset, (Option.some.inj htaken).symm⟩
        · simp at htaken
      · simp at htaken
    · rintro ⟨x, hx, c, r, hrest, hset, rfl⟩
      exact ⟨x, hx, by simp [hrest, hset]⟩
  | edge e =>
    rw [ends, List.mem_filter]
    constructor
    · rintro ⟨hy, he⟩
      exact ⟨y, hy, rfl, he⟩
    · rintro ⟨x, hx, rfl, he⟩
      exact ⟨hx, he⟩
  | seq p q ihp ihq =>
    rw [ends, ihq]
    constructor
    · rintro ⟨z, hz, hq⟩
      obtain ⟨x, hx, hp⟩ := ihp.mp hz
      exact ⟨x, hx, z, hp, hq⟩
    · rintro ⟨x, hx, z, hp, hq⟩
      exact ⟨z, ihp.mpr ⟨x, hx, hp⟩, hq⟩
  | alt p q ihp ihq =>
    rw [ends, List.mem_eraseDups, List.mem_append, ihp, ihq]
    constructor
    · rintro (⟨x, hx, hp⟩ | ⟨x, hx, hq⟩)
      · exact ⟨x, hx, .inl hp⟩
      · exact ⟨x, hx, .inr hq⟩
    · rintro ⟨x, hx, hp | hq⟩
      · exact .inl ⟨x, hx, hp⟩
      · exact .inr ⟨x, hx, hq⟩
  | repeated p least most ih => exact mem_ends_repeated (fun _ _ => ih) p.goesForward_spans
  | captured p ih => exact ih

theorem mem_places_iff {before : Option Char} {t : Text} :
    x ∈ places before t ↔ ∃ front, t = front ++ x.rest ∧ x.before = front.getLast?.or before := by
  induction t generalizing before with
  | nil =>
    rw [places, List.mem_singleton]
    constructor
    · rintro rfl
      exact ⟨[], rfl, rfl⟩
    · rintro ⟨front, ht, hbefore⟩
      obtain ⟨rfl, hrest⟩ := List.nil_eq_append_iff.mp ht
      obtain ⟨b, r⟩ := x
      obtain rfl : r = [] := hrest
      obtain rfl : b = before := hbefore
      rfl
  | cons c t ih =>
    rw [places, List.mem_cons, ih]
    constructor
    · rintro (rfl | ⟨front, rfl, hbefore⟩)
      · exact ⟨[], rfl, rfl⟩
      · refine ⟨c :: front, rfl, hbefore.trans ?_⟩
        cases front <;> simp [List.getLast?_cons]
    · rintro ⟨front, ht, hbefore⟩
      cases front with
      | nil =>
        obtain ⟨b, r⟩ := x
        obtain rfl : c :: t = r := ht
        obtain rfl : b = before := hbefore
        exact .inl rfl
      | cons d front =>
        obtain ⟨rfl, rfl⟩ := List.cons.inj ht
        refine .inr ⟨front, rfl, hbefore.trans ?_⟩
        cases front <;> simp [List.getLast?_cons]

/-- A pattern occurs in a text when it spans the text from one of its places to another. -/
theorem occursIn_iff (p : Pattern) (t : Text) :
    p.occursIn t ↔ ∃ x ∈ places none t, ∃ y, p.Spans x y := by
  have hends : p.occursIn t ↔ ∃ y, y ∈ p.ends (places none t) := by
    rw [occursIn, Bool.not_eq_true', List.isEmpty_eq_false_iff_exists_mem]
  simp only [hends, mem_ends_iff]
  constructor
  · rintro ⟨y, x, hx, hspans⟩
    exact ⟨x, hx, y, hspans⟩
  · rintro ⟨x, hx, y, hspans⟩
    exact ⟨y, x, hx, hspans⟩

theorem spans_chain_cons {p : Pattern} {ps : List Pattern} :
    (chain (p :: ps)).Spans x y ↔ ∃ z, p.Spans x z ∧ (chain ps).Spans z y := by
  cases ps with
  | nil => simp [chain, Spans]
  | cons q ps => rfl

theorem spans_sequence_cons {p : Pattern} {ps : List Pattern} :
    (sequence (p :: ps)).Spans x y ↔ ∃ z, p.Spans x z ∧ (sequence ps).Spans z y := by
  cases hempty : p.isEmpty with
  | false => rw [sequence, List.filter_cons_of_pos (by simp [hempty]), spans_chain_cons, ← sequence]
  | true =>
    obtain rfl : p = .empty := by
      cases p <;> first | rfl | simp [isEmpty] at hempty
    rw [sequence, List.filter_cons_of_neg (by simp [hempty]), ← sequence]
    simp [Spans]

private theorem eq_map_one_of_mapM {ps : List Pattern} {sets : List CharRanges}
    (h : ps.mapM set? = some sets) : ps = sets.map .one := by
  induction ps generalizing sets with
  | nil =>
    obtain rfl : [] = sets := by simpa using h
    rfl
  | cons p ps ih =>
    rw [List.mapM_cons] at h
    obtain ⟨set, hset, h⟩ := Option.bind_eq_some_iff.mp h
    obtain ⟨rest, hrest, h⟩ := Option.bind_eq_some_iff.mp h
    obtain rfl := Option.some.inj h
    rw [List.map_cons, ih hrest]
    cases p <;> simp_all [set?]

private theorem spans_either {ps : List Pattern} (hne : ps ≠ []) :
    (either ps).Spans x y ↔ ∃ p ∈ ps, p.Spans x y := by
  induction ps with
  | nil => exact absurd rfl hne
  | cons p ps ih =>
    cases ps with
    | nil => simp [either]
    | cons q ps =>
      rw [either, Spans, ih (by simp)]
      · simp
      · simp

theorem spans_choice {ps : List Pattern} (hne : ps ≠ []) :
    (choice ps).Spans x y ↔ ∃ p ∈ ps, p.Spans x y := by
  unfold choice
  split
  · rename_i sets hsets
    obtain rfl := eq_map_one_of_mapM hsets
    simp only [List.mem_map, exists_exists_and_eq_and, Spans, CharRanges.holds_ofList]
    have hflat : ∀ n, CharRanges.holds sets.flatten n ↔ ∃ set ∈ sets, set.holds n := by
      intro n
      simp [CharRanges.holds, List.any_flatten]
    simp only [hflat]
    constructor
    · rintro ⟨c, r, hrest, ⟨set, hset, hholds⟩, hy⟩
      exact ⟨set, hset, c, r, hrest, hholds, hy⟩
    · rintro ⟨set, hset, c, r, hrest, hholds, hy⟩
      exact ⟨c, r, hrest, ⟨set, hset, hholds⟩, hy⟩
  · exact spans_either hne

/-- The pattern of a text that stands for itself. -/
def verbatim (t : Text) : Pattern := sequence (t.map fun c => .one [(c.toNat, c.toNat)])

private theorem spans_verbatim {t : Text} :
    (verbatim t).Spans x y ↔ x.rest = t ++ y.rest ∧ y.before = t.getLast?.or x.before := by
  induction t generalizing x with
  | nil =>
    obtain ⟨b, r⟩ := x
    obtain ⟨b', r'⟩ := y
    show Place.mk b r = Place.mk b' r' ↔ _
    simp [and_comm, eq_comm]
  | cons c t ih =>
    rw [verbatim, List.map_cons, spans_sequence_cons]
    have hlast : ∀ before : Option Char,
        (c :: t).getLast?.or before = t.getLast?.or (some c) := by
      intro before
      cases t <;> simp [List.getLast?_cons]
    rw [hlast]
    constructor
    · rintro ⟨z, ⟨d, r, hrest, hset, rfl⟩, hspans⟩
      obtain ⟨hr, hbefore⟩ := ih.mp hspans
      have hsame : d = c := by
        have : c.toNat = d.toNat := by simpa [CharRanges.holds, Nat.le_antisymm_iff] using hset
        exact Char.toNat_inj.mp this.symm
      exact ⟨by rw [hrest, hsame, List.cons_append]; exact congrArg _ hr, hsame ▸ hbefore⟩
    · rintro ⟨hrest, hbefore⟩
      refine ⟨⟨some c, t ++ y.rest⟩, ⟨c, t ++ y.rest, hrest, ?_, rfl⟩, ih.mpr ⟨rfl, hbefore⟩⟩
      simp [CharRanges.holds]

/-- A text that stands for itself occurs where it is a part. -/
theorem occursIn_verbatim_iff (t u : Text) : (verbatim t).occursIn u ↔ t <:+: u := by
  rw [occursIn_iff]
  constructor
  · rintro ⟨x, hx, y, hspans⟩
    obtain ⟨front, hu, -⟩ := mem_places_iff.mp hx
    obtain ⟨hrest, -⟩ := spans_verbatim.mp hspans
    exact ⟨front, y.rest, by rw [hu, hrest, List.append_assoc]⟩
  · rintro ⟨front, back, hu⟩
    refine ⟨⟨front.getLast?, t ++ back⟩, mem_places_iff.mpr ⟨front, ?_, by simp⟩,
      ⟨t.getLast?.or front.getLast?, back⟩, spans_verbatim.mpr ⟨rfl, rfl⟩⟩
    rw [← hu, List.append_assoc]

end Pattern
end ClassTypings
