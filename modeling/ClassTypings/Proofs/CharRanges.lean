import ClassTypings.Pattern.Size
import ClassTypings.Pattern.Tree
import ClassTypings.Unicode.Folding
import Mathlib.Tactic.Tauto
/-!
# Sets of characters as ranges

Ranges that are held in order and apart make the operations on sets true: what is in a union, in a
complement and so on is what the words say, and the outcome is in order and apart again. The classes
of blanks and of word characters that patterns know are those that texts are read by.
-/
namespace ClassTypings
namespace CharRanges

/-- The form in which sets are held. No range is empty or goes beyond the greatest character, and
between two ranges there is a gap. -/
structure IsNormal (s : CharRanges) : Prop where
  filled : ∀ r ∈ s, r.1 ≤ r.2
  bounded : ∀ r ∈ s, r.2 ≤ greatest
  apart : s.Pairwise fun a b => a.2 + 1 < b.1

section

variable {s t : CharRanges} {n : Nat}

private theorem holds_cons (first last : Nat) (s : CharRanges) :
    holds ((first, last) :: s) n ↔ first ≤ n ∧ n ≤ last ∨ s.holds n := by
  simp [holds]

private theorem holds_append : holds (s ++ t) n ↔ s.holds n ∨ t.holds n := by
  rw [holds, List.any_append, Bool.or_eq_true]
  rfl

private theorem holds_iff : s.holds n ↔ ∃ r ∈ s, r.1 ≤ n ∧ n ≤ r.2 := by
  simp [holds]

private theorem holds_join (h : s.Pairwise fun a b => a.1 ≤ b.1) :
    s.join.holds n ↔ s.holds n := by
  induction s using join.induct with
  | case1 first last first' last' rest hmeet ih =>
    obtain ⟨hfirst, hrest⟩ := List.pairwise_cons.mp h
    have hle : first ≤ first' := hfirst _ List.mem_cons_self
    have hmerged : ((first, max last last') :: rest).Pairwise fun a b => a.1 ≤ b.1 :=
      List.pairwise_cons.mpr
        ⟨fun r hr => hfirst r (List.mem_cons_of_mem _ hr), (List.pairwise_cons.mp hrest).2⟩
    have hcover : first ≤ n ∧ n ≤ max last last' ↔
        first ≤ n ∧ n ≤ last ∨ first' ≤ n ∧ n ≤ last' := by omega
    rw [join, if_pos hmeet, ih hmerged, holds_cons, holds_cons, holds_cons, hcover, or_assoc]
  | case2 first last first' last' rest hapart ih =>
    rw [join, if_neg hapart, holds_cons, holds_cons, ih (List.pairwise_cons.mp h).2]
  | case3 s hshort => rw [join.eq_2 s hshort]

private theorem exists_first_of_mem_join {r : Nat × Nat} (h : r ∈ s.join) :
    ∃ q ∈ s, q.1 = r.1 := by
  induction s using join.induct with
  | case1 first last first' last' rest hmeet ih =>
    rw [join, if_pos hmeet] at h
    obtain ⟨q, hq, hfirst⟩ := ih h
    rcases List.mem_cons.mp hq with rfl | hq
    · exact ⟨(first, last), List.mem_cons_self, hfirst⟩
    · exact ⟨q, by simp [hq], hfirst⟩
  | case2 first last first' last' rest hapart ih =>
    rw [join, if_neg hapart] at h
    rcases List.mem_cons.mp h with rfl | h
    · exact ⟨_, List.mem_cons_self, rfl⟩
    · obtain ⟨q, hq, hfirst⟩ := ih h
      exact ⟨q, List.mem_cons_of_mem _ hq, hfirst⟩
  | case3 s hshort =>
    rw [join.eq_2 s hshort] at h
    exact ⟨r, h, rfl⟩

private theorem isNormal_join (h : s.Pairwise fun a b => a.1 ≤ b.1)
    (hs : ∀ r ∈ s, r.1 ≤ r.2 ∧ r.2 ≤ greatest) : s.join.IsNormal := by
  induction s using join.induct with
  | case1 first last first' last' rest hmeet ih =>
    obtain ⟨hfirst, hrest⟩ := List.pairwise_cons.mp h
    obtain ⟨hle, hbound⟩ : first ≤ last ∧ last ≤ greatest := hs _ List.mem_cons_self
    obtain ⟨-, hbound'⟩ := hs (first', last') (by simp)
    rw [join, if_pos hmeet]
    apply ih
    · exact List.pairwise_cons.mpr
        ⟨fun r hr => hfirst r (List.mem_cons_of_mem _ hr), (List.pairwise_cons.mp hrest).2⟩
    · intro r hr
      rcases List.mem_cons.mp hr with rfl | hr
      · exact ⟨Nat.le_trans hle (Nat.le_max_left ..), Nat.max_le.mpr ⟨hbound, hbound'⟩⟩
      · exact hs r (by simp [hr])
  | case2 first last first' last' rest hapart ih =>
    obtain ⟨-, hrest⟩ := List.pairwise_cons.mp h
    have htail := ih hrest fun r hr => hs r (List.mem_cons_of_mem _ hr)
    rw [join, if_neg hapart]
    obtain ⟨hfilled, hbounded⟩ := hs (first, last) List.mem_cons_self
    constructor
    · exact List.forall_mem_cons.mpr ⟨hfilled, htail.filled⟩
    · exact List.forall_mem_cons.mpr ⟨hbounded, htail.bounded⟩
    · apply List.pairwise_cons.mpr
      refine ⟨fun r hr => ?_, htail.apart⟩
      -- what comes after the join starts where one of the later ranges did
      obtain ⟨q, hq, hstart⟩ := exists_first_of_mem_join hr
      have hlater : first' ≤ q.1 := by
        rcases List.mem_cons.mp hq with rfl | hq
        · exact Nat.le_refl _
        · exact (List.pairwise_cons.mp hrest).1 q hq
      show last + 1 < r.1
      omega
  | case3 s hshort =>
    rw [join.eq_2 s hshort]
    match s with
    | [] => exact ⟨nofun, nofun, .nil⟩
    | [r] => exact ⟨fun q hq => (hs q hq).1, fun q hq => (hs q hq).2, List.pairwise_singleton ..⟩
    | (first, last) :: (first', last') :: rest =>
      exact absurd rfl (hshort first last first' last' rest)

private theorem pairwise_mergeSort (s : List (Nat × Nat)) :
    (s.mergeSort fun a b => a.1 ≤ b.1).Pairwise fun a b => a.1 ≤ b.1 := by
  have hsorted : (s.mergeSort fun a b => a.1 ≤ b.1).Pairwise
      fun a b => decide (a.1 ≤ b.1) = true := by
    apply List.pairwise_mergeSort
    · intro a b c hab hbc
      simp only [decide_eq_true_eq] at *
      omega
    · intro a b
      simp only [Bool.or_eq_true, decide_eq_true_eq]
      omega
  exact hsorted.imp of_decide_eq_true

theorem holds_ofList (s : List (Nat × Nat)) : (ofList s).holds n ↔ holds s n := by
  rw [ofList, holds_join (pairwise_mergeSort s), holds_iff, holds_iff]
  simp only [List.mem_mergeSort]

theorem isNormal_ofList {s : List (Nat × Nat)} (h : ∀ r ∈ s, r.1 ≤ r.2 ∧ r.2 ≤ greatest) :
    (ofList s).IsNormal :=
  isNormal_join (pairwise_mergeSort s) fun r hr => h r (List.mem_mergeSort.mp hr)

theorem holds_union : (s.union t).holds n ↔ s.holds n ∨ t.holds n := by
  rw [union, holds_ofList, holds_append]

theorem isNormal_union (hs : s.IsNormal) (ht : t.IsNormal) : (s.union t).IsNormal := by
  apply isNormal_ofList
  intro r hr
  rcases List.mem_append.mp hr with hr | hr
  · exact ⟨hs.filled r hr, hs.bounded r hr⟩
  · exact ⟨ht.filled r hr, ht.bounded r hr⟩

private theorem IsNormal.le_greatest (h : s.IsNormal) (hn : s.holds n) : n ≤ greatest := by
  obtain ⟨r, hr, -, hhigh⟩ := holds_iff.mp hn
  exact Nat.le_trans hhigh (h.bounded r hr)

private theorem IsNormal.tail {r : Nat × Nat} (h : IsNormal (r :: s)) : s.IsNormal :=
  ⟨fun q hq => h.filled q (List.mem_cons_of_mem _ hq),
    fun q hq => h.bounded q (List.mem_cons_of_mem _ hq), (List.pairwise_cons.mp h.apart).2⟩

private theorem le_of_mem_gaps {start : Nat} (h : s.IsNormal) (hstart : ∀ r ∈ s, start ≤ r.1)
    {r : Nat × Nat} (hr : r ∈ gaps start s) : start ≤ r.1 := by
  induction s generalizing start with
  | nil =>
    unfold gaps at hr
    split at hr
    · obtain rfl := List.mem_singleton.mp hr
      exact Nat.le_refl start
    · simp at hr
  | cons q s ih =>
    obtain ⟨first, last⟩ := q
    have hfilled : first ≤ last := h.filled _ List.mem_cons_self
    have hle : start ≤ first := hstart _ List.mem_cons_self
    have hafter : ∀ r ∈ s, last + 1 ≤ r.1 := fun r hr =>
      Nat.le_of_lt ((List.pairwise_cons.mp h.apart).1 r hr)
    have hrest (hr : r ∈ gaps (last + 1) s) : start ≤ r.1 := by
      have := ih h.tail hafter hr
      omega
    unfold gaps at hr
    split at hr
    · rcases List.mem_cons.mp hr with rfl | hr
      · exact Nat.le_refl start
      · exact hrest hr
    · exact hrest hr

private theorem holds_gaps {start : Nat} (h : s.IsNormal) (hstart : ∀ r ∈ s, start ≤ r.1) :
    (gaps start s).holds n ↔ start ≤ n ∧ n ≤ greatest ∧ ¬ s.holds n := by
  induction s generalizing start with
  | nil =>
    have hempty : ¬ holds [] n := nofun
    unfold gaps
    split
    · rw [holds_cons, and_iff_left hempty, or_iff_left hempty]
    · rw [and_iff_left hempty]
      exact iff_of_false hempty (by omega)
  | cons q s ih =>
    obtain ⟨first, last⟩ := q
    have hfilled : first ≤ last := h.filled _ List.mem_cons_self
    have hbounded : last ≤ greatest := h.bounded _ List.mem_cons_self
    have hle : start ≤ first := hstart _ List.mem_cons_self
    have hafter : ∀ r ∈ s, last + 1 ≤ r.1 := fun r hr =>
      Nat.le_of_lt ((List.pairwise_cons.mp h.apart).1 r hr)
    have hbehind : holds s n → last < n := by
      intro hs
      obtain ⟨r, hr, hlow, -⟩ := holds_iff.mp hs
      have := hafter r hr
      omega
    have hrest := ih h.tail hafter
    have hsplit : (gaps start ((first, last) :: s)).holds n ↔
        start ≤ n ∧ n < first ∨ last + 1 ≤ n ∧ n ≤ greatest ∧ ¬ holds s n := by
      unfold gaps
      split
      · rw [holds_cons, hrest]
        have hgap : start ≤ n ∧ n ≤ first - 1 ↔ start ≤ n ∧ n < first := by omega
        rw [hgap]
      · rw [hrest]
        have hnone : ¬ (start ≤ n ∧ n < first) := by omega
        rw [or_iff_right hnone]
    rw [hsplit, holds_cons]
    by_cases hs : holds s n
    · have := hbehind hs
      simp only [hs, not_true_eq_false, and_false, or_false, or_true, iff_false]
      omega
    · simp only [hs, Bool.false_eq_true, not_false_eq_true, and_true, or_false]
      omega

private theorem isNormal_gaps {start : Nat} (h : s.IsNormal) (hstart : ∀ r ∈ s, start ≤ r.1) :
    (gaps start s).IsNormal := by
  induction s generalizing start with
  | nil =>
    unfold gaps
    split
    · exact ⟨by simpa, by simp, List.pairwise_singleton ..⟩
    · exact ⟨nofun, nofun, .nil⟩
  | cons q s ih =>
    obtain ⟨first, last⟩ := q
    have hfilled : first ≤ last := h.filled _ List.mem_cons_self
    have hbounded : last ≤ greatest := h.bounded _ List.mem_cons_self
    have hafter : ∀ r ∈ s, last + 1 ≤ r.1 := fun r hr =>
      Nat.le_of_lt ((List.pairwise_cons.mp h.apart).1 r hr)
    have hrest := ih h.tail hafter
    unfold gaps
    split
    · constructor
      · intro r hr
        rcases List.mem_cons.mp hr with rfl | hr
        · show start ≤ first - 1
          omega
        · exact hrest.filled r hr
      · intro r hr
        rcases List.mem_cons.mp hr with rfl | hr
        · show first - 1 ≤ greatest
          omega
        · exact hrest.bounded r hr
      · apply List.pairwise_cons.mpr
        refine ⟨fun r hr => ?_, hrest.apart⟩
        have := le_of_mem_gaps h.tail hafter hr
        show first - 1 + 1 < r.1
        omega
    · exact hrest

theorem holds_complement (h : s.IsNormal) :
    s.complement.holds n ↔ n ≤ greatest ∧ ¬ s.holds n := by
  rw [complement, holds_gaps h fun _ _ => Nat.zero_le _, and_iff_right (Nat.zero_le n)]

theorem isNormal_complement (h : s.IsNormal) : s.complement.IsNormal :=
  isNormal_gaps h fun _ _ => Nat.zero_le _

theorem holds_without (hs : s.IsNormal) (ht : t.IsNormal) :
    (s.without t).holds n ↔ s.holds n ∧ ¬ t.holds n := by
  have hunion := isNormal_union (isNormal_complement hs) ht
  rw [without, holds_complement hunion, holds_union, holds_complement hs]
  have hbound : s.holds n → n ≤ greatest := hs.le_greatest
  tauto

theorem isNormal_without (hs : s.IsNormal) (ht : t.IsNormal) : (s.without t).IsNormal :=
  isNormal_complement (isNormal_union (isNormal_complement hs) ht)

theorem holds_inter (hs : s.IsNormal) (ht : t.IsNormal) :
    (s.inter t).holds n ↔ s.holds n ∧ t.holds n := by
  rw [inter, ← without, holds_without hs (isNormal_complement ht), holds_complement ht]
  have hbound : s.holds n → n ≤ greatest := hs.le_greatest
  tauto

theorem isNormal_inter (hs : s.IsNormal) (ht : t.IsNormal) : (s.inter t).IsNormal :=
  isNormal_without hs (isNormal_complement ht)

theorem holds_difference (hs : s.IsNormal) (ht : t.IsNormal) :
    (s.difference t).holds n ↔ ¬ (s.holds n ↔ t.holds n) := by
  rw [difference, holds_union, holds_without hs ht, holds_without ht hs]
  tauto

theorem isNormal_difference (hs : s.IsNormal) (ht : t.IsNormal) : (s.difference t).IsNormal :=
  isNormal_union (isNormal_without hs ht) (isNormal_without ht hs)

end

section Cases

variable {s : CharRanges} {n : Nat}

/-- Two numbers of characters that differ in case at most. Each of the two folds to a character to
which the other one does, or is this character. -/
def SameCase (m n : Nat) : Prop :=
  m = n ∨ ∃ folded, (m = folded ∨ (m, folded) ∈ Unicode.foldings ()) ∧
    (n = folded ∨ (n, folded) ∈ Unicode.foldings ())

private theorem holds_met (s : CharRanges) (folded : Nat) :
    holds (ofList (((Unicode.foldings ()).filter fun (n, folded) => s.holds n || s.holds folded).map
        fun (_, folded) => (folded, folded))) folded ↔
      ∃ a, (a, folded) ∈ Unicode.foldings () ∧ (s.holds a ∨ s.holds folded) := by
  rw [holds_ofList, holds_iff]
  constructor
  · rintro ⟨r, hr, hlow, hhigh⟩
    obtain ⟨⟨a, f⟩, hmem, rfl⟩ := List.mem_map.mp hr
    obtain rfl : f = folded := Nat.le_antisymm hlow hhigh
    obtain ⟨hmem, hmeets⟩ := List.mem_filter.mp hmem
    exact ⟨a, hmem, Bool.or_eq_true .. ▸ hmeets⟩
  · rintro ⟨a, hmem, hmeets⟩
    refine ⟨(folded, folded), List.mem_map.mpr ⟨(a, folded), ?_, rfl⟩, Nat.le_refl _, Nat.le_refl _⟩
    exact List.mem_filter.mpr ⟨hmem, (Bool.or_eq_true ..).mpr hmeets⟩

/-- What is added to a set are the characters that differ from one of its own in case. -/
theorem holds_withCases : s.withCases.holds n ↔ ∃ m, s.holds m ∧ SameCase m n := by
  have hadded : s.withCases.holds n ↔ s.holds n ∨ ∃ a folded, (a, folded) ∈ Unicode.foldings () ∧
      (∃ b, (b, folded) ∈ Unicode.foldings () ∧ (s.holds b ∨ s.holds folded)) ∧
        (n = a ∨ n = folded) := by
    rw [withCases, holds_union, holds_ofList]
    apply or_congr_right
    rw [holds_iff]
    constructor
    · rintro ⟨r, hr, hlow, hhigh⟩
      obtain ⟨⟨a, folded⟩, hmem, hr⟩ := List.mem_flatMap.mp hr
      obtain ⟨hmem, hmet⟩ := List.mem_filter.mp hmem
      refine ⟨a, folded, hmem, (holds_met s folded).mp hmet, ?_⟩
      rcases List.mem_cons.mp hr with rfl | hr
      · exact .inl (Nat.le_antisymm hhigh hlow)
      · obtain rfl := List.mem_singleton.mp hr
        exact .inr (Nat.le_antisymm hhigh hlow)
    · rintro ⟨a, folded, hmem, hmet, hn⟩
      refine ⟨(n, n), List.mem_flatMap.mpr ⟨(a, folded), ?_, ?_⟩, Nat.le_refl _, Nat.le_refl _⟩
      · exact List.mem_filter.mpr ⟨hmem, (holds_met s folded).mpr hmet⟩
      · rcases hn with rfl | rfl <;> simp
  rw [hadded]
  constructor
  · rintro (hs | ⟨a, folded, ha, ⟨b, hb, hs⟩, hn⟩)
    · exact ⟨n, hs, .inl rfl⟩
    · have hlast : n = folded ∨ (n, folded) ∈ Unicode.foldings () :=
        hn.symm.imp_right fun (h : n = a) => h ▸ ha
      rcases hs with hs | hs
      · exact ⟨b, hs, .inr ⟨folded, .inr hb, hlast⟩⟩
      · exact ⟨folded, hs, .inr ⟨folded, .inl rfl, hlast⟩⟩
  · rintro ⟨m, hs, rfl | ⟨folded, hm, hn⟩⟩
    · exact .inl hs
    · rcases hm with rfl | hm
      · rcases hn with rfl | hn
        · exact .inl hs
        · exact .inr ⟨n, m, hn, ⟨n, hn, .inr hs⟩, .inl rfl⟩
      · rcases hn with rfl | hn
        · exact .inr ⟨m, n, hm, ⟨m, hm, .inl hs⟩, .inr rfl⟩
        · exact .inr ⟨n, folded, hn, ⟨m, hm, .inl hs⟩, .inl rfl⟩

private theorem holds_map_add (s : CharRanges) (d : Nat) :
    holds (s.map fun (first, last) => (first + d, last + d)) n ↔ d ≤ n ∧ s.holds (n - d) := by
  simp only [holds_iff, List.mem_map]
  constructor
  · rintro ⟨r, ⟨q, hq, rfl⟩, hlow, hhigh⟩
    dsimp only at hlow hhigh
    exact ⟨by omega, q, hq, by omega, by omega⟩
  · rintro ⟨hd, q, hq, hlow, hhigh⟩
    refine ⟨_, ⟨q, hq, rfl⟩, ?_, ?_⟩
    · show q.1 + d ≤ n
      omega
    · show n ≤ q.2 + d
      omega

private theorem holds_map_sub (s : CharRanges) (d : Nat) (h : ∀ r ∈ s, d ≤ r.1 ∧ r.1 ≤ r.2) :
    holds (s.map fun (first, last) => (first - d, last - d)) n ↔ s.holds (n + d) := by
  simp only [holds_iff, List.mem_map]
  constructor
  · rintro ⟨r, ⟨q, hq, rfl⟩, hlow, hhigh⟩
    have := h q hq
    dsimp only at hlow hhigh
    exact ⟨q, hq, by omega, by omega⟩
  · rintro ⟨q, hq, hlow, hhigh⟩
    have := h q hq
    refine ⟨_, ⟨q, hq, rfl⟩, ?_, ?_⟩
    · show q.1 - d ≤ n
      omega
    · show n ≤ q.2 - d
      omega

private theorem isNormal_singleton {first last : Nat} (h : first ≤ last) (hlast : last ≤ greatest) :
    IsNormal [(first, last)] :=
  ⟨by simpa using h, by simpa using hlast, List.pairwise_singleton ..⟩

private theorem holds_singleton (first last : Nat) :
    holds [(first, last)] n ↔ first ≤ n ∧ n ≤ last := by
  simp [holds]

/-- The other case of an ASCII letter is 32 numbers away. -/
theorem holds_withAsciiCases (h : s.IsNormal) :
    s.withAsciiCases.holds n ↔ s.holds n ∨ 0x61 ≤ n ∧ n ≤ 0x7a ∧ s.holds (n - 32) ∨
      0x41 ≤ n ∧ n ≤ 0x5a ∧ s.holds (n + 32) := by
  have hcapital : IsNormal [(0x41, 0x5a)] := isNormal_singleton (by decide) (by decide)
  have hsmall : IsNormal [(0x61, 0x7a)] := isNormal_singleton (by decide) (by decide)
  have hletters : ∀ r ∈ s.inter [(0x61, 0x7a)], 32 ≤ r.1 ∧ r.1 ≤ r.2 := by
    intro r hr
    have hfilled := (isNormal_inter h hsmall).filled r hr
    have hfirst : (s.inter [(0x61, 0x7a)]).holds r.1 :=
      holds_iff.mpr ⟨r, hr, Nat.le_refl _, hfilled⟩
    rw [holds_inter h hsmall, holds_singleton] at hfirst
    exact ⟨by omega, hfilled⟩
  rw [withAsciiCases, holds_ofList, holds_append, holds_append, holds_map_add,
    holds_map_sub _ _ hletters, or_assoc, holds_inter h hcapital, holds_inter h hsmall,
    holds_singleton, holds_singleton]
  apply or_congr_right
  apply or_congr
  · rw [and_comm (a := s.holds (n - 32)), ← and_assoc, ← and_assoc (a := 0x61 ≤ n)]
    exact and_congr_left' (by omega)
  · rw [and_comm (a := s.holds (n + 32)), ← and_assoc (a := 0x41 ≤ n)]
    exact and_congr_left' (by omega)

/-- A range of characters is cut without a loss. -/
theorem holds_parts (first last : Nat) : holds (parts first last) n ↔ first ≤ n ∧ n ≤ last := by
  induction first, last using parts.induct with
  | case1 first last hwhole => rw [parts, hwhole, holds_singleton]
  | case2 first last m hcut h ihfront ihback =>
    rw [parts, hcut]
    simp only [h, and_self, dite_true]
    rw [holds_append, ihfront, ihback]
    omega
  | case3 first last m hcut h =>
    rw [parts, hcut]
    simp only [h, dite_false]
    exact holds_singleton first last

end Cases
end CharRanges

namespace Table

variable {t : Table} {n : Nat}

/-- Whether a number is described, by the list and the operations as they are written. -/
def has : Table → Nat → Bool
  | .listed lines, n => CharRanges.holds (lines.flatMap entries) n
  | .union s t, n => s.has n || t.has n
  | .without s t, n => s.has n && !t.has n

/-- Every range that is listed has a character, and its last number is the number of one. -/
def ListsCharacters : Table → Prop
  | .listed lines => ∀ r ∈ lines.flatMap entries, r.1 ≤ r.2 ∧ r.2 ≤ CharRanges.greatest
  | .union s t | .without s t => s.ListsCharacters ∧ t.ListsCharacters

theorem isNormal_ranges (h : t.ListsCharacters) : t.ranges.IsNormal := by
  induction t with
  | listed lines => exact CharRanges.isNormal_ofList h
  | union s t ihs iht => exact CharRanges.isNormal_union (ihs h.1) (iht h.2)
  | without s t ihs iht => exact CharRanges.isNormal_without (ihs h.1) (iht h.2)

/-- The ranges of a table hold what it describes. -/
theorem holds_ranges (h : t.ListsCharacters) : t.ranges.holds n = t.has n := by
  rw [Bool.eq_iff_iff]
  induction t with
  | listed lines => exact CharRanges.holds_ofList _
  | union s t ihs iht => rw [ranges, CharRanges.holds_union, ihs h.1, iht h.2, has, Bool.or_eq_true]
  | without s t ihs iht =>
    rw [ranges, CharRanges.holds_without (isNormal_ranges h.1) (isNormal_ranges h.2), ihs h.1,
      iht h.2, has, Bool.and_eq_true, Bool.not_eq_true', Bool.not_eq_true]

end Table

namespace Shorthand

private theorem whiteSpace_entries :
    ["9-d 20 85 a0 1680 2000-200a 2028-2029 202f 205f 3000"].flatMap Table.entries =
      [(9, 13), (32, 32), (133, 133), (160, 160), (5760, 5760), (8192, 8202), (8232, 8233),
        (8239, 8239), (8287, 8287), (12288, 12288)] := by
  decide +kernel

private theorem whiteSpace_listsCharacters : Unicode.whiteSpace.ListsCharacters := by
  rw [Unicode.whiteSpace, Table.ListsCharacters, whiteSpace_entries]
  simp [CharRanges.greatest]

private theorem isBlank_iff (c : Char) : isBlank c ↔
    (9 ≤ c.toNat ∧ c.toNat ≤ 13) ∨ c.toNat = 32 ∨ c.toNat = 133 ∨ c.toNat = 160 ∨
      c.toNat = 5760 ∨ (8192 ≤ c.toNat ∧ c.toNat ≤ 8202) ∨ c.toNat = 8232 ∨ c.toNat = 8233 ∨
      c.toNat = 8239 ∨ c.toNat = 8287 ∨ c.toNat = 12288 := by
  simp only [isBlank, Bool.or_eq_true, Bool.and_eq_true, decide_eq_true_eq, beq_iff_eq,
    Char.le_def, UInt32.le_iff_toNat_le, ← Char.toNat_inj]
  change ((((((((((9 ≤ c.toNat ∧ c.toNat ≤ 13) ∨ c.toNat = 32) ∨ c.toNat = 133) ∨ c.toNat = 160) ∨
    c.toNat = 5760) ∨ (8192 ≤ c.toNat ∧ c.toNat ≤ 8202)) ∨ c.toNat = 8232) ∨ c.toNat = 8233) ∨
    c.toNat = 8239) ∨ c.toNat = 8287) ∨ c.toNat = 12288 ↔ _
  omega

/-- Patterns take the same characters for blanks as texts do. -/
theorem holds_blank (c : Char) : Shorthand.blank.ranges.holds c.toNat = isBlank c := by
  rw [Bool.eq_iff_iff, isBlank_iff]
  show Unicode.whiteSpace.ranges.holds c.toNat ↔ _
  rw [Table.holds_ranges whiteSpace_listsCharacters, Unicode.whiteSpace, Table.has,
    whiteSpace_entries]
  simp only [CharRanges.holds, List.any_cons, List.any_nil, Bool.or_eq_true, Bool.and_eq_true,
    decide_eq_true_eq, Bool.false_eq_true, or_false]
  omega

private theorem holds_asciiWord (c : Char) :
    (asciiRanges .word).holds c.toNat ↔ c.isAlphanum || c == '_' := by
  unfold Char.isAlphanum Char.isAlpha Char.isUpper Char.isLower Char.isDigit
  simp only [asciiRanges, CharRanges.holds, List.any_cons, List.any_nil, Bool.or_eq_true,
    Bool.and_eq_true, decide_eq_true_eq, Bool.false_eq_true, or_false, UInt32.le_iff_toNat_le,
    ge_iff_le, beq_iff_eq, ← Char.toNat_inj]
  change _ ↔ (((65 ≤ c.toNat ∧ c.toNat ≤ 90) ∨ (97 ≤ c.toNat ∧ c.toNat ≤ 122)) ∨
    (48 ≤ c.toNat ∧ c.toNat ≤ 57)) ∨ c.toNat = 95
  omega

private theorem not_ascii_of_wordRanges : ∀ r ∈ wordRanges, 128 ≤ r.1 := by
  have hall : wordRanges.all fun r => 128 ≤ r.1 := by decide +kernel
  simpa using hall

/-- Patterns make words of the same characters as texts do. -/
theorem holds_word (c : Char) : Shorthand.word.ranges.holds c.toNat = isWordChar c := by
  have hsplit : Shorthand.word.ranges.holds c.toNat =
      ((asciiRanges .word).holds c.toNat || CharRanges.holds wordRanges c.toNat) :=
    List.any_append
  rw [hsplit, Bool.eq_iff_iff, Bool.or_eq_true, holds_asciiWord]
  unfold isWordChar
  split
  · next hascii =>
    have hnone : ¬CharRanges.holds wordRanges c.toNat := by
      rw [CharRanges.holds, List.any_eq_true]
      rintro ⟨r, hr, hholds⟩
      have hlarge := not_ascii_of_wordRanges r hr
      simp only [Bool.and_eq_true, decide_eq_true_eq] at hholds
      omega
    simp [hnone]
  · next hlarge =>
    have hnone : ¬(c.isAlphanum || c == '_') := by
      rw [← holds_asciiWord]
      simp only [asciiRanges, CharRanges.holds, List.any_cons, List.any_nil, Bool.or_eq_true,
        Bool.and_eq_true, decide_eq_true_eq, Bool.false_eq_true, or_false]
      omega
    simp [hnone, CharRanges.holds]

end Shorthand
end ClassTypings
