import ClassTypings.Path
import Mathlib.Data.List.Lex
import Mathlib.Data.Char
/-!
# The order of paths

Paths are compared component by component, and names by their bytes. The order is total and tells
any two paths with different components apart.
-/
namespace ClassTypings

private theorem lex_of_compareLex {α : Type} {cmp : α → α → Ordering} {r : α → α → Prop}
    (hlt : ∀ a b, cmp a b = .lt → r a b) (heq : ∀ a b, cmp a b = .eq → a = b) {xs ys : List α}
    (h : List.compareLex cmp xs ys = .lt) : List.Lex r xs ys := by
  induction xs generalizing ys with
  | nil =>
    cases ys with
    | nil => simp [List.compareLex] at h
    | cons y ys => exact .nil
  | cons x xs ih =>
    cases ys with
    | nil => simp [List.compareLex] at h
    | cons y ys =>
      rw [List.compareLex_cons_cons] at h
      rcases Ordering.then_eq_lt.mp h with hfirst | ⟨hfirst, hlater⟩
      · exact .rel (hlt x y hfirst)
      · obtain rfl := heq x y hfirst
        exact .cons (ih hlater)

namespace Component

/-- A component comes before another: by their kinds, or names by their bytes. -/
inductive Before : Component → Component → Prop where
  | kind {a b : Component} (h : a.rank < b.rank) : Before a b
  | name {t u : Bytes} (h : t < u) : Before (.name t) (.name u)

instance : Std.TransCmp compare :=
  inferInstanceAs (Std.TransCmp (compareLex (compareOn rank) (compareOn label)))

instance : Std.LawfulEqCmp compare where
  eq_of_compare {a b} h := by
    obtain ⟨hrank, hlabel⟩ := Ordering.then_eq_eq.mp h
    have hrank : a.rank = b.rank := Std.LawfulEqCmp.eq_of_compare hrank
    have hlabel : a.label = b.label := Std.LawfulEqCmp.eq_of_compare hlabel
    cases a <;> cases b <;> simp_all [rank, label]

theorem before_of_compare {a b : Component} (h : compare a b = .lt) : a.Before b := by
  rcases Ordering.then_eq_lt.mp h with hrank | ⟨hrank, hlabel⟩
  · exact .kind (Nat.compare_eq_lt.mp hrank)
  · have hrank : a.rank = b.rank := Std.LawfulEqCmp.eq_of_compare hrank
    have hlex : List.Lex (· < ·) a.label b.label :=
      lex_of_compareLex (fun _ _ => Std.LawfulLTCmp.eq_lt_iff_lt.mp)
        (fun _ _ => Std.LawfulEqCmp.eq_of_compare) hlabel
    -- only names have bytes to compare
    cases a <;> cases b <;> simp [rank, label] at hrank hlex
    exact .name hlex

end Component

namespace Path

/-- A path comes before another: the first of their components that differ decide. -/
def Before (p q : Path) : Prop := List.Lex Component.Before p.components q.components

private theorem transCmp_components : Std.TransCmp (List.compareLex Component.compare) :=
  inferInstance

instance : Std.TransCmp compare where
  eq_swap := transCmp_components.eq_swap
  isLE_trans := transCmp_components.isLE_trans

theorem before_of_compare {p q : Path} (h : compare p q = .lt) : p.Before q :=
  lex_of_compareLex (fun _ _ => Component.before_of_compare)
    (fun _ _ => Std.LawfulEqCmp.eq_of_compare) h

private theorem components_eq_of_compare {p q : Path} (h : compare p q = .eq) :
    p.components = q.components := by
  have h : List.compareLex Component.compare p.components q.components = .eq := h
  exact Std.LawfulEqCmp.eq_of_compare h

theorem pairwise_lt_mergeSort {paths : List Path}
    (h : paths.Pairwise fun p q => p.components ≠ q.components) :
    (paths.mergeSort le).Pairwise fun p q => compare p q = .lt := by
  have htrans (p q r : Path) (h : p.le q) (h' : q.le r) : p.le r := Std.TransCmp.isLE_trans h h'
  have htotal (p q : Path) : p.le q || q.le p := by
    have hswap : compare q p = (compare p q).swap := Std.OrientedCmp.eq_swap
    rw [le, le, hswap]
    cases compare p q <;> rfl
  have hapart : (paths.mergeSort le).Pairwise fun p q => p.components ≠ q.components :=
    ((List.mergeSort_perm paths le).pairwise_iff Ne.symm).mpr h
  refine ((List.pairwise_mergeSort htrans htotal paths).and hapart).imp ?_
  intro p q h
  obtain ⟨hle, hne⟩ := h
  cases hcompare : compare p q with
  | lt => rfl
  | eq => exact absurd (components_eq_of_compare hcompare) hne
  | gt => simp [le, hcompare] at hle

theorem nodup_of_pairwise_lt {paths : List Path}
    (h : paths.Pairwise fun p q => compare p q = .lt) : paths.Nodup := by
  refine h.imp ?_
  rintro p q hlt rfl
  simp [Std.ReflCmp.compare_self] at hlt

theorem eq_of_perm_of_pairwise_lt {paths paths' : List Path} (hperm : paths.Perm paths')
    (h : paths.Pairwise fun p q => compare p q = .lt)
    (h' : paths'.Pairwise fun p q => compare p q = .lt) : paths = paths' := by
  refine hperm.eq_of_pairwise ?_ h h'
  intro p q _ _ hlt hgt
  exact absurd hgt (Std.OrientedCmp.not_lt_of_lt hlt)

end Path
end ClassTypings
