import ClassTypings.Proofs.PatternMatches
import ClassTypings.Pattern.Reader
/-!
# Plain patterns

A text without signs of its own meaning is a pattern that describes just this text, unless it is so
long that the pattern takes too much memory.
-/
namespace ClassTypings

/-- A character that stands for itself wherever it stands in a pattern. -/
def IsOrdinary (c : Char) : Prop := c ∉ "\\.^$|?*+()[\x7b".toList

namespace Reading

variable {α β : Type} {m : Reading α} {a : α} {x y : Cursor}

private theorem bind_apply (h : m x = .ok (a, y)) (f : α → Reading β) : (m >>= f) x = f a y := by
  show StateT.bind m f x = _
  rw [StateT.bind, h]
  rfl

private theorem map_apply (h : m x = .ok (a, y)) (f : α → β) : (f <$> m) x = .ok (f a, y) := by
  show StateT.map f m x = _
  rw [StateT.map, h]
  rfl

variable {c : Char} {t : Text}

/-- The parts of a pattern that are the characters of a text, which stands at a position. -/
def literals : Position → Text → List (PatternTree × Position)
  | _, [] => []
  | x, c :: t => (.one ⟨c, ⟨x, x.next c⟩, false⟩, x) :: literals (x.next c) t

private theorem atom_ordinary (hc : IsOrdinary c) (x : Position) :
    atom ⟨x, c :: t, false⟩ = .ok (.one ⟨c, ⟨x, x.next c⟩, false⟩, ⟨x.next c, t, false⟩) := by
  have hpeek : peek ⟨x, c :: t, false⟩ = .ok (some c, ⟨x, c :: t, false⟩) := rfl
  unfold atom
  rw [bind_apply hpeek]
  simp [IsOrdinary] at hc
  simp [hc]
  rfl

private theorem piece_ordinary (hc : IsOrdinary c) (d : Draft) (x : Position) :
    piece d ⟨x, c :: t, false⟩ =
      .ok (d.push (.one ⟨c, ⟨x, x.next c⟩, false⟩) x, ⟨x.next c, t, false⟩) := by
  have hpeek : peek ⟨x, c :: t, false⟩ = .ok (some c, ⟨x, c :: t, false⟩) := rfl
  have hposition : position ⟨x, c :: t, false⟩ = .ok (x, ⟨x, c :: t, false⟩) := rfl
  have hatom := atom_ordinary (t := t) hc x
  unfold piece
  rw [bind_apply hpeek]
  simp [IsOrdinary] at hc
  simp [hc, bind_apply hposition, map_apply hatom]

private theorem pieces_ordinary (ht : ∀ c ∈ t, IsOrdinary c) {n : Nat} (hn : t.length < n)
    (d : Draft) (x : Position) :
    ∃ y, pieces n d ⟨x, t, false⟩ =
      .ok ((literals x t).foldl (fun d (part, start) => d.push part start) d, ⟨y, [], false⟩) := by
  induction t generalizing n d x with
  | nil =>
    obtain ⟨n, rfl⟩ : ∃ m, n = m + 1 := ⟨n - 1, by simp at hn; omega⟩
    exact ⟨x, rfl⟩
  | cons c t ih =>
    obtain ⟨n, rfl⟩ : ∃ m, n = m + 1 := ⟨n - 1, by simp at hn; omega⟩
    have hskip : skipSpace ⟨x, c :: t, false⟩ = .ok ((), ⟨x, c :: t, false⟩) := rfl
    have hend : atEnd ⟨x, c :: t, false⟩ = .ok (false, ⟨x, c :: t, false⟩) := rfl
    rw [List.forall_mem_cons] at ht
    have hpiece := piece_ordinary (t := t) ht.1 d x
    obtain ⟨y, hy⟩ := ih ht.2 (by simpa using hn) (d.push _ x) (x.next c)
    refine ⟨y, ?_⟩
    unfold pieces
    rw [bind_apply hskip, bind_apply hend]
    simp only [Bool.false_eq_true, if_false]
    rw [bind_apply hpiece, hy]
    rfl

private theorem foldl_push (parts : List (PatternTree × Position)) (d : Draft) :
    parts.foldl (fun d (part, start) => d.push part start) d =
      { d with inner.items := parts.reverse ++ d.inner.items } := by
  induction parts generalizing d with
  | nil => rfl
  | cons part parts ih =>
    rw [List.foldl_cons, ih]
    simp [Draft.push, Branches.push]

private theorem wholeTree_ordinary (ht : ∀ c ∈ t, IsOrdinary c) :
    ∃ y, wholeTree.run' { rest := t } =
      .ok (({ items := (literals {} t).reverse } : Branches).last y) := by
  obtain ⟨y, hy⟩ := pieces_ordinary ht t.length.lt_succ_self {} {}
  have hlength : restLength { rest := t } = .ok (t.length, { rest := t }) := rfl
  refine ⟨y, ?_⟩
  rw [foldl_push, List.append_nil] at hy
  unfold wholeTree StateT.run'
  rw [bind_apply hlength, bind_apply hy]
  rfl

end Reading

namespace PatternTree

variable {t : Text}

private theorem sequence_singleton (p : Pattern) : Pattern.sequence [p] = p := by
  cases p <;> rfl

theorem meaning_last (b : Branches) (y : Position) (o : PatternOptions) :
    (b.last y).meaning o =
      (meanings o (b.items.reverse.map (·.1))).map fun (ps, after) => (.sequence ps, after) := by
  unfold Branches.last
  split
  · next hitems =>
    rw [hitems]
    rfl
  · next part start hitems =>
    simp only [hitems, List.reverse_singleton, List.map_cons, List.map_nil, meanings]
    cases part.meaning o with
    | error flaw => rfl
    | ok meant => exact congrArg (fun p => Except.ok (p, meant.2)) (sequence_singleton meant.1).symm
  · rw [meaning]
    cases meanings o (b.items.reverse.map (·.1)) <;> rfl

private theorem anyTooDeep?_literals (room : Nat) (x : Position) :
    anyTooDeep? room ((Reading.literals x t).map (·.1)) = none := by
  induction t generalizing x with
  | nil => rfl
  | cons c t ih =>
    simp only [Reading.literals, List.map_cons, anyTooDeep?, tooDeep?, Option.none_or]
    exact ih _

private theorem tooDeep?_last {b : Branches} (y : Position)
    (h : ∀ room, anyTooDeep? room (b.items.reverse.map (·.1)) = none) (room : Nat) :
    (b.last y).tooDeep? (room + 1) = none := by
  unfold Branches.last
  split
  · rfl
  · next part start hitems => simpa [hitems, anyTooDeep?] using h (room + 1)
  · exact h room

private theorem meanings_literals (x : Position) :
    meanings {} ((Reading.literals x t).map (·.1)) =
      .ok (t.map fun c => .one [(c.toNat, c.toNat)], {}) := by
  induction t generalizing x with
  | nil => rfl
  | cons c t ih =>
    have hone : meaning {} (.one ⟨c, ⟨x, x.next c⟩, false⟩) =
      .ok (.one [(c.toNat, c.toNat)], {}) := rfl
    rw [Reading.literals, List.map_cons, meanings, hone]
    show (do let (ps, after) ← meanings {} _; Except.ok (_ :: ps, after)) = _
    rw [ih]
    rfl

end PatternTree

namespace Pattern

variable {t : Text}

/-- An ordinary text describes itself, if that is not too much. -/
theorem ofText_ordinary (ht : ∀ c ∈ t, IsOrdinary c) :
    ofText t =
      if (verbatim t).isTooLarge then .error (.tooLarge sizeLimit) else .ok (verbatim t) := by
  obtain ⟨y, htree⟩ := Reading.wholeTree_ordinary ht
  let b : Branches := { items := (Reading.literals {} t).reverse }
  have hitems : b.items.reverse.map (·.1) = (Reading.literals {} t).map (·.1) := by
    rw [List.reverse_reverse]
  have hdeep : (b.last y).tooDeep? PatternTree.depthLimit = none := by
    apply PatternTree.tooDeep?_last
    intro room
    rw [hitems]
    exact PatternTree.anyTooDeep?_literals room {}
  have hmeaning : (b.last y).meaning {} = .ok (verbatim t, {}) := by
    rw [PatternTree.meaning_last, hitems, PatternTree.meanings_literals]
    rfl
  have hread : PatternTree.ofText t = .ok (b.last y) := by
    rw [PatternTree.ofText, htree]
    simp only [bind, Except.bind, hdeep, b]
    rfl
  rw [ofText, hread]
  show ((b.last y).meaning {} >>= _) = _
  rw [hmeaning]
  by_cases hsize : (verbatim t).isTooLarge
  · simp [bind, Except.bind, hsize]
    rfl
  · simp [bind, Except.bind, hsize]
    rfl

private theorem length_bytes (c : Char) : (CharRanges.bytes c.toNat).length = c.utf8Size := by
  unfold CharRanges.bytes Char.utf8Size
  simp only [UInt32.le_iff_toNat_le]
  show (if c.toNat ≤ 127 then _ else if c.toNat ≤ 2047 then _ else
      if c.toNat ≤ 65535 then _ else _ : List Nat).length =
    if c.toNat ≤ 127 then 1 else if c.toNat ≤ 2047 then 2 else if c.toNat ≤ 65535 then 3 else 4
  split_ifs <;> rfl

private theorem partSize_one (direction : Direction) (c : Char) :
    (Pattern.one [(c.toNat, c.toNat)]).partSize direction = c.utf8Size * stateSize := by
  simp [partSize, CharRanges.size, length_bytes]

private theorem partSize_chain (direction : Direction) (c : Char) (t : Text) :
    (chain ((c :: t).map fun c => .one [(c.toNat, c.toNat)])).partSize direction =
      Text.utf8Size (c :: t) * stateSize := by
  induction t generalizing c with
  | nil => exact partSize_one direction c
  | cons d t ih =>
    show (seq (.one [(c.toNat, c.toNat)]) (chain ((d :: t).map _))).partSize direction = _
    rw [partSize, partSize_one, ih, ← Nat.add_mul]
    rfl

private theorem partSize_verbatim (direction : Direction) (t : Text) :
    (verbatim t).partSize direction = max 1 (Text.utf8Size t) * stateSize := by
  have hkept : ((t.map fun c => Pattern.one [(c.toNat, c.toNat)]).filter (!·.isEmpty)) =
      t.map fun c => .one [(c.toNat, c.toNat)] := by
    apply List.filter_eq_self.mpr
    intro p hp
    obtain ⟨c, -, rfl⟩ := List.mem_map.mp hp
    rfl
  rw [verbatim, sequence, hkept]
  cases t with
  | nil => rfl
  | cons c t =>
    have hpos : 1 ≤ Text.utf8Size (c :: t) := Nat.le_add_right_of_le c.utf8Size_pos
    rw [partSize_chain, Nat.max_eq_right hpos]

/-- A text takes 32 bytes of memory for each byte, and its search 208. -/
theorem isTooLarge_verbatim_iff (t : Text) :
    (verbatim t).isTooLarge ↔ 327673 < Text.utf8Size t := by
  unfold isTooLarge size
  simp only [partSize_verbatim, stateSize, stepSize, choiceSize, sizeLimit, Bool.or_eq_true,
    decide_eq_true_eq]
  omega

/-- An ordinary text is a pattern that occurs where the text is a part. -/
theorem occursIn_ordinary_iff (ht : ∀ c ∈ t, IsOrdinary c) (hsize : Text.utf8Size t ≤ 327673) :
    ∃ p, ofText t = .ok p ∧ ∀ u, p.occursIn u ↔ t <:+: u := by
  have hfits : ¬(verbatim t).isTooLarge := by
    rw [isTooLarge_verbatim_iff]
    omega
  exact ⟨verbatim t, by rw [ofText_ordinary ht, if_neg hfits], occursIn_verbatim_iff t⟩

end Pattern
end ClassTypings
