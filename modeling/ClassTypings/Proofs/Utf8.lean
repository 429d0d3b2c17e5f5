import ClassTypings.Text.Utf8
import Mathlib.Data.List.Basic
import Mathlib.Tactic.SplitIfs
/-!
# Bytes and texts

A text is read back from its bytes, so that different texts have different bytes. An ASCII character
is one byte, and that byte is never a part of another character: so bytes are cut at it where their
text is, also where they are no text as a whole.
-/
namespace ClassTypings

private theorem toNat_ofNat_of_valid {n : Nat} (h : n.isValidChar) : (Char.ofNat n).toNat = n := by
  rw [Char.ofNat, dif_pos h]
  rfl

namespace BegunChar

private theorem ofFirst?_two {n : Nat} (hlow : 0x80 ≤ n) (hhigh : n ≤ 0x7FF) :
    ofFirst? (n / 64 % 32 + 192) = some ⟨n / 64, 0x80, 0xBF, 0⟩ := by
  have hfirst : 0xC2 ≤ n / 64 % 32 + 192 ∧ n / 64 % 32 + 192 ≤ 0xDF := by omega
  rw [ofFirst?, if_pos hfirst]
  congr 2
  omega

private theorem ofFirst?_three {n : Nat} (hn : n.isValidChar) (hlow : 0x800 ≤ n)
    (hhigh : n ≤ 0xFFFF) :
    ∃ least greatest, ofFirst? (n / 4096 % 16 + 224) = some ⟨n / 4096, least, greatest, 1⟩ ∧
      least ≤ n / 64 % 64 + 128 ∧ n / 64 % 64 + 128 ≤ greatest := by
  have hnumber : (n / 4096 % 16 + 224) % 0x10 = n / 4096 := by omega
  unfold Nat.isValidChar at hn
  simp only [ofFirst?, hnumber]
  split_ifs
  any_goals omega
  all_goals exact ⟨_, _, rfl, by omega⟩

private theorem ofFirst?_four {n : Nat} (hn : n.isValidChar) (hlow : 0xFFFF < n) :
    ∃ least greatest, ofFirst? (n / 262144 % 8 + 240) = some ⟨n / 262144, least, greatest, 2⟩ ∧
      least ≤ n / 4096 % 64 + 128 ∧ n / 4096 % 64 + 128 ≤ greatest := by
  have hnumber : (n / 262144 % 8 + 240) % 0x08 = n / 262144 := by omega
  unfold Nat.isValidChar at hn
  simp only [ofFirst?, hnumber]
  split_ifs
  any_goals omega
  all_goals exact ⟨_, _, rfl, by omega⟩

end BegunChar

namespace Bytes

variable {b : UInt8} {rest : Bytes} {begun : BegunChar}

private theorem chars_of_ascii (h : b.toNat < 0x80) :
    chars none (b :: rest) = some (Char.ofNat b.toNat) :: chars none rest := by
  simp [chars, feed, first, h]

private theorem chars_of_first {n : Nat} (hlow : 0x80 ≤ n) (hhigh : n < 256)
    (h : BegunChar.ofFirst? n = some begun) :
    chars none (UInt8.ofNat n :: rest) = chars (some begun) rest := by
  have hb : (UInt8.ofNat n).toNat = n := UInt8.toNat_ofNat_of_lt hhigh
  simp [chars, feed, first, hb, Nat.not_lt.mpr hlow, h]

section Follower

variable {number least greatest : Nat} (n : Nat)

private theorem toNat_follower : (UInt8.ofNat (n % 64 + 128)).toNat = n % 64 + 128 :=
  UInt8.toNat_ofNat_of_lt (show n % 64 + 128 < 256 by omega)

private theorem chars_of_last :
    chars (some ⟨number, 0x80, 0xBF, 0⟩) (UInt8.ofNat (n % 64 + 128) :: rest) =
      some (Char.ofNat (number * 64 + n % 64)) :: chars none rest := by
  have hlow : 0x80 ≤ n % 64 + 128 := by omega
  have hhigh : n % 64 + 128 ≤ 0xBF := by omega
  have hrest : (n % 64 + 128) % 64 = n % 64 := by omega
  simp only [chars, feed, toNat_follower, hlow, hhigh, and_self, if_true, BegunChar.next, hrest]
  rfl

private theorem chars_of_next {more : Nat} (hleast : least ≤ n % 64 + 128)
    (hgreatest : n % 64 + 128 ≤ greatest) :
    chars (some ⟨number, least, greatest, more + 1⟩) (UInt8.ofNat (n % 64 + 128) :: rest) =
      chars (some ⟨number * 64 + n % 64, 0x80, 0xBF, more⟩) rest := by
  have hrest : (n % 64 + 128) % 64 = n % 64 := by omega
  simp only [chars, feed, toNat_follower, hleast, hgreatest, and_self, if_true, BegunChar.next,
    hrest, List.nil_append]

end Follower

private theorem chars_encodeChar (c : Char) (rest : Bytes) :
    chars none (String.utf8EncodeChar c ++ rest) = some c :: chars none rest := by
  unfold String.utf8EncodeChar
  generalize hn : c.val.toNat = n
  have hvalid : n.isValidChar := hn ▸ c.valid
  have hchar {m : Nat} (h : m = n) : Char.ofNat m = c := by
    rw [h, ← hn]
    exact Char.ofNat_toNat c
  dsimp only
  split_ifs with hone htwo hthree
  · have hbyte : (UInt8.ofNat n).toNat = n := UInt8.toNat_ofNat_of_lt (show n < 256 by omega)
    rw [List.singleton_append, chars_of_ascii (by omega), hbyte, hchar rfl]
  · have hbegun := BegunChar.ofFirst?_two (by omega) htwo
    simp only [List.cons_append, List.nil_append]
    rw [chars_of_first (by omega) (by omega) hbegun, chars_of_last, hchar (by omega)]
  · obtain ⟨least, greatest, hbegun, hleast, hgreatest⟩ :=
      BegunChar.ofFirst?_three hvalid (by omega) hthree
    simp only [List.cons_append, List.nil_append]
    rw [chars_of_first (by omega) (by omega) hbegun, chars_of_next _ hleast hgreatest,
      chars_of_last, hchar (by omega)]
  · obtain ⟨least, greatest, hbegun, hleast, hgreatest⟩ :=
      BegunChar.ofFirst?_four hvalid (by omega)
    simp only [List.cons_append, List.nil_append]
    rw [chars_of_first (by omega) (by omega) hbegun, chars_of_next _ hleast hgreatest,
      chars_of_next _ (by omega) (by omega), chars_of_last, hchar (by omega)]

theorem text_bytes (t : Text) : text t.bytes = t := by
  have hchars : chars none t.bytes = t.map some := by
    induction t with
    | nil => rfl
    | cons c t ih =>
      rw [Text.bytes, List.flatMap_cons, chars_encodeChar, List.map_cons]
      exact congrArg (some c :: ·) ih
  simp [text, hchars, Function.comp_def]

private theorem text?_eq_some_iff {bytes : Bytes} {t : Text} :
    text? bytes = some t ↔ t.bytes = bytes := by
  constructor
  · intro h
    unfold text? at h
    split at h
    · rename_i hbytes
      exact Option.some.inj h ▸ hbytes
    · simp at h
  · rintro rfl
    rw [text?, text_bytes, if_pos rfl]

theorem text?_bytes (t : Text) : text? t.bytes = some t := text?_eq_some_iff.mpr rfl

end Bytes

namespace BegunChar

/-- Whatever bytes follow, they make a character, and none that is ASCII. -/
structure IsSound (c : BegunChar) : Prop where
  more : c.more ≤ 2
  least : 0x80 ≤ c.least
  greatest : c.greatest ≤ 0xBF
  notAscii : 0x80 ≤ (c.number * 64 + (c.least - 128)) <<< (6 * c.more)
  valid : (c.number * 64 + (c.greatest - 127)) <<< (6 * c.more) ≤ 0xD800 ∨
    0xE000 ≤ (c.number * 64 + (c.least - 128)) <<< (6 * c.more) ∧
      (c.number * 64 + (c.greatest - 127)) <<< (6 * c.more) ≤ 0x110000

private theorem isSound_of_ofFirst? {b : Nat} {c : BegunChar} (h : ofFirst? b = some c) :
    c.IsSound := by
  unfold ofFirst? at h
  split_ifs at h
  all_goals
    obtain rfl := Option.some.inj h
    constructor <;> dsimp only <;> omega

private theorem isSound_of_next {b : Nat} {c c' : BegunChar} (h : c.IsSound) (hleast : c.least ≤ b)
    (hgreatest : b ≤ c.greatest) (hnext : c.next b = .inl c') : c'.IsSound := by
  obtain ⟨number, least, greatest, more⟩ := c
  obtain ⟨hmore, hlow, hhigh, hascii, hvalid⟩ := h
  dsimp only at *
  obtain rfl | rfl | rfl : more = 0 ∨ more = 1 ∨ more = 2 := by omega
  · simp [next] at hnext
  · obtain rfl := Sum.inl.inj hnext
    constructor <;> dsimp only <;> omega
  · obtain rfl := Sum.inl.inj hnext
    constructor <;> dsimp only <;> omega

private theorem notAscii_of_next {b : Nat} {c : BegunChar} {char : Char} (h : c.IsSound)
    (hleast : c.least ≤ b) (hgreatest : b ≤ c.greatest) (hnext : c.next b = .inr char) :
    0x80 ≤ char.toNat := by
  obtain ⟨number, least, greatest, more⟩ := c
  obtain ⟨hmore, hlow, hhigh, hascii, hvalid⟩ := h
  dsimp only at *
  cases more with
  | zero =>
    obtain rfl := Sum.inr.inj hnext
    dsimp only
    rw [toNat_ofNat_of_valid (by unfold Nat.isValidChar; omega)]
    omega
  | succ more => simp [next] at hnext

end BegunChar

namespace Bytes

variable {c : Char} {b : UInt8} {bytes : Bytes} {begun : Option BegunChar}

private theorem chars_cons (begun : Option BegunChar) (b : UInt8) (bytes : Bytes) :
    chars begun (b :: bytes) = (feed begun b).1 ++ chars (feed begun b).2 bytes := by
  cases begun <;> rfl

private theorem eq_ofChar_iff (hc : c.toNat < 0x80) : b = Byte.ofChar c ↔ b.toNat = c.toNat := by
  have hbyte : (Byte.ofChar c).toNat = c.toNat :=
    UInt8.toNat_ofNat_of_lt (show c.toNat < 256 by omega)
  rw [← UInt8.toNat_inj, hbyte]

private theorem isSound_first (b : UInt8) : ∀ begun ∈ (first b).2, begun.IsSound := by
  intro begun hbegun
  unfold first at hbegun
  split at hbegun
  · simp at hbegun
  · split at hbegun
    · rename_i hfirst
      obtain rfl : _ = begun := by simpa using hbegun
      exact BegunChar.isSound_of_ofFirst? hfirst
    · simp at hbegun

private theorem isSound_feed (h : ∀ c ∈ begun, c.IsSound) (b : UInt8) :
    ∀ c ∈ (feed begun b).2, c.IsSound := by
  intro c hc
  unfold feed at hc
  split at hc
  · exact isSound_first b c hc
  · rename_i before
    split at hc
    · rename_i hbounds
      split at hc
      · rename_i hnext
        obtain rfl : _ = c := by simpa using hc
        exact BegunChar.isSound_of_next (h before rfl) hbounds.1 hbounds.2 hnext
      · simp at hc
    · exact isSound_first b c hc

private theorem mem_first_iff (hc : c.toNat < 0x80) :
    some c ∈ (first b).1 ↔ b = Byte.ofChar c := by
  rw [eq_ofChar_iff hc]
  unfold first
  split
  · have hvalid : b.toNat.isValidChar := Or.inl (by omega)
    have hchar := toNat_ofNat_of_valid hvalid
    rw [List.mem_singleton, Option.some.injEq, eq_comm, ← Char.toNat_inj, hchar]
  · split <;> simp <;> omega

private theorem mem_feed_iff (hc : c.toNat < 0x80) (h : ∀ c ∈ begun, c.IsSound) :
    some c ∈ (feed begun b).1 ↔ b = Byte.ofChar c := by
  unfold feed
  split
  · exact mem_first_iff hc
  · rename_i before
    split
    · rename_i hbounds
      have hbyte : b ≠ Byte.ofChar c := by
        rw [ne_eq, eq_ofChar_iff hc]
        have := (h before rfl).least
        omega
      split
      · simp [hbyte]
      · rename_i char hnext
        have hchar := BegunChar.notAscii_of_next (h before rfl) hbounds.1 hbounds.2 hnext
        simp only [List.mem_singleton, Option.some.injEq, hbyte, iff_false]
        rintro rfl
        omega
    · rw [List.mem_cons, mem_first_iff hc]
      simp

private theorem mem_chars_iff (hc : c.toNat < 0x80) (bytes : Bytes)
    (h : ∀ c ∈ begun, c.IsSound) : some c ∈ chars begun bytes ↔ Byte.ofChar c ∈ bytes := by
  induction bytes generalizing begun with
  | nil => cases begun <;> simp [chars]
  | cons b bytes ih =>
    rw [chars_cons, List.mem_append, mem_feed_iff hc h, ih (isSound_feed h b), List.mem_cons,
      eq_comm]

private theorem feed_ne_nil (begun : Option BegunChar) (b : UInt8) :
    (feed begun b).1 ≠ [] ∨ (feed begun b).2 ≠ none := by
  have hfirst : (first b).1 ≠ [] ∨ (first b).2 ≠ none := by
    unfold first
    split_ifs
    · simp
    · split <;> simp
  unfold feed
  split
  · exact hfirst
  · split_ifs
    · split <;> simp
    · simp

private theorem chars_ne_nil (h : begun ≠ none ∨ bytes ≠ []) : chars begun bytes ≠ [] := by
  induction bytes generalizing begun with
  | nil =>
    obtain ⟨c, rfl⟩ := Option.ne_none_iff_exists'.mp (h.resolve_right (by simp))
    simp [chars]
  | cons b bytes ih =>
    rw [chars_cons, ne_eq, List.append_eq_nil_iff, not_and_or]
    exact (feed_ne_nil begun b).imp id fun hnext => ih (.inl hnext)

theorem text_ne_nil (h : bytes ≠ []) : text bytes ≠ [] := by
  rw [text, ne_eq, List.map_eq_nil_iff]
  exact chars_ne_nil (.inr h)

theorem mem_text_iff (hc : c.toNat < 0x80) (bytes : Bytes) :
    c ∈ text bytes ↔ Byte.ofChar c ∈ bytes := by
  have hnone : ∀ begun ∈ (none : Option BegunChar), begun.IsSound := nofun
  rw [← mem_chars_iff hc bytes hnone, text, List.mem_map]
  constructor
  · rintro ⟨char, hmem, hchar⟩
    cases char with
    | none =>
      obtain rfl : '\uFFFD' = c := hchar
      exact absurd hc (by decide)
    | some char =>
      obtain rfl : char = c := hchar
      exact hmem
  · exact fun hmem => ⟨some c, hmem, rfl⟩

end Bytes

namespace Text

variable {c : Char} {b : UInt8}

theorem bytes_injective : Function.Injective Text.bytes :=
  Function.LeftInverse.injective Bytes.text_bytes

theorem mem_bytes_iff (hc : c.toNat < 0x80) (t : Text) : Byte.ofChar c ∈ t.bytes ↔ c ∈ t := by
  rw [← Bytes.mem_text_iff hc, Bytes.text_bytes]

theorem bytes_ne_nil {t : Text} (h : t ≠ []) : t.bytes ≠ [] := fun hnil =>
  h (bytes_injective (hnil.trans rfl))

theorem bytes_append (t u : Text) : (t ++ u).bytes = t.bytes ++ u.bytes := List.flatMap_append

theorem bytes_cons (hc : c.toNat < 0x80) (t : Text) :
    Text.bytes (c :: t) = Byte.ofChar c :: t.bytes := by
  have hchar : String.utf8EncodeChar c = [Byte.ofChar c] := by
    have hle : c.val.toNat ≤ 127 := Nat.le_of_lt_succ hc
    rw [String.utf8EncodeChar, if_pos hle]
    rfl
  rw [Text.bytes, List.flatMap_cons, hchar]
  rfl

theorem exists_of_bytes_eq (hc : c.toNat < 0x80) {t : Text} {front back : Bytes}
    (h : t.bytes = front ++ Byte.ofChar c :: back) :
    ∃ u v : Text, t = u ++ c :: v ∧ u.bytes = front ∧ v.bytes = back := by
  induction t generalizing front with
  | nil => simp [Text.bytes] at h
  | cons d t ih =>
    have hd : Text.bytes (d :: t) = Text.bytes [d] ++ Text.bytes t := bytes_append [d] t
    have hcut :
        (∃ rest, front = Text.bytes [d] ++ rest ∧ Text.bytes t = rest ++ Byte.ofChar c :: back) ∨
        ∃ rest, Text.bytes [d] = front ++ Byte.ofChar c :: rest ∧
          back = rest ++ Text.bytes t := by
      rcases List.append_eq_append_iff.mp (hd.symm.trans h) with
        ⟨rest, hfront, ht⟩ | ⟨rest, hfirst, hback⟩
      · exact .inl ⟨rest, hfront, ht⟩
      · cases rest with
        | nil => exact .inl ⟨[], by simpa using hfirst.symm, by simpa using hback.symm⟩
        | cons b rest =>
          obtain ⟨rfl, hrest⟩ := List.cons.inj hback
          exact .inr ⟨rest, hfirst, hrest⟩
    rcases hcut with ⟨rest, rfl, ht⟩ | ⟨rest, hfirst, rfl⟩
    · obtain ⟨u, v, rfl, rfl, rfl⟩ := ih ht
      exact ⟨d :: u, v, rfl, bytes_append [d] u, rfl⟩
    · have hmem : c ∈ [d] := by
        rw [← mem_bytes_iff hc, hfirst]
        simp
      obtain rfl := List.mem_singleton.mp hmem
      rw [bytes_cons hc, eq_comm, List.append_eq_cons_iff] at hfirst
      rcases hfirst with ⟨rfl, hrest⟩ | ⟨front, -, hrest⟩
      · obtain rfl : rest = [] := by simpa [Text.bytes] using hrest
        exact ⟨[], t, rfl, rfl, rfl⟩
      · simp [Text.bytes] at hrest

private theorem splitOn_append {front : Bytes} (h : b ∉ front) (rest : Bytes) :
    (front ++ rest).splitOn b = (rest.splitOn b).modifyHead (front ++ ·) := by
  induction front with
  | nil => exact (congrFun List.modifyHead_id _).symm
  | cons d front ih =>
    obtain ⟨hd, hfront⟩ := not_or.mp (List.mem_cons.not.mp h)
    rw [List.cons_append, List.splitOn_cons_eq_if_modifyHead, if_neg (by simpa using Ne.symm hd),
      ih hfront, List.modifyHead_modifyHead]
    rfl

/-- Bytes are cut at an ASCII character where their text is. -/
theorem splitOn_bytes (hc : c.toNat < 0x80) (t : Text) :
    t.bytes.splitOn (Byte.ofChar c) = (t.splitOn c).map Text.bytes := by
  induction t with
  | nil => rfl
  | cons d t ih =>
    rw [List.splitOn_cons_eq_if_modifyHead]
    split
    · rename_i hd
      obtain rfl : d = c := by simpa using hd
      rw [bytes_cons hc, List.splitOn_cons_eq_if_modifyHead, if_pos (by simp), ih, List.map_cons]
      rfl
    · rename_i hd
      have hfront : Byte.ofChar c ∉ String.utf8EncodeChar d := by
        have hne : c ≠ d := fun h => hd (by simp [h])
        have hmem := (mem_bytes_iff hc [d]).not.mpr (by simpa using hne)
        simpa [Text.bytes] using hmem
      obtain ⟨first, more, hmore⟩ := List.exists_cons_of_ne_nil (List.splitOn_ne_nil c t)
      rw [Text.bytes, List.flatMap_cons, splitOn_append hfront]
      change List.modifyHead _ ((Text.bytes t).splitOn _) = _
      rw [ih, hmore]
      rfl

end Text
end ClassTypings
