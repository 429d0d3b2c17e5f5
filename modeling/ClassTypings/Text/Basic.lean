/-!
# Text

A text is the list of its characters, so that each rule about texts is a recursion on a list. What
counts as space is a character with the `White_Space` property of Unicode.
-/
namespace ClassTypings

/-- A text, as the list of its characters. -/
abbrev Text := List Char

namespace Text

/-- The text without the longest runs of `p` at its two ends. -/
def trim (p : Char → Bool) (t : Text) : Text :=
  ((t.dropWhile p).reverse.dropWhile p).reverse

def ofNat (n : Nat) : Text := Nat.toDigits 10 n

/-- A number in decimal digits, after `-` when it is negative. -/
def ofInt : Int → Text
  | .ofNat n => ofNat n
  | .negSucc n => '-' :: ofNat (n + 1)

def utf8Size : Text → Nat
  | [] => 0
  | c :: t => c.utf8Size + utf8Size t

/-- The letters `A` to `Z` made small; every other character is kept. -/
def asciiLower (t : Text) : Text := t.map Char.toLower

end Text

/-- A blank: a character with the `White_Space` property. -/
def isBlank (c : Char) : Bool :=
  ('\t' ≤ c && c ≤ '\r') || c == ' ' || c == '\x85' || c == '\xa0' || c == '\u1680' ||
    ('\u2000' ≤ c && c ≤ '\u200a') || c == '\u2028' || c == '\u2029' || c == '\u202f' ||
    c == '\u205f' || c == '\u3000'

/-! ## Reading rules

A rule reads at the front of a text. `firstReading` tries a rule at every place from left to right;
`Rule.readings` collects what a rule reads, going on after the end of each reading. -/

namespace Text

/-- The first thing that `read` finds, at the leftmost place where it finds one. A place counts when
`starts` holds of the character before it, `none` being the start of the text. -/
def firstReading {α : Type} (starts : Option Char → Bool) (read : Text → Option α) :
    Option Char → Text → Option α
  | before, [] => if starts before then read [] else none
  | before, c :: r =>
    match if starts before then read (c :: r) else none with
    | some a => some a
    | none => firstReading starts read (some c) r

/-- What stands after `front` at the start of a text, if the text starts with `front`. -/
def after? : Text → Text → Option Text
  | [], t => some t
  | _ :: _, [] => none
  | a :: front, c :: t => if a = c then after? front t else none

theorem after?_eq_some_iff {front t rest : Text} :
    after? front t = some rest ↔ t = front ++ rest := by
  induction front generalizing t with
  | nil => simp [after?]
  | cons a front ih =>
    cases t with
    | nil => simp [after?]
    | cons c t =>
      by_cases h : a = c
      · simp [after?, h, ih]
      · simp [after?, h, Ne.symm h]

theorem length_of_after? {front t rest : Text} (h : after? front t = some rest) :
    t.length = front.length + rest.length := by
  simp [after?_eq_some_iff.mp h]

/-- What stands before and after the first `mark` of a text. -/
def around? (mark : Text) : Text → Option (Text × Text)
  | [] => none
  | c :: t =>
    match after? mark (c :: t) with
    | some rest => some ([], rest)
    | none => (around? mark t).map fun (front, rest) => (c :: front, rest)

/-- The longest run of `p` at the front and the rest, if the run is not empty. -/
def run? (p : Char → Bool) (t : Text) : Option (Text × Text) :=
  match t.takeWhile p with
  | [] => none
  | c :: r => some (c :: r, t.dropWhile p)

theorem run?_eq_some {p : Char → Bool} {t word rest : Text} (h : run? p t = some (word, rest)) :
    word ≠ [] ∧ t = word ++ rest ∧ (∀ c ∈ word, p c) ∧ ∀ c, rest.head? = some c → ¬ p c := by
  unfold run? at h
  split at h
  · simp at h
  · rename_i c r hw
    obtain ⟨rfl, rfl⟩ : c :: r = word ∧ t.dropWhile p = rest := by simpa using h
    refine ⟨by simp, ?_, ?_, ?_⟩
    · rw [← hw, List.takeWhile_append_dropWhile]
    · intro d hd
      rw [← hw] at hd
      exact List.all_eq_true.mp (List.all_takeWhile) d hd
    · intro d hd
      have := List.head?_dropWhile_not p t
      rw [hd] at this
      simpa using this

theorem length_lt_of_run? {p : Char → Bool} {t word rest : Text}
    (h : run? p t = some (word, rest)) : rest.length < t.length := by
  obtain ⟨hne, rfl, -⟩ := run?_eq_some h
  have := List.length_pos_iff.mpr hne
  simp
  omega

theorem length_dropWhile_le (p : Char → Bool) (t : Text) :
    (t.dropWhile p).length ≤ t.length :=
  (List.dropWhile_sublist p).length_le

end Text

/-- A rule that takes something off the front of a text. Its reading is never empty. -/
structure Rule (α : Type) where
  read : Text → Option (α × Text)
  shortens : ∀ {t a rest}, read t = some (a, rest) → rest.length < t.length

/-- All readings of the rule from left to right; the next begins where the last one ended. -/
def Rule.readings {α : Type} (rule : Rule α) : Text → List α
  | [] => []
  | c :: r =>
    match _h : rule.read (c :: r) with
    | some (a, rest) => a :: rule.readings rest
    | none => rule.readings r
termination_by t => t.length
decreasing_by
  · exact rule.shortens _h
  · simp

/-- The readings of the rule that stand one after another at the front of the text. -/
def Rule.series {α : Type} (rule : Rule α) (t : Text) : List α :=
  match _h : rule.read t with
  | some (a, rest) => a :: rule.series rest
  | none => []
termination_by t.length
decreasing_by exact rule.shortens _h

end ClassTypings
