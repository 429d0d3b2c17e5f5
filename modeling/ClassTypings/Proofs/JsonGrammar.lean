import ClassTypings.Text.Basic
import Mathlib.Data.List.Basic
/-!
# The grammar of JSON

JSON texts and the values that they mean: words, numbers, strings with their escapes, lists and
objects, with blanks between the parts. Main statement: a text means at most one value.
-/
namespace ClassTypings.Json

/-- A value. A number is kept as it is spelled, and an object as its fields in order. -/
inductive Value where
  | null
  | bool (b : Bool)
  | number (spelling : Text)
  | string (t : Text)
  | list (items : List Value)
  | object (fields : List (Text × Value))

def isSpace (c : Char) : Bool := c == ' ' || c == '\t' || c == '\n' || c == '\r'

/-- The text without the blanks at its front. -/
def skip (t : Text) : Text := t.dropWhile isSpace

def escape? : Char → Option Char
  | '"' => some '"'
  | '\\' => some '\\'
  | '/' => some '/'
  | 'b' => some '\x08'
  | 'f' => some '\x0c'
  | 'n' => some '\n'
  | 'r' => some '\r'
  | 't' => some '\t'
  | _ => none

def hexDigit? (c : Char) : Option Nat :=
  if c.isDigit then some (c.toNat - 48)
  else if 'a' ≤ c ∧ c ≤ 'f' then some (c.toNat - 87)
  else if 'A' ≤ c ∧ c ≤ 'F' then some (c.toNat - 55)
  else none

/-- Four hexadecimal digits, which spell a unit of UTF-16. -/
def unit? : Text → Option (Nat × Text)
  | a :: b :: c :: d :: t => do
    let a ← hexDigit? a
    let b ← hexDigit? b
    let c ← hexDigit? c
    let d ← hexDigit? d
    some (4096 * a + 256 * b + 16 * c + d, t)
  | _ => none

/-- Whether a unit is the first half of a character. -/
def isHighHalf (unit : Nat) : Bool := 0xd800 ≤ unit && unit < 0xdc00

def isLowHalf (unit : Nat) : Bool := 0xdc00 ≤ unit && unit < 0xe000

/-- The character that units spell: one unit, or two halves of which the second is escaped too. A
half without the other spells nothing. -/
def unitChar? (t : Text) : Option (Char × Text) := do
  let (unit, t) ← unit? t
  if isHighHalf unit then
    let t ← Text.after? "\\u".toList t
    let (low, t) ← unit? t
    if isLowHalf low then
      some (Char.ofNat (0x10000 + 0x400 * (unit - 0xd800) + (low - 0xdc00)), t)
    else none
  else if isLowHalf unit then none
  else some (Char.ofNat unit, t)

/-- One character between the quotes of a string. A quote, a backslash and the controls below the
space do not stand for themselves. -/
def char? : Text → Option (Char × Text)
  | '\\' :: 'u' :: t => unitChar? t
  | '\\' :: c :: t => (escape? c).map (·, t)
  | c :: t => if c = '"' ∨ c = '\\' ∨ c < ' ' then none else some (c, t)
  | [] => none

private theorem length_lt_of_unit? {t rest : Text} {unit : Nat} (h : unit? t = some (unit, rest)) :
    rest.length < t.length := by
  unfold unit? at h
  split at h
  · simp only [Option.bind_eq_bind, Option.bind_eq_some_iff, Option.some.injEq,
      Prod.mk.injEq] at h
    obtain ⟨_, -, _, -, _, -, _, -, -, rfl⟩ := h
    simp only [List.length_cons]
    omega
  · simp at h

private theorem length_lt_of_unitChar? {t rest : Text} {c : Char}
    (h : unitChar? t = some (c, rest)) :
    rest.length < t.length := by
  simp only [unitChar?, Option.bind_eq_bind, Option.bind_eq_some_iff, Prod.exists] at h
  obtain ⟨unit, t₁, hunit, h⟩ := h
  have := length_lt_of_unit? hunit
  split at h
  · simp only [Option.bind_eq_some_iff, Prod.exists] at h
    obtain ⟨t₂, hmark, low, t₃, hlow, h⟩ := h
    have := Text.length_of_after? hmark
    have := length_lt_of_unit? hlow
    split at h
    · simp only [Option.some.injEq, Prod.mk.injEq] at h
      obtain ⟨-, rfl⟩ := h
      omega
    · simp at h
  · split at h
    · simp at h
    · simp only [Option.some.injEq, Prod.mk.injEq] at h
      obtain ⟨-, rfl⟩ := h
      assumption

private theorem length_lt_of_char? {t rest : Text} {c : Char} (h : char? t = some (c, rest)) :
    rest.length < t.length := by
  unfold char? at h
  split at h
  · have := length_lt_of_unitChar? h
    simp only [List.length_cons]
    omega
  · obtain ⟨_, -, heq⟩ := Option.map_eq_some_iff.mp h
    obtain ⟨-, rfl⟩ := Prod.mk.inj heq
    simp only [List.length_cons]
    omega
  · split at h
    · simp at h
    · simp only [Option.some.injEq, Prod.mk.injEq] at h
      obtain ⟨-, rfl⟩ := h
      simp
  · simp at h

/-- The characters up to the quote that ends a string. -/
def chars? (t : Text) : Option (Text × Text) :=
  match _h : char? t with
  | some (c, u) => (chars? u).map fun (s, rest) => (c :: s, rest)
  | none => (Text.after? ['"'] t).map fun rest => ([], rest)
termination_by t.length
decreasing_by exact length_lt_of_char? _h

def string? (t : Text) : Option (Text × Text) := do
  let t ← Text.after? ['"'] t
  chars? t

example : string? "\"\\u00E9\\ud83d\\ude00\\/\",".toList = some ("é😀/".toList, [',']) := by
  decide +kernel

def afterDigits? (t : Text) : Option Text := (Text.run? Char.isDigit t).map Prod.snd

/-- What stands behind the digits of a whole number, which has no zero in front. -/
def afterWhole? : Text → Option Text
  | '0' :: t => some t
  | t => afterDigits? t

def afterFraction? : Text → Option Text
  | '.' :: t => afterDigits? t
  | t => some t

def afterExponent? : Text → Option Text
  | c :: t =>
    if c = 'e' ∨ c = 'E' then
      match t with
      | '+' :: t => afterDigits? t
      | '-' :: t => afterDigits? t
      | t => afterDigits? t
    else some (c :: t)
  | [] => some []

def afterNumber? (t : Text) : Option Text := do
  let t ← afterWhole? ((Text.after? ['-'] t).getD t)
  let t ← afterFraction? t
  afterExponent? t

def number? (t : Text) : Option (Text × Text) :=
  (afterNumber? t).map fun rest => (t.take (t.length - rest.length), rest)

def words : List (Text × Value) :=
  [("null".toList, .null), ("true".toList, .bool true), ("false".toList, .bool false)]

def word? (t : Text) : Option (Value × Text) :=
  words.findSome? fun (word, v) => (Text.after? word t).map (v, ·)

/-- A value that holds no other values. -/
def scalar? (t : Text) : Option (Value × Text) :=
  ((string? t).map fun (s, rest) => (.string s, rest)) <|>
    ((number? t).map fun (s, rest) => (.number s, rest)) <|> word? t

/-- What stands between commas: a value of a list, or a field of an object. -/
inductive Item where
  | value
  | field

abbrev Item.Meaning : Item → Type
  | value => Value
  | field => Text × Value

/-- The bracket behind the last item. -/
def Item.close : Item → Char
  | value => ']'
  | field => '\x7d'

/-- A part of a text: an item, all items up to the closing bracket, or the items that come after
one. -/
inductive Part where
  | one (i : Item)
  | all (i : Item)
  | further (i : Item)

abbrev Part.Meaning : Part → Type
  | one i => i.Meaning
  | all i => List i.Meaning
  | further i => List i.Meaning

/-- The text starts with a part of this meaning, and `rest` stands behind it. Blanks may stand on
both sides of every bracket, comma and colon. -/
inductive Reads : (p : Part) → p.Meaning → Text → Text → Prop
  | scalar {v t rest} (h : scalar? t = some (v, rest)) : Reads (.one .value) v t rest
  | list {vs t u rest} (hopen : Text.after? ['['] t = some u)
      (hitems : Reads (.all .value) vs (skip u) rest) : Reads (.one .value) (.list vs) t rest
  | object {fs t u rest} (hopen : Text.after? ['\x7b'] t = some u)
      (hitems : Reads (.all .field) fs (skip u) rest) : Reads (.one .value) (.object fs) t rest
  | field {name v t u w rest} (hname : string? t = some (name, u))
      (hcolon : Text.after? [':'] (skip u) = some w)
      (hvalue : Reads (.one .value) v (skip w) rest) : Reads (.one .field) (name, v) t rest
  | none {i t rest} (hclose : Text.after? [i.close] t = some rest) : Reads (.all i) [] t rest
  | some {i a as t u rest} (hitem : Reads (.one i) a t u)
      (hfurther : Reads (.further i) as (skip u) rest) : Reads (.all i) (a :: as) t rest
  | last {i t rest} (hclose : Text.after? [i.close] t = some rest) :
      Reads (.further i) [] t rest
  | next {i a as t u w rest} (hcomma : Text.after? [','] t = some u)
      (hitem : Reads (.one i) a (skip u) w) (hfurther : Reads (.further i) as (skip w) rest) :
      Reads (.further i) (a :: as) t rest

/-- The text is a JSON text, and `v` is its value. -/
def Means (t : Text) (v : Value) : Prop :=
  ∃ rest, Reads (.one .value) v (skip t) rest ∧ skip rest = []

private theorem scalar?_of_bracket {c : Char} (h : c ∈ ['[', ']', '\x7b', '\x7d']) {t u : Text}
    (ht : Text.after? [c] t = some u) : scalar? t = none := by
  obtain rfl := Text.after?_eq_some_iff.mp ht
  simp only [List.mem_cons, List.not_mem_nil, or_false] at h
  rcases h with rfl | rfl | rfl | rfl <;> rfl

private theorem after?_of_ne {c d : Char} (h : c ≠ d) {t u : Text}
    (ht : Text.after? [c] t = some u) :
    Text.after? [d] t = none := by
  obtain rfl := Text.after?_eq_some_iff.mp ht
  simp [Text.after?, h.symm]

private theorem Item.comma_ne_close (i : Item) : ',' ≠ i.close := by cases i <;> decide

private theorem not_reads_of_close {i : Item} {a : i.Meaning} {t rest u : Text}
    (hclose : Text.after? [i.close] t = some u) : ¬ Reads (.one i) a t rest := by
  have hscalar : scalar? t = none := scalar?_of_bracket (by cases i <;> decide) hclose
  intro h
  cases h with
  | scalar h => exact nomatch hscalar.symm.trans h
  | list hopen => exact nomatch (after?_of_ne (by decide) hopen).symm.trans hclose
  | object hopen => exact nomatch (after?_of_ne (by decide) hopen).symm.trans hclose
  | field hname =>
    obtain ⟨w, hquote, -⟩ := Option.bind_eq_some_iff.mp hname
    exact nomatch (after?_of_ne (by decide) hquote).symm.trans hclose

/-- The first character of a part decides which of its forms it has, and each form is read in one
way only. -/
theorem Reads.unique {p : Part} {a b : p.Meaning} {t rest rest' : Text} (h : Reads p a t rest)
    (h' : Reads p b t rest') : a = b ∧ rest = rest' := by
  induction h generalizing rest' with
  | scalar h =>
    cases h' with
    | scalar h' =>
      rw [h] at h'
      simpa using h'
    | list hopen => exact nomatch (scalar?_of_bracket (by decide) hopen).symm.trans h
    | object hopen => exact nomatch (scalar?_of_bracket (by decide) hopen).symm.trans h
  | list hopen hitems ih =>
    cases h' with
    | scalar h' => exact nomatch (scalar?_of_bracket (by decide) hopen).symm.trans h'
    | list hopen' hitems' =>
      obtain rfl : _ = _ := Option.some.inj (hopen.symm.trans hopen')
      obtain ⟨rfl, rfl⟩ := ih hitems'
      exact ⟨rfl, rfl⟩
    | object hopen' => exact nomatch (after?_of_ne (by decide) hopen).symm.trans hopen'
  | object hopen hitems ih =>
    cases h' with
    | scalar h' => exact nomatch (scalar?_of_bracket (by decide) hopen).symm.trans h'
    | list hopen' => exact nomatch (after?_of_ne (by decide) hopen).symm.trans hopen'
    | object hopen' hitems' =>
      obtain rfl : _ = _ := Option.some.inj (hopen.symm.trans hopen')
      obtain ⟨rfl, rfl⟩ := ih hitems'
      exact ⟨rfl, rfl⟩
  | field hname hcolon hvalue ih =>
    cases h' with
    | field hname' hcolon' hvalue' =>
      obtain ⟨rfl, rfl⟩ := Prod.mk.inj (Option.some.inj (hname.symm.trans hname'))
      obtain rfl : _ = _ := Option.some.inj (hcolon.symm.trans hcolon')
      obtain ⟨rfl, rfl⟩ := ih hvalue'
      exact ⟨rfl, rfl⟩
  | none hclose =>
    cases h' with
    | none hclose' => exact ⟨rfl, Option.some.inj (hclose.symm.trans hclose')⟩
    | some hitem => exact absurd hitem (not_reads_of_close hclose)
  | some hitem hfurther ihItem ih =>
    cases h' with
    | none hclose' => exact absurd hitem (not_reads_of_close hclose')
    | some hitem' hfurther' =>
      obtain ⟨rfl, rfl⟩ := ihItem hitem'
      obtain ⟨rfl, rfl⟩ := ih hfurther'
      exact ⟨rfl, rfl⟩
  | @last i _ _ hclose =>
    cases h' with
    | last hclose' => exact ⟨rfl, Option.some.inj (hclose.symm.trans hclose')⟩
    | next hcomma => exact nomatch (after?_of_ne i.comma_ne_close hcomma).symm.trans hclose
  | @next i _ _ _ _ _ _ hcomma hitem hfurther ihItem ih =>
    cases h' with
    | last hclose' => exact nomatch (after?_of_ne i.comma_ne_close hcomma).symm.trans hclose'
    | next hcomma' hitem' hfurther' =>
      obtain rfl : _ = _ := Option.some.inj (hcomma.symm.trans hcomma')
      obtain ⟨rfl, rfl⟩ := ihItem hitem'
      obtain ⟨rfl, rfl⟩ := ih hfurther'
      exact ⟨rfl, rfl⟩

theorem Means.unique {t : Text} {v v' : Value} (h : Means t v) (h' : Means t v') : v = v' := by
  obtain ⟨rest, hreads, -⟩ := h
  obtain ⟨rest', hreads', -⟩ := h'
  exact (hreads.unique hreads').1

end ClassTypings.Json
