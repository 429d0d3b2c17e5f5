import ClassTypings.Text.Basic
/-!
# UTF-8

Names of files are bytes, and mostly the bytes of a text. Where bytes are shown as a text, those that
are no character become the replacement character: one for each longest piece that a character
could have begun with, and otherwise one for each byte.
-/
namespace ClassTypings

/-- Bytes in a row. -/
abbrev Bytes := List UInt8

namespace Byte

def ofChar (c : Char) : UInt8 := UInt8.ofNat c.toNat

abbrev slash : UInt8 := ofChar '/'
abbrev dot : UInt8 := ofChar '.'
abbrev nul : UInt8 := ofChar '\x00'
abbrev dash : UInt8 := ofChar '-'
abbrev equals : UInt8 := ofChar '='

end Byte

def Text.bytes (t : Text) : Bytes := t.flatMap String.utf8EncodeChar

instance : Coe String Bytes := ⟨fun s => Text.bytes s.toList⟩

/-- A character whose first bytes have come: the number that they make up, the bounds of the next
byte, and how many bytes follow that one. -/
structure BegunChar where
  number : Nat
  least : Nat
  greatest : Nat
  more : Nat
  deriving DecidableEq, Repr

namespace BegunChar

/-- What a first byte begins. The bounds leave out numbers that take fewer bytes, those that are no
characters and those beyond the last one. -/
def ofFirst? (b : Nat) : Option BegunChar :=
  if 0xC2 ≤ b ∧ b ≤ 0xDF then some ⟨b % 0x20, 0x80, 0xBF, 0⟩
  else if b = 0xE0 then some ⟨b % 0x10, 0xA0, 0xBF, 1⟩
  else if b = 0xED then some ⟨b % 0x10, 0x80, 0x9F, 1⟩
  else if 0xE1 ≤ b ∧ b ≤ 0xEF then some ⟨b % 0x10, 0x80, 0xBF, 1⟩
  else if b = 0xF0 then some ⟨b % 0x08, 0x90, 0xBF, 2⟩
  else if b = 0xF4 then some ⟨b % 0x08, 0x80, 0x8F, 2⟩
  else if 0xF1 ≤ b ∧ b ≤ 0xF3 then some ⟨b % 0x08, 0x80, 0xBF, 2⟩
  else none

/-- What has come after one byte more, or the whole character. -/
def next (c : BegunChar) (b : Nat) : BegunChar ⊕ Char :=
  let number := c.number * 0x40 + b % 0x40
  match c.more with
  | 0 => .inr (Char.ofNat number)
  | more + 1 => .inl ⟨number, 0x80, 0xBF, more⟩

end BegunChar

namespace Bytes

/-- What a byte makes out of a begun character: characters that are whole now, `none` being one that
is broken, and the character that has begun. -/
def first (b : UInt8) : List (Option Char) × Option BegunChar :=
  if b.toNat < 0x80 then ([some (Char.ofNat b.toNat)], none)
  else
    match BegunChar.ofFirst? b.toNat with
    | some begun => ([], some begun)
    | none => ([none], none)

def feed : Option BegunChar → UInt8 → List (Option Char) × Option BegunChar
  | none, b => first b
  | some c, b =>
    if c.least ≤ b.toNat ∧ b.toNat ≤ c.greatest then
      match c.next b.toNat with
      | .inl begun => ([], some begun)
      | .inr char => ([some char], none)
    else (none :: (first b).1, (first b).2)

/-- The characters of some bytes after a begun one, `none` being a piece that is no character. -/
def chars : Option BegunChar → Bytes → List (Option Char)
  | none, [] => []
  | some _, [] => [none]
  | begun, b :: rest => (feed begun b).1 ++ chars (feed begun b).2 rest

/-- Bytes as a text is shown. -/
def text (bytes : Bytes) : Text := (chars none bytes).map (·.getD '\uFFFD')

/-- The text that bytes are, if they are one. -/
def text? (bytes : Bytes) : Option Text :=
  if (text bytes).bytes = bytes then some (text bytes) else none

end Bytes
end ClassTypings
