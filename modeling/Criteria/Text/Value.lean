/-! # Values stored as text

A type whose stored form is a text has one conversion to it. Only the typed operations of a property
convert; the others take the text as it is.
-/

namespace Criteria

class TextValue (α : Type) where
  toText : α → String

export TextValue (toText)

instance : TextValue String := ⟨id⟩

instance : TextValue Char := ⟨fun c => String.ofList [c]⟩

/-! ## Sortable identifiers

An identifier of 128 bits: 48 bits of time in milliseconds above 80 random bits. Its text has 26
digits to the base 32, most significant first, so texts sort as the identifiers do.
-/

structure Ulid where
  bits : BitVec 128
deriving DecidableEq

namespace Ulid

/-- Excess high bits of either part are dropped. -/
def ofParts (millis random : Nat) : Ulid :=
  ⟨BitVec.ofNat 48 millis ++ BitVec.ofNat 80 random⟩

def ofNat (n : Nat) : Ulid := ⟨BitVec.ofNat 128 n⟩

/-- The digits leave out the letters I, L, O and U. -/
def digits : List Char :=
  ['0', '1', '2', '3', '4', '5', '6', '7', '8', '9', 'A', 'B', 'C', 'D', 'E', 'F', 'G', 'H', 'J',
    'K', 'M', 'N', 'P', 'Q', 'R', 'S', 'T', 'V', 'W', 'X', 'Y', 'Z']

/-- The last `width` digits of a number to the base 32, in front of `tail`. -/
def encodeTo (tail : List Char) (n : Nat) : (width : Nat) → List Char
  | 0 => tail
  | width + 1 => encodeTo (digits.getD (n % 32) '0' :: tail) (n / 32) width

def encode (u : Ulid) : String := String.ofList (encodeTo [] u.bits.toNat 26)

instance : TextValue Ulid := ⟨encode⟩

end Ulid

end Criteria
