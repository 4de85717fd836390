import Criteria.Decimal.Binary64
import Criteria.Listing
import Criteria.Text.Quoted

/-! # JSON values

The values that queries, configurations and reports are exchanged as, and the refusals of a reader
that met a value of another form than it expects.
-/

namespace Criteria

/-- An object lists its members by ascending name, each name once. -/
inductive Json
  | null
  | bool (b : Bool)
  | int (n : Int)
  | float (x : Binary64)
  | str (s : String)
  | arr (items : List Json)
  | obj (members : List (String × Json))
deriving Inhabited

/-- What a reader sees of a value that it does not descend into. Values of other notations have
the same shapes. -/
inductive Shape
  | null
  | bool (b : Bool)
  | int (n : Int)
  /-- A floating-point number, as its notation shows it. -/
  | float (text : String)
  | str (s : String)
  | sequence
  | map
  /-- The bare name of a variant. -/
  | bareVariant
deriving DecidableEq

def inWordRange (n : Int) : Bool := -0x8000000000000000 ≤ n && n < 0x10000000000000000

def Shape.describe : Shape → String
  | .null => "null"
  | .bool b => String.join ["boolean `", if b then "true" else "false", "`"]
  | .int n =>
    String.join ["integer `", toString n,
      if inWordRange n then "`"
      else if n < 0x80000000000000000000000000000000 then "` as i128"
      else "` as u128"]
  | .float text => String.join ["floating point `", text, "`"]
  | .str s => String.join ["string ", Text.quote s]
  | .sequence => "sequence"
  | .map => "map"
  | .bareVariant => "unit variant"

inductive Expected
  | text
  | boolean
  | sequence
  | map
  | unit
  | variant
  | singleKey
  /-- A natural number of one word: a size or a counter. -/
  | size
  | counter
  | record (name : String)
  /-- All the fields of a record, in order. -/
  | fields (name : String) (count : Nat)
  | fewerElements
  /-- What goes with the name of a variant: a record written inline, or a value. -/
  | recordContent
  | valueContent
deriving DecidableEq

def Expected.describe : Expected → String
  | .text => "a string"
  | .boolean => "a boolean"
  | .sequence => "a sequence"
  | .map => "a map"
  | .unit => "unit"
  | .variant => "string or map"
  | .singleKey => "map with a single key"
  | .size => "usize"
  | .counter => "u64"
  | .record name => String.join ["struct ", name]
  | .fields name count =>
    String.join ["struct ", name, " with ", toString count,
      if count = 1 then " element" else " elements"]
  | .fewerElements => "fewer elements in array"
  | .recordContent => "struct variant"
  | .valueContent => "newtype variant"

inductive ReadError
  | invalidType (found : Shape) (expected : Expected)
  | invalidValue (found : Shape) (expected : Expected)
  | invalidLength (length : Nat) (expected : Expected)
  | missingField (name : String)
  | unknownField (name : String) (known : List String)
  | unknownVariant (name : String) (known : List String)
deriving DecidableEq

namespace ReadError

def alternatives : List String → String
  | [a] => String.join ["`", a, "`"]
  | [a, b] => String.join ["`", a, "` or `", b, "`"]
  | names => String.join ["one of ", ", ".intercalate (names.map fun a => String.join ["`", a, "`"])]

def message : ReadError → String
  | .invalidType found expected =>
    String.join ["invalid type: ", found.describe, ", expected ", expected.describe]
  | .invalidValue found expected =>
    String.join ["invalid value: ", found.describe, ", expected ", expected.describe]
  | .invalidLength length expected =>
    String.join ["invalid length ", toString length, ", expected ", expected.describe]
  | .missingField name => String.join ["missing field `", name, "`"]
  | .unknownField name known =>
    String.join ["unknown field `", name, "`, expected ", alternatives known]
  | .unknownVariant name known =>
    String.join ["unknown variant `", name, "`, expected ", alternatives known]

end ReadError

namespace Json

def shape : Json → Shape
  | .null => .null
  | .bool b => .bool b
  | .int n => .int n
  | .float x => .float x.compactText
  | .str s => .str s
  | .arr _ => .sequence
  | .obj _ => .map

def ofStrings (xs : List String) : Json := .arr (xs.map .str)

def ofOption {α : Type} (write : α → Json) : Option α → Json
  | none => .null
  | some a => write a

def object (members : List (String × Json)) : Json := .obj (Listing.ofList members)

end Json

end Criteria
