import Criteria.Config.Basic

/-! # Settings

A configuration as it is written down: a table of plain values, in no order. A TOML document and a
JSON object may say the same table.
-/

namespace Criteria

/-- A value that tables of all notations may hold. -/
inductive Scalar
  | bool (b : Bool)
  | text (s : String)
  | int (n : { n : Int // inWordRange n = true })

namespace Scalar

def toJson : Scalar → Json
  | bool b => .bool b
  | text s => .str s
  | int n => .int n

def shape : Scalar → Shape
  | bool b => .bool b
  | text s => .str s
  | int n => .int n

def bool? : Scalar → Option Bool
  | bool b => some b
  | text _ => none
  | int _ => none

def size? : Scalar → Option Nat
  | bool _ => none
  | text _ => none
  | int n => if 0 ≤ n.val then some n.val.toNat else none

end Scalar

structure Settings where
  entries : List (String × Scalar)
  distinct : Listing.Distinct entries

namespace Settings

variable (t : Settings)

/-- The JSON value is an object with the members of the table, in any order. -/
def InJson (j : Json) : Prop :=
  ∃ es : List (String × Scalar), es.Perm t.entries ∧ j = .obj (es.map fun e => (e.1, e.2.toJson))

/-- The reader finds the entries of the table at the top level of the document, in any order. -/
def InToml (read : TableReader) (document : String) : Prop :=
  ∃ es : List (String × Scalar), es.Perm t.entries ∧
    read document = .ok (es.map fun e => (e.1, .ok e.2.shape))

/-- A name and its value set a field of a configuration. -/
inductive IsSetting : String × Scalar → Prop
  | debug (b : Bool) : IsSetting ("debug", .bool b)
  | metrics (b : Bool) : IsSetting ("metrics", .bool b)
  | maxPredicates {n : { n : Int // inWordRange n = true }} (h : 0 ≤ n.val) :
    IsSetting ("max_predicates", .int n)

def given {α : Type} (es : List (String × Scalar)) (name : String) (read? : Scalar → Option α)
    (default : α) : α :=
  ((es.lookup name).bind read?).getD default

def overlay (c : Config) (es : List (String × Scalar)) : Config where
  debug := given es "debug" Scalar.bool? c.debug
  metrics := given es "metrics" Scalar.bool? c.metrics
  maxPredicates := given es "max_predicates" (fun v => v.size?.map some) c.maxPredicates

def config : Config := overlay {} t.entries

end Settings

end Criteria
