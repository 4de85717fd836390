import Criteria.Json.Basic

/-! # TOML values

A document is a table of values. How a table came about decides what may still be added to it: a
name is never given twice, and a table written out at one place is not continued at another.
-/

namespace Criteria.Toml

inductive Origin
  /-- Between braces, complete as it stands. -/
  | inline
  /-- Under a header of its own. -/
  | header
  /-- Passed through by the header of another table. -/
  | implied
  /-- Passed through by a dotted key. -/
  | dotted
deriving DecidableEq

inductive Value
  | text (s : String)
  /-- A number that cannot be read has no value. -/
  | integer (n : Option Int)
  | float (x : Option Binary64)
  | bool (b : Bool)
  /-- A date, a time or both; which one is of no account to a reader of other types. -/
  | datetime
  | array (items : List Value)
  | table (origin : Origin) (entries : List (String × Value))
  /-- Tables under repeated headers. The last one is open. -/
  | tables (earlier : List (List (String × Value))) (last : List (String × Value))

abbrev Entries := List (String × Value)

def Value.shape? : Value → Option Shape
  | text s => some (.str s)
  | integer n => n.map .int
  | float x => x.map fun x => .float x.positionalText
  | bool b => some (.bool b)
  | datetime => some .map
  | array _ => some .sequence
  | table .. => some .map
  | tables .. => some .sequence

namespace Entries

def put (name : String) (v : Value) : Entries → Entries
  | [] => [(name, v)]
  | (n, w) :: rest => if n = name then (n, v) :: rest else (n, w) :: put name v rest

def remove (name : String) (es : Entries) : Entries := es.filter (·.1 != name)

def putNew? (name : String) (v : Value) (es : Entries) : Option Entries :=
  if (es.lookup name).isSome then none else some (es.put name v)

/-- Gives a value to a dotted key. The tables on the way are made by dotted keys, or are taken over by
them where a header only passed through. The last of repeated tables may be walked, yet not be given
a value. -/
def addDotted? (name : String) (v : Value) : (way : List String) → Entries → Option Entries
  | [], es => es.putNew? name v
  | step :: way, es =>
    match es.lookup step with
    | none => do
      let sub ← addDotted? name v way []
      return es.put step (.table .dotted sub)
    | some (.table .dotted sub) | some (.table .implied sub) => do
      let sub ← addDotted? name v way sub
      return es.put step (.table .dotted sub)
    | some (.tables earlier last) => do
      guard !way.isEmpty
      let last ← addDotted? name v way last
      return es.put step (.tables earlier last)
    | some _ => none

/-- Visits the table that a header leads to. The tables on the way that are not there yet are implied
by it. -/
def visit? {α : Type} (f : Entries → Option (α × Entries)) :
    (way : List String) → Entries → Option (α × Entries)
  | [], es => f es
  | step :: way, es =>
    match es.lookup step with
    | none => do
      let (a, sub) ← visit? f way []
      return (a, es.put step (.table .implied sub))
    | some (.table .inline _) => none
    | some (.table origin sub) => do
      let (a, sub) ← visit? f way sub
      return (a, es.put step (.table origin sub))
    | some (.tables earlier last) => do
      let (a, last) ← visit? f way last
      return (a, es.put step (.tables earlier last))
    | some _ => none

/-- Takes out what is there under the name of a header: nothing, or a table that was only passed
through so far. -/
def takeOut? (name : String) (es : Entries) : Option (Entries × Entries) :=
  match es.lookup name with
  | none => some ([], es)
  | some (.table .implied sub) => some (sub, es.remove name)
  | some _ => none

/-- Puts a table under the name of its header, after those of the same header when it is repeated. -/
def putTable? (repeated : Bool) (name : String) (es sub : Entries) : Option Entries :=
  if !repeated then some (es.put name (.table .header sub))
  else
    match es.lookup name with
    | none => some (es.put name (.tables [] sub))
    | some (.tables earlier last) => some (es.put name (.tables (earlier ++ [last]) sub))
    | some _ => none

end Entries

end Criteria.Toml
