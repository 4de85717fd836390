import Criteria.Json.Read

/-! # Query configuration

The switches of a query. Each has a default, so a table may leave out any of them; a name that is
none of theirs is refused. A table says the same whatever notation it was written in.
-/

namespace Criteria

structure Config where
  /-- Print the query when it is built. -/
  debug : Bool := false
  /-- Report appended predicates and built queries. -/
  metrics : Bool := true
  /-- The most leaves a query may have. -/
  maxPredicates : Option Nat := none
deriving DecidableEq, Repr

namespace Config

instance : Inhabited Config := ⟨{}⟩

def withDebug (c : Config) (debug : Bool) : Config := { c with debug }

def withMaxPredicates (c : Config) (limit : Nat) : Config := { c with maxPredicates := some limit }

inductive Field
  | debug
  | metrics
  | maxPredicates
deriving DecidableEq, Repr

namespace Field

def all : List Field := [debug, metrics, maxPredicates]

def name : Field → String
  | debug => "debug"
  | metrics => "metrics"
  | maxPredicates => "max_predicates"

def named (s : String) : Except ReadError Field :=
  match all.find? fun f => f.name = s with
  | some f => .ok f
  | none => .error (.unknownField s (all.map name))

end Field

def readLimit : Shape → Except ReadError (Option Nat)
  | .null => .ok none
  | s => some <$> s.toWord .size

def set (c : Config) (f : Field) (value : Shape) : Except ReadError Config :=
  match f with
  | .debug => return { c with debug := ← value.toBool }
  | .metrics => return { c with metrics := ← value.toBool }
  | .maxPredicates => return { c with maxPredicates := ← readLimit value }

def setNamed (c : Config) (member : String × Shape) : Except ReadError Config := do
  c.set (← Field.named member.1) member.2

/-- Reads a table of distinct names, listed in ascending order. -/
def ofTable (members : List (String × Shape)) : Except ReadError Config :=
  members.foldlM setNamed {}

def ofItems (items : List Shape) : Except ReadError Config := do
  let c ← ofTable ((Field.all.map Field.name).zip items)
  if Field.all.length < items.length then
    .error (.invalidLength items.length .fewerElements)
  else return c

def ofJson : Json.Reader Config :=
  Json.readRecord "QueryConfig"
    (fun members => ofTable (members.map fun m => (m.1, m.2.shape)))
    (fun items => ofItems (items.map Json.shape))

def toJson (c : Config) : Json :=
  .obj [("debug", .bool c.debug),
    ("max_predicates", Json.ofOption (fun n : Nat => .int n) c.maxPredicates),
    ("metrics", .bool c.metrics)]

end Config

/-! ## Documents

A document is read as a whole before any of its names is looked at. Its notation is a matter of the
reader that it is handed to, and so is the text of a flaw that the reader finds.
-/

/-- Reads the top level of a document: each name there with its value, or with the reason why the value
cannot be read. -/
abbrev TableReader := String → Except String (List (String × Except String Shape))

inductive ConfigError
  | parse (reason : String)
deriving DecidableEq

def ConfigError.message : ConfigError → String
  | .parse reason => "invalid query config: " ++ reason

def ConfigError.ofRead (e : ReadError) : ConfigError := .parse e.message

namespace Config

/-- A value that cannot be read is no flaw as long as no field asks for it. -/
def setEntry (c : Config) (entry : String × Except String Shape) : Except ConfigError Config := do
  let f ← (Field.named entry.1).mapError .ofRead
  let s ← entry.2.mapError .parse
  (c.set f s).mapError .ofRead

theorem setEntry_ok (c : Config) (name : String) (s : Shape) :
    c.setEntry (name, .ok s) = (c.setNamed (name, s)).mapError .ofRead := by
  simp only [setEntry, setNamed]
  cases Field.named name <;> rfl

def ofToml (read : TableReader) (document : String) : Except ConfigError Config := do
  (← (read document).mapError .parse).foldlM setEntry {}

end Config

end Criteria
