import Criteria.Config.Basic
import Criteria.Toml.Word

/-! # TOML documents

The lines of a document are read one after the other. The keys after a header belong to its table,
which is put in its place when the next header comes. A flaw of the layout counts before any flaw of a
word, wherever they are. A configuration takes any reader of tables; `topLevel` is the one for these
documents.
-/

namespace Criteria.Toml

/-! ## Terms -/

mutual

def Term.value : Term → Reading Value
  | .word w => w.value
  | .array items => Value.array <$> valuesOf items
  | .table entries => Value.table .inline <$> entriesOf [] entries

def valuesOf : List Term → Reading (List Value)
  | [] => .ok []
  | t :: ts => do
    let v ← t.value
    return v :: (← valuesOf ts)

def entriesOf (es : Entries) : List (List Word × Term) → Reading Entries
  | [] => .ok es
  | (key, t) :: rest => do
    let (way, name) ← readPath key
    let v ← t.value
    entriesOf (← orMalformed (es.addDotted? name v way)) rest

end

/-! ## Lines -/

structure OpenTable where
  repeated : Bool
  way : List String
  name : String

structure Document where
  /-- All tables but the one that is open. -/
  root : Entries := []
  /-- The header of the open table. The first one, the root itself, has none. -/
  header : Option OpenTable := none
  /-- The entries of the open table. -/
  current : Entries := []

namespace Document

def close (d : Document) : Reading Entries :=
  match d.header with
  | none => .ok d.current
  | some t => orMalformed do
    let place (es : Entries) := (fun es => ((), es)) <$> es.putTable? t.repeated t.name d.current
    let ((), root) ← d.root.visit? place t.way
    return root

def start (root : Entries) (t : OpenTable) : Reading Document :=
  if t.repeated then .ok { root, header := some t }
  else orMalformed do
    let (current, root) ← root.visit? (·.takeOut? t.name) t.way
    return { root, header := some t, current }

def addLine (d : Document) : Line → Reading Document
  | .header repeated key => do
    let root ← d.close
    let (way, name) ← readPath key
    start root { repeated, way, name }
  | .assignment key t => do
    let (way, name) ← readPath key
    let v ← t.value
    return { d with current := ← orMalformed (d.current.addDotted? name v way) }

end Document

def read (s : String) : Reading Entries := do
  let lines ← orMalformed (layout? s.toList)
  let d ← lines.foldlM Document.addLine {}
  d.close

/-! ## The top level -/

/-- What a reader of other types makes of a value: a number may turn out unreadable only here. -/
def Value.read (v : Value) : Except String Shape :=
  match v.shape? with
  | none => .error Flaw.malformed.message
  | some s => .ok s

def topLevel : TableReader := fun document =>
  match read document with
  | .error flaw => .error flaw.message
  | .ok entries => .ok ((Listing.ofList entries).map fun e => (e.1, e.2.read))

theorem distinct_topLevel {document : String} {es : List (String × Except String Shape)}
    (h : topLevel document = .ok es) : Listing.Distinct es := by
  unfold topLevel at h
  split at h
  · cases h
  · rename_i entries _
    cases h
    rw [Listing.Distinct, List.map_map]
    exact (Listing.sorted_ofList entries).distinct

end Criteria.Toml
