import Criteria.Listing
import Criteria.Spec.Basic

/-! # Events and counters

What is reported while queries are made. A junction appended as a whole is reported by nobody: only
leaves and opened junctions count.
-/

namespace Criteria

inductive LeafKind
  | compare (op : CompareOp) (casing : Casing)
  | textMatch
  | null
  | inList
deriving DecidableEq, Repr

def Leaf.kind : Leaf → LeafKind
  | .compare c => .compare c.op c.casing
  | .textMatch .. => .textMatch
  | .isNull _ => .null
  | .isNotNull _ => .null
  | .inList .. => .inList

inductive Event
  | predicateAppended (kind : LeafKind)
  | junctionOpened (kind : JunctionKind)
  | queryBuilt (entity : String) (predicates : Nat) (route : Route)
  | buildFailed (entity : String)
deriving DecidableEq, Repr

/-! ## Counters

The running totals of all events, over all queries and by entity. A total that has reached the
largest word stays there. The entities are listed by ascending name, each once.
-/

abbrev Counter := UInt64

/-- Adds, up to the largest word. -/
def Counter.add (c : Counter) (n : Nat) : Counter := UInt64.ofNat (min (c.toNat + n) (UInt64.size - 1))

def Counter.addIf (c : Counter) (b : Bool) : Counter := if b then c.add 1 else c

structure OperationCounters where
  predicatesAppended : Counter := 0
  patternPredicates : Counter := 0
  caseInsensitivePredicates : Counter := 0
  textMatches : Counter := 0
  junctionsOpened : Counter := 0
  queriesBuilt : Counter := 0
  docStoreRoutes : Counter := 0
  buildFailures : Counter := 0
deriving DecidableEq

structure EntityCounters where
  queriesBuilt : Counter := 0
  predicatesBuilt : Counter := 0
  buildFailures : Counter := 0
deriving DecidableEq

/-! ## Totals by entity -/

structure EntityTable where
  entries : Listing EntityCounters
  sorted : entries.Sorted
deriving DecidableEq

namespace EntityTable

def empty : EntityTable := ⟨[], .nil⟩

def update (t : EntityTable) (name : String) (f : EntityCounters → EntityCounters) : EntityTable :=
  ⟨t.entries.update name f {}, t.sorted.update⟩

def get? (t : EntityTable) (name : String) : Option EntityCounters := t.entries.lookup name

end EntityTable

structure Report where
  ops : OperationCounters := {}
  entities : EntityTable := .empty
deriving DecidableEq

namespace OperationCounters

def tally (c : OperationCounters) : Event → OperationCounters
  | .predicateAppended kind =>
    let c := { c with predicatesAppended := c.predicatesAppended.add 1 }
    match kind with
    | .compare op casing =>
      { c with
        patternPredicates := c.patternPredicates.addIf op.isPattern
        caseInsensitivePredicates := c.caseInsensitivePredicates.addIf casing.isInsensitive }
    | .textMatch => { c with textMatches := c.textMatches.add 1 }
    | .null | .inList => c
  | .junctionOpened _ => { c with junctionsOpened := c.junctionsOpened.add 1 }
  | .queryBuilt _ _ route =>
    { c with
      queriesBuilt := c.queriesBuilt.add 1
      docStoreRoutes := c.docStoreRoutes.addIf (route = .docStore) }
  | .buildFailed _ => { c with buildFailures := c.buildFailures.add 1 }

end OperationCounters

namespace EntityTable

def tally (t : EntityTable) : Event → EntityTable
  | .queryBuilt entity predicates _ =>
    t.update entity fun c =>
      { c with
        queriesBuilt := c.queriesBuilt.add 1
        predicatesBuilt := c.predicatesBuilt.add predicates }
  | .buildFailed entity =>
    t.update entity fun c => { c with buildFailures := c.buildFailures.add 1 }
  | .predicateAppended _ | .junctionOpened _ => t

end EntityTable

def Report.tally (r : Report) (e : Event) : Report :=
  { ops := r.ops.tally e, entities := r.entities.tally e }

end Criteria
