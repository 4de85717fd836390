import Criteria.Script.Run

/-! # Ledgers

What the totals are about: the calls made on the queries that report, and what came of their builds.
A ledger lists them in order, whichever query they are of.
-/

namespace Criteria

namespace Leaf

def isPattern : Leaf → Bool
  | compare c => c.op.isPattern
  | _ => false

def isInsensitive : Leaf → Bool
  | compare c => c.casing.isInsensitive
  | _ => false

end Leaf

inductive Happening
  | called (c : Call)
  | built (entity : String) (outcome : Except QueryError QuerySpec)

namespace Happening

def appends (p : Leaf → Bool) : Happening → Bool
  | called (.append (.leaf l)) => p l
  | _ => false

def opens : Happening → Bool
  | called (.startJunction _) => true
  | _ => false

def builds (p : QuerySpec → Bool) : Happening → Bool
  | built _ (.ok spec) => p spec
  | _ => false

def fails : Happening → Bool
  | built _ (.error _) => true
  | _ => false

def entity? : Happening → Option String
  | built entity _ => some entity
  | called _ => none

def call? : Happening → Option Call
  | called c => some c
  | built .. => none

def size : Happening → Nat
  | built _ (.ok spec) => spec.predicateCount
  | _ => 0

def event? : Happening → Option Event
  | called c => c.event?
  | built entity (.ok spec) => some (.queryBuilt entity spec.predicateCount spec.route)
  | built entity (.error _) => some (.buildFailed entity)

def ofEntity (entity : String) (hs : List Happening) : List Happening :=
  hs.filter (·.entity? = some entity)

end Happening

namespace Script

/-- The entity of a root, where it is a query that reports. -/
def Pool.reporting? (roots : Pool) (i : Nat) : Option String :=
  (roots.query? i).bind fun q => if q.config.metrics then some q.entity else none

/-- What is done with a root from outside: its accumulator is asked, or it is built. -/
inductive Deed
  | ask (root : Nat) (r : Request)
  | build (root : Nat)

namespace Deed

def step {α : Type} : Deed → Step α
  | ask root r => .single root (.ask r)
  | build root => .single root .build

section reporting

variable (reporting : Nat → Option String)

def call? : Deed → Option Call
  | ask root r => (reporting root).map fun _ => r.lower
  | build _ => none

def entity? : Deed → Option String
  | ask .. => none
  | build root => reporting root

/-- What a deed is in the ledger, with the result that it had. -/
def happening? : Deed → Result → Option Happening
  | ask root r, _ => (reporting root).map fun _ => .called r.lower
  | build root, .built outcome _ => (reporting root).map (.built · outcome)
  | build _, _ => none

end reporting

end Deed

def ledger (reporting : Nat → Option String) (deeds : List Deed) (results : List Result) :
    List Happening :=
  (deeds.zip results).filterMap fun d => d.1.happening? reporting d.2

end Script

end Criteria
