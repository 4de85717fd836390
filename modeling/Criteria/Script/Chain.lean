import Criteria.Script.Run

/-! # Chains

A chain asks properties of any value types for operations on one root, and starts and ends junctions
in between. What arrives of an operation can be read as a test, whether its method was overridden or
not: which method it was, on which path and with which texts.
-/

namespace Criteria

/-- What is asked by a method besides the four calls. -/
structure Test where
  method : Method
  path : String
  texts : List String
deriving DecidableEq

/-- The method that appends a comparison. None is unequal without regard to case. -/
def Comparison.method? (c : Comparison) : Option TextMethod :=
  match c.op, c.casing with
  | .eq, .sensitive => some .eq
  | .ne, .sensitive => some .ne
  | .like, .sensitive => some .like
  | .startsWith, .sensitive => some .startsWith
  | .endsWith, .sensitive => some .endsWith
  | .contains, .sensitive => some .contains
  | .eq, .insensitive => some .ieq
  | .ne, .insensitive => none
  | .like, .insensitive => some .ilike
  | .startsWith, .insensitive => some .istartsWith
  | .endsWith, .insensitive => some .iendsWith
  | .contains, .insensitive => some .icontains

def Leaf.test? : Leaf → Option Test
  | compare c => c.method?.map (⟨.text ·, c.path, [c.value]⟩)
  | textMatch path value => some ⟨.text .textMatch, path, [value]⟩
  | isNull path => some ⟨.isNull, path, []⟩
  | isNotNull path => some ⟨.isNotNull, path, []⟩
  | inList path values => some ⟨.inList, path, values⟩

def Request.test? : Request → Option Test
  | call _ => none
  | text m path value => some ⟨.text m, path, [value]⟩
  | isNull path => some ⟨.isNull, path, []⟩
  | isNotNull path => some ⟨.isNotNull, path, []⟩
  | inList path values => some ⟨.inList, path, values⟩

namespace Operation

variable {α : Type}

def method? : Operation α → Option Method
  | equalToType _ => some (.text .eq)
  | notEqualToType _ => some (.text .ne)
  | inList _ => some .inList
  | text m _ => some (.text m)
  | iequalTo _ => some (.text .ieq)
  | isNull => some .isNull
  | isNotNull => some .isNotNull
  | asc => none
  | desc => none

def direction? : Operation α → Option OrderDirection
  | asc => some .asc
  | desc => some .desc
  | _ => none

def texts [TextValue α] : Operation α → List String
  | equalToType value => [toText value]
  | notEqualToType value => [toText value]
  | inList values => values.map toText
  | text _ value => [value]
  | iequalTo value => [value]
  | isNull => []
  | isNotNull => []
  | asc => []
  | desc => []

end Operation

namespace Script

inductive Link : Type 1
  | operate {α : Type} [TextValue α] (p : Property) (op : Operation α)
  | start (kind : JunctionKind)
  | close

namespace Link

def request : Link → Request
  | operate p op => p.request op
  | start kind => .call (.opening kind)
  | close => .call .close

def perform (i : Nat) : Link → Effect Pool Unit
  | operate p op => do
    let _ ← Script.perform i (.operate (.ok p) op)
  | start kind => ask i (.call (.opening kind))
  | close => ask i (.call .close)

/-- What may be kept of a link by an accumulator that handles some methods in a way of its own. -/
inductive Recorded (overrides : Method → Bool) : Link → Request → Prop
  | overridden {α : Type} [TextValue α] {p : Property} {op : Operation α} {m : Method} {r : Request}
      (hop : op.method? = some m) (hm : overrides m = true)
      (hr : r.test? = some ⟨m, p.path.resolved, op.texts⟩) : Recorded overrides (operate p op) r
  | appended {α : Type} [TextValue α] {p : Property} {op : Operation α} {m : Method} {l : Leaf}
      (hop : op.method? = some m) (hm : overrides m = false)
      (hl : l.test? = some ⟨m, p.path.resolved, op.texts⟩) :
      Recorded overrides (operate p op) (.call (.append (.leaf l)))
  | ordered {α : Type} [TextValue α] {p : Property} {op : Operation α} {d : OrderDirection}
      (hop : op.direction? = some d) :
      Recorded overrides (operate p op) (.call (.orderBy ⟨p.path.resolved, d⟩))
  | started (kind : JunctionKind) : Recorded overrides (start kind) (.call (.startJunction kind))
  | closed : Recorded overrides close (.call .endJunction)

end Link

def runChain (i : Nat) : List Link → Effect Pool Unit
  | [] => return ()
  | l :: ls => do
    l.perform i
    runChain i ls

end Script

end Criteria
