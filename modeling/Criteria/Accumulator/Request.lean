import Criteria.Accumulator.Basic

/-! # Requests

What may be asked of an accumulator: the four calls, and one method for each test, which appends a
leaf. An accumulator that handles a method in a way of its own overrides it.
-/

namespace Criteria

inductive TextMethod
  | eq
  | ne
  | ieq
  | like
  | startsWith
  | endsWith
  | contains
  | ilike
  | istartsWith
  | iendsWith
  | icontains
  | textMatch
deriving DecidableEq, Repr

def TextMethod.leaf (m : TextMethod) (path value : String) : Leaf :=
  match m with
  | .eq => .compare ⟨path, .eq, value, .sensitive⟩
  | .ne => .compare ⟨path, .ne, value, .sensitive⟩
  | .ieq => .compare ⟨path, .eq, value, .insensitive⟩
  | .like => .compare ⟨path, .like, value, .sensitive⟩
  | .startsWith => .compare ⟨path, .startsWith, value, .sensitive⟩
  | .endsWith => .compare ⟨path, .endsWith, value, .sensitive⟩
  | .contains => .compare ⟨path, .contains, value, .sensitive⟩
  | .ilike => .compare ⟨path, .like, value, .insensitive⟩
  | .istartsWith => .compare ⟨path, .startsWith, value, .insensitive⟩
  | .iendsWith => .compare ⟨path, .endsWith, value, .insensitive⟩
  | .icontains => .compare ⟨path, .contains, value, .insensitive⟩
  | .textMatch => .textMatch path value

/-- The methods besides the four calls. -/
inductive Method
  | text (m : TextMethod)
  | isNull
  | isNotNull
  | inList
deriving DecidableEq, Repr

inductive Request
  | call (c : Call)
  | text (m : TextMethod) (path value : String)
  | isNull (path : String)
  | isNotNull (path : String)
  | inList (path : String) (values : List String)
deriving DecidableEq

namespace Request

def method? : Request → Option Method
  | call _ => none
  | text m .. => some (.text m)
  | isNull _ => some .isNull
  | isNotNull _ => some .isNotNull
  | inList .. => some .inList

/-- The call that a request comes down to where its method is not overridden. -/
def lower : Request → Call
  | call c => c
  | text m path value => .append (.leaf (m.leaf path value))
  | isNull path => .append (.leaf (.isNull path))
  | isNotNull path => .append (.leaf (.isNotNull path))
  | inList path values => .append (.leaf (.inList path values))

end Request

/-- An accumulator that keeps each request it receives. -/
structure Recorder where
  /-- The methods that reach it as they are. The others arrive as the calls they come down to. -/
  overrides : Method → Bool
  requests : List Request := []

namespace Recorder

def arrival (r : Recorder) (q : Request) : Request :=
  match q.method? with
  | none => q
  | some m => if r.overrides m then q else .call q.lower

def receive (r : Recorder) (q : Request) : Recorder :=
  { r with requests := r.requests ++ [r.arrival q] }

end Recorder

end Criteria
