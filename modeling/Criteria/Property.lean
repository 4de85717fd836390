import Criteria.Accumulator.Request
import Criteria.Path.Basic
import Criteria.Text.Value

/-! # Properties

A text-backed property of an entity, declared with the type of its values. Each operation makes one
request for the resolved path. Only equality by type and the list take values of the declared type;
all others take texts, which are handed on as they are.
-/

namespace Criteria

inductive Operation (α : Type)
  | equalToType (value : α)
  | notEqualToType (value : α)
  | inList (values : List α)
  | text (m : TextMethod) (value : String)
  /-- Another word for equality without regard to case. -/
  | iequalTo (value : String)
  | isNull
  | isNotNull
  | asc
  | desc

namespace Operation

variable {α : Type}

/-! The operations that take a text, each with a method of its own. -/

def eq (value : String) : Operation α := text .eq value

def ne (value : String) : Operation α := text .ne value

def ieq (value : String) : Operation α := text .ieq value

def like (value : String) : Operation α := text .like value

def startsWith (value : String) : Operation α := text .startsWith value

def endsWith (value : String) : Operation α := text .endsWith value

def contains (value : String) : Operation α := text .contains value

def ilike (value : String) : Operation α := text .ilike value

def istartsWith (value : String) : Operation α := text .istartsWith value

def iendsWith (value : String) : Operation α := text .iendsWith value

def icontains (value : String) : Operation α := text .icontains value

def textMatch (value : String) : Operation α := text .textMatch value

end Operation

structure Property where
  path : PropertyPath
  /-- The name of the declared type. -/
  typeName : String

namespace Property

def request {α : Type} [TextValue α] (p : Property) : Operation α → Request
  | .equalToType value => .text .eq p.path.resolved (toText value)
  | .notEqualToType value => .text .ne p.path.resolved (toText value)
  | .inList values => .inList p.path.resolved (values.map toText)
  | .text m value => .text m p.path.resolved value
  | .iequalTo value => .text .ieq p.path.resolved value
  | .isNull => .isNull p.path.resolved
  | .isNotNull => .isNotNull p.path.resolved
  | .asc => .call (.orderBy ⟨p.path.resolved, .asc⟩)
  | .desc => .call (.orderBy ⟨p.path.resolved, .desc⟩)

end Property

structure Declaration where
  /-- The property as the declaration spells it. -/
  ident : String
  qualifier : String := ""
  typeName : String
deriving DecidableEq

def Declaration.property (d : Declaration) : Except Fault Property := do
  let name ← PropertyPath.declaredName (PropertyPath.bareName d.ident)
  let q ← PropertyPath.declaredQualifier d.qualifier
  let path ← PropertyPath.declareUnder name q
  return { path, typeName := d.typeName }

end Criteria
