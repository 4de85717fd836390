import Criteria.Predicate.Normal
import Criteria.Spec.Basic

/-! # Query specs in JSON

The records that a finished query is handed over as. A spec may leave out its predicate.
-/

namespace Criteria

open Json

namespace OrderTerm

def toJson (t : OrderTerm) : Json :=
  .obj [("direction", writeTag t.direction), ("path", .str t.path)]

def ofMembers (members : List (String × Json)) : Except ReadError OrderTerm := do
  let direction ← readMember members "direction" readTag
  let path ← readMember members "path" readString
  let path ← required "path" path
  let direction ← required "direction" direction
  return { path, direction }

def ofItems (items : List Json) : Except ReadError OrderTerm := do
  let (path, items) ← readElement "OrderTerm" 2 0 readString items
  let (direction, items) ← readElement "OrderTerm" 2 1 readTag items
  endOfRecord 2 items
  return { path, direction }

def ofJson : Reader OrderTerm := readRecord "OrderTerm" ofMembers ofItems

end OrderTerm

namespace QuerySpec

def toJson (s : QuerySpec) : Json :=
  .obj [("entity", .str s.entity), ("order", .arr (s.order.map OrderTerm.toJson)),
    ("predicate", Json.ofOption Predicate.toJson s.predicate), ("route", writeTag s.route)]

def ofMembers (members : List (String × Json)) : Except ReadError QuerySpec := do
  let entity ← readMember members "entity" readString
  let order ← readMember members "order" (readList OrderTerm.ofJson)
  let predicate ← readMember members "predicate" (readOption Predicate.ofJson)
  let route ← readMember members "route" readTag
  let entity ← required "entity" entity
  let order ← required "order" order
  let route ← required "route" route
  return { entity, predicate := predicate.join, order, route }

def ofItems (items : List Json) : Except ReadError QuerySpec := do
  let (entity, items) ← readElement "QuerySpec" 4 0 readString items
  let (predicate, items) ← readElement "QuerySpec" 4 1 (readOption Predicate.ofJson) items
  let (order, items) ← readElement "QuerySpec" 4 2 (readList OrderTerm.ofJson) items
  let (route, items) ← readElement "QuerySpec" 4 3 readTag items
  endOfRecord 4 items
  return { entity, predicate, order, route }

def ofJson : Reader QuerySpec := readRecord "QuerySpec" ofMembers ofItems

end QuerySpec

/-! ## Normal forms

An object of a spec may leave out the predicate, an array of one may not.
-/

namespace OrderTerm

def declared : List String := ["path", "direction"]

def fields : List Field := [{ name := "direction", normal := tagNormal }, { name := "path" }]

def normal : Json → Json := recordNormal declared fields

end OrderTerm

namespace QuerySpec

def declared : List String := ["entity", "predicate", "order", "route"]

def fields : List Field :=
  [{ name := "entity" }, { name := "order", normal := listNormal OrderTerm.normal },
    { name := "predicate", normal := optionNormal Predicate.normal, default := some .null },
    { name := "route", normal := tagNormal }]

def normal : Json → Json := recordNormal declared fields

end QuerySpec

end Criteria
