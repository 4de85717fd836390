import Criteria.Metrics.Event

/-! # Reports in JSON

A report is a record of the operation counters and a map of the counters by entity.
-/

namespace Criteria

open Json

def Counter.toJson (c : Counter) : Json := .int c.toNat

def Counter.ofJson : Reader Counter := fun j => UInt64.ofNat <$> readWord .counter j

namespace OperationCounters

def toJson (c : OperationCounters) : Json :=
  .obj [("build_failures", c.buildFailures.toJson),
    ("case_insensitive_predicates", c.caseInsensitivePredicates.toJson),
    ("doc_store_routes", c.docStoreRoutes.toJson),
    ("junctions_opened", c.junctionsOpened.toJson),
    ("pattern_predicates", c.patternPredicates.toJson),
    ("predicates_appended", c.predicatesAppended.toJson),
    ("queries_built", c.queriesBuilt.toJson),
    ("text_matches", c.textMatches.toJson)]

def ofMembers (members : List (String × Json)) : Except ReadError OperationCounters := do
  let buildFailures ← readMember members "build_failures" Counter.ofJson
  let caseInsensitivePredicates ← readMember members "case_insensitive_predicates" Counter.ofJson
  let docStoreRoutes ← readMember members "doc_store_routes" Counter.ofJson
  let junctionsOpened ← readMember members "junctions_opened" Counter.ofJson
  let patternPredicates ← readMember members "pattern_predicates" Counter.ofJson
  let predicatesAppended ← readMember members "predicates_appended" Counter.ofJson
  let queriesBuilt ← readMember members "queries_built" Counter.ofJson
  let textMatches ← readMember members "text_matches" Counter.ofJson
  let predicatesAppended ← required "predicates_appended" predicatesAppended
  let patternPredicates ← required "pattern_predicates" patternPredicates
  let caseInsensitivePredicates ← required "case_insensitive_predicates" caseInsensitivePredicates
  let textMatches ← required "text_matches" textMatches
  let junctionsOpened ← required "junctions_opened" junctionsOpened
  let queriesBuilt ← required "queries_built" queriesBuilt
  let docStoreRoutes ← required "doc_store_routes" docStoreRoutes
  let buildFailures ← required "build_failures" buildFailures
  return {
    predicatesAppended, patternPredicates, caseInsensitivePredicates, textMatches, junctionsOpened,
    queriesBuilt, docStoreRoutes, buildFailures }

def ofItems (items : List Json) : Except ReadError OperationCounters := do
  let (predicatesAppended, items) ← readElement "EventOps" 8 0 Counter.ofJson items
  let (patternPredicates, items) ← readElement "EventOps" 8 1 Counter.ofJson items
  let (caseInsensitivePredicates, items) ← readElement "EventOps" 8 2 Counter.ofJson items
  let (textMatches, items) ← readElement "EventOps" 8 3 Counter.ofJson items
  let (junctionsOpened, items) ← readElement "EventOps" 8 4 Counter.ofJson items
  let (queriesBuilt, items) ← readElement "EventOps" 8 5 Counter.ofJson items
  let (docStoreRoutes, items) ← readElement "EventOps" 8 6 Counter.ofJson items
  let (buildFailures, items) ← readElement "EventOps" 8 7 Counter.ofJson items
  endOfRecord 8 items
  return {
    predicatesAppended, patternPredicates, caseInsensitivePredicates, textMatches, junctionsOpened,
    queriesBuilt, docStoreRoutes, buildFailures }

def ofJson : Reader OperationCounters := readRecord "EventOps" ofMembers ofItems

end OperationCounters

namespace EntityCounters

def toJson (c : EntityCounters) : Json :=
  .obj [("build_failures", c.buildFailures.toJson), ("predicates_built", c.predicatesBuilt.toJson),
    ("queries_built", c.queriesBuilt.toJson)]

def ofMembers (members : List (String × Json)) : Except ReadError EntityCounters := do
  let buildFailures ← readMember members "build_failures" Counter.ofJson
  let predicatesBuilt ← readMember members "predicates_built" Counter.ofJson
  let queriesBuilt ← readMember members "queries_built" Counter.ofJson
  let queriesBuilt ← required "queries_built" queriesBuilt
  let predicatesBuilt ← required "predicates_built" predicatesBuilt
  let buildFailures ← required "build_failures" buildFailures
  return { queriesBuilt, predicatesBuilt, buildFailures }

def ofItems (items : List Json) : Except ReadError EntityCounters := do
  let (queriesBuilt, items) ← readElement "EntityCounters" 3 0 Counter.ofJson items
  let (predicatesBuilt, items) ← readElement "EntityCounters" 3 1 Counter.ofJson items
  let (buildFailures, items) ← readElement "EntityCounters" 3 2 Counter.ofJson items
  endOfRecord 3 items
  return { queriesBuilt, predicatesBuilt, buildFailures }

def ofJson : Reader EntityCounters := readRecord "EntityCounters" ofMembers ofItems

end EntityCounters

namespace EntityTable

def toJson (t : EntityTable) : Json := .obj (t.entries.map fun e => (e.1, e.2.toJson))

def ofMembers (members : List (String × Json)) : Except ReadError EntityTable :=
  members.foldlM
    (fun t m => do
      let c ← EntityCounters.ofJson m.2
      return t.update m.1 fun _ => c)
    empty

def ofJson : Reader EntityTable
  | .obj members => ofMembers members
  | j => refuse .map j

end EntityTable

namespace Report

def totalsToJson (r : Report) : Json :=
  .obj [("entities", r.entities.toJson), ("ops", r.ops.toJson)]

def totalsOfMembers (members : List (String × Json)) : Except ReadError Report := do
  let entities ← readMember members "entities" EntityTable.ofJson
  let ops ← readMember members "ops" OperationCounters.ofJson
  let ops ← required "ops" ops
  let entities ← required "entities" entities
  return { ops, entities }

def totalsOfItems (items : List Json) : Except ReadError Report := do
  let (ops, items) ← readElement "EventState" 2 0 OperationCounters.ofJson items
  let (entities, items) ← readElement "EventState" 2 1 EntityTable.ofJson items
  endOfRecord 2 items
  return { ops, entities }

def totalsOfJson : Reader Report := readRecord "EventState" totalsOfMembers totalsOfItems

def toJson (r : Report) : Json := .obj [("counters", r.totalsToJson)]

def ofMembers (members : List (String × Json)) : Except ReadError Report := do
  let totals ← readMember members "counters" totalsOfJson
  required "counters" totals

def ofItems (items : List Json) : Except ReadError Report := do
  let (totals, items) ← readElement "EventReport" 1 0 totalsOfJson items
  endOfRecord 1 items
  return totals

def ofJson : Reader Report := readRecord "EventReport" ofMembers ofItems

end Report

end Criteria
