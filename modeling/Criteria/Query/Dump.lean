import Criteria.Property
import Criteria.Query.Basic
import Criteria.Text.Quoted

/-! # States in full

One-line records of accumulators, queries and properties with everything they hold, open junctions
included.
-/

namespace Criteria

open Json (Variants)
open Text

def Comparison.dump (c : Comparison) : String :=
  showRecord "ComparePredicate" [("path", quote c.path), ("op", Variants.name c.op),
    ("value", quote c.value), ("casing", Variants.name c.casing)]

def Leaf.dump : Leaf → String
  | .compare c => "Compare(" ++ c.dump ++ ")"
  | .textMatch path value => showRecord "Match" [("path", quote path), ("value", quote value)]
  | .isNull path => showRecord "IsNull" [("path", quote path)]
  | .isNotNull path => showRecord "IsNotNull" [("path", quote path)]
  | .inList path values =>
    showRecord "InList" [("path", quote path), ("values", quoteList values)]

namespace Predicate

mutual

def dump : Predicate → String
  | leaf l => l.dump
  | junction kind nodes =>
    showRecord "Junction" [("kind", Variants.name kind), ("nodes", showList (dumpAll nodes))]

def dumpAll : List Predicate → List String
  | [] => []
  | p :: ps => dump p :: dumpAll ps

end

end Predicate

def Frame.dump (f : Frame) : String :=
  showRecord "Frame" [("kind", Variants.name f.kind),
    ("nodes", showList (Predicate.dumpAll f.nodes))]

def OrderTerm.dump (t : OrderTerm) : String :=
  showRecord "OrderTerm" [("path", quote t.path), ("direction", Variants.name t.direction)]

/-- A field that calls change. -/
def showCell (holder value : String) : String := showRecord holder [("value", value)]

def Accumulator.dump (a : Accumulator) (metrics : Bool) : String :=
  showRecord "ExpressionList" [
    ("frames", showCell "RefCell" (showList (a.frames.map Frame.dump))),
    ("order", showCell "RefCell" (showList (a.order.map OrderTerm.dump))),
    ("route", showCell "Cell" (Variants.name a.route)),
    ("stray_ends", showCell "Cell" (toString a.strayEnds)),
    ("metrics", showBool metrics)]

def Config.dump (c : Config) : String :=
  showRecord "QueryConfig" [("debug", showBool c.debug), ("metrics", showBool c.metrics),
    ("max_predicates", showOption (c.maxPredicates.map toString))]

def Query.dump (q : Query) : String :=
  showOpenRecord "QueryBean" [("entity", quote q.entity),
    ("expr", q.accumulator.dump q.reports), ("config", q.config.dump)]

def PropertyPath.dump (p : PropertyPath) : String :=
  showRecord "PropertyPath" [("name", quote p.name), ("prefix", showOption (p.qualifier.map quote)),
    ("resolved", quote p.resolved)]

def Property.dump (p : Property) : String :=
  showOpenRecord "PString" [("path", p.path.dump), ("type", quote p.typeName)]

end Criteria
