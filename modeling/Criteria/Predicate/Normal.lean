import Criteria.Json.Normal
import Criteria.Predicate.Json

/-! # Normal forms of predicates

The nodes of a junction are normal at any depth. The form of a leaf decides which members it has,
and whether they may be given as an array.
-/

namespace Criteria

open Json

namespace Comparison

def declared : List String := ["path", "op", "value", "casing"]

def fields : List Field :=
  [{ name := "casing", normal := tagNormal }, { name := "op", normal := tagNormal },
    { name := "path" }, { name := "value" }]

def normal : Json → Json := recordNormal declared fields

end Comparison

namespace Predicate

def Form.ofName? (name : String) : Option Form := Variants.all.find? fun f => Variants.name f = name

def leafNormal : LeafForm → Json → Json
  | .compare => Comparison.normal
  | .textMatch => inlineNormal [{ name := "path" }, { name := "value" }]
  | .isNull => inlineNormal [{ name := "path" }]
  | .isNotNull => inlineNormal [{ name := "path" }]
  | .inList => inlineNormal [{ name := "path" }, { name := "values" }]

mutual

def normal : Json → Json
  | .obj [(name, content)] =>
    .obj [(name,
      match Form.ofName? name with
      | some (.leaf form) => leafNormal form content
      | some .junction => junctionNormal content
      | none => content)]
  | j => j

def junctionNormal : Json → Json
  | .obj members =>
    .obj (select [{ name := "kind", normal := tagNormal }] members ++ nodesMember members)
  | j => j

def nodesMember : List (String × Json) → List (String × Json)
  | [] => []
  | (name, j) :: rest => if name = "nodes" then [("nodes", nodesNormal j)] else nodesMember rest

def nodesNormal : Json → Json
  | .arr items => .arr (normalAll items)
  | j => j

def normalAll : List Json → List Json
  | [] => []
  | j :: js => normal j :: normalAll js

end

theorem normalAll_eq_map (js : List Json) : normalAll js = js.map normal := by
  induction js with
  | nil => rfl
  | cons j js ih => rw [normalAll, ih, List.map_cons]

theorem nodesNormal_eq : nodesNormal = listNormal normal := by
  funext j
  cases j <;> simp [nodesNormal, listNormal, normalAll_eq_map]

def junctionFields : List Field :=
  [{ name := "kind", normal := tagNormal }, { name := "nodes", normal := listNormal normal }]

theorem nodesMember_eq (members : List (String × Json)) :
    nodesMember members = select [{ name := "nodes", normal := listNormal normal }] members := by
  induction members with
  | nil => rfl
  | cons m rest ih =>
    obtain ⟨name, j⟩ := m
    rw [nodesMember, ih, nodesNormal_eq, select_cons, select_cons, Field.value?, Field.value?,
      Listing.lookup_cons]
    by_cases hname : name = "nodes"
    · rw [if_pos hname, if_pos hname.symm]
      rfl
    · rw [if_neg hname, if_neg (Ne.symm hname)]
      rfl

theorem junctionNormal_eq : junctionNormal = inlineNormal junctionFields := by
  funext j
  cases j with
  | obj members =>
    rw [junctionNormal, inlineNormal, nodesMember_eq, select, select, ← List.filterMap_append]
    rfl
  | _ => rfl

end Predicate

end Criteria
