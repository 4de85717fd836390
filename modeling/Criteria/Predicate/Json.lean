import Criteria.Predicate.Basic

/-! # Predicates in JSON

A predicate is an object whose one member names its form. Comparisons are records, read from an
object or an array; the other forms are written inline and read from an object only.
-/

namespace Criteria

open Json

namespace Comparison

def toJson (c : Comparison) : Json :=
  .obj [("casing", writeTag c.casing), ("op", writeTag c.op), ("path", .str c.path),
    ("value", .str c.value)]

def ofMembers (members : List (String × Json)) : Except ReadError Comparison := do
  let casing ← readMember members "casing" readTag
  let op ← readMember members "op" readTag
  let path ← readMember members "path" readString
  let value ← readMember members "value" readString
  let path ← required "path" path
  let op ← required "op" op
  let value ← required "value" value
  let casing ← required "casing" casing
  return { path, op, value, casing }

def ofItems (items : List Json) : Except ReadError Comparison := do
  let (path, items) ← readElement "ComparePredicate" 4 0 readString items
  let (op, items) ← readElement "ComparePredicate" 4 1 readTag items
  let (value, items) ← readElement "ComparePredicate" 4 2 readString items
  let (casing, items) ← readElement "ComparePredicate" 4 3 readTag items
  endOfRecord 4 items
  return { path, op, value, casing }

def ofJson : Reader Comparison := readRecord "ComparePredicate" ofMembers ofItems

end Comparison

namespace Predicate

inductive LeafForm
  | compare
  | textMatch
  | isNull
  | isNotNull
  | inList
deriving DecidableEq

inductive Form
  | leaf (form : LeafForm)
  | junction
deriving DecidableEq

instance : Variants Form where
  all :=
    [.leaf .compare, .leaf .textMatch, .leaf .isNull, .leaf .isNotNull, .leaf .inList, .junction]
  name
    | .leaf .compare => "Compare"
    | .leaf .textMatch => "Match"
    | .leaf .isNull => "IsNull"
    | .leaf .isNotNull => "IsNotNull"
    | .leaf .inList => "InList"
    | .junction => "Junction"
  mem_all := by rintro (⟨⟨⟩⟩ | _) <;> simp
  name_inj := by rintro (⟨⟨⟩⟩ | _) (⟨⟨⟩⟩ | _) <;> simp

def Form.content : Form → Expected
  | .leaf .compare => .valueContent
  | _ => .recordContent

def tagged (form : Form) (content : Json) : Json := .obj [(Variants.name form, content)]

end Predicate

def Leaf.toJson : Leaf → Json
  | .compare c => Predicate.tagged (.leaf .compare) c.toJson
  | .textMatch path value =>
    Predicate.tagged (.leaf .textMatch) (.obj [("path", .str path), ("value", .str value)])
  | .isNull path => Predicate.tagged (.leaf .isNull) (.obj [("path", .str path)])
  | .isNotNull path => Predicate.tagged (.leaf .isNotNull) (.obj [("path", .str path)])
  | .inList path values =>
    Predicate.tagged (.leaf .inList) (.obj [("path", .str path), ("values", Json.ofStrings values)])

namespace Predicate

mutual

def toJson : Predicate → Json
  | leaf l => l.toJson
  | junction kind nodes =>
    tagged .junction (.obj [("kind", writeTag kind), ("nodes", .arr (toJsonAll nodes))])

def toJsonAll : List Predicate → List Json
  | [] => []
  | p :: ps => toJson p :: toJsonAll ps

end

def pathOfMembers (members : List (String × Json)) : Except ReadError String := do
  let path ← readMember members "path" readString
  required "path" path

def textMatchOfMembers (members : List (String × Json)) : Except ReadError Leaf := do
  let path ← readMember members "path" readString
  let value ← readMember members "value" readString
  let path ← required "path" path
  let value ← required "value" value
  return .textMatch path value

def inListOfMembers (members : List (String × Json)) : Except ReadError Leaf := do
  let path ← readMember members "path" readString
  let values ← readMember members "values" (readList readString)
  let path ← required "path" path
  let values ← required "values" values
  return .inList path values

def readInline {α : Type} (ofMembers : List (String × Json) → Except ReadError α) : Reader α
  | .obj members => ofMembers members
  | j => refuse .recordContent j

def leafOfJson : LeafForm → Reader Leaf
  | .compare => fun j => .compare <$> Comparison.ofJson j
  | .textMatch => readInline textMatchOfMembers
  | .isNull => readInline fun members => .isNull <$> pathOfMembers members
  | .isNotNull => readInline fun members => .isNotNull <$> pathOfMembers members
  | .inList => readInline inListOfMembers

mutual

def ofJson : Json → Except ReadError Predicate
  | .str name => do
    let form : Form ← readVariant name
    .error (.invalidType .bareVariant form.content)
  | .obj [(name, content)] => do
    let form : Form ← readVariant name
    match form with
    | .leaf form => leaf <$> leafOfJson form content
    | .junction => junctionOfJson content
  | .obj _ => .error (.invalidValue .map .singleKey)
  | j => refuse .variant j

def junctionOfJson : Json → Except ReadError Predicate
  | .obj members => do
    let kind ← readMember members "kind" readTag
    let nodes ← nodesOfMembers members
    let kind ← required "kind" kind
    let nodes ← required "nodes" nodes
    return junction kind nodes
  | j => refuse .recordContent j

def nodesOfMembers : List (String × Json) → Except ReadError (Option (List Predicate))
  | [] => .ok none
  | (name, j) :: rest => if name = "nodes" then some <$> nodesOfJson j else nodesOfMembers rest

def nodesOfJson : Json → Except ReadError (List Predicate)
  | .arr items => nodesOfItems items
  | j => refuse .sequence j

def nodesOfItems : List Json → Except ReadError (List Predicate)
  | [] => .ok []
  | j :: js => do
    let p ← ofJson j
    let ps ← nodesOfItems js
    return p :: ps

end

end Predicate

end Criteria
