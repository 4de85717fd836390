import Criteria.Json.Basic

/-! # Reading JSON

Readers of the simple forms, and what readers of records and variants share. A record is read from
an object, where a member of another name is passed over, or from the array of its fields.
-/

namespace Criteria

namespace Shape

def toText : Shape → Except ReadError String
  | .str s => .ok s
  | s => .error (.invalidType s .text)

def toBool : Shape → Except ReadError Bool
  | .bool b => .ok b
  | s => .error (.invalidType s .boolean)

/-- A natural number of one word. A negative one has the right type and a wrong value; one that no
word holds has not even the type. -/
def toWord (expected : Expected) : Shape → Except ReadError Nat
  | .int n =>
    if !inWordRange n then .error (.invalidType (.int n) expected)
    else if n < 0 then .error (.invalidValue (.int n) expected)
    else .ok n.toNat
  | s => .error (.invalidType s expected)

end Shape

namespace Json

variable {α : Type}

abbrev Reader (α : Type) := Json → Except ReadError α

def refuse (expected : Expected) (j : Json) : Except ReadError α :=
  .error (.invalidType j.shape expected)

def readString : Reader String := fun j => j.shape.toText

def readWord (expected : Expected) : Reader Nat := fun j => j.shape.toWord expected

def readOption (read : Reader α) : Reader (Option α)
  | .null => .ok none
  | j => some <$> read j

def readList (read : Reader α) : Reader (List α)
  | .arr items => items.mapM read
  | j => refuse .sequence j

/-! ## Records -/

def readMember (members : List (String × Json)) (name : String) (read : Reader α) :
    Except ReadError (Option α) :=
  match members.lookup name with
  | none => .ok none
  | some j => some <$> read j

/-- Absent members are reported once all the others have been read. -/
def required (name : String) : Option α → Except ReadError α
  | none => .error (.missingField name)
  | some a => .ok a

/-- The next field of a record given as an array, and the fields after it. -/
def readElement (name : String) (count index : Nat) (read : Reader α) :
    List Json → Except ReadError (α × List Json)
  | [] => .error (.invalidLength index (.fields name count))
  | j :: rest => (·, rest) <$> read j

def endOfRecord (count : Nat) (rest : List Json) : Except ReadError Unit :=
  if rest.isEmpty then .ok ()
  else .error (.invalidLength (count + rest.length) .fewerElements)

def readRecord (name : String) (ofMembers : List (String × Json) → Except ReadError α)
    (ofItems : List Json → Except ReadError α) : Reader α
  | .obj members => ofMembers members
  | .arr items => ofItems items
  | j => refuse (.record name) j

/-! ## What is read of a written value -/

variable {β : Type} {write : α → Json} {read : Reader α}

theorem ok_bind (a : α) (f : α → Except ReadError β) : (Except.ok a >>= f) = f a := rfl

theorem required_some (name : String) (a : α) : required name (some a) = .ok a := rfl

theorem readString_str (s : String) : readString (.str s) = .ok s := rfl

theorem readMember_cons (n name : String) (j : Json) (members : List (String × Json))
    (read : Reader α) :
    readMember ((n, j) :: members) name read =
      if name = n then some <$> read j else readMember members name read := by
  by_cases h : name = n
  · rw [readMember, if_pos h, h, List.lookup_cons_self]
  · rw [readMember, if_neg h, List.lookup_cons, beq_false_of_ne h, readMember]

theorem readList_map (h : ∀ a, read (write a) = .ok a) (xs : List α) :
    readList read (.arr (xs.map write)) = .ok xs := by
  rw [readList]
  induction xs with
  | nil => rfl
  | cons x xs ih =>
    rw [List.map_cons, List.mapM_cons, h, ih]
    rfl

theorem readOption_ofOption (h : ∀ a, read (write a) = .ok a) (hn : ∀ a, write a ≠ .null)
    (o : Option α) : readOption read (ofOption write o) = .ok o := by
  cases o with
  | none => rfl
  | some a =>
    have hr : readOption read (write a) = some <$> read (write a) := by
      rw [readOption]
      exact hn a
    rw [ofOption, hr, h]
    rfl

/-! ## Variants -/

/-- A type of finitely many variants, in declaration order, each with a name of its own. -/
class Variants (α : Type) where
  all : List α
  name : α → String
  mem_all : ∀ a, a ∈ all := by rintro ⟨⟩ <;> simp
  name_inj : ∀ a b, name a = name b → a = b := by rintro ⟨⟩ ⟨⟩ <;> simp

variable [Variants α]

def readVariant (name : String) : Except ReadError α :=
  match Variants.all.find? fun a : α => Variants.name a = name with
  | some a => .ok a
  | none => .error (.unknownVariant name ((Variants.all : List α).map Variants.name))

/-- A variant without content: its name, or an object with its name and null. -/
def readTag : Reader α
  | .str name => readVariant name
  | .obj [(name, content)] => do
    let a ← readVariant name
    match content with
    | .null => return a
    | j => refuse .unit j
  | .obj _ => .error (.invalidValue .map .singleKey)
  | j => refuse .variant j

def writeTag (a : α) : Json := .str (Variants.name a)

theorem readVariant_name (a : α) : readVariant (Variants.name a) = .ok a := by
  unfold readVariant
  cases hfound : Variants.all.find? fun b : α => Variants.name b = Variants.name a with
  | none =>
    have hnot := List.find?_eq_none.1 hfound a (Variants.mem_all a)
    simp at hnot
  | some b =>
    have hname : Variants.name b = Variants.name a := by simpa using List.find?_some hfound
    rw [Variants.name_inj b a hname]

theorem readTag_writeTag (a : α) : readTag (writeTag a) = .ok a := readVariant_name a

end Json

end Criteria
