import Criteria.Json.Read
import Criteria.Steps

/-! # Normal forms of JSON

The spellings that a reader takes for a value, rewritten into the one that the value is written in.
A type asks for its own forms, and what is none of them is left as it stands.
-/

namespace Criteria.Json

/-- The member of a record that a field is read from, and the normal form of what is given there. -/
structure Field where
  name : String
  normal : Json → Json := id
  /-- What stands for the member when it is left out, if it may be. -/
  default : Option Json := none

def Field.value? (f : Field) (members : List (String × Json)) : Option Json :=
  ((members.lookup f.name).map f.normal).or f.default

def select (fields : List Field) (members : List (String × Json)) : List (String × Json) :=
  fields.filterMap fun f => (f.value? members).map (f.name, ·)

def inlineNormal (fields : List Field) : Json → Json
  | .obj members => .obj (select fields members)
  | j => j

/-- A record may be given as the array of all its fields, in the order that they are declared in. -/
def recordNormal (declared : List String) (fields : List Field) : Json → Json
  | .obj members => .obj (select fields members)
  | .arr items =>
    if items.length = declared.length then .obj (select fields (declared.zip items))
    else .arr items
  | j => j

/-- A variant without content may be given as an object with its name and null. -/
def tagNormal : Json → Json
  | .obj [(name, .null)] => .str name
  | j => j

def listNormal (normal : Json → Json) : Json → Json
  | .arr items => .arr (items.map normal)
  | j => j

def optionNormal (normal : Json → Json) : Json → Json
  | .null => .null
  | j => normal j

/-! ## Members of a selection -/

theorem select_cons (f : Field) (fields : List Field) (members : List (String × Json)) :
    select (f :: fields) members =
      ((f.value? members).map (f.name, ·)).toList ++ select fields members := by
  rw [select, List.filterMap_cons]
  cases f.value? members <;> rfl

theorem exists_field_of_mem_select {fields : List Field} {members : List (String × Json)}
    {m : String × Json} (h : m ∈ select fields members) : ∃ f ∈ fields, f.name = m.1 := by
  obtain ⟨f, hf, hm⟩ := List.mem_filterMap.1 h
  obtain ⟨j, -, rfl⟩ := Option.map_eq_some_iff.1 hm
  exact ⟨f, hf, rfl⟩

theorem select_cons_eq_cons_iff {name : String} {normal : Json → Json} {default : Option Json}
    {fields : List Field} (hname : ∀ g ∈ fields, g.name ≠ name)
    {members written : List (String × Json)} {j : Json} :
    select ({ name, normal, default } :: fields) members = (name, j) :: written ↔
      Field.value? { name, normal, default } members = some j ∧ select fields members = written := by
  rw [select_cons]
  cases hv : Field.value? { name, normal, default } members with
  | some v => simp
  | none =>
    simp only [Option.map_none, Option.toList_none, List.nil_append, reduceCtorEq, false_and,
      iff_false]
    intro h
    obtain ⟨g, hg, hgname⟩ := exists_field_of_mem_select (h ▸ List.mem_cons_self)
    exact hname g hg hgname

/-! ## Readers and normal forms -/

variable {α : Type}

/-- The reader takes what has, as its normal form, the JSON that a value is written as. -/
def Accepts (read : Reader α) (normal : Json → Json) (write : α → Json) : Prop :=
  ∀ j a, read j = .ok a ↔ normal j = write a

theorem accepts_string : Accepts readString id .str := by
  intro j s
  cases j <;> simp [readString, shape, Shape.toText]

theorem readVariant_eq_ok_iff [Variants α] (name : String) (a : α) :
    readVariant name = .ok a ↔ Variants.name a = name := by
  constructor
  · intro hread
    unfold readVariant at hread
    split at hread
    · rename_i b hb
      cases hread
      simpa using List.find?_some hb
    · cases hread
  · rintro rfl
    exact readVariant_name a

theorem accepts_tag [Variants α] : Accepts (readTag : Reader α) tagNormal writeTag := by
  intro j a
  have hname (name : String) : readVariant name = .ok a ↔ Json.str name = writeTag a := by
    rw [readVariant_eq_ok_iff, writeTag, str.injEq]
    exact eq_comm
  cases j with
  | str name => exact hname name
  | obj members =>
    match members with
    | [] => simp [readTag, tagNormal, writeTag]
    | [(name, content)] =>
      cases content with
      | null =>
        rw [tagNormal, ← hname, readTag, bind_eq_ok_iff]
        simp [pure_eq_ok_iff]
      | _ => simp [readTag, tagNormal, writeTag, bind_eq_ok_iff, refuse]
    | _ :: _ :: _ => simp [readTag, tagNormal, writeTag]
  | _ => simp [readTag, tagNormal, writeTag, refuse]

theorem mapM_eq_ok_iff {read : Reader α} {normal : Json → Json} {write : α → Json}
    (h : Accepts read normal write) (items : List Json) (as : List α) :
    items.mapM read = .ok as ↔ items.map normal = as.map write := by
  induction items generalizing as with
  | nil =>
    rw [List.mapM_nil, pure_eq_ok_iff, List.map_nil]
    cases as <;> simp
  | cons j items ih =>
    simp only [List.mapM_cons, bind_eq_ok_iff, pure_eq_ok_iff, ih]
    cases as with
    | nil => simp
    | cons a as => simp [h j]

theorem accepts_list {read : Reader α} {normal : Json → Json} {write : α → Json}
    (h : Accepts read normal write) :
    Accepts (readList read) (listNormal normal) fun as => .arr (as.map write) := by
  intro j as
  cases j with
  | arr items => rw [readList, listNormal, mapM_eq_ok_iff h, arr.injEq]
  | _ => simp [readList, listNormal, refuse]

/-- Null stands for nothing, so it may be neither the JSON of a value nor the normal form of one. -/
theorem accepts_option {read : Reader α} {normal : Json → Json} {write : α → Json}
    (h : Accepts read normal write) (hwrite : ∀ a, write a ≠ .null)
    (hnormal : ∀ j, normal j = .null → j = .null) :
    Accepts (readOption read) (optionNormal normal) (ofOption write) := by
  intro j o
  by_cases hj : j = .null
  · subst hj
    cases o with
    | none => simp [readOption, optionNormal, ofOption]
    | some a => simp [readOption, optionNormal, ofOption, (hwrite a).symm]
  · have hread : readOption read j = some <$> read j := by
      rw [readOption]
      exact hj
    have hopt : optionNormal normal j = normal j := by
      rw [optionNormal]
      exact hj
    rw [hread, hopt, map_eq_ok_iff]
    cases o with
    | none => simpa [ofOption] using fun hn => hj (hnormal j hn)
    | some a => simpa [ofOption] using h j a

/-! ## Records -/

theorem readMember_eq_ok_iff {read : Reader α} {normal : Json → Json} {write : α → Json}
    (h : Accepts read normal write) (members : List (String × Json)) (name : String)
    (o : Option α) :
    readMember members name read = .ok o ↔ (members.lookup name).map normal = o.map write := by
  unfold readMember
  cases members.lookup name with
  | none => cases o <;> simp
  | some j => cases o <;> simp [map_eq_ok_iff, h j]

theorem required_eq_ok_iff (name : String) (o : Option α) (a : α) :
    required name o = .ok a ↔ o = some a := by
  cases o <;> simp [required]

end Criteria.Json
