import Criteria.Text.Quoted

/-! # Property paths

A scalar property of an entity is named by a dotted path: its name, after a qualifier when it is
reached through other entities. A path is checked where it is made, so every path is well formed;
a rejected one is reported with its cause or, for a declared property, is a fault.
-/

namespace Criteria

/-! ## Faults

A fault breaks off the computation that raised it. It is no answer: what was done before stays done.
-/

inductive Fault
  /-- A property was declared without a name. -/
  | emptyName
  /-- A property was declared with a forbidden character in its name. -/
  | badName
  /-- A property was declared under a malformed qualifier. -/
  | badQualifier
  /-- A sink broke off while it received an event. -/
  | sinkFailed
deriving DecidableEq, Repr

def Fault.message : Fault → String
  | .emptyName => "property name must not be empty"
  | .badName => "property name must not contain whitespace, '.' or '#'"
  | .badQualifier => "property prefix must be dot-separated names without whitespace or '#'"
  | .sinkFailed => "sink failed"

/-! ## Names and qualifiers -/

/-- The whitespace a path may not hold; vertical tabs and wide spaces are allowed. -/
def isPathSpace (c : Char) : Bool :=
  c = '\t' || c = '\n' || c = '\x0c' || c = '\r' || c = ' '

def isForbidden (c : Char) : Bool := c = '.' || c = '#' || isPathSpace c

def firstForbidden? (name : String) : Option Char := name.toList.find? isForbidden

def IsName (name : String) : Prop := name ≠ "" ∧ firstForbidden? name = none

/-- Reads dot-separated segments in one pass. The character before decides whether a dot may stand
here; the start counts as a dot, so a leading, a doubled and a trailing dot fail alike. -/
def scanSegments (before : Char) : List Char → Bool
  | [] => before != '.'
  | c :: rest =>
    if c = '#' || isPathSpace c then false
    else if c = '.' && before = '.' then false
    else scanSegments c rest

def isQualifier (q : String) : Bool := scanSegments '.' q.toList

inductive PathError
  | emptyName
  | invalidName (name : String) (ch : Char)
  | invalidQualifier (qualifier : String)
deriving DecidableEq, Repr

namespace PathError

def message : PathError → String
  | .emptyName => "property name must not be empty"
  | .invalidName name ch =>
    String.join ["property name '", name, "' contains invalid character ", Text.quoteChar ch]
  | .invalidQualifier q =>
    String.join ["property prefix '", q, "' must be dot-separated names without whitespace or '#'"]

/-- A declaration is trusted to be well formed, so the same cause is a fault there. -/
def fault : PathError → Fault
  | .emptyName => .emptyName
  | .invalidName .. => .badName
  | .invalidQualifier _ => .badQualifier

end PathError

/-- A checked path. An empty qualifier is left out. -/
structure PropertyPath where
  name : String
  qualifier : Option String
  name_ok : IsName name
  qualifier_ok : ∀ q ∈ qualifier, isQualifier q = true
deriving DecidableEq

namespace PropertyPath

def resolved (p : PropertyPath) : String :=
  match p.qualifier with
  | none => p.name
  | some q => q ++ "." ++ p.name

instance : ToString PropertyPath := ⟨resolved⟩

def ofName? (name : String) : Except PathError PropertyPath :=
  match h : firstForbidden? name with
  | some ch => .error (.invalidName name ch)
  | none => if hn : name = "" then .error .emptyName else .ok ⟨name, none, ⟨hn, h⟩, nofun⟩

theorem ofName?_eq_ok {name : String} (h : IsName name) :
    ofName? name = .ok ⟨name, none, h, nofun⟩ := by
  unfold ofName?
  split
  · rename_i hs
    cases h.2.symm.trans hs
  · rw [dif_neg h.1]

theorem ofName?_eq_invalidName {name : String} {ch : Char} (h : firstForbidden? name = some ch) :
    ofName? name = .error (.invalidName name ch) := by
  unfold ofName?
  split
  · rename_i ch' h'
    rw [Option.some.inj (h'.symm.trans h)]
  · rename_i h'
    cases h'.symm.trans h

/-- The same name, reached through `q`. The empty qualifier stands for none. -/
def qualify? (p : PropertyPath) (q : String) : Except PathError PropertyPath :=
  if q = "" then .ok { p with qualifier := none, qualifier_ok := nofun }
  else if h : isQualifier q then
    .ok { p with qualifier := some q, qualifier_ok := by rintro _ ⟨⟩; exact h }
  else .error (.invalidQualifier q)

def ofQualified? (name q : String) : Except PathError PropertyPath := do
  (← ofName? name).qualify? q

/-! ## Declared properties

A declaration is checked on its own, with a fault where a cause would be reported.
-/

def declaredName (name : String) : Except Fault String :=
  if name = "" then .error .emptyName
  else if (firstForbidden? name).isSome then .error .badName
  else .ok name

theorem declaredName_of_isName {name : String} (h : IsName name) :
    declaredName name = .ok name := by
  rw [declaredName, if_neg h.1, h.2]
  rfl

theorem declaredName_of_forbidden {name : String} {ch : Char} (h : firstForbidden? name = some ch) :
    declaredName name = .error .badName := by
  have hname : name ≠ "" := by
    rintro rfl
    cases h
  rw [declaredName, if_neg hname, h]
  rfl

theorem isName_of_declaredName {name n : String} (h : declaredName name = .ok n) : IsName n := by
  unfold declaredName at h
  split at h
  · cases h
  · rename_i hempty
    split at h
    · cases h
    · rename_i hforbidden
      cases h
      exact ⟨hempty, by simpa using hforbidden⟩

def declare (name : String) : Except Fault PropertyPath :=
  match h : declaredName name with
  | .error f => .error f
  | .ok n => .ok ⟨n, none, isName_of_declaredName h, nofun⟩

theorem declare_of_isName {name : String} (h : IsName name) :
    declare name = .ok ⟨name, none, h, nofun⟩ := by
  have hname := declaredName_of_isName h
  unfold declare
  split <;> simp_all

theorem declare_of_fault {name : String} {f : Fault} (h : declaredName name = .error f) :
    declare name = .error f := by
  unfold declare
  split <;> simp_all

def declaredQualifier (q : String) : Except Fault String :=
  if q = "" || isQualifier q then .ok q else .error .badQualifier

def declareUnder (name q : String) : Except Fault PropertyPath := do
  let p ← declare name
  if q = "" then return p
  else if h : isQualifier q then
    return { p with qualifier := some q, qualifier_ok := by rintro _ ⟨⟩; exact h }
  else throw .badQualifier

/-! The checks of a declaration are those of the constructors that report a cause. -/

section declared

variable (name q : String)

theorem name_cases : name = "" ∨ (∃ ch, firstForbidden? name = some ch) ∨ IsName name := by
  by_cases hempty : name = ""
  · exact Or.inl hempty
  · cases hforbidden : firstForbidden? name with
    | none => exact Or.inr (Or.inr ⟨hempty, hforbidden⟩)
    | some ch => exact Or.inr (Or.inl ⟨ch, rfl⟩)

theorem declaredName_eq :
    declaredName name = ((ofName? name).mapError PathError.fault).map fun _ => name := by
  obtain rfl | ⟨ch, h⟩ | h := name_cases name
  · rfl
  · rw [declaredName_of_forbidden h, ofName?_eq_invalidName h]
    rfl
  · rw [declaredName_of_isName h, ofName?_eq_ok h]
    rfl

theorem declare_eq : declare name = (ofName? name).mapError PathError.fault := by
  obtain rfl | ⟨ch, h⟩ | h := name_cases name
  · rfl
  · rw [declare_of_fault (declaredName_of_forbidden h), ofName?_eq_invalidName h]
    rfl
  · rw [declare_of_isName h, ofName?_eq_ok h]
    rfl

theorem declareUnder_eq :
    declareUnder name q = (ofQualified? name q).mapError PathError.fault := by
  obtain rfl | ⟨ch, h⟩ | h := name_cases name
  · rfl
  · rw [declareUnder, declare_eq, ofQualified?, ofName?_eq_invalidName h]
    rfl
  · rw [declareUnder, declare_of_isName h, ofQualified?, ofName?_eq_ok h]
    simp only [bind, Except.bind, qualify?]
    split
    · rfl
    · split <;> rfl

end declared

/-- Drops the marker of a name that would otherwise be a keyword: `r#type` is declared for `type`.
A marker with nothing after it is a name of its own. -/
def bareName (ident : String) : String :=
  match ident.toList with
  | 'r' :: '#' :: c :: rest => String.ofList (c :: rest)
  | _ => ident

end PropertyPath

/-! ## The grammar

A qualifier is a non-empty sequence of segments between dots, each of them a name. The one-pass scan
accepts exactly these.
-/

/-- The parts between the dots. There is always one, which may be empty. -/
abbrev segments (cs : List Char) : List (List Char) := cs.splitOn '.'

def IsSegment (s : List Char) : Prop := s ≠ [] ∧ ∀ c ∈ s, isForbidden c = false

/-- After a dot, a part may not be empty; after another character, the part is under way. -/
theorem scanSegments_iff_of_segments (before : Char) (cs : List Char) {s : List Char}
    {ss : List (List Char)} (h : segments cs = s :: ss) :
    scanSegments before cs = true ↔
      (before = '.' → s ≠ []) ∧ (∀ c ∈ s, isForbidden c = false) ∧ ∀ t ∈ ss, IsSegment t := by
  induction cs generalizing before s ss with
  | nil =>
    obtain ⟨rfl, rfl⟩ : [] = s ∧ [] = ss := by simpa [List.splitOn_nil] using h
    simp [scanSegments]
  | cons c rest ih =>
    obtain ⟨t, ts, ht⟩ := List.exists_cons_of_ne_nil (List.splitOn_ne_nil '.' rest)
    rw [segments, List.splitOn_cons_eq_if_modifyHead, ht] at h
    by_cases hdot : c = '.'
    · subst hdot
      obtain ⟨rfl, rfl⟩ : [] = s ∧ t :: ts = ss := by simpa using h
      have hsp : isPathSpace '.' = false := by decide
      by_cases hb : before = '.'
      · simp [scanSegments, hsp, hb]
      · simp [scanSegments, hsp, hb, ih '.' ht, IsSegment, and_assoc]
    · obtain ⟨rfl, rfl⟩ : c :: t = s ∧ ts = ss := by simpa [hdot] using h
      have hforb : isForbidden c = (decide (c = '#') || isPathSpace c) := by
        simp [isForbidden, hdot]
      cases hbad : decide (c = '#') || isPathSpace c with
      | true => simp [scanSegments, hbad, hforb]
      | false => simp [scanSegments, hbad, hforb, hdot, ih c ht]

theorem isName_iff (name : String) : IsName name ↔ IsSegment name.toList := by
  simp [IsName, IsSegment, firstForbidden?, List.find?_eq_none]

theorem isQualifier_iff (q : String) :
    isQualifier q = true ↔ ∀ s ∈ segments q.toList, IsSegment s := by
  obtain ⟨s, ss, hs⟩ := List.exists_cons_of_ne_nil (List.splitOn_ne_nil '.' q.toList)
  rw [isQualifier, scanSegments_iff_of_segments '.' q.toList hs, segments, hs, List.forall_mem_cons,
    IsSegment, and_assoc]
  simp

end Criteria
