import Criteria.Path.Bytes
import Criteria.Proofs.Resolution

/-! # Which paths are refused

A name and a qualifier make a path, or are refused with a cause that the grammar tells. A declaration
differs only in that the cause is a fault there, and the name is looked at first everywhere.
-/

namespace Criteria

/-- What may stand for a qualifier: nothing, or names between dots. -/
def IsQualification (q : String) : Prop := q = "" ∨ ∀ s ∈ segments q.toList, IsSegment s

theorem isQualification_iff (q : String) : IsQualification q ↔ q = "" ∨ isQualifier q = true := by
  rw [IsQualification, isQualifier_iff]

theorem isForbidden_iff (c : Char) :
    isForbidden c = true ↔ c ∈ ['.', '#', '\t', '\n', '\x0c', '\r', ' '] := by
  simp only [isForbidden, isPathSpace, Bool.or_eq_true, decide_eq_true_eq, List.mem_cons,
    List.not_mem_nil, or_false]
  tauto

theorem firstForbidden?_eq_some_iff (name : String) (ch : Char) :
    firstForbidden? name = some ch ↔ isForbidden ch = true ∧
      ∃ before after, name.toList = before ++ ch :: after ∧
        ∀ c ∈ before, isForbidden c = false := by
  simp [firstForbidden?, List.find?_eq_some_iff_append]

/-- A check accepts with just these results, and refuses with just these causes. -/
structure Decides {ε α : Type} (check : Except ε α) (accepted : α → Prop) (refused : ε → Prop) :
    Prop where
  ok_iff : ∀ a, check = .ok a ↔ accepted a
  error_iff : ∀ e, check = .error e ↔ refused e

namespace Decides

variable {ε α β : Type} {check : Except ε α} {accepted : α → Prop} {refused : ε → Prop}

theorem mapError (h : Decides check accepted refused) (f : ε → β) :
    Decides (check.mapError f) accepted fun e' => ∃ e, refused e ∧ f e = e' := by
  refine ⟨fun a => ?_, fun e' => ?_⟩
  · rw [← h.ok_iff]
    cases check <;> simp [Except.mapError]
  · simp only [← h.error_iff]
    cases check <;> simp [Except.mapError]

theorem map (h : Decides check accepted refused) (f : α → β) :
    Decides (check.map f) (fun b => ∃ a, accepted a ∧ f a = b) refused := by
  refine ⟨fun b => ?_, fun e => ?_⟩
  · simp only [← h.ok_iff]
    cases check <;> simp [Except.map]
  · rw [← h.error_iff]
    cases check <;> simp [Except.map]

end Decides

namespace PropertyPath

/-- The path that a name and a qualifier make. The empty qualifier stands for none. -/
structure MadeOf (name q : String) (p : PropertyPath) : Prop where
  isSegment : IsSegment name.toList
  isQualification : IsQualification q
  name_eq : p.name = name
  qualifier_eq : p.qualifier = if q = "" then none else some q

inductive Refused (name q : String) : PathError → Prop
  | emptyName (hname : name = "") : Refused name q .emptyName
  | invalidName {before after : List Char} {ch : Char}
      (hname : name.toList = before ++ ch :: after) (hbefore : ∀ c ∈ before, isForbidden c = false)
      (hch : isForbidden ch = true) : Refused name q (.invalidName name ch)
  | invalidQualifier (hname : IsSegment name.toList) (hq : ¬ IsQualification q) :
      Refused name q (.invalidQualifier q)

section made

variable {name q : String}

/-! ## Paths that are made -/

theorem madeOf_iff (p : PropertyPath) :
    MadeOf name q p ↔ p.name = name ∧ p.qualifier.getD "" = q := by
  constructor
  · rintro ⟨-, -, hname, hq⟩
    refine ⟨hname, ?_⟩
    rw [hq]
    split <;> simp_all
  · rintro ⟨rfl, rfl⟩
    have hname := p.isSegment_name
    cases hq : p.qualifier with
    | none => exact ⟨hname, Or.inl rfl, rfl, by rw [hq]; rfl⟩
    | some q =>
      have hok := p.qualifier_ok q hq
      refine ⟨hname, Or.inr ((isQualifier_iff q).mp hok), rfl, ?_⟩
      rw [hq, Option.getD_some, if_neg (ne_empty_of_isQualifier hok)]

theorem ofQualified?_eq_ok_iff_madeOf (p : PropertyPath) :
    ofQualified? name q = .ok p ↔ MadeOf name q p := by
  rw [ofQualified?_eq_ok_iff, madeOf_iff]

theorem exists_madeOf (hname : IsSegment name.toList) (hq : IsQualification q) :
    ∃ p, MadeOf name q p := by
  have hn := (isName_iff name).mpr hname
  rcases (isQualification_iff q).mp hq with rfl | h
  · exact ⟨⟨name, none, hn, by rintro _ ⟨⟩⟩, (madeOf_iff _).mpr ⟨rfl, rfl⟩⟩
  · exact ⟨⟨name, some q, hn, by rintro _ ⟨⟩; exact h⟩, (madeOf_iff _).mpr ⟨rfl, rfl⟩⟩

/-! ## Causes -/

theorem ofName?_empty : ofName? "" = .error .emptyName := rfl

theorem ofQualified?_eq_error_of_ofName? {e : PathError} (h : ofName? name = .error e) :
    ofQualified? name q = .error e := by
  rw [ofQualified?, h]
  rfl

theorem ofQualified?_eq_invalidQualifier (hname : IsSegment name.toList)
    (hq : ¬ IsQualification q) : ofQualified? name q = .error (.invalidQualifier q) := by
  rw [isQualification_iff, not_or] at hq
  rw [ofQualified?, ofName?_eq_ok ((isName_iff name).mpr hname)]
  simp only [bind, Except.bind, qualify?, if_neg hq.1, dif_neg hq.2]

theorem ofQualified?_of_refused {e : PathError} (h : Refused name q e) :
    ofQualified? name q = .error e := by
  cases h with
  | emptyName hname =>
    subst hname
    exact ofQualified?_eq_error_of_ofName? ofName?_empty
  | invalidName hname hbefore hch =>
    have hff := (firstForbidden?_eq_some_iff name _).mpr ⟨hch, _, _, hname, hbefore⟩
    exact ofQualified?_eq_error_of_ofName? (ofName?_eq_invalidName hff)
  | invalidQualifier hname hq => exact ofQualified?_eq_invalidQualifier hname hq

theorem exists_refused (h : ∀ p, ¬ MadeOf name q p) : ∃ e, Refused name q e := by
  obtain hempty | ⟨ch, hff⟩ | hname := name_cases name
  · exact ⟨_, .emptyName hempty⟩
  · obtain ⟨hch, before, after, hsplit, hbefore⟩ := (firstForbidden?_eq_some_iff name ch).mp hff
    exact ⟨_, .invalidName hsplit hbefore hch⟩
  · have hseg := (isName_iff name).mp hname
    refine ⟨_, .invalidQualifier hseg fun hq => ?_⟩
    obtain ⟨p, hp⟩ := exists_madeOf hseg hq
    exact h p hp

theorem decides_ofQualified? (name q : String) :
    Decides (ofQualified? name q) (MadeOf name q) (Refused name q) := by
  refine ⟨ofQualified?_eq_ok_iff_madeOf, fun e => ⟨fun h => ?_, ofQualified?_of_refused⟩⟩
  obtain ⟨e', he'⟩ : ∃ e', Refused name q e' := by
    refine exists_refused fun p hp => ?_
    cases h.symm.trans ((ofQualified?_eq_ok_iff_madeOf p).mpr hp)
  cases h.symm.trans (ofQualified?_of_refused he')
  exact he'

theorem ofName?_eq (name : String) : ofName? name = ofQualified? name "" := by
  unfold ofQualified? ofName?
  split
  · rfl
  · split <;> rfl

theorem decides_ofName? (name : String) :
    Decides (ofName? name) (MadeOf name "") (Refused name "") :=
  ofName?_eq name ▸ decides_ofQualified? name ""

end made

/-! ## Declared properties -/

theorem decides_declaredName (name : String) :
    Decides (declaredName name) (fun r => r = name ∧ IsSegment name.toList)
      fun f => ∃ e, Refused name "" e ∧ e.fault = f := by
  have h := ((decides_ofName? name).mapError PathError.fault).map fun _ => name
  rw [declaredName_eq]
  refine ⟨fun r => (h.ok_iff r).trans ?_, h.error_iff⟩
  constructor
  · rintro ⟨p, hp, rfl⟩
    exact ⟨rfl, hp.isSegment⟩
  · rintro ⟨rfl, hname⟩
    obtain ⟨p, hp⟩ := exists_madeOf hname (Or.inl rfl)
    exact ⟨p, hp, rfl⟩

theorem decides_declaredQualifier (q : String) :
    Decides (declaredQualifier q) (fun r => r = q ∧ IsQualification q)
      fun f => ¬ IsQualification q ∧ f = .badQualifier := by
  by_cases h : IsQualification q
  · have hok : declaredQualifier q = .ok q :=
      declaredQualifier_eq_ok_iff.mpr ((isQualification_iff q).mp h)
    rw [hok]
    constructor <;> simp [h, eq_comm]
  · have hbad : declaredQualifier q = .error .badQualifier := by
      rw [declaredQualifier, if_neg]
      simpa [isQualification_iff] using h
    rw [hbad]
    constructor <;> simp [h, eq_comm]

/-- Which names and qualifiers make a path, and for which cause the others are refused, in each of
the ways to check them. The same holds where the checks go over the bytes. -/
theorem made_or_refused (name q : String) :
    (∀ c, isForbidden c = true ↔ c ∈ ['.', '#', '\t', '\n', '\x0c', '\r', ' ']) ∧
      Decides (ofName? name) (MadeOf name "") (Refused name "") ∧
      Decides (ofQualified? name q) (MadeOf name q) (Refused name q) ∧
      Decides (declare name) (MadeOf name "") (fun f => ∃ e, Refused name "" e ∧ e.fault = f) ∧
      Decides (declareUnder name q) (MadeOf name q) (fun f => ∃ e, Refused name q e ∧ e.fault = f) ∧
      Decides (declaredName name) (fun r => r = name ∧ IsSegment name.toList)
        (fun f => ∃ e, Refused name "" e ∧ e.fault = f) ∧
      Decides (declaredQualifier q) (fun r => r = q ∧ IsQualification q)
        (fun f => ¬ IsQualification q ∧ f = .badQualifier) ∧
      firstForbidden? name = ((utf8 name).find? isForbiddenByte).map Char.ofUInt8 ∧
      isQualifier q = scanBytes '.'.toUInt8 (utf8 q) :=
  ⟨isForbidden_iff, decides_ofName? name, decides_ofQualified? name q,
    declare_eq name ▸ (decides_ofName? name).mapError _,
    declareUnder_eq name q ▸ (decides_ofQualified? name q).mapError _,
    decides_declaredName name, decides_declaredQualifier q, firstForbidden?_eq name,
    isQualifier_eq q⟩

end PropertyPath

end Criteria
