import Criteria.Predicate.Basic

/-! # Patterns

A pattern operator places wildcards around the bare value: `%` stands for any sequence of characters
and `_` for one character. The value itself is not escaped. A subject matches where it falls into
pieces, one for each character of the pattern.
-/

namespace Criteria

def Comparison.likePattern (c : Comparison) : Option String :=
  match c.op with
  | .like => some c.value
  | .startsWith => some (c.value ++ "%")
  | .endsWith => some ("%" ++ c.value)
  | .contains => some ("%" ++ c.value ++ "%")
  | .eq | .ne => none

/-- A subject matches a pattern; there is no escape character. -/
inductive Matches : List Char → List Char → Prop
  | nil : Matches [] []
  | char {c : Char} {s p : List Char} (hp : c ≠ '%') (hu : c ≠ '_') :
      Matches s p → Matches (c :: s) (c :: p)
  | any {c : Char} {s p : List Char} : Matches s p → Matches (c :: s) ('_' :: p)
  | skip {s p : List Char} : Matches s p → Matches s ('%' :: p)
  | extend {c : Char} {s p : List Char} : Matches s ('%' :: p) → Matches (c :: s) ('%' :: p)

/-- What an operator asks of a subject, where each character of the value stands for itself alone. -/
def CompareOp.Asks (value subject : List Char) : CompareOp → Prop
  | .eq | .like => subject = value
  | .ne => subject ≠ value
  | .startsWith => value <+: subject
  | .endsWith => value <:+ subject
  | .contains => value <:+: subject

/-! ## Pieces of a subject -/

inductive Stands : Char → List Char → Prop
  | self (c : Char) : Stands c [c]
  | any (c : Char) : Stands '_' [c]
  | run (t : List Char) : Stands '%' t

theorem stands_iff {c : Char} (hp : c ≠ '%') (t : List Char) :
    Stands c t ↔ ∃ d, (c = '_' ∨ c = d) ∧ t = [d] := by
  constructor
  · intro h
    cases h with
    | self => exact ⟨c, .inr rfl, rfl⟩
    | any d => exact ⟨d, .inl rfl, rfl⟩
    | run => exact absurd rfl hp
  · rintro ⟨d, rfl | rfl, rfl⟩
    · exact .any d
    · exact .self c

theorem Matches.run {s p : List Char} (h : Matches s p) (t : List Char) :
    Matches (t ++ s) ('%' :: p) := by
  induction t with
  | nil => exact .skip h
  | cons c t ih => exact .extend ih

theorem Matches.self {s p : List Char} (h : Matches s p) (c : Char) :
    Matches (c :: s) (c :: p) := by
  by_cases hp : c = '%'
  · subst hp
    exact h.run ['%']
  by_cases hu : c = '_'
  · subst hu
    exact .any h
  · exact .char hp hu h

theorem matches_nil_iff {s : List Char} : Matches s [] ↔ s = [] := by
  constructor
  · intro h
    cases h
    rfl
  · rintro rfl
    exact .nil

theorem matches_cons_iff {s p : List Char} {c : Char} :
    Matches s (c :: p) ↔ ∃ t u, s = t ++ u ∧ Stands c t ∧ Matches u p := by
  constructor
  · intro h
    -- a `%` may stay in the pattern, and then stands for one character more
    generalize hq : c :: p = q at h
    induction h with
    | nil => cases hq
    | @char d s q _ _ h =>
      obtain ⟨rfl, rfl⟩ := List.cons.inj hq
      exact ⟨[c], s, rfl, .self c, h⟩
    | @any d s q h =>
      obtain ⟨rfl, rfl⟩ := List.cons.inj hq
      exact ⟨[d], s, rfl, .any d, h⟩
    | @skip s q h =>
      obtain ⟨rfl, rfl⟩ := List.cons.inj hq
      exact ⟨[], s, rfl, .run [], h⟩
    | @extend d s q _ ih =>
      obtain ⟨t, u, rfl, -, hu⟩ := ih hq
      obtain ⟨rfl, rfl⟩ := List.cons.inj hq
      exact ⟨d :: t, u, rfl, .run (d :: t), hu⟩
  · rintro ⟨t, u, rfl, ht, hu⟩
    cases ht with
    | self => exact hu.self c
    | any d => exact .any hu
    | run => exact hu.run t

theorem matches_append_iff {s p q : List Char} :
    Matches s (p ++ q) ↔ ∃ t u, s = t ++ u ∧ Matches t p ∧ Matches u q := by
  induction p generalizing s with
  | nil =>
    simp only [List.nil_append, matches_nil_iff]
    constructor
    · intro h
      exact ⟨[], s, rfl, rfl, h⟩
    · rintro ⟨_, u, rfl, rfl, hu⟩
      exact hu
  | cons c p ih =>
    simp only [List.cons_append, matches_cons_iff, ih]
    constructor
    · rintro ⟨t, _, rfl, hc, u, v, rfl, hp, hq⟩
      exact ⟨t ++ u, v, (List.append_assoc t u v).symm, ⟨t, u, rfl, hc, hp⟩, hq⟩
    · rintro ⟨_, v, rfl, ⟨t, u, rfl, hc, hp⟩, hq⟩
      exact ⟨t, u ++ v, List.append_assoc t u v, hc, u, v, rfl, hp, hq⟩

end Criteria
