import Mathlib
import Criteria.Predicate.Pattern

/-! # What a pattern finds

A `%` at an end of a pattern leaves that end of the subject free. So a subject matches the pattern of
an operator where a text that matches the value stands as the operator asks. The value is always
such a text, and the only one where it holds no wildcard.
-/

namespace Criteria

/-! ## Deciding a match -/

/-- Whether a pattern is matched, by trying every rest of the subject behind a `%`. -/
def isMatch : List Char → List Char → Bool
  | [], s => s.isEmpty
  | c :: p, s =>
    if c = '%' then s.tails.any (isMatch p)
    else s.head?.any (fun d => c = '_' || c = d) && isMatch p s.tail

theorem isMatch_iff (p s : List Char) : isMatch p s = true ↔ Matches s p := by
  induction p generalizing s with
  | nil => rw [isMatch, List.isEmpty_iff, matches_nil_iff]
  | cons c p ih =>
    rw [isMatch, matches_cons_iff]
    split
    · rename_i hc
      subst hc
      simp only [List.any_eq_true, List.mem_tails, ih]
      constructor
      · rintro ⟨u, ⟨t, rfl⟩, hu⟩
        exact ⟨t, u, rfl, .run t, hu⟩
      · rintro ⟨t, u, rfl, -, hu⟩
        exact ⟨u, ⟨t, rfl⟩, hu⟩
    · rename_i hc
      simp only [stands_iff hc]
      cases s with
      | nil => simp
      | cons d s => simp [ih]

instance (s p : List Char) : Decidable (Matches s p) := decidable_of_iff _ (isMatch_iff p s)

/-! ## Values -/

theorem matches_self (s : List Char) : Matches s s := by
  induction s with
  | nil => exact .nil
  | cons c s ih => exact ih.self c

theorem matches_iff_eq {p : List Char} (hp : '%' ∉ p) (hu : '_' ∉ p) (s : List Char) :
    Matches s p ↔ s = p := by
  refine ⟨fun h => ?_, fun h => h ▸ matches_self p⟩
  induction h with
  | nil => rfl
  | char _ _ _ ih =>
    rw [ih (List.not_mem_of_not_mem_cons hp) (List.not_mem_of_not_mem_cons hu)]
  | any => exact absurd List.mem_cons_self hu
  | skip | extend => exact absurd List.mem_cons_self hp

/-! ## Free ends -/

section ends

variable {s p : List Char}

theorem matches_percent_cons_iff : Matches s ('%' :: p) ↔ ∃ t, t <:+ s ∧ Matches t p := by
  rw [matches_cons_iff]
  constructor
  · rintro ⟨t, u, rfl, -, hu⟩
    exact ⟨u, List.suffix_append t u, hu⟩
  · rintro ⟨u, ⟨t, rfl⟩, hu⟩
    exact ⟨t, u, rfl, .run t, hu⟩

theorem matches_append_percent_iff : Matches s (p ++ ['%']) ↔ ∃ t, t <+: s ∧ Matches t p := by
  rw [matches_append_iff]
  constructor
  · rintro ⟨t, u, rfl, ht, -⟩
    exact ⟨t, List.prefix_append t u, ht⟩
  · rintro ⟨t, ⟨u, rfl⟩, ht⟩
    exact ⟨t, u, rfl, ht, matches_percent_cons_iff.2 ⟨[], List.nil_suffix, .nil⟩⟩

theorem matches_percent_cons_append_percent_iff :
    Matches s ('%' :: (p ++ ['%'])) ↔ ∃ t, t <:+: s ∧ Matches t p := by
  simp only [matches_percent_cons_iff, matches_append_percent_iff, List.infix_iff_prefix_suffix]
  constructor
  · rintro ⟨u, hu, t, ht, hp⟩
    exact ⟨t, ⟨u, ht, hu⟩, hp⟩
  · rintro ⟨t, ⟨u, ht, hu⟩, hp⟩
    exact ⟨u, hu, t, ht, hp⟩

end ends

/-! ## Operators -/

namespace Comparison

theorem isSome_likePattern (c : Comparison) : c.likePattern.isSome = c.op.isPattern := by
  obtain ⟨path, op, value, casing⟩ := c
  cases op <;> rfl

/-- The value is read as a pattern, for some text that stands as the operator asks. -/
theorem matches_likePattern_iff {c : Comparison} {p : String} (h : c.likePattern = some p)
    (s : List Char) :
    Matches s p.toList ↔ ∃ t, c.op.Asks t s ∧ Matches t c.value.toList := by
  obtain ⟨path, op, value, casing⟩ := c
  cases op with
  | eq | ne => cases h
  | like =>
    obtain rfl := Option.some.inj h
    simp [CompareOp.Asks]
  | startsWith =>
    obtain rfl := Option.some.inj h
    have hp : (value ++ "%").toList = value.toList ++ ['%'] := by simp
    rw [hp, matches_append_percent_iff]
    rfl
  | endsWith =>
    obtain rfl := Option.some.inj h
    have hp : ("%" ++ value).toList = '%' :: value.toList := by simp
    rw [hp, matches_percent_cons_iff]
    rfl
  | contains =>
    obtain rfl := Option.some.inj h
    have hp : ("%" ++ value ++ "%").toList = '%' :: (value.toList ++ ['%']) := by simp
    rw [hp, matches_percent_cons_append_percent_iff]
    rfl

/-- A wildcard in the value lets a subject through that the operator does not ask for. -/
example : Matches "50 or more off".toList "%50%_off%".toList ∧
    ¬ "50%_off".toList <:+: "50 or more off".toList := by
  decide

/-- Just the pattern operators have a pattern. Each subject that is as the operator asks matches it, and
no other does where the value holds no wildcard. -/
theorem pattern_matches_as_asked (c : Comparison) :
    c.likePattern.isSome = c.op.isPattern ∧
      ∀ p, c.likePattern = some p → ∀ s : String,
        (c.op.Asks c.value.toList s.toList → Matches s.toList p.toList) ∧
          ('%' ∉ c.value.toList → '_' ∉ c.value.toList →
            (Matches s.toList p.toList ↔ c.op.Asks c.value.toList s.toList)) := by
  refine ⟨c.isSome_likePattern, fun p hpattern s => ?_⟩
  rw [matches_likePattern_iff hpattern]
  constructor
  · intro h
    exact ⟨c.value.toList, h, matches_self c.value.toList⟩
  · intro hp hu
    simp only [matches_iff_eq hp hu, exists_eq_right]

/-- A value with both wildcards is found as it stands, and one with none is found in its place only. -/
theorem pattern_matches_as_asked_of_wild_and_bare :
    Matches "now 50%_off!".toList "%50%_off%".toList ∧
      Matches "admin@host".toList "admin@%".toList ∧
      ¬ Matches "no-admin@host".toList "admin@%".toList := by
  obtain ⟨-, hwild⟩ := pattern_matches_as_asked ⟨"code", .contains, "50%_off", .sensitive⟩
  obtain ⟨-, hbare⟩ := pattern_matches_as_asked ⟨"email", .startsWith, "admin@", .insensitive⟩
  have hiff (s : String) := (hbare _ rfl s).2 (by decide) (by decide)
  refine ⟨(hwild _ rfl _).1 ⟨"now ".toList, "!".toList, by decide⟩, ?_, ?_⟩
  · exact (hiff "admin@host").2 ⟨"host".toList, by decide⟩
  · intro h
    have hprefix : "admin@".toList <+: "no-admin@host".toList := (hiff "no-admin@host").1 h
    exact absurd hprefix (by decide)

end Comparison

end Criteria
