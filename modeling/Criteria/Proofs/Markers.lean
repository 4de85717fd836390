import Criteria.Proofs.Refusals

/-! # Marked names

A property may be declared with a marker in front of its name. The marker is dropped where a name
follows it. No name begins with one, so a name has two spellings: itself and the marked one.
-/

namespace Criteria

namespace PropertyPath

section bare

variable {s t : String}

theorem bareName_append (ht : t ≠ "") : bareName ("r#" ++ t) = t := by
  have hs : ("r#" ++ t).toList = 'r' :: '#' :: t.toList := by simp
  obtain ⟨c, cs, hc⟩ := List.exists_cons_of_ne_nil (mt String.toList_eq_nil_iff.1 ht)
  calc
    bareName ("r#" ++ t) = String.ofList (c :: cs) := by
      rw [bareName, hs, hc]
      rfl
    _ = t := by rw [← hc, String.ofList_toList]

theorem bareName_of_unmarked (h : ∀ t, t ≠ "" → s ≠ "r#" ++ t) : bareName s = s := by
  unfold bareName
  split
  · rename_i c cs hs
    have hmarked : s = "r#" ++ String.ofList (c :: cs) := by
      rw [← String.toList_inj, hs]
      simp
    exact absurd hmarked (h _ (by simp))
  · rfl

theorem eq_or_eq_append_bareName (s : String) : s = bareName s ∨ s = "r#" ++ bareName s := by
  by_cases h : ∃ t, t ≠ "" ∧ s = "r#" ++ t
  · obtain ⟨t, ht, rfl⟩ := h
    rw [bareName_append ht]
    exact Or.inr rfl
  · rw [bareName_of_unmarked fun t ht hs => h ⟨t, ht, hs⟩]
    exact Or.inl rfl

/-! ## Bytes -/

theorem utf8_eq_marked_iff {bs : List UInt8} :
    utf8 s = 'r'.toUInt8 :: '#'.toUInt8 :: bs ↔ ∃ t, s = "r#" ++ t ∧ utf8 t = bs := by
  simp only [utf8_eq_flatMap, flatMap_utf8EncodeChar_eq_cons_iff (show 'r'.toNat < 128 by decide),
    flatMap_utf8EncodeChar_eq_cons_iff (show '#'.toNat < 128 by decide)]
  constructor
  · rintro ⟨_, hs, cs, rfl, hbs⟩
    refine ⟨String.ofList cs, ?_, by rw [String.toList_ofList, hbs]⟩
    rw [← String.toList_inj, hs]
    simp
  · rintro ⟨t, rfl, ht⟩
    exact ⟨'#' :: t.toList, by simp, t.toList, rfl, ht⟩

theorem cutName?_append (ht : t ≠ "") : cutName? ("r#" ++ t) = some t := by
  have hne : utf8 t ≠ [] := fun hnil => ht (utf8_inj (t := "") hnil)
  obtain ⟨b, rest, hb⟩ := List.exists_cons_of_ne_nil hne
  have hbytes : utf8 ("r#" ++ t) = 'r'.toUInt8 :: '#'.toUInt8 :: b :: rest :=
    utf8_eq_marked_iff.2 ⟨t, rfl, hb⟩
  calc
    cutName? ("r#" ++ t) = String.fromUTF8? (b :: rest).toByteArray := by
      rw [cutName?, hbytes]
      rfl
    _ = some t := by rw [← hb, fromUTF8?_utf8]

theorem cutName?_of_unmarked (h : ∀ t, t ≠ "" → s ≠ "r#" ++ t) : cutName? s = some s := by
  unfold cutName?
  -- where something is cut off, the bytes are those of a marked text
  split
  · rename_i r m b rest hbytes
    split
    · rename_i hm
      obtain ⟨rfl, rfl⟩ : r = 'r'.toUInt8 ∧ m = '#'.toUInt8 := by simpa using hm
      obtain ⟨t, hs, ht⟩ := utf8_eq_marked_iff.1 hbytes
      refine absurd hs (h t ?_)
      rintro rfl
      cases ht
    · rfl
  · rfl

/-- The cut through the bytes always leaves a text, and this is the bare name. -/
theorem cutName?_eq (s : String) : cutName? s = some (bareName s) := by
  by_cases h : ∃ t, t ≠ "" ∧ s = "r#" ++ t
  · obtain ⟨t, ht, rfl⟩ := h
    rw [cutName?_append ht, bareName_append ht]
  · have hs : ∀ t, t ≠ "" → s ≠ "r#" ++ t := fun t ht hs => h ⟨t, ht, hs⟩
    rw [cutName?_of_unmarked hs, bareName_of_unmarked hs]

/-! ## Declared names -/

theorem declaredName_eq_ok_iff : declaredName s = .ok t ↔ t = s ∧ IsSegment s.toList :=
  (decides_declaredName s).ok_iff t

theorem bareName_of_isSegment (h : IsSegment s.toList) : bareName s = s := by
  refine bareName_of_unmarked ?_
  rintro t - rfl
  have hf := h.2 '#' (by simp)
  cases hf

/-- The marker is dropped where something follows it, and any other text stays as it is. The cut
through the bytes comes to the same and never fails. So a name is declared in just two spellings. -/
theorem declared_in_two_spellings (s n : String) :
    (∀ t, t ≠ "" → s = "r#" ++ t → bareName s = t) ∧
      ((∀ t, t ≠ "" → s ≠ "r#" ++ t) → bareName s = s) ∧
      cutName? s = some (bareName s) ∧
      (declaredName (bareName s) = .ok n ↔
        declaredName n = .ok n ∧ (s = n ∨ s = "r#" ++ n)) ∧
      (declaredName n = .ok n → bareName n = n) := by
  refine ⟨?_, bareName_of_unmarked, cutName?_eq s, ?_, ?_⟩
  · rintro t ht rfl
    exact bareName_append ht
  · simp only [declaredName_eq_ok_iff, true_and]
    constructor
    · rintro ⟨rfl, h⟩
      exact ⟨h, eq_or_eq_append_bareName s⟩
    · rintro ⟨h, rfl | rfl⟩
      · rw [bareName_of_isSegment h]
        exact ⟨rfl, h⟩
      · rw [bareName_append (mt String.toList_eq_nil_iff.2 h.1)]
        exact ⟨rfl, h⟩
  · intro h
    exact bareName_of_isSegment (declaredName_eq_ok_iff.1 h).2

end bare

/-- A wide name in both spellings, a marker before nothing and a marker before a marker. -/
theorem declared_in_two_spellings_of_markers :
    declaredName (bareName "r#größe") = .ok "größe" ∧
      declaredName (bareName "größe") = .ok "größe" ∧
      cutName? "r#größe" = some "größe" ∧
      bareName "r#" = "r#" ∧
      bareName "r#r#type" = "r#type" ∧ ∀ n, declaredName (bareName "r#r#type") ≠ .ok n := by
  have hname : declaredName "größe" = .ok "größe" := rfl
  obtain ⟨hdrop, -, hcut, hmarked, -⟩ := declared_in_two_spellings "r#größe" "größe"
  obtain ⟨-, -, -, -, hbare⟩ := declared_in_two_spellings "größe" "größe"
  obtain ⟨-, hkeep, -⟩ := declared_in_two_spellings "r#" ""
  obtain ⟨htwice, -⟩ := declared_in_two_spellings "r#r#type" "r#type"
  have htype : bareName "r#r#type" = "r#type" := htwice "r#type" (by decide) rfl
  refine ⟨hmarked.2 ⟨hname, Or.inr rfl⟩, ?_, ?_, hkeep ?_, htype, ?_⟩
  · rw [hbare hname]
    exact hname
  · rw [hcut, hdrop "größe" (by decide) rfl]
  · intro t ht hs
    exact ht ((String.append_right_inj "r#").1 (hs.symm.trans rfl))
  · intro n hn
    rw [htype] at hn
    cases hn

end PropertyPath

end Criteria
