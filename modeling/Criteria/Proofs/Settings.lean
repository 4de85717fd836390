import Mathlib
import Criteria.Config.Settings
import Criteria.Steps

/-! # What a table of settings is read as

A table is read by its names alone: every entry has to set a field, and the order of the entries is
of no account. So a TOML document and a JSON object of one table are read as one configuration.
-/

namespace Criteria

namespace Scalar

theorem shape_toJson (v : Scalar) : v.toJson.shape = v.shape := by cases v <;> rfl

theorem toBool_shape_eq_ok_iff (v : Scalar) (b : Bool) :
    v.shape.toBool = .ok b ↔ v = .bool b := by
  cases v <;> simp [shape, Shape.toBool]

theorem readLimit_shape_eq_ok_iff (v : Scalar) (o : Option Nat) :
    Config.readLimit v.shape = .ok o ↔ ∃ n, v = .int n ∧ 0 ≤ n.val ∧ o = some n.val.toNat := by
  cases v with
  | bool b =>
    refine iff_of_false (fun h => ?_) (by simp)
    obtain ⟨_, h, -⟩ := map_eq_ok_iff.1 h
    cases h
  | text s =>
    refine iff_of_false (fun h => ?_) (by simp)
    obtain ⟨_, h, -⟩ := map_eq_ok_iff.1 h
    cases h
  | int n =>
    have hword : (Shape.int n).toWord .size =
        if n.val < 0 then .error (.invalidValue (.int n) .size) else .ok n.val.toNat := by
      simp [Shape.toWord, n.property]
    simp only [shape, Config.readLimit, map_eq_ok_iff, hword]
    constructor
    · rintro ⟨k, hk, rfl⟩
      split at hk
      · cases hk
      · rename_i hpos
        cases hk
        exact ⟨n, rfl, Int.not_lt.1 hpos, rfl⟩
    · rintro ⟨_, hn, hpos, rfl⟩
      cases hn
      exact ⟨n.val.toNat, if_neg (Int.not_lt.2 hpos), rfl⟩

end Scalar

namespace Config

theorem Field.named_eq_ok_iff (s : String) (f : Field) : Field.named s = .ok f ↔ f.name = s := by
  constructor
  · intro h
    unfold Field.named at h
    split at h
    · rename_i g hg
      cases h
      simpa using List.find?_some hg
    · cases h
  · rintro rfl
    cases f <;> rfl

end Config

namespace Settings

variable (t : Settings)

theorem isSetting_iff (n : String) (v : Scalar) :
    IsSetting (n, v) ↔
      (n = "debug" ∨ n = "metrics") ∧ (∃ b, v = .bool b) ∨
        n = "max_predicates" ∧ ∃ i, v = .int i ∧ 0 ≤ i.val := by
  constructor
  · intro h
    cases h <;> simp [*]
  · rintro (⟨rfl | rfl, b, rfl⟩ | ⟨rfl, i, rfl, hi⟩)
    · exact .debug b
    · exact .metrics b
    · exact .maxPredicates hi

theorem given_singleton {α : Type} (n : String) (v : Scalar) (name : String)
    (read? : Scalar → Option α) (default : α) :
    given [(n, v)] name read? default = if name = n then (read? v).getD default else default := by
  rw [given, Listing.lookup_cons]
  split <;> rfl

theorem set_eq_ok_iff (c : Config) (f : Config.Field) (v : Scalar) (c' : Config) :
    c.set f v.shape = .ok c' ↔ IsSetting (f.name, v) ∧ c' = overlay c [(f.name, v)] := by
  cases f with
  | debug | metrics =>
    simp only [Config.set, bind_eq_ok_iff, pure_eq_ok_iff, Scalar.toBool_shape_eq_ok_iff]
    constructor
    · rintro ⟨b, rfl, rfl⟩
      exact ⟨by simp [isSetting_iff, Config.Field.name], rfl⟩
    · rintro ⟨h, rfl⟩
      obtain ⟨b, rfl⟩ : ∃ b, v = .bool b := by simpa [isSetting_iff, Config.Field.name] using h
      exact ⟨b, rfl, rfl⟩
  | maxPredicates =>
    have hoverlay (n : { n : Int // inWordRange n = true }) (hn : 0 ≤ n.val) :
        overlay c [("max_predicates", .int n)] = { c with maxPredicates := some n.val.toNat } := by
      simp [overlay, given_singleton, Scalar.size?, hn]
    simp only [Config.set, bind_eq_ok_iff, pure_eq_ok_iff, Scalar.readLimit_shape_eq_ok_iff]
    constructor
    · rintro ⟨_, ⟨n, rfl, hn, rfl⟩, rfl⟩
      exact ⟨.maxPredicates hn, (hoverlay n hn).symm⟩
    · rintro ⟨h, rfl⟩
      obtain ⟨n, rfl, hn⟩ : ∃ n, v = .int n ∧ 0 ≤ n.val := by
        simpa [isSetting_iff, Config.Field.name] using h
      exact ⟨_, ⟨n, rfl, hn, rfl⟩, hoverlay n hn⟩

theorem setNamed_eq_ok_iff (c : Config) (e : String × Scalar) (c' : Config) :
    c.setNamed (e.1, e.2.shape) = .ok c' ↔ IsSetting e ∧ c' = overlay c [e] := by
  simp only [Config.setNamed, bind_eq_ok_iff, Config.Field.named_eq_ok_iff]
  constructor
  · rintro ⟨f, hf, hset⟩
    rw [set_eq_ok_iff, hf] at hset
    exact hset
  · rintro ⟨h, rfl⟩
    obtain ⟨f, hf⟩ : ∃ f : Config.Field, f.name = e.1 := by
      cases h with
      | debug b => exact ⟨.debug, rfl⟩
      | metrics b => exact ⟨.metrics, rfl⟩
      | maxPredicates hn => exact ⟨.maxPredicates, rfl⟩
    refine ⟨f, hf, ?_⟩
    rw [set_eq_ok_iff, hf]
    exact ⟨h, rfl⟩

theorem setEntry_eq_ok_iff (c : Config) (e : String × Scalar) (c' : Config) :
    c.setEntry (e.1, .ok e.2.shape) = .ok c' ↔ IsSetting e ∧ c' = overlay c [e] := by
  rw [Config.setEntry_ok, mapError_eq_ok_iff, setNamed_eq_ok_iff]

/-! ## Tables -/

theorem given_cons {α : Type} {e : String × Scalar} {es : List (String × Scalar)}
    (h : Listing.Distinct (e :: es)) (name : String) (read? : Scalar → Option α) (default : α) :
    given (e :: es) name read? default = given es name read? (given [e] name read? default) := by
  obtain ⟨hnot, -⟩ := List.nodup_cons.1 h
  rw [given_singleton, given, Listing.lookup_cons]
  split
  · rename_i hn
    have hnone : es.lookup name = none := by
      rw [List.lookup_eq_none_iff]
      intro e' he'
      exact bne_iff_ne.2 fun hn' : name = e'.1 => hnot (List.mem_map.2 ⟨e', he', hn'.symm.trans hn⟩)
    rw [given, hnone]
    rfl
  · rfl

theorem foldl_overlay {es : List (String × Scalar)} (h : Listing.Distinct es) (c : Config) :
    es.foldl (fun c e => overlay c [e]) c = overlay c es := by
  induction es generalizing c with
  | nil => rfl
  | cons e es ih =>
    obtain ⟨-, hes⟩ := List.nodup_cons.1 h
    rw [List.foldl_cons, ih hes, overlay, overlay, overlay]
    simp only [given_cons h]

theorem overlay_perm {es fs : List (String × Scalar)} (h : Listing.Distinct es) (hp : es.Perm fs)
    (c : Config) : overlay c es = overlay c fs := by
  simp only [overlay, given, h.lookup_perm hp]

/-- Any fold over the entries that takes settings, and only those, reads the table. -/
theorem foldlM_setting {ε : Type} {step : Config → String × Scalar → Except ε Config}
    (hstep : ∀ c e c', step c e = .ok c' ↔ IsSetting e ∧ c' = overlay c [e])
    {es : List (String × Scalar)} (hp : es.Perm t.entries) (c : Config) :
    es.foldlM step {} = .ok c ↔ (∀ e ∈ t.entries, IsSetting e) ∧ c = t.config := by
  have hes : Listing.Distinct es := (hp.map _).nodup_iff.2 t.distinct
  rw [foldlM_eq_ok_iff hstep, foldl_overlay hes, overlay_perm hes hp, config]
  simp only [hp.mem_iff]

theorem ofJson_eq_ok_iff {j : Json} (h : t.InJson j) (c : Config) :
    Config.ofJson j = .ok c ↔ (∀ e ∈ t.entries, IsSetting e) ∧ c = t.config := by
  obtain ⟨es, hp, rfl⟩ := h
  rw [← t.foldlM_setting setNamed_eq_ok_iff hp, Config.ofJson, Json.readRecord, Config.ofTable,
    List.map_map, List.foldlM_map]
  simp only [Function.comp_apply, Scalar.shape_toJson]

theorem ofToml_eq_ok_iff {read : TableReader} {document : String} (h : t.InToml read document)
    (c : Config) :
    Config.ofToml read document = .ok c ↔ (∀ e ∈ t.entries, IsSetting e) ∧ c = t.config := by
  obtain ⟨es, hp, hread⟩ := h
  rw [← t.foldlM_setting setEntry_eq_ok_iff hp, Config.ofToml, hread]
  change (es.map _).foldlM Config.setEntry {} = .ok c ↔ _
  rw [List.foldlM_map]

/-- A table of distinct names is read where each of its entries is a setting, as the configuration
that has its values in the place of the default ones. It makes no difference whether an object says
it or a document, whatever the reader of the document, nor in which order. -/
theorem settings_read :
    (∀ j, t.InJson j → ∀ c,
      Config.ofJson j = .ok c ↔ (∀ e ∈ t.entries, IsSetting e) ∧ c = t.config) ∧
    (∀ read document, t.InToml read document → ∀ c,
      Config.ofToml read document = .ok c ↔ (∀ e ∈ t.entries, IsSetting e) ∧ c = t.config) ∧
    ∀ j read document, t.InJson j → t.InToml read document → ∀ c,
      Config.ofToml read document = .ok c ↔ Config.ofJson j = .ok c :=
  ⟨fun _ hj => t.ofJson_eq_ok_iff hj, fun _ _ hd => t.ofToml_eq_ok_iff hd,
    fun _ _ _ hj hd c => (t.ofToml_eq_ok_iff hd c).trans (t.ofJson_eq_ok_iff hj c).symm⟩

/-- The largest limit of all, which a document names after a switch and its reader before it, and the
first limit below none. -/
theorem settings_read_of_extreme_limits :
    let read : TableReader
      | "metrics = false\nmax_predicates = 18446744073709551615\n" =>
        .ok [("max_predicates", .ok (.int 18446744073709551615)), ("metrics", .ok (.bool false))]
      | "debug = true\nmax_predicates = -1\n" =>
        .ok [("debug", .ok (.bool true)), ("max_predicates", .ok (.int (-1)))]
      | _ => .error "<syntax>"
    (Config.ofToml read "metrics = false\nmax_predicates = 18446744073709551615\n" =
        .ok { metrics := false, maxPredicates := some 18446744073709551615 } ∧
      Config.ofJson
          (.obj [("max_predicates", .int 18446744073709551615), ("metrics", .bool false)]) =
        .ok { metrics := false, maxPredicates := some 18446744073709551615 }) ∧
    ∀ c, Config.ofToml read "debug = true\nmax_predicates = -1\n" ≠ .ok c := by
  intro read
  constructor
  · let t : Settings :=
      ⟨[("metrics", .bool false), ("max_predicates", .int ⟨18446744073709551615, by decide⟩)],
        by decide⟩
    have hdocument : t.InToml read "metrics = false\nmax_predicates = 18446744073709551615\n" :=
      ⟨t.entries.reverse, List.reverse_perm _, rfl⟩
    have hj : t.InJson
        (.obj [("max_predicates", .int 18446744073709551615), ("metrics", .bool false)]) :=
      ⟨t.entries.reverse, List.reverse_perm _, rfl⟩
    have ht : ∀ e ∈ t.entries, IsSetting e := by
      simp [t, isSetting_iff]
    obtain ⟨-, htoml, hsame⟩ := settings_read t
    have hconfig : { metrics := false, maxPredicates := some 18446744073709551615 } = t.config := by
      decide
    have hread := (htoml _ _ hdocument _).2 ⟨ht, hconfig⟩
    exact ⟨hread, (hsame _ _ _ hj hdocument _).1 hread⟩
  · let t : Settings :=
      ⟨[("debug", .bool true), ("max_predicates", .int ⟨-1, by decide⟩)], by decide⟩
    have hdocument : t.InToml read "debug = true\nmax_predicates = -1\n" :=
      ⟨t.entries, .refl _, rfl⟩
    obtain ⟨-, htoml, -⟩ := settings_read t
    intro c hc
    have hneg := ((htoml _ _ hdocument c).1 hc).1 ("max_predicates", .int ⟨-1, by decide⟩) (by simp [t])
    simp [isSetting_iff] at hneg

end Settings

end Criteria
