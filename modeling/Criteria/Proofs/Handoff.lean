import Mathlib
import Criteria.Config.Basic
import Criteria.Metrics.Json
import Criteria.Spec.Json

/-! # What is handed over in JSON

Predicates, order terms, specs, configurations and reports are read back from the JSON that they are
written as. The JSON of a value thus belongs to that value alone.
-/

namespace Criteria

namespace Json

variable {α : Type} {write : α → Json} {read : Reader α}

/-- Every value of a class is read back from what it is written as, and no two of them are written
the same. -/
structure Faithful (write : α → Json) (read : Reader α) (s : Set α) : Prop where
  readBack : ∀ a ∈ s, read (write a) = .ok a
  injOn : Set.InjOn write s

theorem Faithful.of_readBack {s : Set α} (h : ∀ a ∈ s, read (write a) = .ok a) :
    Faithful write read s := by
  refine ⟨h, fun a ha b hb he => ?_⟩
  have hab := h b hb
  rw [← he, h a ha] at hab
  exact Except.ok.inj hab

end Json

open Json

/-! ## Predicates -/

theorem Comparison.ofJson_toJson (c : Comparison) : Comparison.ofJson c.toJson = .ok c := by
  simp [Comparison.ofJson, Comparison.toJson, readRecord, Comparison.ofMembers, readMember_cons,
    required_some, readTag_writeTag, readString_str, ok_bind,
    Functor.map, Except.map, pure, Except.pure]

namespace Predicate

theorem ofJson_tagged_leaf (f : LeafForm) (content : Json) :
    ofJson (tagged (.leaf f) content) = leaf <$> leafOfJson f content := by
  simp [tagged, ofJson, readVariant_name, ok_bind]

theorem ofJson_tagged_junction (content : Json) :
    ofJson (tagged .junction content) = junctionOfJson content := by
  simp [tagged, ofJson, readVariant_name, ok_bind]

theorem ofJson_toJson_leaf (l : Leaf) : ofJson l.toJson = .ok (leaf l) := by
  cases l with
  | compare c =>
    simp [Leaf.toJson, ofJson_tagged_leaf, leafOfJson, Comparison.ofJson_toJson, Functor.map,
      Except.map]
  | inList path values =>
    simp [Leaf.toJson, ofJson_tagged_leaf, leafOfJson, readInline, inListOfMembers, readMember_cons,
      required_some, readString_str, ofStrings, readList_map readString_str, ok_bind, Functor.map,
      Except.map, pure, Except.pure]
  | textMatch path value => rfl
  | isNull path => rfl
  | isNotNull path => rfl

mutual

theorem ofJson_toJson : ∀ p : Predicate, ofJson p.toJson = .ok p
  | leaf l => ofJson_toJson_leaf l
  | junction kind nodes => by
    simp [toJson, ofJson_tagged_junction, junctionOfJson, nodesOfMembers, nodesOfJson,
      nodesOfItems_toJsonAll nodes, readTag_writeTag, readMember_cons, required_some,
      ok_bind, Functor.map, Except.map, pure, Except.pure]

theorem nodesOfItems_toJsonAll : ∀ ps : List Predicate, nodesOfItems (toJsonAll ps) = .ok ps
  | [] => rfl
  | p :: ps => by
    simp [toJsonAll, nodesOfItems, ofJson_toJson p, nodesOfItems_toJsonAll ps, ok_bind, pure,
      Except.pure]

end

end Predicate

/-! ## Specs -/

theorem OrderTerm.ofJson_toJson (t : OrderTerm) : OrderTerm.ofJson t.toJson = .ok t := by
  simp [OrderTerm.ofJson, OrderTerm.toJson, readRecord, OrderTerm.ofMembers, readMember_cons,
    readTag_writeTag, readString_str, required_some, ok_bind, pure, Except.pure]

theorem Predicate.toJson_ne_null (p : Predicate) : p.toJson ≠ .null := by
  cases p with
  | leaf l => cases l <;> simp [Predicate.toJson, Leaf.toJson, tagged]
  | junction kind nodes => simp [Predicate.toJson, tagged]

theorem QuerySpec.ofJson_toJson (s : QuerySpec) : QuerySpec.ofJson s.toJson = .ok s := by
  simp [QuerySpec.ofJson, QuerySpec.toJson, readRecord, QuerySpec.ofMembers, readMember_cons,
    required_some, readString_str, readList_map OrderTerm.ofJson_toJson,
    readOption_ofOption Predicate.ofJson_toJson Predicate.toJson_ne_null, readTag_writeTag,
    ok_bind, pure, Except.pure]

/-! ## Configurations -/

theorem Shape.toWord_int (expected : Expected) {n : Nat} (h : n < 2 ^ 64) :
    Shape.toWord expected (.int n) = .ok n := by
  have hw : inWordRange n = true := by
    simp only [inWordRange, Bool.and_eq_true, decide_eq_true_eq]
    omega
  have hn : ¬ (n : Int) < 0 := by omega
  rw [Shape.toWord, hw, Bool.not_true, if_neg Bool.false_ne_true, if_neg hn, Int.toNat_natCast]

namespace Config

theorem readLimit_ofOption {limit : Option Nat} (h : ∀ m, limit = some m → m < 2 ^ 64) :
    readLimit (ofOption (fun n : Nat => .int n) limit).shape = .ok limit := by
  cases limit with
  | none => rfl
  | some m =>
    change some <$> Shape.toWord .size (.int m) = .ok (some m)
    rw [Shape.toWord_int .size (h m rfl), Except.map_ok]

theorem ofJson_toJson (c : Config) (h : ∀ m, c.maxPredicates = some m → m < 2 ^ 64) :
    Config.ofJson c.toJson = .ok c := by
  have hb : ∀ b, (Json.bool b).shape.toBool = .ok b := fun _ => rfl
  simp [Config.ofJson, toJson, readRecord, ofTable, setNamed, Field.named, Field.all, Field.name, set,
    hb, readLimit_ofOption h, ok_bind, pure, Except.pure]

end Config

/-! ## Reports -/

theorem Counter.ofJson_toJson (c : Counter) : Counter.ofJson c.toJson = .ok c := by
  have hw : readWord .counter c.toJson = .ok c.toNat := Shape.toWord_int .counter c.toNat_lt
  rw [Counter.ofJson, hw, Except.map_ok, UInt64.ofNat_toNat]

theorem OperationCounters.ofJson_toJson (c : OperationCounters) :
    OperationCounters.ofJson c.toJson = .ok c := by
  simp [OperationCounters.ofJson, OperationCounters.toJson, readRecord, OperationCounters.ofMembers,
    readMember_cons, required_some, Counter.ofJson_toJson, ok_bind, pure, Except.pure]

theorem EntityCounters.ofJson_toJson (c : EntityCounters) :
    EntityCounters.ofJson c.toJson = .ok c := by
  simp [EntityCounters.ofJson, EntityCounters.toJson, readRecord, EntityCounters.ofMembers,
    readMember_cons, required_some, Counter.ofJson_toJson, ok_bind, pure, Except.pure]

namespace EntityTable

/-- The members of a table go one by one behind those that were read before them. -/
theorem foldlM_members (t : EntityTable) (es : Listing EntityCounters)
    (h : Listing.Sorted (t.entries ++ es)) :
    (es.map fun e => (e.1, e.2.toJson)).foldlM
        (fun t m => do
          let c ← EntityCounters.ofJson m.2
          return t.update m.1 fun _ => c) t = Except.ok ⟨t.entries ++ es, h⟩ := by
  induction es generalizing t with
  | nil => simp [pure, Except.pure]
  | cons e es ih =>
    have hlt : ∀ e' ∈ t.entries, e'.1 < e.1 := fun e' he' =>
      (List.pairwise_append.mp h).2.2 e' he' e List.mem_cons_self
    have hu : (t.update e.1 fun _ => e.2).entries = t.entries ++ [e] :=
      Listing.update_of_forall_lt hlt
    rw [List.map_cons, List.foldlM_cons, EntityCounters.ofJson_toJson, ok_bind]
    have h' : Listing.Sorted ((t.update e.1 fun _ => e.2).entries ++ es) := by
      rwa [hu, List.append_assoc, List.singleton_append]
    refine (ih _ h').trans ?_
    simp [hu]

theorem ofJson_toJson (t : EntityTable) : EntityTable.ofJson t.toJson = .ok t :=
  foldlM_members empty t.entries t.sorted

end EntityTable

namespace Report

theorem totalsOfJson_totalsToJson (r : Report) : totalsOfJson r.totalsToJson = .ok r := by
  simp [totalsOfJson, totalsToJson, readRecord, totalsOfMembers, readMember_cons, required_some,
    EntityTable.ofJson_toJson, OperationCounters.ofJson_toJson, ok_bind, pure, Except.pure]

theorem ofJson_toJson (r : Report) : Report.ofJson r.toJson = .ok r := by
  simp [Report.ofJson, toJson, readRecord, ofMembers, readMember_cons, required_some,
    totalsOfJson_totalsToJson, ok_bind]

end Report

/-- What is handed over in JSON is read back as it was, and its JSON is that of no other value. -/
theorem Json.faithful_handoff :
    Faithful Predicate.toJson Predicate.ofJson Set.univ ∧
      Faithful QuerySpec.toJson QuerySpec.ofJson Set.univ ∧
      Faithful OrderTerm.toJson OrderTerm.ofJson Set.univ ∧
      Faithful Config.toJson Config.ofJson {c | ∀ m, c.maxPredicates = some m → m < 2 ^ 64} ∧
      Faithful Report.toJson Report.ofJson Set.univ := by
  refine ⟨.of_readBack fun p _ => ?_, .of_readBack fun s _ => ?_, .of_readBack fun t _ => ?_,
    .of_readBack fun c hc => ?_, .of_readBack fun r _ => ?_⟩
  · exact Predicate.ofJson_toJson p
  · exact QuerySpec.ofJson_toJson s
  · exact OrderTerm.ofJson_toJson t
  · exact Config.ofJson_toJson c hc
  · exact Report.ofJson_toJson r

/-- The largest limit, an empty junction in a negation beside an empty list, and two entities. -/
theorem Json.faithful_handoff_of_extremes :
    let c : Config := { debug := true, maxPredicates := some (2 ^ 64 - 1) }
    let p : Predicate :=
      .junction .not [.junction .or [], .leaf (.inList "" []), .compareInsensitive "a" .like "\""]
    let s : QuerySpec := ⟨"", some p, [⟨"email", .desc⟩], .docStore⟩
    let r : Report := (Report.tally {} (.queryBuilt "b" 7 .docStore)).tally (.buildFailed "a")
    Config.ofJson c.toJson = .ok c ∧ QuerySpec.ofJson s.toJson = .ok s ∧
      Report.ofJson r.toJson = .ok r := by
  intro c p s r
  obtain ⟨-, hs, -, hc, hr⟩ := faithful_handoff
  refine ⟨hc.readBack c ?_, hs.readBack s trivial, hr.readBack r trivial⟩
  intro m hm
  obtain rfl : 2 ^ 64 - 1 = m := Option.some.inj hm
  decide

end Criteria
