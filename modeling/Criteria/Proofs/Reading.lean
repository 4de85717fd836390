import Mathlib.Data.List.Basic
import Criteria.Proofs.Handoff
import Criteria.Spec.Json

/-! # What readers accept

A reader takes a value where its normal form is the JSON of what is read, and where it is not, the
reader refuses. The rules of the normal forms are all the spellings there are, at any depth.
-/

namespace Criteria

open Json

/-! ## Fields and records -/

namespace Json

variable {α : Type} {read : Reader α} {normal : Json → Json} {write : α → Json}

theorem readMember_some_iff (h : Accepts read normal write) (members : List (String × Json))
    (name : String) (a : α) :
    readMember members name read = .ok (some a) ↔
      Field.value? { name, normal } members = some (write a) := by
  rw [readMember_eq_ok_iff h, Field.value?, Option.or_none, Option.map_some]

/-- A member that may be left out, or be null, is as good as null when it is. -/
theorem readMember_join_iff (h : Accepts read normal write) (hwrite : ∀ a, write a ≠ .null)
    (hnormal : ∀ j, normal j = .null → j = .null) (members : List (String × Json)) (name : String)
    (o : Option α) :
    (∃ m, readMember members name (readOption read) = .ok m ∧ m.join = o) ↔
      Field.value? { name, normal := optionNormal normal, default := some .null } members =
        some (ofOption write o) := by
  unfold readMember Field.value?
  cases members.lookup name with
  | none =>
    cases o with
    | none => simp [ofOption]
    | some a => simp [ofOption, (hwrite a).symm]
  | some j =>
    have hj := accepts_option h hwrite hnormal j o
    simp [map_eq_ok_iff, hj]

theorem accepts_record {name : String} {ofMembers : List (String × Json) → Except ReadError α}
    {ofItems : List Json → Except ReadError α} {declared : List String} {fields : List Json.Field}
    (hmembers : ∀ members a, ofMembers members = .ok a ↔ .obj (select fields members) = write a)
    (hitems : ∀ items a, ofItems items = .ok a ↔
      items.length = declared.length ∧ ofMembers (declared.zip items) = .ok a)
    (hwrite : ∀ a, ∃ members, write a = .obj members) :
    Accepts (readRecord name ofMembers ofItems) (recordNormal declared fields) write := by
  intro j a
  obtain ⟨written, hw⟩ := hwrite a
  cases j with
  | obj members => exact hmembers members a
  | arr items =>
    rw [readRecord, recordNormal, hitems, hmembers]
    split
    · simp [*]
    · simp [*]
  | _ => simp [readRecord, recordNormal, refuse, hw]

end Json

namespace Comparison

theorem ofMembers_eq_ok_iff (members : List (String × Json)) (c : Comparison) :
    ofMembers members = .ok c ↔ .obj (select fields members) = c.toJson := by
  obtain ⟨path, op, value, casing⟩ := c
  simp (disch := simp) only [toJson, fields, obj.injEq, select_cons_eq_cons_iff]
  rw [← readMember_some_iff accepts_tag, ← readMember_some_iff accepts_tag,
    ← readMember_some_iff accepts_string, ← readMember_some_iff accepts_string]
  simp [ofMembers, bind_eq_ok_iff, map_eq_ok_iff, required_eq_ok_iff, select]

theorem ofItems_eq_ok_iff (items : List Json) (c : Comparison) :
    ofItems items = .ok c ↔
      items.length = declared.length ∧ ofMembers (declared.zip items) = .ok c := by
  obtain ⟨path, op, value, casing⟩ := c
  rcases items with _ | ⟨p, _ | ⟨o, _ | ⟨v, _ | ⟨k, _ | ⟨_, _⟩⟩⟩⟩⟩ <;>
    simp [ofItems, ofMembers, declared, readElement, endOfRecord, readMember_cons, bind_eq_ok_iff,
      map_eq_ok_iff, required_eq_ok_iff]
  tauto

theorem accepts_ofJson : Accepts ofJson normal toJson :=
  accepts_record ofMembers_eq_ok_iff ofItems_eq_ok_iff fun _ => ⟨_, rfl⟩

end Comparison

/-! ## Leaves -/

namespace Leaf

open Predicate (LeafForm)

def form : Leaf → LeafForm
  | compare _ => .compare
  | textMatch .. => .textMatch
  | isNull _ => .isNull
  | isNotNull _ => .isNotNull
  | inList .. => .inList

def content : Leaf → Json
  | compare c => c.toJson
  | textMatch path value => .obj [("path", .str path), ("value", .str value)]
  | isNull path => .obj [("path", .str path)]
  | isNotNull path => .obj [("path", .str path)]
  | inList path values => .obj [("path", .str path), ("values", ofStrings values)]

theorem toJson_eq (l : Leaf) : l.toJson = Predicate.tagged (.leaf l.form) l.content := by
  cases l <;> rfl

end Leaf

namespace Predicate

theorem readInline_eq_ok_iff {α : Type} {ofMembers : List (String × Json) → Except ReadError α}
    {fields : List Field} {written : List (String × Json)} {a : α}
    (h : ∀ members, ofMembers members = .ok a ↔ select fields members = written) (j : Json) :
    readInline ofMembers j = .ok a ↔ inlineNormal fields j = .obj written := by
  cases j with
  | obj members => rw [readInline, inlineNormal, h, obj.injEq]
  | _ => simp [readInline, inlineNormal, refuse]

theorem pathOfMembers_eq_ok_iff (path : String) (members : List (String × Json)) :
    pathOfMembers members = .ok path ↔
      select [{ name := "path" }] members = [("path", .str path)] := by
  have hpath := readMember_some_iff accepts_string members "path"
  simp only [pathOfMembers, bind_eq_ok_iff, required_eq_ok_iff]
  rw [select_cons_eq_cons_iff (by simp), ← hpath]
  constructor
  · rintro ⟨_, hp, rfl⟩
    exact ⟨hp, rfl⟩
  · rintro ⟨hp, -⟩
    exact ⟨_, hp, rfl⟩

theorem textMatchOfMembers_eq_ok_iff (path value : String) (members : List (String × Json)) :
    textMatchOfMembers members = .ok (.textMatch path value) ↔
      select [{ name := "path" }, { name := "value" }] members =
        [("path", .str path), ("value", .str value)] := by
  have hpath := readMember_some_iff accepts_string members "path"
  have hvalue := readMember_some_iff accepts_string members "value"
  simp only [textMatchOfMembers, bind_eq_ok_iff, required_eq_ok_iff, pure_eq_ok_iff,
    Leaf.textMatch.injEq]
  rw [select_cons_eq_cons_iff (by simp), select_cons_eq_cons_iff (by simp), ← hpath, ← hvalue]
  constructor
  · rintro ⟨_, hp, _, hv, _, rfl, _, rfl, rfl, rfl⟩
    exact ⟨hp, hv, rfl⟩
  · rintro ⟨hp, hv, -⟩
    exact ⟨_, hp, _, hv, _, rfl, _, rfl, rfl, rfl⟩

theorem accepts_strings : Accepts (readList readString) id ofStrings := by
  have hid : listNormal id = id := by
    funext j
    cases j <;> simp [listNormal]
  exact hid ▸ accepts_list accepts_string

theorem inListOfMembers_eq_ok_iff (path : String) (values : List String)
    (members : List (String × Json)) :
    inListOfMembers members = .ok (.inList path values) ↔
      select [{ name := "path" }, { name := "values" }] members =
        [("path", .str path), ("values", ofStrings values)] := by
  have hpath := readMember_some_iff accepts_string members "path"
  have hvalues := readMember_some_iff accepts_strings members "values"
  simp only [inListOfMembers, bind_eq_ok_iff, required_eq_ok_iff, pure_eq_ok_iff, Leaf.inList.injEq]
  rw [select_cons_eq_cons_iff (by simp), select_cons_eq_cons_iff (by simp), ← hpath, ← hvalues]
  constructor
  · rintro ⟨_, hp, _, hv, _, rfl, _, rfl, rfl, rfl⟩
    exact ⟨hp, hv, rfl⟩
  · rintro ⟨hp, hv, -⟩
    exact ⟨_, hp, _, hv, _, rfl, _, rfl, rfl, rfl⟩

theorem leafOfJson_form_eq_ok_iff (l : Leaf) (j : Json) :
    leafOfJson l.form j = .ok l ↔ leafNormal l.form j = l.content := by
  cases l with
  | compare c =>
    have hc := Comparison.accepts_ofJson j c
    simpa [Leaf.form, Leaf.content, leafOfJson, leafNormal, map_eq_ok_iff] using hc
  | textMatch path value => exact readInline_eq_ok_iff (textMatchOfMembers_eq_ok_iff path value) j
  | isNull path =>
    refine readInline_eq_ok_iff (fun members => ?_) j
    simpa [map_eq_ok_iff] using pathOfMembers_eq_ok_iff path members
  | isNotNull path =>
    refine readInline_eq_ok_iff (fun members => ?_) j
    simpa [map_eq_ok_iff] using pathOfMembers_eq_ok_iff path members
  | inList path values => exact readInline_eq_ok_iff (inListOfMembers_eq_ok_iff path values) j

theorem exists_of_readInline {α : Type} {ofMembers : List (String × Json) → Except ReadError α}
    {j : Json} {a : α} (h : readInline ofMembers j = .ok a) :
    ∃ members, ofMembers members = .ok a := by
  cases j with
  | obj members => exact ⟨members, h⟩
  | _ => cases h

theorem form_of_leafOfJson {f : LeafForm} {j : Json} {l : Leaf} (h : leafOfJson f j = .ok l) :
    l.form = f := by
  cases f with
  | compare =>
    obtain ⟨c, -, rfl⟩ := map_eq_ok_iff.1 h
    rfl
  | textMatch =>
    obtain ⟨members, h⟩ := exists_of_readInline h
    simp only [textMatchOfMembers, bind_eq_ok_iff, pure_eq_ok_iff] at h
    obtain ⟨_, -, _, -, _, -, _, -, rfl⟩ := h
    rfl
  | isNull =>
    obtain ⟨members, h⟩ := exists_of_readInline h
    obtain ⟨path, -, rfl⟩ := map_eq_ok_iff.1 h
    rfl
  | isNotNull =>
    obtain ⟨members, h⟩ := exists_of_readInline h
    obtain ⟨path, -, rfl⟩ := map_eq_ok_iff.1 h
    rfl
  | inList =>
    obtain ⟨members, h⟩ := exists_of_readInline h
    simp only [inListOfMembers, bind_eq_ok_iff, pure_eq_ok_iff] at h
    obtain ⟨_, -, _, -, _, -, _, -, rfl⟩ := h
    rfl

theorem leafOfJson_eq_ok_iff (f : LeafForm) (j : Json) (l : Leaf) :
    leafOfJson f j = .ok l ↔ l.form = f ∧ leafNormal f j = l.content := by
  constructor
  · intro h
    obtain rfl := form_of_leafOfJson h
    exact ⟨rfl, (leafOfJson_form_eq_ok_iff l j).1 h⟩
  · rintro ⟨rfl, h⟩
    exact (leafOfJson_form_eq_ok_iff l j).2 h

/-! ## Predicates -/

theorem ofName?_eq_some_iff (name : String) (f : Form) :
    Form.ofName? name = some f ↔ Variants.name f = name := by
  have hread : Form.ofName? name = some f ↔ readVariant name = .ok f := by
    unfold readVariant Form.ofName?
    split <;> simp [*]
  rw [hread, readVariant_eq_ok_iff]

theorem tagged_inj {f g : Form} {content content' : Json} :
    tagged f content = tagged g content' ↔ f = g ∧ content = content' := by
  constructor
  · intro h
    simp only [tagged, obj.injEq, List.cons.injEq, Prod.mk.injEq, and_true] at h
    have hf := (ofName?_eq_some_iff _ g).2 h.1.symm
    rw [(ofName?_eq_some_iff _ f).2 rfl] at hf
    exact ⟨Option.some.inj hf, h.2⟩
  · rintro ⟨rfl, rfl⟩
    rfl

theorem normal_tagged_leaf (f : LeafForm) (content : Json) :
    normal (tagged (.leaf f) content) = tagged (.leaf f) (leafNormal f content) := by
  have hname := (ofName?_eq_some_iff _ (.leaf f)).2 rfl
  rw [tagged, normal, hname]
  rfl

theorem normal_tagged_junction (content : Json) :
    normal (tagged .junction content) = tagged .junction (junctionNormal content) := by
  have hname := (ofName?_eq_some_iff _ .junction).2 rfl
  rw [tagged, normal, hname]
  rfl

theorem exists_tagged (p : Predicate) : ∃ f content, p.toJson = tagged f content := by
  cases p with
  | leaf l => exact ⟨_, _, l.toJson_eq⟩
  | junction kind nodes => exact ⟨_, _, by rw [toJson]⟩

theorem ofJson_eq_ok_iff_of_untagged {j : Json} (hj : ∀ f content, j ≠ tagged f content)
    (p : Predicate) : ofJson j = .ok p ↔ normal j = p.toJson := by
  obtain ⟨f, content', hp⟩ := exists_tagged p
  rw [hp]
  cases j with
  | obj members =>
    match members, hj with
    | [], _ => simp [ofJson, normal, tagged]
    | _ :: _ :: _, _ => simp [ofJson, normal, tagged]
    | [(name, content)], hj =>
      have hname (g : Form) : Variants.name g ≠ name := fun hg => hj g content (hg ▸ rfl)
      have hread (g : Form) : readVariant name ≠ .ok g := fun hg =>
        hname g ((readVariant_eq_ok_iff name g).1 hg)
      constructor
      · intro h
        rw [ofJson, bind_eq_ok_iff] at h
        obtain ⟨g, hg, -⟩ := h
        exact absurd hg (hread g)
      · intro h
        rw [normal, tagged, obj.injEq, List.cons.injEq, Prod.mk.injEq] at h
        exact absurd h.1.1.symm (hname f)
  | str name => simp [ofJson, normal, tagged, bind_eq_ok_iff]
  | _ => simp [ofJson, normal, tagged, refuse]

theorem leafOfJson_eq_ok_iff_tagged (f : LeafForm) (content : Json) (p : Predicate) :
    leaf <$> leafOfJson f content = .ok p ↔
      tagged (.leaf f) (leafNormal f content) = p.toJson := by
  rw [map_eq_ok_iff]
  cases p with
  | leaf l =>
    rw [toJson, l.toJson_eq, tagged_inj, Form.leaf.injEq]
    simp only [leaf.injEq, exists_eq_right, leafOfJson_eq_ok_iff]
    exact and_congr_left' eq_comm
  | junction kind nodes =>
    rw [toJson, tagged_inj]
    simp

theorem junctionOfJson_eq_ok_iff_of_nodes {members : List (String × Json)}
    (hnodes : ∀ nodes, nodesOfMembers members = .ok (some nodes) ↔
      nodesMember members = [("nodes", .arr (toJsonAll nodes))]) (p : Predicate) :
    junctionOfJson (.obj members) = .ok p ↔
      tagged .junction (junctionNormal (.obj members)) = p.toJson := by
  cases p with
  | leaf l =>
    rw [toJson, l.toJson_eq, tagged_inj]
    simp [junctionOfJson, bind_eq_ok_iff, map_eq_ok_iff]
  | junction kind nodes =>
    rw [toJson, tagged_inj, junctionNormal_eq, inlineNormal, obj.injEq, junctionFields,
      select_cons_eq_cons_iff (by simp), ← nodesMember_eq, ← readMember_some_iff accepts_tag,
      ← hnodes]
    simp [junctionOfJson, bind_eq_ok_iff, map_eq_ok_iff, required_eq_ok_iff]

mutual

theorem ofJson_eq_ok_iff : ∀ (j : Json) (p : Predicate), ofJson j = .ok p ↔ normal j = p.toJson
  | .obj [(name, content)], p => by
    cases hname : Form.ofName? name with
    | none =>
      refine ofJson_eq_ok_iff_of_untagged (fun f content' hj => ?_) p
      simp only [tagged, obj.injEq, List.cons.injEq, Prod.mk.injEq] at hj
      have hf := (ofName?_eq_some_iff name f).2 hj.1.1.symm
      exact absurd (hname.symm.trans hf) nofun
    | some f =>
      obtain rfl := (ofName?_eq_some_iff name f).1 hname
      cases f with
      | leaf f =>
        have hleaf := leafOfJson_eq_ok_iff_tagged f content p
        rwa [← ofJson_tagged_leaf, ← normal_tagged_leaf] at hleaf
      | junction =>
        have hjunction := junctionOfJson_eq_ok_iff content p
        rwa [← ofJson_tagged_junction, ← normal_tagged_junction] at hjunction
  | .obj [], p | .obj (_ :: _ :: _), p | .arr _, p | .str _, p | .null, p | .bool _, p | .int _, p
  | .float _, p => ofJson_eq_ok_iff_of_untagged (by simp [tagged]) p

theorem junctionOfJson_eq_ok_iff : ∀ (j : Json) (p : Predicate),
    junctionOfJson j = .ok p ↔ tagged .junction (junctionNormal j) = p.toJson
  | .obj members, p => junctionOfJson_eq_ok_iff_of_nodes (nodesOfMembers_eq_ok_iff members) p
  | .arr _, p | .str _, p | .null, p | .bool _, p | .int _, p | .float _, p => by
    cases p with
    | leaf l => simp [junctionOfJson, refuse, toJson, l.toJson_eq, tagged_inj]
    | junction kind nodes => simp [junctionOfJson, junctionNormal, refuse, toJson, tagged_inj]

theorem nodesOfMembers_eq_ok_iff : ∀ (members : List (String × Json)) (nodes : List Predicate),
    nodesOfMembers members = .ok (some nodes) ↔
      nodesMember members = [("nodes", .arr (toJsonAll nodes))]
  | [], nodes => by simp [nodesOfMembers, nodesMember]
  | (name, j) :: rest, nodes => by
    have hj := nodesOfJson_eq_ok_iff j nodes
    have hrest := nodesOfMembers_eq_ok_iff rest nodes
    rw [nodesOfMembers, nodesMember]
    split
    · simp [map_eq_ok_iff, hj]
    · exact hrest

theorem nodesOfJson_eq_ok_iff : ∀ (j : Json) (nodes : List Predicate),
    nodesOfJson j = .ok nodes ↔ nodesNormal j = .arr (toJsonAll nodes)
  | .arr items, nodes => by
    have hitems := nodesOfItems_eq_ok_iff items nodes
    rw [nodesOfJson, nodesNormal, hitems, arr.injEq]
  | .obj _, nodes | .str _, nodes | .null, nodes | .bool _, nodes | .int _, nodes
  | .float _, nodes => by simp [nodesOfJson, nodesNormal, refuse]

theorem nodesOfItems_eq_ok_iff : ∀ (items : List Json) (nodes : List Predicate),
    nodesOfItems items = .ok nodes ↔ normalAll items = toJsonAll nodes
  | [], nodes => by cases nodes <;> simp [nodesOfItems, normalAll, toJsonAll]
  | j :: items, nodes => by
    have hj := ofJson_eq_ok_iff j
    have hitems := nodesOfItems_eq_ok_iff items
    simp only [nodesOfItems, normalAll, bind_eq_ok_iff, pure_eq_ok_iff, hj, hitems]
    cases nodes <;> simp [toJsonAll]

end

theorem accepts_ofJson : Accepts ofJson normal toJson := ofJson_eq_ok_iff

theorem normal_ne_null (j : Json) (h : normal j = .null) : j = .null := by
  unfold normal at h
  split at h
  · cases h
  · exact h

end Predicate

/-! ## Specs -/

namespace OrderTerm

theorem ofMembers_eq_ok_iff (members : List (String × Json)) (t : OrderTerm) :
    ofMembers members = .ok t ↔ .obj (select fields members) = t.toJson := by
  obtain ⟨path, direction⟩ := t
  simp (disch := simp) only [toJson, fields, obj.injEq, select_cons_eq_cons_iff]
  rw [← readMember_some_iff accepts_tag, ← readMember_some_iff accepts_string]
  simp [ofMembers, bind_eq_ok_iff, map_eq_ok_iff, required_eq_ok_iff, select]

theorem ofItems_eq_ok_iff (items : List Json) (t : OrderTerm) :
    ofItems items = .ok t ↔
      items.length = declared.length ∧ ofMembers (declared.zip items) = .ok t := by
  obtain ⟨path, direction⟩ := t
  rcases items with _ | ⟨p, _ | ⟨d, _ | ⟨_, _⟩⟩⟩ <;>
    simp [ofItems, ofMembers, declared, readElement, endOfRecord, readMember_cons, bind_eq_ok_iff,
      map_eq_ok_iff, required_eq_ok_iff]
  exact and_comm

theorem accepts_ofJson : Accepts ofJson normal toJson :=
  accepts_record ofMembers_eq_ok_iff ofItems_eq_ok_iff fun _ => ⟨_, rfl⟩

end OrderTerm

namespace QuerySpec

theorem ofMembers_eq_ok_iff (members : List (String × Json)) (s : QuerySpec) :
    ofMembers members = .ok s ↔ .obj (select fields members) = s.toJson := by
  have horder := readMember_some_iff (accepts_list OrderTerm.accepts_ofJson) members "order"
  have hpredicate := readMember_join_iff Predicate.accepts_ofJson Predicate.toJson_ne_null
    Predicate.normal_ne_null members "predicate"
  obtain ⟨entity, predicate, order, route⟩ := s
  simp (disch := simp) only [toJson, fields, obj.injEq, select_cons_eq_cons_iff]
  rw [← readMember_some_iff accepts_string, ← horder, ← hpredicate,
    ← readMember_some_iff accepts_tag]
  simp only [ofMembers, bind_eq_ok_iff, required_eq_ok_iff, pure_eq_ok_iff, select]
  constructor
  · rintro ⟨_, he, _, ho, m, hp, _, hr, _, rfl, _, rfl, _, rfl, hs⟩
    cases hs
    exact ⟨he, ho, ⟨m, hp, rfl⟩, hr, rfl⟩
  · rintro ⟨he, ho, ⟨m, hp, rfl⟩, hr, -⟩
    exact ⟨_, he, _, ho, m, hp, _, hr, _, rfl, _, rfl, _, rfl, rfl⟩

theorem ofItems_eq_ok_iff (items : List Json) (s : QuerySpec) :
    ofItems items = .ok s ↔
      items.length = declared.length ∧ ofMembers (declared.zip items) = .ok s := by
  obtain ⟨entity, predicate, order, route⟩ := s
  rcases items with _ | ⟨e, _ | ⟨p, _ | ⟨o, _ | ⟨r, _ | ⟨_, _⟩⟩⟩⟩⟩ <;>
    simp [ofItems, ofMembers, declared, readElement, endOfRecord, readMember_cons, bind_eq_ok_iff,
      map_eq_ok_iff, required_eq_ok_iff]
  tauto

theorem accepts_ofJson : Accepts ofJson normal toJson :=
  accepts_record ofMembers_eq_ok_iff ofItems_eq_ok_iff fun _ => ⟨_, rfl⟩

end QuerySpec

/-- A value is read as a predicate, an order term or a spec where its normal form for that type is
the JSON of what is read. Any other value is refused. -/
theorem Json.read_iff_normal (j : Json) :
    (∀ p, Predicate.ofJson j = .ok p ↔ Predicate.normal j = p.toJson) ∧
    (∀ t, OrderTerm.ofJson j = .ok t ↔ OrderTerm.normal j = t.toJson) ∧
    (∀ s, QuerySpec.ofJson j = .ok s ↔ QuerySpec.normal j = s.toJson) :=
  ⟨Predicate.accepts_ofJson j, OrderTerm.accepts_ofJson j, QuerySpec.accepts_ofJson j⟩

/-- A comparison in a junction may be an array, a tag an object; a member too many is dropped. -/
example :
    Predicate.normal
        (.obj [("Junction", .obj [("kind", .obj [("Not", .null)]), ("note", .bool true),
          ("nodes", .arr [.obj [("Compare",
            .arr [.str "a", .obj [("Eq", .null)], .str "v", .str "Sensitive"])]])])]) =
      (Predicate.junction .not [.compare "a" .eq "v"]).toJson := by
  cbv

end Criteria
