import Criteria.Path.Basic

/-! # Paths as bytes

A path can as well be checked on the bytes that it is stored as. The characters that matter take one
byte each, and each byte of a wider character is above theirs, so none is mistaken for another, and a
cut behind one of them falls between characters.
-/

namespace Criteria

def utf8 (s : String) : List UInt8 := s.toUTF8.data.toList

def isSpaceByte (b : UInt8) : Bool :=
  b = '\t'.toUInt8 || b = '\n'.toUInt8 || b = '\x0c'.toUInt8 || b = '\r'.toUInt8 || b = ' '.toUInt8

def isForbiddenByte (b : UInt8) : Bool := b = '.'.toUInt8 || b = '#'.toUInt8 || isSpaceByte b

def scanBytes (before : UInt8) : List UInt8 → Bool
  | [] => before != '.'.toUInt8
  | b :: rest =>
    if b = '#'.toUInt8 || isSpaceByte b then false
    else if b = '.'.toUInt8 && before = '.'.toUInt8 then false
    else scanBytes b rest

theorem utf8_eq_flatMap (s : String) : utf8 s = s.toList.flatMap String.utf8EncodeChar := by
  rw [utf8, String.toUTF8_eq_toByteArray, ← String.utf8Encode_toList, List.utf8Encode,
    List.toList_data_toByteArray]

/-! ## One character -/

theorem utf8EncodeChar_cases (c : Char) :
    (c.toNat < 128 ∧ String.utf8EncodeChar c = [c.toUInt8]) ∨
      (128 ≤ c.toNat ∧ String.utf8EncodeChar c ≠ [] ∧
        ∀ b ∈ String.utf8EncodeChar c, 128 ≤ b.toNat) := by
  have hval : c.toNat = c.val.toNat := rfl
  unfold String.utf8EncodeChar
  by_cases h : c.val.toNat ≤ 127
  · left
    rw [if_pos h, Char.toUInt8, UInt32.toUInt8]
    exact ⟨by omega, rfl⟩
  · right
    rw [if_neg h]
    refine ⟨by omega, ?_⟩
    split
    · simp
      omega
    · split
      · simp
        omega
      · simp
        omega

theorem toUInt8_eq_iff {c d : Char} (hc : c.toNat < 128) (hd : d.toNat < 128) :
    c.toUInt8 = d.toUInt8 ↔ c = d := by
  refine ⟨fun h => ?_, congrArg Char.toUInt8⟩
  have hn := congrArg UInt8.toNat h
  simp only [Char.toUInt8, UInt32.toNat_toUInt8] at hn
  have hcval : c.toNat = c.val.toNat := rfl
  have hdval : d.toNat = d.val.toNat := rfl
  exact Char.toNat_inj.mp (by omega)

theorem ofUInt8_toUInt8 {c : Char} (hc : c.toNat < 128) : Char.ofUInt8 c.toUInt8 = c := by
  refine Char.toNat_inj.mp ?_
  have hval : (Char.ofUInt8 c.toUInt8).toNat = c.val.toUInt8.toUInt32.toNat := rfl
  have hcval : c.toNat = c.val.toNat := rfl
  rw [hval, UInt8.toNat_toUInt32, UInt32.toNat_toUInt8]
  omega

section narrow

variable {c : Char} (hc : c.toNat < 128)
include hc

theorem utf8EncodeChar_of_narrow : String.utf8EncodeChar c = [c.toUInt8] := by
  rcases utf8EncodeChar_cases c with ⟨-, hcode⟩ | ⟨hwide, -⟩
  · exact hcode
  · omega

theorem toNat_toUInt8_lt : c.toUInt8.toNat < 128 := by
  have hval : c.toNat = c.val.toNat := rfl
  rw [Char.toUInt8, UInt32.toNat_toUInt8]
  omega

theorem isSpaceByte_toUInt8 : isSpaceByte c.toUInt8 = isPathSpace c := by
  simp (disch := first | exact hc | decide) only [isSpaceByte, isPathSpace, toUInt8_eq_iff]

theorem isForbiddenByte_toUInt8 : isForbiddenByte c.toUInt8 = isForbidden c := by
  rw [isForbiddenByte, isForbidden, isSpaceByte_toUInt8 hc]
  simp (disch := first | exact hc | decide) only [toUInt8_eq_iff]

end narrow

section wide

theorem ne_toUInt8_of_wide {b : UInt8} {d : Char} (hb : 128 ≤ b.toNat) (hd : d.toUInt8.toNat < 128) :
    b ≠ d.toUInt8 := by
  rintro rfl
  omega

theorem isSpaceByte_of_wide {b : UInt8} (hb : 128 ≤ b.toNat) : isSpaceByte b = false := by
  simp (disch := first | exact hb | decide) [isSpaceByte, ne_toUInt8_of_wide]

theorem isForbiddenByte_of_wide {b : UInt8} (hb : 128 ≤ b.toNat) : isForbiddenByte b = false := by
  simp (disch := first | exact hb | decide) [isForbiddenByte, isSpaceByte_of_wide,
    ne_toUInt8_of_wide]

theorem isForbidden_of_wide {c : Char} (hc : 128 ≤ c.toNat) : isForbidden c = false := by
  have hne : ∀ d : Char, d.toNat < 128 → c ≠ d := by
    rintro d hd rfl
    omega
  simp (disch := decide) [isForbidden, isPathSpace, hne]

theorem scanBytes_cons_of_wide {b : UInt8} (hb : 128 ≤ b.toNat) (before : UInt8)
    (rest : List UInt8) : scanBytes before (b :: rest) = scanBytes b rest := by
  simp (disch := first | exact hb | decide) [scanBytes, isSpaceByte_of_wide, ne_toUInt8_of_wide]

theorem scanSegments_cons_of_wide {c : Char} (hc : 128 ≤ c.toNat) (before : Char)
    (rest : List Char) : scanSegments before (c :: rest) = scanSegments c rest := by
  have hf := isForbidden_of_wide hc
  simp only [isForbidden, Bool.or_eq_false_iff, decide_eq_false_iff_not] at hf
  simp [scanSegments, hf.1.1, hf.1.2, hf.2]

/-- Wide bytes are passed over, and the last of them is then the byte before. -/
theorem scanBytes_append_of_wide {bs : List UInt8} (hne : bs ≠ []) (hbs : ∀ b ∈ bs, 128 ≤ b.toNat)
    (before : UInt8) (rest : List UInt8) :
    scanBytes before (bs ++ rest) = scanBytes (bs.getLast hne) rest := by
  induction bs generalizing before with
  | nil => exact absurd rfl hne
  | cons b bs ih =>
    rw [List.cons_append, scanBytes_cons_of_wide (hbs b List.mem_cons_self)]
    by_cases hnil : bs = []
    · subst hnil
      rfl
    · rw [ih hnil (fun d hd => hbs d (List.mem_cons_of_mem b hd)), List.getLast_cons hnil]

end wide

/-! ## Texts -/

theorem find?_flatMap_utf8EncodeChar (cs : List Char) :
    (cs.flatMap String.utf8EncodeChar).find? isForbiddenByte =
      (cs.find? isForbidden).map Char.toUInt8 := by
  induction cs with
  | nil => rfl
  | cons c cs ih =>
    rw [List.flatMap_cons, List.find?_append, ih, List.find?_cons]
    rcases utf8EncodeChar_cases c with ⟨hc, hcode⟩ | ⟨hc, -, hwide⟩
    · rw [hcode, List.find?_singleton, isForbiddenByte_toUInt8 hc]
      cases isForbidden c <;> simp
    · have hnone : (String.utf8EncodeChar c).find? isForbiddenByte = none := by
        rw [List.find?_eq_none]
        intro b hb
        simp [isForbiddenByte_of_wide (hwide b hb)]
      rw [hnone, isForbidden_of_wide hc, Option.none_or]

theorem firstForbidden?_eq (name : String) :
    firstForbidden? name = ((utf8 name).find? isForbiddenByte).map Char.ofUInt8 := by
  rw [utf8_eq_flatMap, find?_flatMap_utf8EncodeChar, Option.map_map, firstForbidden?]
  cases hf : name.toList.find? isForbidden with
  | none => rfl
  | some c =>
    have hc : c.toNat < 128 := by
      refine Nat.lt_of_not_le fun hwide => ?_
      have hforbidden := List.find?_some hf
      rw [isForbidden_of_wide hwide] at hforbidden
      cases hforbidden
    rw [Option.map_some, Function.comp_apply, ofUInt8_toUInt8 hc]

/-- No byte of a wide character is taken for a dot, although its number ends in that of one. -/
example : (utf8 "\u012e").find? isForbiddenByte = none ∧ '\u012e'.toNat % 256 = '.'.toNat := by
  decide

/-- It matters of the character before only whether it is a dot. -/
theorem scanBytes_flatMap_utf8EncodeChar (cs : List Char) {b : UInt8} {before : Char}
    (h : b = '.'.toUInt8 ↔ before = '.') :
    scanBytes b (cs.flatMap String.utf8EncodeChar) = scanSegments before cs := by
  induction cs generalizing b before with
  | nil =>
    rw [List.flatMap_nil, scanBytes, scanSegments, Bool.eq_iff_iff]
    simp [h]
  | cons c cs ih =>
    rw [List.flatMap_cons]
    rcases utf8EncodeChar_cases c with ⟨hc, hcode⟩ | ⟨hc, hne, hwide⟩
    · have hdot : c.toUInt8 = '.'.toUInt8 ↔ c = '.' := toUInt8_eq_iff hc (by decide)
      have hhash : c.toUInt8 = '#'.toUInt8 ↔ c = '#' := toUInt8_eq_iff hc (by decide)
      rw [hcode, List.singleton_append, scanBytes, scanSegments, isSpaceByte_toUInt8 hc, ih hdot]
      simp only [hdot, hhash, h]
    · have hlast := hwide _ (List.getLast_mem hne)
      have hdot : (String.utf8EncodeChar c).getLast hne = '.'.toUInt8 ↔ c = '.' := by
        refine iff_of_false (ne_toUInt8_of_wide hlast (by decide)) ?_
        rintro rfl
        exact absurd hc (by decide)
      rw [scanBytes_append_of_wide hne hwide, scanSegments_cons_of_wide hc]
      exact ih hdot

theorem isQualifier_eq (q : String) : isQualifier q = scanBytes '.'.toUInt8 (utf8 q) := by
  rw [utf8_eq_flatMap]
  exact (scanBytes_flatMap_utf8EncodeChar q.toList (iff_of_true rfl rfl)).symm

/-! ## Cuts -/

/-- The bytes begin with that of a narrow character just where the text begins with the character, so
a cut behind that byte leaves a text. -/
theorem flatMap_utf8EncodeChar_eq_cons_iff {d : Char} (hd : d.toNat < 128) {cs : List Char}
    {bs : List UInt8} :
    cs.flatMap String.utf8EncodeChar = d.toUInt8 :: bs ↔
      ∃ rest, cs = d :: rest ∧ rest.flatMap String.utf8EncodeChar = bs := by
  constructor
  · intro h
    cases cs with
    | nil => cases h
    | cons c rest =>
      rw [List.flatMap_cons] at h
      rcases utf8EncodeChar_cases c with ⟨hc, hcode⟩ | ⟨-, hne, hwide⟩
      · rw [hcode, List.singleton_append, List.cons.injEq, toUInt8_eq_iff hc hd] at h
        obtain ⟨rfl, hrest⟩ := h
        exact ⟨rest, rfl, hrest⟩
      · obtain ⟨b, bs', hb⟩ := List.exists_cons_of_ne_nil hne
        rw [hb, List.cons_append, List.cons.injEq] at h
        have hbwide : 128 ≤ b.toNat := hwide b (hb ▸ List.mem_cons_self)
        exact absurd h.1 (ne_toUInt8_of_wide hbwide (toNat_toUInt8_lt hd))
  · rintro ⟨rest, rfl, rfl⟩
    rw [List.flatMap_cons, utf8EncodeChar_of_narrow hd, List.singleton_append]

theorem fromUTF8?_utf8 (s : String) : String.fromUTF8? (utf8 s).toByteArray = some s := by
  have hbytes : (utf8 s).toByteArray = s.toByteArray := by
    rw [utf8_eq_flatMap, ← String.utf8Encode_toList, List.utf8Encode]
  rw [hbytes, String.fromUTF8?, dif_pos s.isValidUTF8]
  rfl

theorem utf8_inj {s t : String} (h : utf8 s = utf8 t) : s = t := by
  have hs := fromUTF8?_utf8 s
  rw [h, fromUTF8?_utf8 t] at hs
  exact (Option.some.inj hs).symm

/-- The bare name, cut out of the bytes and read again. There is none where the bytes behind the
marker are no text. -/
def PropertyPath.cutName? (ident : String) : Option String :=
  match utf8 ident with
  | r :: h :: b :: rest =>
    if r = 'r'.toUInt8 && h = '#'.toUInt8 then String.fromUTF8? (b :: rest).toByteArray
    else some ident
  | _ => some ident

end Criteria
