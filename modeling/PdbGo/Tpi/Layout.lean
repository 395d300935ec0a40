import PdbGo.Tpi.Records

/-! The byte layout of an LF_FIELDLIST: member sub-records, each after a run of padding bytes,
and what ParseFieldListRecord reads back from them. -/
namespace PdbGo.Tpi
open PdbGo.Stream

/-- A member sub-record as a field list lays it out, its fields as written and each numeric
field in the leaf it is written in. LF_FRIENDCLS stands for the member kinds that
ParseFieldListRecord does not decode. -/
inductive SubRecord where
  | member (attrs : U16) (type : U32) (offset : Numeric) (name : Bytes)
  | staticMember (attrs : U16) (type : U32) (name : Bytes)
  | method (count : U16) (methodList : U32) (name : Bytes)
  | oneMethod (attrs : U16) (type : U32) (vBaseOffset : Int) (name : Bytes)
  | nestedType (pad : U16) (type : U32) (name : Bytes)
  | baseClass (attrs : U16) (type : U32) (offset : Numeric)
  | virtualBaseClass (indirect : Bool) (attrs : U16) (baseType vbPtrType : U32)
      (vbPtrOffset vbTableIndex : Numeric)
  | enumerate (attrs : U16) (value : Numeric) (name : Bytes)
  | vFuncTab (pad : U16) (type : U32)
  | index (pad : U16) (type : U32)
  | friendCls (pad : U16) (type : U32)
  deriving DecidableEq, Repr

namespace SubRecord

def kind : SubRecord → U16
  | member .. => lfMember
  | staticMember .. => lfStMember
  | method .. => lfMethod
  | oneMethod .. => lfOneMethod
  | nestedType .. => lfNestType
  | baseClass .. => lfBClass
  | virtualBaseClass indirect .. => if indirect then lfIVBClass else lfVBClass
  | enumerate .. => lfEnumerate
  | vFuncTab .. => lfVFuncTab
  | index .. => lfIndex
  | friendCls .. => lfFriendCls

/-- The fields after the kind word; a name ends in its zero byte. -/
def payload : SubRecord → Bytes
  | member attrs type offset name =>
    encU16 attrs.val ++ encU32 type.val ++ offset.encode ++ name ++ [0]
  | staticMember attrs type name => encU16 attrs.val ++ encU32 type.val ++ name ++ [0]
  | method count methodList name => encU16 count.val ++ encU32 methodList.val ++ name ++ [0]
  | oneMethod attrs type vBaseOffset name => encU16 attrs.val ++ encU32 type.val ++
      (if hasVBaseOffset attrs then encU32 (u32OfInt vBaseOffset).val else []) ++ name ++ [0]
  | nestedType pad type name => encU16 pad.val ++ encU32 type.val ++ name ++ [0]
  | baseClass attrs type offset => encU16 attrs.val ++ encU32 type.val ++ offset.encode
  | virtualBaseClass _ attrs baseType vbPtrType vbPtrOffset vbTableIndex => encU16 attrs.val ++
      encU32 baseType.val ++ encU32 vbPtrType.val ++ vbPtrOffset.encode ++ vbTableIndex.encode
  | enumerate attrs value name => encU16 attrs.val ++ value.encode ++ name ++ [0]
  | vFuncTab pad type | index pad type | friendCls pad type => encU16 pad.val ++ encU32 type.val

def encode (sr : SubRecord) : Bytes := encU16 sr.kind.val ++ sr.payload

/-- The member a sub-record holds, its fields as encoded; an access is the low two bits of the
attributes. LF_INDEX and the kinds not decoded hold none. -/
def decoded : SubRecord → Option FieldListMember
  | member attrs type offset name => some (.member ⟨memberAccess attrs, type, offset.value, name⟩)
  | staticMember attrs type name => some (.staticMember ⟨memberAccess attrs, type, name⟩)
  | method count methodList name => some (.method ⟨count, methodList, name⟩)
  | oneMethod attrs type vBaseOffset name =>
    some (.oneMethod ⟨attrs, type, if hasVBaseOffset attrs then vBaseOffset else 0, name⟩)
  | nestedType _ type name => some (.nestedType ⟨type, name⟩)
  | baseClass attrs type offset => some (.baseClass ⟨memberAccess attrs, type, offset.value⟩)
  | virtualBaseClass _ attrs baseType vbPtrType vbPtrOffset vbTableIndex =>
    some (.virtualBaseClass
      ⟨memberAccess attrs, baseType, vbPtrType, vbPtrOffset.value, vbTableIndex.value⟩)
  | enumerate attrs value name => some (.enumerate ⟨memberAccess attrs, value.value, name⟩)
  | vFuncTab _ type => some (.vFuncTab ⟨type⟩)
  | index .. | friendCls .. => none

/-- Numeric fields fit their leaves, an `int32` field fits 32 bits, and names hold no zero byte. -/
def WellFormed : SubRecord → Prop
  | member _ _ offset name => offset.Valid ∧ (0 : U8) ∉ name
  | staticMember _ _ name | method _ _ name | nestedType _ _ name => (0 : U8) ∉ name
  | oneMethod _ _ vBaseOffset name =>
    -2147483648 ≤ vBaseOffset ∧ vBaseOffset < 2147483648 ∧ (0 : U8) ∉ name
  | baseClass _ _ offset => offset.Valid
  | virtualBaseClass _ _ _ _ vbPtrOffset vbTableIndex => vbPtrOffset.Valid ∧ vbTableIndex.Valid
  | enumerate _ value name => value.Valid ∧ (0 : U8) ∉ name
  | vFuncTab .. | index .. | friendCls .. => True

instance : DecidablePred WellFormed
  | member _ _ offset name => inferInstanceAs (Decidable (offset.Valid ∧ (0 : U8) ∉ name))
  | staticMember _ _ name | method _ _ name | nestedType _ _ name =>
    inferInstanceAs (Decidable ((0 : U8) ∉ name))
  | oneMethod _ _ v name =>
    inferInstanceAs (Decidable (-2147483648 ≤ v ∧ v < 2147483648 ∧ (0 : U8) ∉ name))
  | baseClass _ _ offset => inferInstanceAs (Decidable offset.Valid)
  | virtualBaseClass _ _ _ _ a b => inferInstanceAs (Decidable (a.Valid ∧ b.Valid))
  | enumerate _ value name => inferInstanceAs (Decidable (value.Valid ∧ (0 : U8) ∉ name))
  | vFuncTab .. | index .. | friendCls .. => isTrue trivial

/-- The sub-records after which ParseFieldListRecord's reader comes out at their end: every
kind it decodes, and LF_INDEX with a type index below `0xF00000`, whose two bytes left unread
then make a kind word that is neither padding nor a member kind. -/
def InStep : SubRecord → Prop
  | index _ type => type.val < 0xF00000
  | friendCls .. => False
  | _ => True

instance : DecidablePred InStep
  | index _ type => inferInstanceAs (Decidable (type.val < 0xF00000))
  | friendCls .. => isFalse id
  | member .. | staticMember .. | method .. | oneMethod .. | nestedType .. | baseClass ..
  | virtualBaseClass .. | enumerate .. | vFuncTab .. => isTrue trivial

end SubRecord

/-- Padding bytes, `0xF0` and above: those the padding loop does not stop at. -/
def IsPadding (pad : Bytes) : Prop := ∀ b ∈ pad, ¬ b < 0xF0

instance : DecidablePred IsPadding := fun pad => inferInstanceAs (Decidable (∀ b ∈ pad, ¬ b < 0xF0))

/-- A field list's layout: each sub-record after its run of padding. -/
def encodeFieldList (subs : List (Bytes × SubRecord)) : Bytes :=
  (subs.map fun s => s.1 ++ s.2.encode).flatten

section Reads
variable {D rest : Bytes} {o : Nat}

private theorem ok_at {α : Type} {a : α} {m n : Nat} (h : m = n) :
    (EStateM.Result.ok a ⟨D, m⟩ : EStateM.Result GoError Reader α) = .ok a ⟨D, n⟩ := h ▸ rfl

/-! Each field parser over the fields it reads. -/

private theorem parseMemberField_at {attrs : U16} {type : U32} {offset : Numeric} {name : Bytes}
    (hn : offset.Valid) (hs : (0 : U8) ∉ name)
    (h : D.drop o = encU16 attrs.val ++ (encU32 type.val ++ (offset.encode ++ (name ++ 0 :: rest)))) :
    parseMemberField ⟨D, o⟩ = .ok ⟨memberAccess attrs, type, offset.value, name⟩
      ⟨D, o + 2 + 4 + offset.encode.length + name.length + 1⟩ := by
  obtain ⟨r1, h1⟩ := readU16_at h
  obtain ⟨r2, h2⟩ := readU32_at h1
  obtain ⟨r3, h3⟩ := readNumeric_at hn h2
  obtain ⟨r4, -⟩ := readCString_at hs h3
  simp only [parseMemberField, bind_apply, r1, r2, r3, r4, pure_apply]

private theorem parseStaticMemberField_at {attrs : U16} {type : U32} {name : Bytes} (hs : (0 : U8) ∉ name)
    (h : D.drop o = encU16 attrs.val ++ (encU32 type.val ++ (name ++ 0 :: rest))) :
    parseStaticMemberField ⟨D, o⟩ = .ok ⟨memberAccess attrs, type, name⟩
      ⟨D, o + 2 + 4 + name.length + 1⟩ := by
  obtain ⟨r1, h1⟩ := readU16_at h
  obtain ⟨r2, h2⟩ := readU32_at h1
  obtain ⟨r3, -⟩ := readCString_at hs h2
  simp only [parseStaticMemberField, bind_apply, r1, r2, r3, pure_apply]

private theorem parseMethodField_at {count : U16} {methodList : U32} {name : Bytes} (hs : (0 : U8) ∉ name)
    (h : D.drop o = encU16 count.val ++ (encU32 methodList.val ++ (name ++ 0 :: rest))) :
    parseMethodField ⟨D, o⟩ = .ok ⟨count, methodList, name⟩ ⟨D, o + 2 + 4 + name.length + 1⟩ := by
  obtain ⟨r1, h1⟩ := readU16_at h
  obtain ⟨r2, h2⟩ := readU32_at h1
  obtain ⟨r3, -⟩ := readCString_at hs h2
  simp only [parseMethodField, bind_apply, r1, r2, r3, pure_apply]

private theorem parseOneMethodField_at {attrs : U16} {type : U32} {v : Int} {name : Bytes}
    (hv1 : -2147483648 ≤ v) (hv2 : v < 2147483648) (hs : (0 : U8) ∉ name)
    (h : D.drop o = encU16 attrs.val ++ (encU32 type.val ++
      ((if hasVBaseOffset attrs then encU32 (u32OfInt v).val else []) ++ (name ++ 0 :: rest)))) :
    parseOneMethodField ⟨D, o⟩ = .ok ⟨attrs, type, if hasVBaseOffset attrs then v else 0, name⟩
      ⟨D, o + 2 + 4 + (if hasVBaseOffset attrs then 4 else 0) + name.length + 1⟩ := by
  obtain ⟨r1, h1⟩ := readU16_at h
  obtain ⟨r2, h2⟩ := readU32_at h1
  by_cases hvb : hasVBaseOffset attrs
  · rw [if_pos hvb] at h2
    obtain ⟨r3, h3⟩ := readI32_at hv1 hv2 h2
    obtain ⟨r4, -⟩ := readCString_at hs h3
    simp only [parseOneMethodField, bind_apply, r1, r2, hvb, if_true, r3, r4, pure_apply]
  · rw [if_neg hvb, List.nil_append] at h2
    obtain ⟨r4, -⟩ := readCString_at hs h2
    simp only [parseOneMethodField, bind_apply, r1, r2, hvb, Bool.false_eq_true, if_false,
      pure_apply, r4, Nat.add_zero]

private theorem parseNestedTypeField_at {pad : U16} {type : U32} {name : Bytes} (hs : (0 : U8) ∉ name)
    (h : D.drop o = encU16 pad.val ++ (encU32 type.val ++ (name ++ 0 :: rest))) :
    parseNestedTypeField ⟨D, o⟩ = .ok ⟨type, name⟩ ⟨D, o + 2 + 4 + name.length + 1⟩ := by
  obtain ⟨r1, h1⟩ := readU16_at h
  obtain ⟨r2, h2⟩ := readU32_at h1
  obtain ⟨r3, -⟩ := readCString_at hs h2
  simp only [parseNestedTypeField, bind_apply, r1, r2, r3, pure_apply]

private theorem parseBaseClassField_at {attrs : U16} {type : U32} {offset : Numeric} (hn : offset.Valid)
    (h : D.drop o = encU16 attrs.val ++ (encU32 type.val ++ (offset.encode ++ rest))) :
    parseBaseClassField ⟨D, o⟩ = .ok ⟨memberAccess attrs, type, offset.value⟩
      ⟨D, o + 2 + 4 + offset.encode.length⟩ := by
  obtain ⟨r1, h1⟩ := readU16_at h
  obtain ⟨r2, h2⟩ := readU32_at h1
  obtain ⟨r3, -⟩ := readNumeric_at hn h2
  simp only [parseBaseClassField, bind_apply, r1, r2, r3, pure_apply]

private theorem parseVirtualBaseClassField_at {attrs : U16} {baseType vbPtrType : U32}
    {vbPtrOffset vbTableIndex : Numeric} (hp : vbPtrOffset.Valid) (hi : vbTableIndex.Valid)
    (h : D.drop o = encU16 attrs.val ++ (encU32 baseType.val ++ (encU32 vbPtrType.val ++
      (vbPtrOffset.encode ++ (vbTableIndex.encode ++ rest))))) :
    parseVirtualBaseClassField ⟨D, o⟩ = .ok
      ⟨memberAccess attrs, baseType, vbPtrType, vbPtrOffset.value, vbTableIndex.value⟩
      ⟨D, o + 2 + 4 + 4 + vbPtrOffset.encode.length + vbTableIndex.encode.length⟩ := by
  obtain ⟨r1, h1⟩ := readU16_at h
  obtain ⟨r2, h2⟩ := readU32_at h1
  obtain ⟨r3, h3⟩ := readU32_at h2
  obtain ⟨r4, h4⟩ := readNumeric_at hp h3
  obtain ⟨r5, -⟩ := readNumeric_at hi h4
  simp only [parseVirtualBaseClassField, bind_apply, r1, r2, r3, r4, r5, pure_apply]

private theorem parseEnumerateField_at {attrs : U16} {value : Numeric} {name : Bytes} (hn : value.Valid)
    (hs : (0 : U8) ∉ name) (h : D.drop o = encU16 attrs.val ++ (value.encode ++ (name ++ 0 :: rest))) :
    parseEnumerateField ⟨D, o⟩ = .ok ⟨memberAccess attrs, value.value, name⟩
      ⟨D, o + 2 + value.encode.length + name.length + 1⟩ := by
  obtain ⟨r1, h1⟩ := readU16_at h
  obtain ⟨r2, h2⟩ := readNumeric_at hn h1
  obtain ⟨r3, -⟩ := readCString_at hs h2
  simp only [parseEnumerateField, bind_apply, r1, r2, r3, pure_apply]

private theorem parseVFuncTabField_at {pad : U16} {type : U32}
    (h : D.drop o = encU16 pad.val ++ (encU32 type.val ++ rest)) :
    parseVFuncTabField ⟨D, o⟩ = .ok ⟨type⟩ ⟨D, o + 2 + 4⟩ := by
  obtain ⟨r1, h1⟩ := readU16_at h
  obtain ⟨r2, -⟩ := readU32_at h1
  simp only [parseVFuncTabField, bind_apply, r1, r2, pure_apply]

private theorem SubRecord.payload_at {sr : SubRecord} (hd : sr.decoded.isSome) (hw : sr.WellFormed)
    (h : D.drop o = sr.payload ++ rest) :
    parseFieldListMember sr.kind ⟨D, o⟩ = .ok sr.decoded ⟨D, o + sr.payload.length⟩ := by
  cases sr with
  | member =>
    simp only [payload, List.append_assoc, List.singleton_append] at h
    rw [kind, parseFieldListMember_member, map_apply, parseMemberField_at hw.1 hw.2 h]
    exact ok_at (by simp only [payload, List.length_append, encU16_length, encU32_length,
      List.length_singleton]; omega)
  | staticMember =>
    simp only [payload, List.append_assoc, List.singleton_append] at h
    rw [kind, parseFieldListMember_staticMember, map_apply, parseStaticMemberField_at hw h]
    exact ok_at (by simp only [payload, List.length_append, encU16_length, encU32_length,
      List.length_singleton]; omega)
  | method =>
    simp only [payload, List.append_assoc, List.singleton_append] at h
    rw [kind, parseFieldListMember_method, map_apply, parseMethodField_at hw h]
    exact ok_at (by simp only [payload, List.length_append, encU16_length, encU32_length,
      List.length_singleton]; omega)
  | oneMethod attrs =>
    simp only [payload, List.append_assoc, List.singleton_append] at h
    rw [kind, parseFieldListMember_oneMethod, map_apply, parseOneMethodField_at hw.1 hw.2.1 hw.2.2 h]
    refine ok_at ?_
    by_cases hvb : hasVBaseOffset attrs <;>
      simp only [payload, hvb, Bool.false_eq_true, if_false, if_true, List.length_append, encU16_length,
        encU32_length, List.length_singleton, List.length_nil] <;> omega
  | nestedType =>
    simp only [payload, List.append_assoc, List.singleton_append] at h
    rw [kind, parseFieldListMember_nestedType, map_apply, parseNestedTypeField_at hw h]
    exact ok_at (by simp only [payload, List.length_append, encU16_length, encU32_length,
      List.length_singleton]; omega)
  | baseClass =>
    simp only [payload, List.append_assoc] at h
    rw [kind, parseFieldListMember_baseClass, map_apply, parseBaseClassField_at hw h]
    exact ok_at (by simp only [payload, List.length_append, encU16_length, encU32_length]; omega)
  | virtualBaseClass =>
    simp only [payload, List.append_assoc] at h
    rw [kind, parseFieldListMember_virtualBaseClass, map_apply, parseVirtualBaseClassField_at hw.1 hw.2 h]
    exact ok_at (by simp only [payload, List.length_append, encU16_length, encU32_length]; omega)
  | enumerate =>
    simp only [payload, List.append_assoc, List.singleton_append] at h
    rw [kind, parseFieldListMember_enumerate, map_apply, parseEnumerateField_at hw.1 hw.2 h]
    exact ok_at (by simp only [payload, List.length_append, encU16_length, List.length_singleton]; omega)
  | vFuncTab =>
    simp only [payload, List.append_assoc] at h
    rw [kind, parseFieldListMember_vFuncTab, map_apply, parseVFuncTabField_at h]
    rfl
  | index | friendCls => cases hd

private theorem SubRecord.encode_eq (sr : SubRecord) : ∃ t, sr.encode = UInt8.ofNat (sr.kind.val % 256) :: t ∧
    UInt8.ofNat (sr.kind.val % 256) < 0xF0 := by
  refine ⟨_, rfl, ?_⟩
  cases sr with
  | virtualBaseClass indirect => cases indirect <;> simp only [SubRecord.kind] <;> decide
  | _ => simp only [SubRecord.kind]; decide

private theorem skipPadding_at {pad : Bytes} {b : U8} (hpad : IsPadding pad) (hb : b < 0xF0)
    (h : D.drop o = pad ++ b :: rest) : skipPadding ⟨D, o⟩ = ⟨D, o + pad.length⟩ := by
  have hlen := congrArg List.length h
  simp only [List.length_drop, List.length_append, List.length_cons] at hlen
  induction pad generalizing o with
  | nil =>
    have hb' : D.getD o 0 = b := by rw [← Nat.add_zero o, ← getD_drop, h]; rfl
    exact skipPadding_stop (by simp only; omega) (by simp only; rw [hb']; exact hb)
  | cons p ps ih =>
    have hp : D.getD o 0 = p := by rw [← Nat.add_zero o, ← getD_drop, h]; rfl
    have h' : D.drop (o + 1) = ps ++ b :: rest := drop_past (x := [p]) h
    simp only [List.length_cons] at hlen
    rw [skipPadding_pad (by simp only; omega) (by simp only; rw [hp]; exact hpad p (List.mem_cons_self _ _))]
    dsimp only
    rw [ih (fun x hx => hpad x (List.mem_cons_of_mem _ hx)) h' (by omega), List.length_cons,
      Nat.add_comm ps.length, Nat.add_assoc]

private theorem encU32_halves (t : Nat) : encU32 t = encU16 (t % 65536) ++ encU16 (t / 65536) := by
  simp only [encU32, encU16, List.cons_append, List.nil_append, List.cons.injEq]
  exact ⟨congrArg _ (by omega), congrArg _ (by omega), trivial, congrArg _ (by omega), trivial⟩

private theorem parseFieldListLoop_index {ipad : U16} {itype : U32} {q : Nat} {ms : List FieldListMember}
    (hi : itype.val < 0xF00000) (hskip : skipPadding ⟨D, o⟩ = ⟨D, q⟩)
    (h : D.drop q = (SubRecord.index ipad itype).encode ++ rest) :
    parseFieldListLoop ⟨D, o⟩ ms = parseFieldListLoop ⟨D, q + 2 + 2 + 2 + 2⟩ ms := by
  have hx : itype.val / 65536 < 0xF0 := by omega
  have h' : D.drop q = encU16 lfIndex.val ++ (encU16 ipad.val ++
      (encU16 (⟨itype.val % 65536, by omega⟩ : U16).val ++
        (encU16 (⟨itype.val / 65536, by omega⟩ : U16).val ++ rest))) := by
    rw [h, SubRecord.encode, SubRecord.payload, SubRecord.kind, encU32_halves]
    simp only [List.append_assoc]
  obtain ⟨hk, h1⟩ := readU16_at h'
  obtain ⟨-, h2⟩ := readU16_at h1
  obtain ⟨-, h3⟩ := readU16_at h2
  obtain ⟨hk2, h4⟩ := readU16_at h3
  have hlen := congrArg List.length h3
  simp only [List.length_drop, List.length_append, encU16_length] at hlen
  have hb : D.getD (q + 2 + 2 + 2) 0 = UInt8.ofNat (itype.val / 65536 % 256) := by
    rw [← Nat.add_zero (q + 2 + 2 + 2), ← getD_drop, h3]; rfl
  have hlt : D.getD (q + 2 + 2 + 2) 0 < 0xF0 := by
    rw [hb]
    show (UInt8.ofNat (itype.val / 65536 % 256)).toNat < 240
    rw [UInt8.toNat_ofNat_of_lt (show _ < 256 by omega)]
    omega
  have hother : parseFieldListMember ⟨itype.val / 65536, by omega⟩ = pure none := by
    refine parseFieldListMember_other ?_
    simp only [fieldListMemberKinds, List.mem_cons, List.not_mem_nil, or_false, Fin.ext_iff,
      lfMember, lfStMember, lfMethod, lfOneMethod, lfNestType, lfBClass, lfVBClass, lfIVBClass,
      lfEnumerate, lfVFuncTab, lfIndex]
    omega
  have hidx : parseFieldListMember lfIndex ⟨D, q + 2⟩ = .ok none ⟨D, q + 2 + 2 + 2⟩ :=
    parseFieldListMember_index (by simp only; omega)
  rw [parseFieldListLoop_ok hskip hk hidx,
    parseFieldListLoop_ok (skipPadding_stop (by simp only; omega) hlt) hk2 (by rw [hother]; rfl)]
  simp only [Option.toList, List.append_nil]

private theorem parseFieldListLoop_subRecord {pad : Bytes} {sr : SubRecord} {ms : List FieldListMember}
    (hpad : IsPadding pad) (hw : sr.WellFormed) (hs : sr.InStep)
    (h : D.drop o = pad ++ sr.encode ++ rest) :
    parseFieldListLoop ⟨D, o⟩ ms =
      parseFieldListLoop ⟨D, o + pad.length + sr.encode.length⟩ (ms ++ sr.decoded.toList) := by
  obtain ⟨t, ht, hlt⟩ := sr.encode_eq
  have hskip := skipPadding_at hpad hlt (by rw [h, ht, List.append_assoc, List.cons_append])
  have hsr : D.drop (o + pad.length) = sr.encode ++ rest := drop_past (x := pad) (by rw [h, List.append_assoc])
  cases sr with
  | index ipad itype =>
    rw [parseFieldListLoop_index hs hskip hsr]
    simp only [SubRecord.decoded, Option.toList, List.append_nil]
    rfl
  | friendCls => exact absurd hs id
  | _ =>
    rw [SubRecord.encode, List.append_assoc] at hsr
    obtain ⟨hk, hp⟩ := readU16_at hsr
    rw [parseFieldListLoop_ok hskip hk (SubRecord.payload_at rfl hw hp)]
    simp only [SubRecord.encode, List.length_append, encU16_length, Nat.add_assoc]

end Reads

theorem parseFieldListLoop_encode (subs : List (Bytes × SubRecord))
    (hsubs : ∀ s ∈ subs, IsPadding s.1 ∧ s.2.WellFormed ∧ s.2.InStep) (pre : Bytes)
    (ms : List FieldListMember) :
    parseFieldListLoop ⟨pre ++ encodeFieldList subs, pre.length⟩ ms =
      ms ++ subs.filterMap (·.2.decoded) := by
  induction subs generalizing pre ms with
  | nil =>
    rw [parseFieldListLoop_done (by simp [Reader.remaining, encodeFieldList])]
    simp
  | cons s subs ih =>
    obtain ⟨hp, hw, hs⟩ := hsubs s (List.mem_cons_self _ _)
    have hE : encodeFieldList (s :: subs) = s.1 ++ s.2.encode ++ encodeFieldList subs := by
      simp [encodeFieldList]
    have hnext := ih (fun x hx => hsubs x (List.mem_cons_of_mem _ hx)) (pre ++ s.1 ++ s.2.encode)
      (ms ++ s.2.decoded.toList)
    simp only [List.append_assoc, List.length_append] at hnext
    rw [hE, parseFieldListLoop_subRecord hp hw hs (by rw [List.drop_left]), List.append_assoc,
      Nat.add_assoc, hnext, List.filterMap_cons]
    cases s.2.decoded <;> simp

/-- ParseFieldListRecord returns exactly the members that the sub-records of a field list hold,
in order and field for field, whatever padding runs precede them and whichever numeric leaves
they are written in; LF_INDEX holds no member. -/
theorem parseFieldListRecord_encode (subs : List (Bytes × SubRecord))
    (hsubs : ∀ s ∈ subs, IsPadding s.1 ∧ s.2.WellFormed ∧ s.2.InStep) :
    parseFieldListRecord (encodeFieldList subs) = .ok ⟨subs.filterMap (·.2.decoded)⟩ := by
  have h := parseFieldListLoop_encode subs hsubs [] []
  rw [List.nil_append, List.nil_append, List.length_nil] at h
  rw [parseFieldListRecord, newReader, h]

/-- A field list with a padded member at a 32-bit offset, a static member, an introducing
virtual method and a continuation index. -/
def sampleFieldList : List (Bytes × SubRecord) :=
  [([0xF2, 0xF1], .member 3 0x74 (.long (-8)) [0x61]), ([], .staticMember 1 0x1001 [0x73]),
    ([0xF1], .oneMethod 0x10 0x1002 16 [0x66]), ([], .index 0 0x1003)]

theorem parseFieldListRecord_encode_sample :
    (∀ s ∈ sampleFieldList, IsPadding s.1 ∧ s.2.WellFormed ∧ s.2.InStep) ∧
    parseFieldListRecord (encodeFieldList sampleFieldList) =
      .ok ⟨sampleFieldList.filterMap (·.2.decoded)⟩ :=
  ⟨by decide, parseFieldListRecord_encode sampleFieldList (by decide)⟩

/-- An LF_FRIENDCLS naming type `0x150d`, then an LF_MEMBER: a public `a` of type `0x74` at
offset 0. -/
def friendThenMember : List (Bytes × SubRecord) :=
  [([], .friendCls 0 0x150d), ([], .member 3 0x74 (.direct 0) [0x61])]

/-- The bytes of friendThenMember. -/
def friendThenMemberBytes : Bytes :=
  [0x0a, 0x14, 0, 0, 0x0d, 0x15, 0, 0, 0x0d, 0x15, 3, 0, 0x74, 0, 0, 0, 0, 0, 0x61, 0]

/-- ParseFieldListRecord skips an LF_FRIENDCLS's kind without its six bytes of fields, and reads
them as kinds: the padding word as an unknown kind, the type index `0x150d` as LF_MEMBER. That
member is made up of the bytes of the friend record and of the real member, which is lost. -/
theorem parseFieldListRecord_rereads_friend :
    (∀ s ∈ friendThenMember, IsPadding s.1 ∧ s.2.WellFormed) ∧
    friendThenMember.filterMap (·.2.decoded) = [.member ⟨3, 0x74, 0, [0x61]⟩] ∧
    parseFieldListRecord (encodeFieldList friendThenMember) =
      .ok ⟨[.member ⟨0, 0x3150d, 0x74, []⟩]⟩ := by
  refine ⟨by decide, rfl, ?_⟩
  have hD : encodeFieldList friendThenMember = friendThenMemberBytes := by decide
  rw [parseFieldListRecord, hD, newReader]
  refine congrArg (fun ms => (.ok ⟨ms⟩ : Except GoError FieldListRecord)) ?_
  calc parseFieldListLoop ⟨friendThenMemberBytes, 0⟩ []
      = parseFieldListLoop ⟨friendThenMemberBytes, 2⟩ [] :=
        parseFieldListLoop_ok (skipPadding_stop (r := ⟨friendThenMemberBytes, 0⟩) (by decide)
          (by decide)) rfl rfl
    _ = parseFieldListLoop ⟨friendThenMemberBytes, 4⟩ [] :=
        parseFieldListLoop_ok (skipPadding_stop (r := ⟨friendThenMemberBytes, 2⟩) (by decide)
          (by decide)) rfl rfl
    _ = parseFieldListLoop ⟨friendThenMemberBytes, 15⟩ [.member ⟨0, 0x3150d, 0x74, []⟩] :=
        parseFieldListLoop_ok (skipPadding_stop (r := ⟨friendThenMemberBytes, 4⟩) (by decide)
          (by decide)) rfl rfl
    _ = parseFieldListLoop ⟨friendThenMemberBytes, 17⟩ [.member ⟨0, 0x3150d, 0x74, []⟩] :=
        parseFieldListLoop_ok (skipPadding_stop (r := ⟨friendThenMemberBytes, 15⟩) (by decide)
          (by decide)) rfl rfl
    _ = parseFieldListLoop ⟨friendThenMemberBytes, 19⟩ [.member ⟨0, 0x3150d, 0x74, []⟩] :=
        parseFieldListLoop_ok (skipPadding_stop (r := ⟨friendThenMemberBytes, 17⟩) (by decide)
          (by decide)) rfl rfl
    _ = [.member ⟨0, 0x3150d, 0x74, []⟩] :=
        parseFieldListLoop_short (by decide)
          (by rw [skipPadding_stop (r := ⟨friendThenMemberBytes, 19⟩) (by decide) (by decide)]; decide)

end PdbGo.Tpi
