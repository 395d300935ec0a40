import PdbGo.Pdb.TypeStream

/-! A TPI stream written from the leaves parseTypeRecord decodes is read back whole: ByIndex, All
and ByName answer with the types of the leaves. -/
namespace PdbGo.Pdb
open PdbGo.Stream PdbGo.Tpi

/-- A type record of a kind parseTypeRecord decodes, by its leaf. For the aggregates and enums,
`st` picks the older _ST kind, which parseTypeRecord decodes as the newer one. -/
inductive TypeLeaf where
  | modifier (r : ModifierRecord)
  | pointer (r : PointerRecord)
  | array (l : ArrayLayout)
  | procedure (r : ProcedureRecord)
  | mfunction (r : MFunctionRecord)
  | cls (st : Bool) (l : ClassLayout)
  | struct (st : Bool) (l : ClassLayout)
  | union (st : Bool) (l : UnionLayout)
  | enum (st : Bool) (r : EnumRecord)
  | bitfield (r : BitFieldRecord)
  deriving DecidableEq, Repr

namespace TypeLeaf

/-- The leaf kind a record of this leaf is written with. -/
def kind : TypeLeaf → U16
  | modifier _ => lfModifier
  | pointer _ => lfPointer
  | array _ => lfArray
  | procedure _ => lfProcedure
  | mfunction _ => lfMFunction
  | cls st _ => if st then lfClassSt else lfClass
  | struct st _ => if st then lfStructureSt else lfStructure
  | union st _ => if st then lfUnionSt else lfUnion
  | enum st _ => if st then lfEnumSt else lfEnum
  | bitfield _ => lfBitField

/-- The leaf's fields as its decoder reads them. -/
def encode : TypeLeaf → Bytes
  | modifier r => r.encode
  | pointer r => r.encode
  | array l => l.encode
  | procedure r => r.encode
  | mfunction r => r.encode
  | cls _ l | struct _ l => l.encode
  | union _ l => l.encode
  | enum _ r => r.encode
  | bitfield r => r.encode

/-- The type record of the leaf, its fields followed by `pad`, the padding the record ends with. -/
def record (leaf : TypeLeaf) (pad : Bytes) : TypeRecord := ⟨leaf.kind, leaf.encode ++ pad⟩

/-- What a leaf needs to be read back: names with no NUL inside, numeric leaves whose value fits
the leaf, and a this-adjustment that fits an int32. -/
def WellFormed : TypeLeaf → Prop
  | mfunction r => -2147483648 ≤ r.thisAdjust ∧ r.thisAdjust < 2147483648
  | array l => l.size.Valid ∧ (0 : U8) ∉ l.name
  | cls _ l | struct _ l =>
    l.size.Valid ∧ (0 : U8) ∉ l.name ∧
      (hasUniqueName l.properties → (0 : U8) ∉ l.uniqueName)
  | union _ l =>
    l.size.Valid ∧ (0 : U8) ∉ l.name ∧
      (hasUniqueName l.properties → (0 : U8) ∉ l.uniqueName)
  | enum _ r => (0 : U8) ∉ r.name ∧ (hasUniqueName r.properties → (0 : U8) ∉ r.uniqueName)
  | modifier _ | pointer _ | procedure _ | bitfield _ => True

instance : DecidablePred WellFormed
  | mfunction r => inferInstanceAs (Decidable (-2147483648 ≤ r.thisAdjust ∧ _))
  | array l => inferInstanceAs (Decidable (l.size.Valid ∧ _))
  | cls _ l | struct _ l => inferInstanceAs (Decidable (l.size.Valid ∧ _))
  | union _ l => inferInstanceAs (Decidable (l.size.Valid ∧ _))
  | enum _ r => inferInstanceAs (Decidable ((0 : U8) ∉ r.name ∧ _))
  | modifier _ | pointer _ | procedure _ | bitfield _ => inferInstanceAs (Decidable True)

/-- The unique name an aggregate has: the one written, when its properties say it has one. -/
def uniqueNameOf (properties : U16) (uniqueName : Bytes) : Bytes :=
  if hasUniqueName properties then uniqueName else []

/-- The type a leaf stands for at `index`: its fields; a pointer's size, qualifiers and reference
kind from its attributes; a modifier's qualifiers from its options; and a forward reference from
the properties of an aggregate or enum. -/
def toType (index : TypeIndex) : TypeLeaf → PdbType
  | modifier r =>
    .modifierType index r.modifiedType (ModifierOptions.isConst r.modifiers)
      (ModifierOptions.isVolatile r.modifiers) (ModifierOptions.isUnaligned r.modifiers)
  | pointer r =>
    .pointerType index r.referentType (Fin.ofNat (PointerAttributes.size r.attributes).toNat)
      (PointerAttributes.isConst r.attributes) (PointerAttributes.isVolatile r.attributes)
      (PointerAttributes.mode r.attributes == pointerModeLValueReference)
      (PointerAttributes.mode r.attributes == pointerModeRValueReference)
  | array l => .arrayType index l.elementType l.indexType l.size.value l.name
  | procedure r =>
    .functionType index r.returnType r.argumentList (CallingConvention.string r.callingConv)
      r.parameterCount
  | mfunction r =>
    .memberFunctionType index r.returnType r.classType r.thisType r.argumentList
      (CallingConvention.string r.callingConv) r.parameterCount r.thisAdjust
  | cls _ l =>
    .classType index l.name (uniqueNameOf l.properties l.uniqueName) l.size.value l.memberCount
      l.fieldList l.derivedFrom l.vShape (isForwardRef l.properties)
  | struct _ l =>
    .structType index l.name (uniqueNameOf l.properties l.uniqueName) l.size.value l.memberCount
      l.fieldList l.derivedFrom l.vShape (isForwardRef l.properties)
  | union _ l =>
    .unionType index l.name (uniqueNameOf l.properties l.uniqueName) l.size.value l.memberCount
      l.fieldList (isForwardRef l.properties)
  | enum _ r =>
    .enumType index r.name (uniqueNameOf r.properties r.uniqueName) r.underlyingType r.fieldList
      r.count (isForwardRef r.properties)
  | bitfield r => .bitfieldType index r.type r.length r.position

end TypeLeaf

private theorem parseTypeRecord_leaf (index : TypeIndex) (pad : Bytes) (leaf : TypeLeaf)
    (hw : leaf.WellFormed) : parseTypeRecord index (leaf.record pad) = .ok (leaf.toType index) := by
  cases leaf with
  | modifier r =>
    rw [TypeLeaf.record, parseTypeRecord, if_pos, TypeLeaf.encode, parseModifierRecord_encode] <;>
      rfl
  | pointer r =>
    rw [TypeLeaf.record, parseTypeRecord, if_neg, if_pos, TypeLeaf.encode,
      parsePointerRecord_encode] <;>
      first | rfl | (simp only [TypeLeaf.kind]; decide)
  | array l =>
    rw [TypeLeaf.record, parseTypeRecord, if_neg, if_neg, if_pos, TypeLeaf.encode,
      parseArrayRecord_encode _ _ hw.1 hw.2] <;>
      first | rfl | (simp only [TypeLeaf.kind]; decide)
  | procedure r =>
    rw [TypeLeaf.record, parseTypeRecord, if_neg, if_neg, if_neg, if_pos, TypeLeaf.encode,
      parseProcedureRecord_encode] <;>
      first | rfl | (simp only [TypeLeaf.kind]; decide)
  | mfunction r =>
    rw [TypeLeaf.record, parseTypeRecord, if_neg, if_neg, if_neg, if_neg, if_pos,
      TypeLeaf.encode, parseMFunctionRecord_encode _ _ hw.1 hw.2] <;>
      first | rfl | (simp only [TypeLeaf.kind]; decide)
  | cls st l =>
    cases st <;> rw [TypeLeaf.record, parseTypeRecord, if_neg, if_neg, if_neg, if_neg, if_neg,
        if_pos, TypeLeaf.encode, parseClassRecord_encode _ _ hw.1 hw.2.1 hw.2.2] <;>
      first | rfl | (simp only [TypeLeaf.kind]; decide)
  | struct st l =>
    cases st <;> rw [TypeLeaf.record, parseTypeRecord, if_neg, if_neg, if_neg, if_neg, if_neg,
        if_neg, if_pos, TypeLeaf.encode, parseClassRecord_encode _ _ hw.1 hw.2.1 hw.2.2] <;>
      first | rfl | (simp only [TypeLeaf.kind]; decide)
  | union st l =>
    cases st <;> rw [TypeLeaf.record, parseTypeRecord, if_neg, if_neg, if_neg, if_neg, if_neg,
        if_neg, if_neg, if_pos, TypeLeaf.encode, parseUnionRecord_encode _ _ hw.1 hw.2.1 hw.2.2] <;>
      first | rfl | (simp only [TypeLeaf.kind]; decide)
  | enum st r =>
    cases st <;> rw [TypeLeaf.record, parseTypeRecord, if_neg, if_neg, if_neg, if_neg, if_neg,
        if_neg, if_neg, if_neg, if_pos, TypeLeaf.encode, parseEnumRecord_encode _ _ hw.1 hw.2] <;>
      first | rfl | (simp only [TypeLeaf.kind]; decide)
  | bitfield r =>
    rw [TypeLeaf.record, parseTypeRecord, if_neg, if_neg, if_neg, if_neg, if_neg, if_neg,
      if_neg, if_neg, if_neg, if_pos, TypeLeaf.encode, parseBitFieldRecord_encode] <;>
      first | rfl | (simp only [TypeLeaf.kind]; decide)

/-- The records of leaves, each followed by its padding. -/
def leafRecords (leaves : List (TypeLeaf × Bytes)) : List TypeRecord :=
  leaves.map fun p => p.1.record p.2

/-- The types the leaves stand for, at the type indices from `begin` on. -/
def leafTypes (begin : Nat) (leaves : List (TypeLeaf × Bytes)) : List PdbType :=
  leaves.mapIdx fun i p => p.1.toType (u32 (begin + i))

section Stream
variable (begin : Nat) (leaves : List (TypeLeaf × Bytes)) (rest : Bytes)

@[simp] private theorem leafRecords_length : (leafRecords leaves).length = leaves.length :=
  List.length_map _ _

private theorem leafRecords_getElem (i : Nat) (hi : i < (leafRecords leaves).length) :
    (leafRecords leaves)[i] =
      (getElem leaves i (by simpa using hi)).1.record (getElem leaves i (by simpa using hi)).2 :=
  List.getElem_map _

variable {begin leaves} (hw : ∀ p ∈ leaves, p.1.WellFormed)

include hw in
private theorem leafTypes_eq :
    ((List.range (leafRecords leaves).length).filterMap fun i =>
      (parseTypeRecord (u32 (begin + i)) ((leafRecords leaves).getD i ⟨0, []⟩)).toOption) =
      leafTypes begin leaves := by
  let d : TypeLeaf × Bytes := (.bitfield ⟨0, 0, 0⟩, [])
  have hmap : ((List.range (leafRecords leaves).length).filterMap fun i =>
      (parseTypeRecord (u32 (begin + i)) ((leafRecords leaves).getD i ⟨0, []⟩)).toOption) =
      (List.range leaves.length).map fun i => (leaves.getD i d).1.toType (u32 (begin + i)) := by
    rw [leafRecords_length, ← List.filterMap_eq_map]
    refine List.filterMap_congr fun i hi => ?_
    have hi' : i < leaves.length := List.mem_range.mp hi
    rw [getD_of_lt _ _ (by simpa using hi'), leafRecords_getElem, Function.comp_apply,
      getD_of_lt _ _ hi', parseTypeRecord_leaf _ _ _ (hw _ (List.getElem_mem hi'))]
    rfl
  rw [hmap]
  refine List.ext_getElem (by simp [leafTypes]) fun i h1 h2 => ?_
  simp only [List.getElem_map, List.getElem_range, leafTypes, List.getElem_mapIdx]
  rw [getD_of_lt _ _ (by simpa using h1)]

variable (hb : 0x1000 ≤ begin) (hn : begin + leaves.length < 4294967296)
  (hr : ∀ r ∈ leafRecords leaves, r.data.length + 2 < 65536)
  (ha : (encodeRecords (leafRecords leaves)).length < 4294967296)

include hw hb hn hr ha in
/-- A TPI stream written from leaves is read back whole: ParseStream accepts it, and over its
TypeTable, from any caches a run of calls left, ByIndex returns at each leaf's index the type the
leaf stands for, All returns every leaf's type in order, and ByName returns, in the same order, the
types that have that name. -/
theorem typeTable_leaves :
    ∃ s, Tpi.parseStream (recordsBytes begin (leafRecords leaves) rest) = .ok s ∧
      ∀ c, (newTypeTable s).Reachable c →
        (∀ i (hi : i < leaves.length), ((newTypeTable s).byIndex c (u32 (begin + i))).1 =
          .ok (leaves[i].1.toType (u32 (begin + i)))) ∧
        ((newTypeTable s).all c).1 = leafTypes begin leaves ∧
        ∀ name, ((newTypeTable s).byName c name).1 =
          (leafTypes begin leaves).filter fun typ => typ.name ≠ [] ∧ typ.name = name := by
  obtain ⟨s, hs, hat, htypes⟩ := typeAt_records rest hb (by rwa [leafRecords_length]) hr ha
  rw [leafTypes_eq hw] at htypes
  refine ⟨s, hs, fun c hc => ⟨fun i hi => ?_, (TypeTable.all_sound hc.sound).1.trans htypes,
    fun name => by rw [(TypeTable.byName_sound hc.sound name).1, htypes]⟩⟩
  rw [(TypeTable.byIndex_sound hc.sound _).1, hat i (by simpa using hi), leafRecords_getElem,
    parseTypeRecord_leaf _ _ _ (hw _ (List.getElem_mem hi))]

end Stream

/-- A four-byte struct S and an eight-byte pointer to it, each padded to four bytes with LF_PAD
bytes as compilers write them. -/
def structAndPointer : List (TypeLeaf × Bytes) :=
  [(.struct false ⟨1, 0, 0, 0, 0, .direct 4, [83], []⟩, [0xF2, 0xF1]),
    (.pointer ⟨0x1000, 0x1000C, 0⟩, [0xF2, 0xF1])]

theorem typeTable_leaves_structAndPointer :
    (∀ p ∈ structAndPointer, p.1.WellFormed) ∧ 0x1000 ≤ 0x1000 ∧
      0x1000 + structAndPointer.length < 4294967296 ∧
      (∀ r ∈ leafRecords structAndPointer, r.data.length + 2 < 65536) ∧
      (encodeRecords (leafRecords structAndPointer)).length < 4294967296 ∧
      ∃ s, Tpi.parseStream (recordsBytes 0x1000 (leafRecords structAndPointer) []) = .ok s ∧
        ∀ c, (newTypeTable s).Reachable c →
          (∀ i (hi : i < structAndPointer.length),
            ((newTypeTable s).byIndex c (u32 (0x1000 + i))).1 =
              .ok (structAndPointer[i].1.toType (u32 (0x1000 + i)))) ∧
          ((newTypeTable s).all c).1 = leafTypes 0x1000 structAndPointer ∧
          ∀ name, ((newTypeTable s).byName c name).1 =
            (leafTypes 0x1000 structAndPointer).filter fun typ =>
              typ.name ≠ [] ∧ typ.name = name :=
  ⟨by decide, by decide, by decide, by decide, by decide,
    typeTable_leaves [] (by decide) (by decide) (by decide) (by decide) (by decide)⟩

example : leafTypes 0x1000 structAndPointer =
    [.structType 0x1000 [83] [] 4 1 0 0 0 false,
      .pointerType 0x1001 0x1000 8 false false false false] := by
  decide

end PdbGo.Pdb
