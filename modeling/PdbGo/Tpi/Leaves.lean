import PdbGo.Tpi.Records

/-! The leaf records pdb.TypeTable turns into types beside classes and unions, the bit fields read
out of them, and the byte layout each decoder reads back. -/
namespace PdbGo.Tpi
open PdbGo.Stream

def lfModifier : U16 := 0x1001
def lfPointer : U16 := 0x1002
def lfEnumSt : U16 := 0x1007
def lfProcedure : U16 := 0x1008
def lfMFunction : U16 := 0x1009
def lfArgList : U16 := 0x1201
def lfBitField : U16 := 0x1205
def lfArray : U16 := 0x1503
def lfEnum : U16 := 0x1507

def ModifierOptions.isConst (mo : U16) : Bool := mo.val &&& 0x01 != 0

def ModifierOptions.isVolatile (mo : U16) : Bool := mo.val &&& 0x02 != 0

def ModifierOptions.isUnaligned (mo : U16) : Bool := mo.val &&& 0x04 != 0

/-- PointerAttributes.Mode: bits 5 to 7. -/
def PointerAttributes.mode (pa : U32) : Nat := pa.val >>> 5 &&& 0x07

def PointerAttributes.isVolatile (pa : U32) : Bool := pa.val &&& 0x200 != 0

def PointerAttributes.isConst (pa : U32) : Bool := pa.val &&& 0x400 != 0

/-- PointerAttributes.Size: bits 13 to 20. -/
def PointerAttributes.size (pa : U32) : U8 := UInt8.ofNat (pa.val >>> 13 &&& 0xFF)

def pointerModeLValueReference : Nat := 0x01
def pointerModePointerToDataMember : Nat := 0x02
def pointerModePointerToMemberFunction : Nat := 0x03
def pointerModeRValueReference : Nat := 0x04

def CallingConvention.string (cc : U8) : String :=
  if cc = 0x00 ∨ cc = 0x01 then "__cdecl"
  else if cc = 0x02 ∨ cc = 0x03 then "__pascal"
  else if cc = 0x04 ∨ cc = 0x05 then "__fastcall"
  else if cc = 0x07 ∨ cc = 0x08 then "__stdcall"
  else if cc = 0x0b then "__thiscall"
  else if cc = 0x16 then "__clrcall"
  else if cc = 0x18 then "__vectorcall"
  else if cc = 0x19 then "__swift"
  else if cc = 0x1a then "__swiftasync"
  else ""

structure ModifierRecord where
  modifiedType : TypeIndex
  modifiers : U16
  deriving DecidableEq, Repr

/-- The reads of ParseModifierRecord. -/
def readModifierRecord : ReadM ModifierRecord := do
  let modType ← readU32
  let mods ← readU16
  pure ⟨modType, mods⟩

def parseModifierRecord (data : Bytes) : Except GoError ModifierRecord :=
  runParser readModifierRecord data

structure PointerRecord where
  referentType : TypeIndex
  attributes : U32
  containingClass : TypeIndex
  deriving DecidableEq, Repr

/-- The mode test of ParsePointerRecord: a pointer to a data member or to a member function,
the two modes followed by the containing class. -/
def isMemberPointer (attrs : U32) : Bool :=
  PointerAttributes.mode attrs == pointerModePointerToDataMember ||
    PointerAttributes.mode attrs == pointerModePointerToMemberFunction

/-- The reads of ParsePointerRecord. -/
def readPointerRecord : ReadM PointerRecord := do
  let refType ← readU32
  let attrs ← readU32
  if isMemberPointer attrs then
    let containingClass ← readU32
    pure ⟨refType, attrs, containingClass⟩
  else pure ⟨refType, attrs, 0⟩

def parsePointerRecord (data : Bytes) : Except GoError PointerRecord :=
  runParser readPointerRecord data

structure ProcedureRecord where
  returnType : TypeIndex
  callingConv : U8
  functionOptions : U8
  parameterCount : U16
  argumentList : TypeIndex
  deriving DecidableEq, Repr

/-- The reads of ParseProcedureRecord. -/
def readProcedureRecord : ReadM ProcedureRecord := do
  let retType ← readU32
  let callConv ← readU8
  let funcOpts ← readU8
  let paramCount ← readU16
  let argList ← readU32
  pure ⟨retType, callConv, funcOpts, paramCount, argList⟩

def parseProcedureRecord (data : Bytes) : Except GoError ProcedureRecord :=
  runParser readProcedureRecord data

structure MFunctionRecord where
  returnType : TypeIndex
  classType : TypeIndex
  thisType : TypeIndex
  callingConv : U8
  functionOptions : U8
  parameterCount : U16
  argumentList : TypeIndex
  thisAdjust : Int
  deriving DecidableEq, Repr

/-- The reads of ParseMFunctionRecord. -/
def readMFunctionRecord : ReadM MFunctionRecord := do
  let retType ← readU32
  let classType ← readU32
  let thisType ← readU32
  let callConv ← readU8
  let funcOpts ← readU8
  let paramCount ← readU16
  let argList ← readU32
  let thisAdjust ← readI32
  pure ⟨retType, classType, thisType, callConv, funcOpts, paramCount, argList, thisAdjust⟩

def parseMFunctionRecord (data : Bytes) : Except GoError MFunctionRecord :=
  runParser readMFunctionRecord data

structure ArgListRecord where
  argTypes : List TypeIndex
  deriving DecidableEq, Repr

/-- ParseArgListRecord's loop: `count` argument types, the first read that fails ending it. -/
def readArgTypes : Nat → ReadM (List TypeIndex)
  | 0 => pure []
  | count + 1 => do
    let argType ← readU32
    let args ← readArgTypes count
    pure (argType :: args)

/-- The reads of ParseArgListRecord. -/
def readArgListRecord : ReadM ArgListRecord := do
  let count ← readU32
  let args ← readArgTypes count.val
  pure ⟨args⟩

def parseArgListRecord (data : Bytes) : Except GoError ArgListRecord :=
  runParser readArgListRecord data

structure ArrayRecord where
  elementType : TypeIndex
  indexType : TypeIndex
  size : U64
  name : Bytes
  deriving DecidableEq, Repr

/-- The reads of ParseArrayRecord. -/
def readArrayRecord : ReadM ArrayRecord := do
  let elemType ← readU32
  let indexType ← readU32
  let size ← readNumeric
  let name ← readCString
  pure ⟨elemType, indexType, size, name⟩

def parseArrayRecord (data : Bytes) : Except GoError ArrayRecord :=
  runParser readArrayRecord data

structure EnumRecord where
  count : U16
  properties : U16
  underlyingType : TypeIndex
  fieldList : TypeIndex
  name : Bytes
  uniqueName : Bytes
  deriving DecidableEq, Repr

/-- The reads of ParseEnumRecord. -/
def readEnumRecord : ReadM EnumRecord := do
  let count ← readU16
  let props ← readU16
  let underlyingType ← readU32
  let fieldList ← readU32
  let name ← readCString
  let uniqueName ← (if hasUniqueName props then readCString else pure [])
  pure ⟨count, props, underlyingType, fieldList, name, uniqueName⟩

/-- ParseEnumRecord, for LF_ENUM and LF_ENUM_ST. -/
def parseEnumRecord (data : Bytes) : Except GoError EnumRecord :=
  runParser readEnumRecord data

structure BitFieldRecord where
  type : TypeIndex
  length : U8
  position : U8
  deriving DecidableEq, Repr

/-- The reads of ParseBitFieldRecord. -/
def readBitFieldRecord : ReadM BitFieldRecord := do
  let typ ← readU32
  let length ← readU8
  let position ← readU8
  pure ⟨typ, length, position⟩

def parseBitFieldRecord (data : Bytes) : Except GoError BitFieldRecord :=
  runParser readBitFieldRecord data

/-! The byte layout of each leaf record: its fields in order, a numeric field in the leaf it is
written in, a name followed by its NUL, and the fields a decoder reads only under a condition
present exactly when it holds. -/

def ModifierRecord.encode (r : ModifierRecord) : Bytes :=
  encU32 r.modifiedType.val ++ encU16 r.modifiers.val

def PointerRecord.encode (r : PointerRecord) : Bytes :=
  encU32 r.referentType.val ++ encU32 r.attributes.val ++
    (if isMemberPointer r.attributes then encU32 r.containingClass.val else [])

/-- The record a pointer's layout gives back: the containing class only for a member pointer. -/
def PointerRecord.decoded (r : PointerRecord) : PointerRecord :=
  { r with containingClass := if isMemberPointer r.attributes then r.containingClass else 0 }

def ProcedureRecord.encode (r : ProcedureRecord) : Bytes :=
  encU32 r.returnType.val ++ [r.callingConv, r.functionOptions] ++ encU16 r.parameterCount.val ++
    encU32 r.argumentList.val

def MFunctionRecord.encode (r : MFunctionRecord) : Bytes :=
  encU32 r.returnType.val ++ encU32 r.classType.val ++ encU32 r.thisType.val ++
    [r.callingConv, r.functionOptions] ++ encU16 r.parameterCount.val ++ encU32 r.argumentList.val ++
    encU32 (u32OfInt r.thisAdjust).val

/-- An LF_ARRAY as laid out, its size in the numeric leaf it is written in. -/
structure ArrayLayout where
  elementType : TypeIndex
  indexType : TypeIndex
  size : Numeric
  name : Bytes
  deriving DecidableEq, Repr

def ArrayLayout.encode (l : ArrayLayout) : Bytes :=
  encU32 l.elementType.val ++ encU32 l.indexType.val ++ l.size.encode ++ l.name ++ [0]

def ArrayLayout.decoded (l : ArrayLayout) : ArrayRecord :=
  ⟨l.elementType, l.indexType, l.size.value, l.name⟩

def EnumRecord.encode (r : EnumRecord) : Bytes :=
  encU16 r.count.val ++ encU16 r.properties.val ++ encU32 r.underlyingType.val ++
    encU32 r.fieldList.val ++ r.name ++ [0] ++
    (if hasUniqueName r.properties then r.uniqueName ++ [0] else [])

/-- The record an enum's layout gives back: the unique name only when the properties say so. -/
def EnumRecord.decoded (r : EnumRecord) : EnumRecord :=
  { r with uniqueName := if hasUniqueName r.properties then r.uniqueName else [] }

def BitFieldRecord.encode (r : BitFieldRecord) : Bytes :=
  encU32 r.type.val ++ [r.length, r.position]

/-- An LF_CLASS or LF_STRUCTURE as laid out. -/
structure ClassLayout where
  memberCount : U16
  properties : U16
  fieldList : TypeIndex
  derivedFrom : TypeIndex
  vShape : TypeIndex
  size : Numeric
  name : Bytes
  uniqueName : Bytes
  deriving DecidableEq, Repr

def ClassLayout.encode (l : ClassLayout) : Bytes :=
  encU16 l.memberCount.val ++ encU16 l.properties.val ++ encU32 l.fieldList.val ++
    encU32 l.derivedFrom.val ++ encU32 l.vShape.val ++ l.size.encode ++ l.name ++ [0] ++
    (if hasUniqueName l.properties then l.uniqueName ++ [0] else [])

def ClassLayout.decoded (l : ClassLayout) : ClassRecord :=
  ⟨l.memberCount, l.properties, l.fieldList, l.derivedFrom, l.vShape, l.size.value, l.name,
    if hasUniqueName l.properties then l.uniqueName else []⟩

/-- An LF_UNION as laid out. -/
structure UnionLayout where
  memberCount : U16
  properties : U16
  fieldList : TypeIndex
  size : Numeric
  name : Bytes
  uniqueName : Bytes
  deriving DecidableEq, Repr

def UnionLayout.encode (l : UnionLayout) : Bytes :=
  encU16 l.memberCount.val ++ encU16 l.properties.val ++ encU32 l.fieldList.val ++ l.size.encode ++
    l.name ++ [0] ++ (if hasUniqueName l.properties then l.uniqueName ++ [0] else [])

def UnionLayout.decoded (l : UnionLayout) : UnionRecord :=
  ⟨l.memberCount, l.properties, l.fieldList, l.size.value, l.name,
    if hasUniqueName l.properties then l.uniqueName else []⟩

section Reads
variable {D rest : Bytes} {o : Nat} (pad : Bytes)

/-! Each decoder over the layout of its record, whatever bytes follow it. -/

theorem parseModifierRecord_encode (r : ModifierRecord) :
    parseModifierRecord (r.encode ++ pad) = .ok r := by
  obtain ⟨r1, h1⟩ := readU32_at (D := r.encode ++ pad) (o := 0)
    (by simp only [List.drop_zero, ModifierRecord.encode, List.append_assoc, List.cons_append, List.nil_append]; rfl)
  obtain ⟨r2, -⟩ := readU16_at h1
  simp only [parseModifierRecord, runParser, newReader, readModifierRecord, bind_apply, r1, r2,
    pure_apply]

theorem parsePointerRecord_encode (r : PointerRecord) :
    parsePointerRecord (r.encode ++ pad) = .ok r.decoded := by
  obtain ⟨r1, h1⟩ := readU32_at (D := r.encode ++ pad) (o := 0)
    (by simp only [List.drop_zero, PointerRecord.encode, List.append_assoc, List.cons_append, List.nil_append]; rfl)
  obtain ⟨r2, h2⟩ := readU32_at h1
  by_cases hm : isMemberPointer r.attributes = true
  · obtain ⟨r3, -⟩ := readU32_at (by rw [h2, if_pos hm])
    simp only [parsePointerRecord, runParser, newReader, readPointerRecord, bind_apply, r1, r2,
      if_pos hm, r3, pure_apply, PointerRecord.decoded]
  · simp only [parsePointerRecord, runParser, newReader, readPointerRecord, bind_apply, r1, r2,
      if_neg hm, pure_apply, PointerRecord.decoded]

theorem parseProcedureRecord_encode (r : ProcedureRecord) :
    parseProcedureRecord (r.encode ++ pad) = .ok r := by
  obtain ⟨r1, h1⟩ := readU32_at (D := r.encode ++ pad) (o := 0)
    (by simp only [List.drop_zero, ProcedureRecord.encode, List.append_assoc, List.cons_append, List.nil_append]; rfl)
  obtain ⟨r2, h2⟩ := readU8_at h1
  obtain ⟨r3, h3⟩ := readU8_at h2
  obtain ⟨r4, h4⟩ := readU16_at h3
  obtain ⟨r5, -⟩ := readU32_at h4
  simp only [parseProcedureRecord, runParser, newReader, readProcedureRecord, bind_apply, r1, r2, r3,
    r4, r5, pure_apply]

theorem parseMFunctionRecord_encode (r : MFunctionRecord) (h1 : -2147483648 ≤ r.thisAdjust)
    (h2 : r.thisAdjust < 2147483648) : parseMFunctionRecord (r.encode ++ pad) = .ok r := by
  obtain ⟨r1, d1⟩ := readU32_at (D := r.encode ++ pad) (o := 0)
    (by simp only [List.drop_zero, MFunctionRecord.encode, List.append_assoc, List.cons_append, List.nil_append]; rfl)
  obtain ⟨r2, d2⟩ := readU32_at d1
  obtain ⟨r3, d3⟩ := readU32_at d2
  obtain ⟨r4, d4⟩ := readU8_at d3
  obtain ⟨r5, d5⟩ := readU8_at d4
  obtain ⟨r6, d6⟩ := readU16_at d5
  obtain ⟨r7, d7⟩ := readU32_at d6
  obtain ⟨r8, -⟩ := readI32_at h1 h2 d7
  simp only [parseMFunctionRecord, runParser, newReader, readMFunctionRecord, bind_apply, r1, r2, r3,
    r4, r5, r6, r7, r8, pure_apply]

theorem parseArrayRecord_encode (l : ArrayLayout) (hn : l.size.Valid) (hs : (0 : U8) ∉ l.name) :
    parseArrayRecord (l.encode ++ pad) = .ok l.decoded := by
  obtain ⟨r1, h1⟩ := readU32_at (D := l.encode ++ pad) (o := 0)
    (by simp only [List.drop_zero, ArrayLayout.encode, List.append_assoc, List.cons_append, List.nil_append]; rfl)
  obtain ⟨r2, h2⟩ := readU32_at h1
  obtain ⟨r3, h3⟩ := readNumeric_at hn h2
  obtain ⟨r4, -⟩ := readCString_at hs h3
  simp only [parseArrayRecord, runParser, newReader, readArrayRecord, bind_apply, r1, r2, r3, r4,
    pure_apply, ArrayLayout.decoded]

theorem parseEnumRecord_encode (r : EnumRecord) (hs : (0 : U8) ∉ r.name)
    (hu : hasUniqueName r.properties → (0 : U8) ∉ r.uniqueName) :
    parseEnumRecord (r.encode ++ pad) = .ok r.decoded := by
  obtain ⟨r1, h1⟩ := readU16_at (D := r.encode ++ pad) (o := 0)
    (by simp only [List.drop_zero, EnumRecord.encode, List.append_assoc, List.cons_append, List.nil_append]; rfl)
  obtain ⟨r2, h2⟩ := readU16_at h1
  obtain ⟨r3, h3⟩ := readU32_at h2
  obtain ⟨r4, h4⟩ := readU32_at h3
  obtain ⟨r5, h5⟩ := readCString_at hs h4
  by_cases hq : hasUniqueName r.properties = true
  · obtain ⟨r6, -⟩ := readCString_at (hu hq) (by rw [h5, if_pos hq, List.append_assoc, List.singleton_append])
    simp only [parseEnumRecord, runParser, newReader, readEnumRecord, bind_apply, r1, r2, r3, r4, r5,
      if_pos hq, r6, pure_apply, EnumRecord.decoded]
  · simp only [parseEnumRecord, runParser, newReader, readEnumRecord, bind_apply, r1, r2, r3, r4, r5,
      if_neg hq, pure_apply, EnumRecord.decoded]

theorem parseBitFieldRecord_encode (r : BitFieldRecord) :
    parseBitFieldRecord (r.encode ++ pad) = .ok r := by
  obtain ⟨r1, h1⟩ := readU32_at (D := r.encode ++ pad) (o := 0)
    (by simp only [List.drop_zero, BitFieldRecord.encode, List.append_assoc, List.cons_append, List.nil_append]; rfl)
  obtain ⟨r2, h2⟩ := readU8_at h1
  obtain ⟨r3, -⟩ := readU8_at h2
  simp only [parseBitFieldRecord, runParser, newReader, readBitFieldRecord, bind_apply, r1, r2, r3,
    pure_apply]

theorem parseClassRecord_encode (l : ClassLayout) (hn : l.size.Valid) (hs : (0 : U8) ∉ l.name)
    (hu : hasUniqueName l.properties → (0 : U8) ∉ l.uniqueName) :
    parseClassRecord (l.encode ++ pad) = .ok l.decoded := by
  obtain ⟨r1, h1⟩ := readU16_at (D := l.encode ++ pad) (o := 0)
    (by simp only [List.drop_zero, ClassLayout.encode, List.append_assoc, List.cons_append, List.nil_append]; rfl)
  obtain ⟨r2, h2⟩ := readU16_at h1
  obtain ⟨r3, h3⟩ := readU32_at h2
  obtain ⟨r4, h4⟩ := readU32_at h3
  obtain ⟨r5, h5⟩ := readU32_at h4
  obtain ⟨r6, h6⟩ := readNumeric_at hn h5
  obtain ⟨r7, h7⟩ := readCString_at hs h6
  by_cases hq : hasUniqueName l.properties = true
  · obtain ⟨r8, -⟩ := readCString_at (hu hq) (by rw [h7, if_pos hq, List.append_assoc, List.singleton_append])
    simp only [parseClassRecord, runParser, newReader, readClassRecord, bind_apply, r1, r2, r3, r4, r5,
      r6, r7, if_pos hq, r8, pure_apply, ClassLayout.decoded]
  · simp only [parseClassRecord, runParser, newReader, readClassRecord, bind_apply, r1, r2, r3, r4, r5,
      r6, r7, if_neg hq, pure_apply, ClassLayout.decoded]

theorem parseUnionRecord_encode (l : UnionLayout) (hn : l.size.Valid) (hs : (0 : U8) ∉ l.name)
    (hu : hasUniqueName l.properties → (0 : U8) ∉ l.uniqueName) :
    parseUnionRecord (l.encode ++ pad) = .ok l.decoded := by
  obtain ⟨r1, h1⟩ := readU16_at (D := l.encode ++ pad) (o := 0)
    (by simp only [List.drop_zero, UnionLayout.encode, List.append_assoc, List.cons_append, List.nil_append]; rfl)
  obtain ⟨r2, h2⟩ := readU16_at h1
  obtain ⟨r3, h3⟩ := readU32_at h2
  obtain ⟨r4, h4⟩ := readNumeric_at hn h3
  obtain ⟨r5, h5⟩ := readCString_at hs h4
  by_cases hq : hasUniqueName l.properties = true
  · obtain ⟨r6, -⟩ := readCString_at (hu hq) (by rw [h5, if_pos hq, List.append_assoc, List.singleton_append])
    simp only [parseUnionRecord, runParser, newReader, readUnionRecord, bind_apply, r1, r2, r3, r4, r5,
      if_pos hq, r6, pure_apply, UnionLayout.decoded]
  · simp only [parseUnionRecord, runParser, newReader, readUnionRecord, bind_apply, r1, r2, r3, r4, r5,
      if_neg hq, pure_apply, UnionLayout.decoded]

end Reads

end PdbGo.Tpi
