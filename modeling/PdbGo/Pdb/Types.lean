import PdbGo.Tpi.Leaves
import PdbGo.Pdb.TypeTable

/-! The types of pdb.TypeTable: ByIndex with its typeCache, All over the type indices, and ByName
over the name index buildNameIndex fills once. -/
namespace PdbGo.Pdb
open PdbGo.Stream PdbGo.Tpi

/-- TypeKind. -/
inductive TypeKind where
  | typeKindUnknown
  | typeKindPrimitive
  | typeKindPointer
  | typeKindArray
  | typeKindFunction
  | typeKindMemberFunction
  | typeKindClass
  | typeKindStruct
  | typeKindUnion
  | typeKindEnum
  | typeKindBitfield
  | typeKindModifier
  | typeKindArgList
  | typeKindFieldList
  deriving DecidableEq, Repr

/-- The Type values ByIndex returns, one constructor per Go type that implements Type, with its
fields; `Type` itself is a Lean keyword. -/
inductive PdbType where
  | primitiveType (index : TypeIndex) (name : Bytes) (size : U64) (isPointer : Bool)
  | pointerType (index referentType : TypeIndex) (size : U64)
      (isConst isVolatile isReference isRValue : Bool)
  | arrayType (index elementType indexType : TypeIndex) (size : U64) (name : Bytes)
  | functionType (index returnType argumentList : TypeIndex) (callingConv : String)
      (parameterCount : U16)
  | memberFunctionType (index returnType classType thisType argumentList : TypeIndex)
      (callingConv : String) (parameterCount : U16) (thisAdjust : Int)
  | classType (index : TypeIndex) (name uniqueName : Bytes) (size : U64) (memberCount : U16)
      (fieldList derivedFrom vshape : TypeIndex) (isForwardRef : Bool)
  | structType (index : TypeIndex) (name uniqueName : Bytes) (size : U64) (memberCount : U16)
      (fieldList derivedFrom vshape : TypeIndex) (isForwardRef : Bool)
  | unionType (index : TypeIndex) (name uniqueName : Bytes) (size : U64) (memberCount : U16)
      (fieldList : TypeIndex) (isForwardRef : Bool)
  | enumType (index : TypeIndex) (name uniqueName : Bytes) (underlyingType fieldList : TypeIndex)
      (count : U16) (isForwardRef : Bool)
  | bitfieldType (index underlyingType : TypeIndex) (length position : U8)
  | modifierType (index modifiedType : TypeIndex) (isConst isVolatile isUnaligned : Bool)
  | genericType (index : TypeIndex) (kind : TypeKind)
  deriving DecidableEq, Repr

namespace PdbType

def index : PdbType → TypeIndex
  | primitiveType i .. | pointerType i .. | arrayType i .. | functionType i .. => i
  | memberFunctionType i .. | classType i .. | structType i .. | unionType i .. => i
  | enumType i .. | bitfieldType i .. | modifierType i .. | genericType i .. => i

def kind : PdbType → TypeKind
  | primitiveType .. => .typeKindPrimitive
  | pointerType .. => .typeKindPointer
  | arrayType .. => .typeKindArray
  | functionType .. => .typeKindFunction
  | memberFunctionType .. => .typeKindMemberFunction
  | classType .. => .typeKindClass
  | structType .. => .typeKindStruct
  | unionType .. => .typeKindUnion
  | enumType .. => .typeKindEnum
  | bitfieldType .. => .typeKindBitfield
  | modifierType .. => .typeKindModifier
  | genericType _ k => k

/-- Name: the name a primitive, an array, a class, a structure, a union or an enum carries;
`""` for the others. -/
def name : PdbType → Bytes
  | primitiveType _ n .. | arrayType _ _ _ _ n | classType _ n .. | structType _ n .. => n
  | unionType _ n .. | enumType _ n .. => n
  | _ => []

/-- Size; an enum's is 0, since it depends on the underlying type. -/
def size : PdbType → U64
  | primitiveType _ _ s _ | pointerType _ _ s .. | arrayType _ _ _ s _ => s
  | classType _ _ _ s .. | structType _ _ _ s .. | unionType _ _ _ s .. => s
  | _ => 0

end PdbType

/-- The bytes of a Go string literal that is ASCII. -/
def asciiBytes (s : String) : Bytes := s.toList.map fun c => UInt8.ofNat c.toNat

/-- TypeIndex.SimpleKind: bits 0 to 7. -/
def simpleKind (ti : TypeIndex) : Nat := ti.val &&& 0xFF

/-- TypeIndex.SimpleMode: bits 8 to 11. -/
def simpleMode (ti : TypeIndex) : Nat := ti.val >>> 8 &&& 0x0F

/-- The switch of parseSimpleType on the simple kind: the name and the size of a value. -/
def simpleKindNameSize (kind : Nat) : String × Nat :=
  if kind = 0x03 then ("void", 0)
  else if kind = 0x10 then ("signed char", 1)
  else if kind = 0x20 then ("unsigned char", 1)
  else if kind = 0x70 then ("char", 1)
  else if kind = 0x71 then ("wchar_t", 2)
  else if kind = 0x7a then ("char16_t", 2)
  else if kind = 0x7b then ("char32_t", 4)
  else if kind = 0x7c then ("char8_t", 1)
  else if kind = 0x68 then ("int8_t", 1)
  else if kind = 0x69 then ("uint8_t", 1)
  else if kind = 0x11 ∨ kind = 0x72 then ("short", 2)
  else if kind = 0x21 ∨ kind = 0x73 then ("unsigned short", 2)
  else if kind = 0x12 then ("long", 4)
  else if kind = 0x22 then ("unsigned long", 4)
  else if kind = 0x74 then ("int", 4)
  else if kind = 0x75 then ("unsigned int", 4)
  else if kind = 0x13 ∨ kind = 0x76 then ("int64_t", 8)
  else if kind = 0x23 ∨ kind = 0x77 then ("uint64_t", 8)
  else if kind = 0x14 ∨ kind = 0x78 then ("__int128", 16)
  else if kind = 0x24 ∨ kind = 0x79 then ("unsigned __int128", 16)
  else if kind = 0x46 then ("_Float16", 2)
  else if kind = 0x40 then ("float", 4)
  else if kind = 0x41 then ("double", 8)
  else if kind = 0x42 then ("long double", 10)
  else if kind = 0x43 then ("__float128", 16)
  else if kind = 0x30 then ("bool", 1)
  else if kind = 0x31 then ("bool16", 2)
  else if kind = 0x32 then ("bool32", 4)
  else if kind = 0x33 then ("bool64", 8)
  else if kind = 0x08 then ("HRESULT", 4)
  else ("unknown", 0)

/-- parseSimpleType: the kind's name and size; a pointer mode makes the type a pointer, and a
near pointer of 32, 64 or 128 bits takes that size, while a far or huge pointer keeps the size of
the kind. -/
def parseSimpleType (index : TypeIndex) : PdbType :=
  let (name, size) := simpleKindNameSize (simpleKind index)
  let mode := simpleMode index
  let isPointer := mode != 0x00
  let size :=
    if !isPointer then size
    else if mode = 0x01 ∨ mode = 0x04 then 4
    else if mode = 0x06 then 8
    else if mode = 0x07 then 16
    else size
  .primitiveType index (asciiBytes name) (Fin.ofNat size) isPointer

/-- parseTypeRecord: the Type a TPI record makes, by its kind, with the error of the record's
decoder; a kind it does not decode makes a generic type of unknown kind. -/
def parseTypeRecord (index : TypeIndex) (record : TypeRecord) : Except GoError PdbType :=
  if record.kind = lfModifier then do
    let rec ← parseModifierRecord record.data
    pure (.modifierType index rec.modifiedType (ModifierOptions.isConst rec.modifiers)
      (ModifierOptions.isVolatile rec.modifiers) (ModifierOptions.isUnaligned rec.modifiers))
  else if record.kind = lfPointer then do
    let rec ← parsePointerRecord record.data
    let mode := PointerAttributes.mode rec.attributes
    pure (.pointerType index rec.referentType (Fin.ofNat (PointerAttributes.size rec.attributes).toNat)
      (PointerAttributes.isConst rec.attributes) (PointerAttributes.isVolatile rec.attributes)
      (mode == pointerModeLValueReference) (mode == pointerModeRValueReference))
  else if record.kind = lfArray then do
    let rec ← parseArrayRecord record.data
    pure (.arrayType index rec.elementType rec.indexType rec.size rec.name)
  else if record.kind = lfProcedure then do
    let rec ← parseProcedureRecord record.data
    pure (.functionType index rec.returnType rec.argumentList
      (CallingConvention.string rec.callingConv) rec.parameterCount)
  else if record.kind = lfMFunction then do
    let rec ← parseMFunctionRecord record.data
    pure (.memberFunctionType index rec.returnType rec.classType rec.thisType rec.argumentList
      (CallingConvention.string rec.callingConv) rec.parameterCount rec.thisAdjust)
  else if record.kind = lfClass ∨ record.kind = lfClassSt then do
    let rec ← parseClassRecord record.data
    pure (.classType index rec.name rec.uniqueName rec.size rec.memberCount rec.fieldList
      rec.derivedFrom rec.vShape (isForwardRef rec.properties))
  else if record.kind = lfStructure ∨ record.kind = lfStructureSt then do
    let rec ← parseClassRecord record.data
    pure (.structType index rec.name rec.uniqueName rec.size rec.memberCount rec.fieldList
      rec.derivedFrom rec.vShape (isForwardRef rec.properties))
  else if record.kind = lfUnion ∨ record.kind = lfUnionSt then do
    let rec ← parseUnionRecord record.data
    pure (.unionType index rec.name rec.uniqueName rec.size rec.memberCount rec.fieldList
      (isForwardRef rec.properties))
  else if record.kind = lfEnum ∨ record.kind = lfEnumSt then do
    let rec ← parseEnumRecord record.data
    pure (.enumType index rec.name rec.uniqueName rec.underlyingType rec.fieldList rec.count
      (isForwardRef rec.properties))
  else if record.kind = lfBitField then do
    let rec ← parseBitFieldRecord record.data
    pure (.bitfieldType index rec.type rec.length rec.position)
  else pure (.genericType index .typeKindUnknown)

/-- The caches of a TypeTable: typeCache, the sync.Map from a type index to the type ByIndex
returned for it, and byName, the name index, `none` until byNameOnce has run. Each of Go's
slices appended under a name is kept as everything appended, in order, as in memberNameIndex. -/
structure TypeCaches where
  typeCache : TypeIndex → Option PdbType
  byName : Option (List (Bytes × PdbType))

/-- The caches of newTypeTable: both empty. -/
def TypeCaches.empty : TypeCaches := ⟨fun _ => none, none⟩

/-- `typeCache.Store(index, typ)`. -/
def TypeCaches.store (c : TypeCaches) (index : TypeIndex) (typ : PdbType) : TypeCaches :=
  { c with typeCache := fun ti => if ti = index then some typ else c.typeCache ti }

namespace TypeTable
variable (tt : TypeTable)

/-- ByIndex past a Load that missed: the simple type, or the type the TPI record makes, stored
when it is made. -/
def byIndexMiss (c : TypeCaches) (index : TypeIndex) : Except GoError PdbType × TypeCaches :=
  if isSimpleType index then
    let typ := parseSimpleType index
    (.ok typ, c.store index typ)
  else
    match tt.tpiStream.getTypeRecord index with
    | .error e => (.error e, c)
    | .ok none => (.error errTypeNotFound, c)
    | .ok (some record) =>
      match parseTypeRecord index record with
      | .error e => (.error e, c)
      | .ok typ => (.ok typ, c.store index typ)

/-- ByIndex: the type typeCache holds for `index`, if any; else its miss path. -/
def byIndex (c : TypeCaches) (index : TypeIndex) : Except GoError PdbType × TypeCaches :=
  match c.typeCache index with
  | some cached => (.ok cached, c)
  | none => tt.byIndexMiss c index

/-- All's loop over type indices: each type ByIndex returns, those it fails on skipped. -/
def allFrom : List TypeIndex → TypeCaches → List PdbType × TypeCaches
  | [], c => ([], c)
  | ti :: rest, c =>
    let (r, c1) := tt.byIndex c ti
    let (types, c2) := allFrom rest c1
    ((match r with | .ok typ => [typ] | .error _ => []) ++ types, c2)

/-- All: the loop over the stream's type indices, from TypeIndexBegin up to TypeIndexEnd. -/
def all (c : TypeCaches) : List PdbType × TypeCaches :=
  tt.allFrom (typeIndexRange tt.tpiStream.header) c

/-- The entries buildNameIndex files: each type of All with a nonempty name, under that name. -/
def nameEntries (types : List PdbType) : List (Bytes × PdbType) :=
  types.filterMap fun typ => if typ.name ≠ [] then some (typ.name, typ) else none

/-- buildNameIndex, under byNameOnce: on its first run it files the types All returns. -/
def buildNameIndex (c : TypeCaches) : TypeCaches :=
  match c.byName with
  | some _ => c
  | none =>
    let (types, c1) := tt.all c
    { c1 with byName := some (nameEntries types) }

/-- ByName: the types filed under `name`, in the order they were filed. -/
def byName (c : TypeCaches) (name : Bytes) : List PdbType × TypeCaches :=
  let c := tt.buildNameIndex c
  ((c.byName.getD []).filterMap fun e => if e.1 = name then some e.2 else none, c)

end TypeTable

end PdbGo.Pdb
