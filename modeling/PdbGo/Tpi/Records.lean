import PdbGo.Tpi.Stream

/-! The type records of package tpi that the type table reads: class, structure and union
records, and the member sub-records of an LF_FIELDLIST. -/
namespace PdbGo.Tpi
open PdbGo.Stream

def lfClassSt : U16 := 0x1004
def lfStructureSt : U16 := 0x1005
def lfUnionSt : U16 := 0x1006
def lfFieldList : U16 := 0x1203
def lfBClass : U16 := 0x1400
def lfVBClass : U16 := 0x1401
def lfIVBClass : U16 := 0x1402
def lfIndex : U16 := 0x1404
def lfVFuncTab : U16 := 0x1409
def lfFriendCls : U16 := 0x140a
def lfVFuncOff : U16 := 0x140c
def lfEnumerate : U16 := 0x1502
def lfClass : U16 := 0x1504
def lfStructure : U16 := 0x1505
def lfUnion : U16 := 0x1506
def lfFriendFcn : U16 := 0x150c
def lfMember : U16 := 0x150d
def lfStMember : U16 := 0x150e
def lfMethod : U16 := 0x150f
def lfNestType : U16 := 0x1510
def lfOneMethod : U16 := 0x1511

def isForwardRef (cp : U16) : Bool := cp.val &&& 0x0080 != 0

def hasUniqueName (cp : U16) : Bool := cp.val &&& 0x0200 != 0

structure ClassRecord where
  memberCount : U16
  properties : U16
  fieldList : TypeIndex
  derivedFrom : TypeIndex
  vShape : TypeIndex
  size : U64
  name : Bytes
  uniqueName : Bytes
  deriving DecidableEq, Repr

/-- The reads of ParseClassRecord. -/
def readClassRecord : ReadM ClassRecord := do
  let memberCount ← readU16
  let properties ← readU16
  let fieldList ← readU32
  let derivedFrom ← readU32
  let vShape ← readU32
  let size ← readNumeric
  let name ← readCString
  let uniqueName ← (if hasUniqueName properties then readCString else pure [])
  pure ⟨memberCount, properties, fieldList, derivedFrom, vShape, size, name, uniqueName⟩

/-- ParseClassRecord, for LF_CLASS, LF_STRUCTURE and their _ST forms. -/
def parseClassRecord (data : Bytes) : Except GoError ClassRecord := runParser readClassRecord data

structure UnionRecord where
  memberCount : U16
  properties : U16
  fieldList : TypeIndex
  size : U64
  name : Bytes
  uniqueName : Bytes
  deriving DecidableEq, Repr

/-- The reads of ParseUnionRecord. -/
def readUnionRecord : ReadM UnionRecord := do
  let memberCount ← readU16
  let properties ← readU16
  let fieldList ← readU32
  let size ← readNumeric
  let name ← readCString
  let uniqueName ← (if hasUniqueName properties then readCString else pure [])
  pure ⟨memberCount, properties, fieldList, size, name, uniqueName⟩

def parseUnionRecord (data : Bytes) : Except GoError UnionRecord := runParser readUnionRecord data

/-- Go's `MemberAccess(attrs & 0x03)`. -/
def memberAccess (attrs : U16) : U8 := UInt8.ofNat (attrs.val &&& 0x03)

/-! The member sub-records, one structure per Go record type. -/

structure MemberRecord where
  access : U8
  type : TypeIndex
  offset : U64
  name : Bytes
  deriving DecidableEq, Repr

structure StaticMemberRecord where
  access : U8
  type : TypeIndex
  name : Bytes
  deriving DecidableEq, Repr

structure MethodRecord where
  count : U16
  methodList : TypeIndex
  name : Bytes
  deriving DecidableEq, Repr

structure OneMethodRecord where
  attributes : U16
  type : TypeIndex
  vBaseOffset : Int
  name : Bytes
  deriving DecidableEq, Repr

structure NestedTypeRecord where
  type : TypeIndex
  name : Bytes
  deriving DecidableEq, Repr

structure BaseClassRecord where
  access : U8
  type : TypeIndex
  offset : U64
  deriving DecidableEq, Repr

structure VirtualBaseClassRecord where
  access : U8
  baseType : TypeIndex
  vbPtrType : TypeIndex
  vbPtrOffset : U64
  vbTableIndex : U64
  deriving DecidableEq, Repr

structure EnumerateRecord where
  access : U8
  value : U64
  name : Bytes
  deriving DecidableEq, Repr

structure VFuncTabRecord where
  type : TypeIndex
  deriving DecidableEq, Repr

/-- FieldListMember: the Go interface, one constructor per record type implementing it. -/
inductive FieldListMember where
  | member (rec : MemberRecord)
  | staticMember (rec : StaticMemberRecord)
  | method (rec : MethodRecord)
  | oneMethod (rec : OneMethodRecord)
  | nestedType (rec : NestedTypeRecord)
  | baseClass (rec : BaseClassRecord)
  | virtualBaseClass (rec : VirtualBaseClassRecord)
  | enumerate (rec : EnumerateRecord)
  | vFuncTab (rec : VFuncTabRecord)
  deriving DecidableEq, Repr

def parseMemberField : ReadM MemberRecord := do
  let attrs ← readU16
  let typ ← readU32
  let offset ← readNumeric
  let name ← readCString
  pure ⟨memberAccess attrs, typ, offset, name⟩

def parseStaticMemberField : ReadM StaticMemberRecord := do
  let attrs ← readU16
  let typ ← readU32
  let name ← readCString
  pure ⟨memberAccess attrs, typ, name⟩

def parseMethodField : ReadM MethodRecord := do
  let count ← readU16
  let methodList ← readU32
  let name ← readCString
  pure ⟨count, methodList, name⟩

def methodKindIntroVirtual : Nat := 0x04
def methodKindPureIntro : Nat := 0x06

/-- parseOneMethodField's test on the method kind `mprop := (attrs >> 2) & 0x07`: an
introducing virtual method, pure or not, carries a VBaseOffset. -/
def hasVBaseOffset (attrs : U16) : Bool :=
  let mprop := attrs.val >>> 2 &&& 0x07
  mprop == methodKindIntroVirtual || mprop == methodKindPureIntro

def parseOneMethodField : ReadM OneMethodRecord := do
  let attrs ← readU16
  let typ ← readU32
  let vBaseOffset ← (if hasVBaseOffset attrs then readI32 else pure 0)
  let name ← readCString
  pure ⟨attrs, typ, vBaseOffset, name⟩

def parseNestedTypeField : ReadM NestedTypeRecord := do
  let _ ← readU16
  let typ ← readU32
  let name ← readCString
  pure ⟨typ, name⟩

def parseBaseClassField : ReadM BaseClassRecord := do
  let attrs ← readU16
  let typ ← readU32
  let offset ← readNumeric
  pure ⟨memberAccess attrs, typ, offset⟩

def parseVirtualBaseClassField : ReadM VirtualBaseClassRecord := do
  let attrs ← readU16
  let baseType ← readU32
  let vbPtrType ← readU32
  let vbPtrOffset ← readNumeric
  let vbTableIndex ← readNumeric
  pure ⟨memberAccess attrs, baseType, vbPtrType, vbPtrOffset, vbTableIndex⟩

def parseEnumerateField : ReadM EnumerateRecord := do
  let attrs ← readU16
  let value ← readNumeric
  let name ← readCString
  pure ⟨memberAccess attrs, value, name⟩

def parseVFuncTabField : ReadM VFuncTabRecord := do
  let _ ← readU16
  let typ ← readU32
  pure ⟨typ⟩

/-- parseFieldListMember: `none` is Go's `nil, nil`, returned for LF_INDEX, whose result of
ReadU32 is dropped, and for every other kind without reading anything. -/
def parseFieldListMember (kind : U16) : ReadM (Option FieldListMember) :=
  if kind = lfMember then (some ∘ .member) <$> parseMemberField
  else if kind = lfStMember then (some ∘ .staticMember) <$> parseStaticMemberField
  else if kind = lfMethod then (some ∘ .method) <$> parseMethodField
  else if kind = lfOneMethod then (some ∘ .oneMethod) <$> parseOneMethodField
  else if kind = lfNestType then (some ∘ .nestedType) <$> parseNestedTypeField
  else if kind = lfBClass then (some ∘ .baseClass) <$> parseBaseClassField
  else if kind = lfVBClass ∨ kind = lfIVBClass then
    (some ∘ .virtualBaseClass) <$> parseVirtualBaseClassField
  else if kind = lfEnumerate then (some ∘ .enumerate) <$> parseEnumerateField
  else if kind = lfVFuncTab then (some ∘ .vFuncTab) <$> parseVFuncTabField
  else if kind = lfIndex then fun r => match readU32 r with
    | .ok _ r' => .ok none r'
    | .error _ r' => .ok none r'
  else pure none

/-! The cases of parseFieldListMember's switch. -/

theorem parseFieldListMember_member :
    parseFieldListMember lfMember = (some ∘ .member) <$> parseMemberField := rfl

theorem parseFieldListMember_staticMember :
    parseFieldListMember lfStMember = (some ∘ .staticMember) <$> parseStaticMemberField := rfl

theorem parseFieldListMember_method :
    parseFieldListMember lfMethod = (some ∘ .method) <$> parseMethodField := rfl

theorem parseFieldListMember_oneMethod :
    parseFieldListMember lfOneMethod = (some ∘ .oneMethod) <$> parseOneMethodField := rfl

theorem parseFieldListMember_nestedType :
    parseFieldListMember lfNestType = (some ∘ .nestedType) <$> parseNestedTypeField := rfl

theorem parseFieldListMember_baseClass :
    parseFieldListMember lfBClass = (some ∘ .baseClass) <$> parseBaseClassField := rfl

theorem parseFieldListMember_virtualBaseClass (indirect : Bool) :
    parseFieldListMember (if indirect then lfIVBClass else lfVBClass) =
      (some ∘ .virtualBaseClass) <$> parseVirtualBaseClassField := by
  cases indirect <;> rfl

theorem parseFieldListMember_enumerate :
    parseFieldListMember lfEnumerate = (some ∘ .enumerate) <$> parseEnumerateField := rfl

theorem parseFieldListMember_vFuncTab :
    parseFieldListMember lfVFuncTab = (some ∘ .vFuncTab) <$> parseVFuncTabField := rfl

theorem parseFieldListMember_index {r : Reader} (h : r.offset + 4 ≤ r.data.length) :
    parseFieldListMember lfIndex r = .ok none { r with offset := r.offset + 4 } := by
  have hk : parseFieldListMember lfIndex r = match readU32 r with
      | .ok _ r' => .ok none r'
      | .error _ r' => .ok none r' := rfl
  rw [hk, readU32_of_le r h]

/-- The kinds parseFieldListMember's switch names. -/
def fieldListMemberKinds : List U16 :=
  [lfMember, lfStMember, lfMethod, lfOneMethod, lfNestType, lfBClass, lfVBClass, lfIVBClass,
    lfEnumerate, lfVFuncTab, lfIndex]

theorem parseFieldListMember_other {kind : U16} (hk : kind ∉ fieldListMemberKinds) :
    parseFieldListMember kind = pure none := by
  simp only [fieldListMemberKinds, List.mem_cons, List.not_mem_nil, or_false, not_or] at hk
  obtain ⟨h1, h2, h3, h4, h5, h6, h7, h8, h9, h10, h11⟩ := hk
  simp only [parseFieldListMember, if_neg h1, if_neg h2, if_neg h3, if_neg h4, if_neg h5, if_neg h6,
    if_neg (not_or.mpr ⟨h7, h8⟩), if_neg h9, if_neg h10, if_neg h11]

section NoRewind

private theorem parseMemberField_noRewind : NoRewind parseMemberField :=
  readU16_atomic.noRewind.bind fun _ => readU32_atomic.noRewind.bind fun _ =>
    readNumeric_noRewind.bind fun _ => readCString_noRewind.bind fun _ => .pure _

private theorem parseStaticMemberField_noRewind : NoRewind parseStaticMemberField :=
  readU16_atomic.noRewind.bind fun _ => readU32_atomic.noRewind.bind fun _ =>
    readCString_noRewind.bind fun _ => .pure _

private theorem parseMethodField_noRewind : NoRewind parseMethodField :=
  readU16_atomic.noRewind.bind fun _ => readU32_atomic.noRewind.bind fun _ =>
    readCString_noRewind.bind fun _ => .pure _

private theorem parseOneMethodField_noRewind : NoRewind parseOneMethodField :=
  readU16_atomic.noRewind.bind fun _ => readU32_atomic.noRewind.bind fun _ =>
    (NoRewind.ite readI32_atomic.noRewind (.pure _)).bind fun _ =>
      readCString_noRewind.bind fun _ => .pure _

private theorem parseNestedTypeField_noRewind : NoRewind parseNestedTypeField :=
  readU16_atomic.noRewind.bind fun _ => readU32_atomic.noRewind.bind fun _ =>
    readCString_noRewind.bind fun _ => .pure _

private theorem parseBaseClassField_noRewind : NoRewind parseBaseClassField :=
  readU16_atomic.noRewind.bind fun _ => readU32_atomic.noRewind.bind fun _ =>
    readNumeric_noRewind.bind fun _ => .pure _

private theorem parseVirtualBaseClassField_noRewind : NoRewind parseVirtualBaseClassField :=
  readU16_atomic.noRewind.bind fun _ => readU32_atomic.noRewind.bind fun _ =>
    readU32_atomic.noRewind.bind fun _ => readNumeric_noRewind.bind fun _ =>
      readNumeric_noRewind.bind fun _ => .pure _

private theorem parseEnumerateField_noRewind : NoRewind parseEnumerateField :=
  readU16_atomic.noRewind.bind fun _ => readNumeric_noRewind.bind fun _ =>
    readCString_noRewind.bind fun _ => .pure _

private theorem parseVFuncTabField_noRewind : NoRewind parseVFuncTabField :=
  readU16_atomic.noRewind.bind fun _ => readU32_atomic.noRewind.bind fun _ => .pure _

private theorem parseFieldListMember_noRewind (kind : U16) : NoRewind (parseFieldListMember kind) := by
  unfold parseFieldListMember
  refine .ite (parseMemberField_noRewind.map _) <| .ite (parseStaticMemberField_noRewind.map _) <|
    .ite (parseMethodField_noRewind.map _) <| .ite (parseOneMethodField_noRewind.map _) <|
    .ite (parseNestedTypeField_noRewind.map _) <| .ite (parseBaseClassField_noRewind.map _) <|
    .ite (parseVirtualBaseClassField_noRewind.map _) <| .ite (parseEnumerateField_noRewind.map _) <|
    .ite (parseVFuncTabField_noRewind.map _) <| .ite (fun r => ?_) (.pure _)
  have h := readU32_atomic.noRewind r
  revert h
  cases readU32 r <;> exact id

end NoRewind

/-- The padding loop of ParseFieldListRecord: bytes of value `0xF0` or more are skipped. The
ReadU8 that consumes one cannot fail, as PeekU8 has just read it. -/
def skipPadding (r : Reader) : Reader :=
  if r.remaining > 0 then
    match peekU8 r with
    | .error _ _ => r
    | .ok b _ =>
      if b < 0xF0 then r
      else match _h : readU8 r with
        | .ok _ r' => skipPadding r'
        | .error _ _ => r
  else r
termination_by r.data.length - r.offset
decreasing_by
  obtain ⟨hlt, -, rfl⟩ := readU8_ok r _h
  simp only
  omega

private theorem skipPadding_forward (r : Reader) :
    (skipPadding r).data = r.data ∧ r.offset ≤ (skipPadding r).offset := by
  induction r using skipPadding.induct with
  | case3 r hr b _ hp hb u r' h ih =>
    obtain ⟨-, -, rfl⟩ := readU8_ok r h
    rw [skipPadding, if_pos hr, hp]
    dsimp only
    rw [if_neg hb]
    split
    next h' => rw [h] at h'; cases h'; exact ⟨ih.1, by simp only at ih; omega⟩
    next h' => rw [h] at h'; cases h'
  | case4 r hr _ _ _ _ _ _ h =>
    rw [readU8, if_neg (by rw [remaining_pos] at hr; omega)] at h
    cases h
  | _ => rw [skipPadding]; simp_all

structure FieldListRecord where
  members : List FieldListMember
  deriving DecidableEq, Repr

/-- The loop of ParseFieldListRecord: skip padding; stop with fewer than two bytes left;
otherwise read a kind and parse that member, going on from where the member's reads left the
reader even when they failed. -/
def parseFieldListLoop (r : Reader) (members : List FieldListMember) : List FieldListMember :=
  if r.remaining > 0 then
    let r1 := skipPadding r
    if r1.remaining < 2 then members
    else match _h : readU16 r1 with
      | .error _ _ => members
      | .ok kind r2 =>
        match _hm : parseFieldListMember kind r2 with
        | .error _ r3 => parseFieldListLoop r3 members
        | .ok member r3 => parseFieldListLoop r3 (members ++ member.toList)
  else members
termination_by r.data.length - r.offset
decreasing_by
  all_goals
    obtain ⟨hlen, -, rfl⟩ := readU16_ok _ _h
    have hp : r1.data = r.data ∧ r.offset ≤ r1.offset := skipPadding_forward r
    have hm' := parseFieldListMember_noRewind kind { r1 with offset := r1.offset + 2 }
    rw [_hm, resultReader] at hm'
    simp only at hm'
    rw [hm'.1, hp.1]
    rw [hp.1] at hlen
    have := hp.2
    omega

/-- ParseFieldListRecord; it never returns an error. -/
def parseFieldListRecord (data : Bytes) : Except GoError FieldListRecord :=
  .ok ⟨parseFieldListLoop (newReader data) []⟩

section Loop
variable {r r1 r2 r3 : Reader} {kind : U16} {ms : List FieldListMember}

private theorem peekU8_of_lt (h : r.offset < r.data.length) :
    peekU8 r = .ok (r.data.getD r.offset 0) r := by
  rw [peekU8, if_neg (Nat.not_le.mpr h)]

theorem skipPadding_stop (h : r.offset < r.data.length) (hb : r.data.getD r.offset 0 < 0xF0) :
    skipPadding r = r := by
  rw [skipPadding, if_pos ((remaining_pos r).mpr h), peekU8_of_lt h]
  exact if_pos hb

theorem skipPadding_pad (h : r.offset < r.data.length) (hb : ¬ r.data.getD r.offset 0 < 0xF0) :
    skipPadding r = skipPadding { r with offset := r.offset + 1 } := by
  rw [skipPadding, if_pos ((remaining_pos r).mpr h), peekU8_of_lt h]
  dsimp only
  rw [if_neg hb]
  split
  next h' => rw [readU8, if_neg (Nat.not_le.mpr h)] at h'; cases h'; rfl
  next h' => rw [readU8, if_neg (Nat.not_le.mpr h)] at h'; cases h'

theorem parseFieldListLoop_done (h : ¬ r.remaining > 0) : parseFieldListLoop r ms = ms := by
  rw [parseFieldListLoop, if_neg h]

theorem parseFieldListLoop_short (h : r.remaining > 0) (h1 : (skipPadding r).remaining < 2) :
    parseFieldListLoop r ms = ms := by
  rw [parseFieldListLoop, if_pos h]
  exact if_pos h1

private theorem parseFieldListLoop_turn (hs : skipPadding r = r1) (hk : readU16 r1 = .ok kind r2) :
    parseFieldListLoop r ms = match parseFieldListMember kind r2 with
      | .ok member r3 => parseFieldListLoop r3 (ms ++ member.toList)
      | .error _ r3 => parseFieldListLoop r3 ms := by
  obtain ⟨hlen, -, rfl⟩ := readU16_ok _ hk
  have hp := skipPadding_forward r
  rw [hs] at hp
  rw [parseFieldListLoop, if_pos ((remaining_pos r).mpr (by rw [← hp.1]; omega))]
  dsimp only
  rw [hs, if_neg (by rw [Reader.remaining]; split <;> omega)]
  split
  next h' => rw [hk] at h'; cases h'
  next h' => rw [hk] at h'; cases h'; split <;> next h'' => rw [h'']

theorem parseFieldListLoop_ok {member : Option FieldListMember} (hs : skipPadding r = r1)
    (hk : readU16 r1 = .ok kind r2) (hm : parseFieldListMember kind r2 = .ok member r3) :
    parseFieldListLoop r ms = parseFieldListLoop r3 (ms ++ member.toList) := by
  rw [parseFieldListLoop_turn hs hk, hm]

end Loop

end PdbGo.Tpi
