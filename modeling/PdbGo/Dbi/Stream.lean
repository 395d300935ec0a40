import PdbGo.Core.Reader

/-! The DBI stream of package dbi: its 64-byte header, then its substreams in order, each as long
as the header says. -/
namespace PdbGo.Dbi
open PdbGo.Stream

def dbiHeaderSize : Nat := 64

def errInvalidDBIHeader : GoError := .new "dbi: invalid DBI header"
def errTruncatedStream : GoError := .new "dbi: truncated stream"

def sectionContribVer60 : U32 := 0xF13151F5
def sectionContribVer2 : U32 := 0xF12EBA2D

structure Header where
  versionSignature : Int
  versionHeader : U32
  age : U32
  globalStreamIndex : U16
  buildNumber : U16
  publicStreamIndex : U16
  pdbDllVersion : U16
  symRecordStreamIndex : U16
  pdbDllRbld : U16
  modInfoSize : U32
  sectionContributionSize : U32
  sectionMapSize : U32
  sourceInfoSize : U32
  typeServerMapSize : U32
  mfcTypeServerIndex : U32
  optionalDbgHeaderSize : U32
  ecSubstreamSize : U32
  flags : U16
  machine : U16
  padding : U32
  deriving DecidableEq, Repr

/-- SectionContribution; Go's field `Section` is `sectionIndex` here. -/
structure SectionContribution where
  sectionIndex : U16
  padding1 : U16
  offset : Int
  size : Int
  characteristics : U32
  moduleIndex : U16
  padding2 : U16
  dataCrc : U32
  relocCrc : U32
  deriving DecidableEq, Repr

/-- ModuleInfo; Go's field `Section` is `sectionContribution` here, and the two names are the
bytes of their Go strings. -/
structure ModuleInfo where
  opened : U32
  sectionContribution : SectionContribution
  flags : U16
  moduleSymStreamIndex : U16
  symByteSize : U32
  c11ByteSize : U32
  c13ByteSize : U32
  sourceFileCount : U16
  sourceFileNameIndex : U32
  pdbFilePathNameIndex : U32
  moduleName : Bytes
  objFileName : Bytes
  deriving DecidableEq, Repr

structure SectionMapEntry where
  flags : U16
  ovl : U16
  group : U16
  frame : U16
  sectionName : U16
  className : U16
  offset : U32
  sectionLength : U32
  deriving DecidableEq, Repr

structure SectionMap where
  count : U16
  logCount : U16
  entries : List SectionMapEntry
  deriving DecidableEq, Repr

structure OptionalDbgHeader where
  fpoStreamIndex : U16
  exceptionStreamIndex : U16
  fixupStreamIndex : U16
  omapToSrcStreamIndex : U16
  omapFromSrcStreamIndex : U16
  sectionHdrStreamIndex : U16
  tokenRidMapStreamIndex : U16
  xDataStreamIndex : U16
  pDataStreamIndex : U16
  newFPOStreamIndex : U16
  sectionHdrOrigStreamIndex : U16
  deriving DecidableEq, Repr

/-- Stream. Its `SourceFiles` is never filled by ParseStream and is left out. -/
structure Stream where
  header : Header
  modules : List ModuleInfo
  sectionContributions : List SectionContribution
  sectionMap : Option SectionMap
  optionalDbgStreams : Option OptionalDbgHeader
  deriving DecidableEq, Repr

/-- parseHeader: the fields in order, the signature checked as soon as it is read. -/
def parseHeader : ReadM Header := do
  let versionSignature ← readI32
  if versionSignature ≠ -1 then throw errInvalidDBIHeader
  let versionHeader ← readU32
  let age ← readU32
  let globalStreamIndex ← readU16
  let buildNumber ← readU16
  let publicStreamIndex ← readU16
  let pdbDllVersion ← readU16
  let symRecordStreamIndex ← readU16
  let pdbDllRbld ← readU16
  let modInfoSize ← readU32
  let sectionContributionSize ← readU32
  let sectionMapSize ← readU32
  let sourceInfoSize ← readU32
  let typeServerMapSize ← readU32
  let mfcTypeServerIndex ← readU32
  let optionalDbgHeaderSize ← readU32
  let ecSubstreamSize ← readU32
  let flags ← readU16
  let machine ← readU16
  let padding ← readU32
  pure ⟨versionSignature, versionHeader, age, globalStreamIndex, buildNumber, publicStreamIndex,
    pdbDllVersion, symRecordStreamIndex, pdbDllRbld, modInfoSize, sectionContributionSize,
    sectionMapSize, sourceInfoSize, typeServerMapSize, mfcTypeServerIndex, optionalDbgHeaderSize,
    ecSubstreamSize, flags, machine, padding⟩

/-- The fields of a section contribution after its `Section` word, read the same way by
parseModuleInfo and parseSectionContributions; the two checksums only when `hasExtraCrc`. -/
def readSectionContribution (hasExtraCrc : Bool) (sectionIndex : U16) :
    ReadM SectionContribution := do
  let padding1 ← readU16
  let offset ← readI32
  let size ← readI32
  let characteristics ← readU32
  let moduleIndex ← readU16
  let padding2 ← readU16
  if hasExtraCrc then
    let dataCrc ← readU32
    let relocCrc ← readU32
    pure ⟨sectionIndex, padding1, offset, size, characteristics, moduleIndex, padding2, dataCrc,
      relocCrc⟩
  else
    pure ⟨sectionIndex, padding1, offset, size, characteristics, moduleIndex, padding2, 0, 0⟩

/-- One record of the module-info substream after its `Opened` word: the rest of the 64-byte
fixed part, the module and object file names, and the padding to a 4-byte boundary. -/
def readModuleInfo (opened : U32) : ReadM ModuleInfo := do
  let sectionIndex ← readU16
  let sectionContribution ← readSectionContribution true sectionIndex
  let flags ← readU16
  let moduleSymStreamIndex ← readU16
  let symByteSize ← readU32
  let c11ByteSize ← readU32
  let c13ByteSize ← readU32
  let sourceFileCount ← readU16
  let _ ← readU16
  let _ ← readU32
  let sourceFileNameIndex ← readU32
  let pdbFilePathNameIndex ← readU32
  let moduleName ← readCString
  let objFileName ← readCString
  align 4
  pure ⟨opened, sectionContribution, flags, moduleSymStreamIndex, symByteSize, c11ByteSize,
    c13ByteSize, sourceFileCount, sourceFileNameIndex, pdbFilePathNameIndex, moduleName,
    objFileName⟩

private theorem readSectionContribution_forward (hasExtraCrc : Bool) (sectionIndex : U16) :
    Forward (readSectionContribution hasExtraCrc sectionIndex) :=
  .bind readU16_atomic.forward fun _ => .bind readI32_atomic.forward fun _ =>
  .bind readI32_atomic.forward fun _ => .bind readU32_atomic.forward fun _ =>
  .bind readU16_atomic.forward fun _ => .bind readU16_atomic.forward fun _ =>
  .ite (.bind readU32_atomic.forward fun _ => .bind readU32_atomic.forward fun _ => .pure _)
    (.pure _)

private theorem readModuleInfo_forward (opened : U32) : Forward (readModuleInfo opened) :=
  .bind readU16_atomic.forward fun _ => .bind (readSectionContribution_forward _ _) fun _ =>
  .bind readU16_atomic.forward fun _ => .bind readU16_atomic.forward fun _ =>
  .bind readU32_atomic.forward fun _ => .bind readU32_atomic.forward fun _ =>
  .bind readU32_atomic.forward fun _ => .bind readU16_atomic.forward fun _ =>
  .bind readU16_atomic.forward fun _ => .bind readU32_atomic.forward fun _ =>
  .bind readU32_atomic.forward fun _ => .bind readU32_atomic.forward fun _ =>
  .bind readCString_forward fun _ => .bind readCString_forward fun _ =>
  .bind (align_forward 4) fun _ => .pure _

/-- The loop of parseModuleInfo: while bytes remain, a record; a failed read of its first word
ends the loop, a later failed read is an error. -/
def parseModuleInfoLoop (modules : List ModuleInfo) (r : Reader) :
    Except GoError (List ModuleInfo) :=
  if r.remaining > 0 then
    match _h : readU32 r with
    | .error _ _ => .ok modules
    | .ok opened r' =>
      match _hm : readModuleInfo opened r' with
      | .error e _ => .error e
      | .ok mod r'' => parseModuleInfoLoop (modules ++ [mod]) r''
  else .ok modules
termination_by r.data.length - r.offset
decreasing_by
  obtain ⟨hlen, -, rfl⟩ := readU32_ok r _h
  obtain ⟨hd, ho⟩ := readModuleInfo_forward opened _ _ _ _hm
  simp only [hd]
  dsimp only at ho
  omega

def parseModuleInfo (data : Bytes) : Except GoError (List ModuleInfo) :=
  parseModuleInfoLoop [] (newReader data)

/-- The loop of parseSectionContributions: while `entrySize` bytes remain, an entry; a failed
read of its first word ends the loop, a later failed read is an error. -/
def parseSectionContributionsLoop (hasExtraCrc : Bool) (entrySize : Nat)
    (contributions : List SectionContribution) (r : Reader) :
    Except GoError (List SectionContribution) :=
  if r.remaining ≥ entrySize then
    match _h : readU16 r with
    | .error _ _ => .ok contributions
    | .ok sectionIndex r' =>
      match _hs : readSectionContribution hasExtraCrc sectionIndex r' with
      | .error e _ => .error e
      | .ok sc r'' => parseSectionContributionsLoop hasExtraCrc entrySize (contributions ++ [sc]) r''
  else .ok contributions
termination_by r.data.length - r.offset
decreasing_by
  obtain ⟨hlen, -, rfl⟩ := readU16_ok r _h
  obtain ⟨hd, ho⟩ := readSectionContribution_forward hasExtraCrc sectionIndex _ _ _ _hs
  simp only [hd]
  dsimp only at ho
  omega

/-- parseSectionContributions's `hasExtraCrc`: versions 6.0 and 2 carry the two checksums. -/
def hasExtraCrc (version : U32) : Bool :=
  version == sectionContribVer60 || version == sectionContribVer2

/-- parseSectionContributions: a version word, then entries, while 28 bytes remain, or 36 for the
versions with the two checksums. -/
def parseSectionContributions (data : Bytes) : Except GoError (List SectionContribution) :=
  if data.length = 0 then .ok [] else
  match readU32 (newReader data) with
  | .error e _ => .error e
  | .ok version r =>
    let entrySize := if hasExtraCrc version then 28 + 8 else 28
    parseSectionContributionsLoop (hasExtraCrc version) entrySize [] r

def readSectionMapEntry : ReadM SectionMapEntry := do
  let flags ← readU16
  let ovl ← readU16
  let group ← readU16
  let frame ← readU16
  let sectionName ← readU16
  let className ← readU16
  let offset ← readU32
  let sectionLength ← readU32
  pure ⟨flags, ovl, group, frame, sectionName, className, offset, sectionLength⟩

/-- The loop of parseSectionMap: at most `count` entries, while 20 bytes remain. -/
def parseSectionMapLoop : Nat → List SectionMapEntry → ReadM (List SectionMapEntry)
  | 0, entries => pure entries
  | k + 1, entries => fun r =>
    if r.remaining ≥ 20 then
      match readSectionMapEntry r with
      | .error e r' => .error e r'
      | .ok entry r' => parseSectionMapLoop k (entries ++ [entry]) r'
    else .ok entries r

def parseSectionMap (data : Bytes) : Except GoError SectionMap :=
  runParser (do
    let count ← readU16
    let logCount ← readU16
    let entries ← parseSectionMapLoop count.val []
    pure ⟨count, logCount, entries⟩) data

/-- The loop of parseOptionalDbgHeader: up to `k` words, while two bytes remain. -/
def readStreamIndices : Nat → Reader → List U16
  | 0, _ => []
  | k + 1, r =>
    if r.remaining < 2 then [] else
    match readU16 r with
    | .error _ _ => []
    | .ok v r' => v :: readStreamIndices k r'

/-- parseOptionalDbgHeader: the eleven stream indices it finds room for; the rest stay 0. -/
def parseOptionalDbgHeader (data : Bytes) : OptionalDbgHeader :=
  let vs := readStreamIndices 11 (newReader data)
  ⟨vs.getD 0 0, vs.getD 1 0, vs.getD 2 0, vs.getD 3 0, vs.getD 4 0, vs.getD 5 0, vs.getD 6 0,
    vs.getD 7 0, vs.getD 8 0, vs.getD 9 0, vs.getD 10 0⟩

/-- One substream step of ParseStream: when `size > 0`, `data[offset:offset+size]` must lie in
the data and is parsed by `parse`, whose error is wrapped with `context`; the offset then moves
past it. A substream of size 0 gives `none` and leaves the offset. -/
def parseSubstream {α : Type} (data : Bytes) (offset size : Nat)
    (parse : Bytes → Except GoError α) (context : String) : Except GoError (Option α × Nat) :=
  if size > 0 then
    if offset + size > data.length then .error errTruncatedStream
    else match parse ((data.drop offset).take size) with
      | .error e => .error (.wrapf context e [])
      | .ok v => .ok (some v, offset + size)
  else .ok (none, offset)

/-- ParseStream. The source-info substream is only bounds-checked, the type-server-map and EC
substreams are skipped unchecked, and the offset is not moved past the optional debug header. -/
def parseStream (data : Bytes) : Except GoError Stream :=
  if data.length < dbiHeaderSize then .error errInvalidDBIHeader else
  match runParser parseHeader data with
  | .error e => .error e
  | .ok header => do
    let (modules, offset) ← parseSubstream data dbiHeaderSize header.modInfoSize.val
      parseModuleInfo "dbi: failed to parse module info: %w"
    let (contributions, offset) ← parseSubstream data offset header.sectionContributionSize.val
      parseSectionContributions "dbi: failed to parse section contributions: %w"
    let (sectionMap, offset) ← parseSubstream data offset header.sectionMapSize.val
      parseSectionMap "dbi: failed to parse section map: %w"
    let (_, offset) ← parseSubstream data offset header.sourceInfoSize.val
      (fun _ => .ok ()) ""
    let offset := offset + header.typeServerMapSize.val + header.ecSubstreamSize.val
    let (optionalDbgStreams, _) ← parseSubstream data offset header.optionalDbgHeaderSize.val
      (fun d => .ok (parseOptionalDbgHeader d)) "dbi: failed to parse optional debug header: %w"
    pure ⟨header, modules.getD [], contributions.getD [], sectionMap, optionalDbgStreams⟩

section Lemmas

private theorem except_bind_ok {ε α β : Type} {x : Except ε α} {f : α → Except ε β} {b : β}
    (h : x >>= f = .ok b) : ∃ a, x = .ok a ∧ f a = .ok b := by
  cases x with
  | error e => cases h
  | ok a => exact ⟨a, rfl, h⟩

theorem except_ok_bind {ε α β : Type} (a : α) (f : α → Except ε β) :
    (Except.ok a >>= f) = f a := rfl

theorem parseSubstream_zero {α : Type} (data : Bytes) (offset : Nat)
    (parse : Bytes → Except GoError α) (context : String) :
    parseSubstream data offset 0 parse context = .ok (none, offset) := rfl

theorem parseSubstream_of_ok {α : Type} {data : Bytes} {offset size : Nat}
    {parse : Bytes → Except GoError α} {context : String} {v : α} (h0 : 0 < size)
    (hle : offset + size ≤ data.length) (hp : parse ((data.drop offset).take size) = .ok v) :
    parseSubstream data offset size parse context = .ok (some v, offset + size) := by
  unfold parseSubstream
  rw [if_pos h0, if_neg (by omega), hp]

theorem parseStream_ok_modules {data : Bytes} {s : Stream} (h : parseStream data = .ok s) :
    ∃ header mo off, runParser parseHeader data = .ok header ∧
      parseSubstream data dbiHeaderSize header.modInfoSize.val parseModuleInfo
        "dbi: failed to parse module info: %w" = .ok (mo, off) ∧ s.modules = mo.getD [] := by
  unfold parseStream at h
  split at h
  · cases h
  split at h
  · cases h
  next header hh =>
    obtain ⟨⟨mo, off⟩, hm, h⟩ := except_bind_ok h
    refine ⟨header, mo, off, hh, hm, ?_⟩
    obtain ⟨_, -, h⟩ := except_bind_ok h
    obtain ⟨_, -, h⟩ := except_bind_ok h
    obtain ⟨_, -, h⟩ := except_bind_ok h
    obtain ⟨_, -, h⟩ := except_bind_ok h
    cases h
    rfl

end Lemmas

end PdbGo.Dbi
