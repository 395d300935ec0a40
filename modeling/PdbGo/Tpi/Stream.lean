import PdbGo.Core.Reader

/-! The TPI and IPI streams: the header, the record area, the offset index ParseStream builds and
the records GetTypeRecord reads through it. -/
namespace PdbGo.Tpi
open PdbGo.Stream

def tpiVersionV70 : U32 := 19990903
def tpiVersionV80 : U32 := 20040203

def tpiHeaderSize : Nat := 56

def errInvalidTPIHeader : GoError := .new "tpi: invalid TPI header"
def errUnsupportedVersion : GoError := .new "tpi: unsupported TPI version"
def errTypeIndexOutOfRange : GoError := .new "tpi: type index out of range"
def errInvalidTypeRecord : GoError := .new "tpi: invalid type record"

abbrev TypeIndex := U32

def firstUserTypeIndex : TypeIndex := 0x1000

/-- TypeIndex.IsSimpleType: the indices below the first user type name built-in types. -/
def isSimpleType (ti : TypeIndex) : Bool := ti < firstUserTypeIndex

structure Header where
  version : U32
  headerSize : U32
  typeIndexBegin : TypeIndex
  typeIndexEnd : TypeIndex
  typeRecordBytes : U32
  hashStreamIndex : U16
  hashAuxStreamIndex : U16
  hashKeySize : U32
  numHashBuckets : U32
  hashValueBufferOffset : Int
  hashValueBufferLength : U32
  indexOffsetBufferOffset : Int
  indexOffsetBufferLength : U32
  hashAdjBufferOffset : Int
  hashAdjBufferLength : U32
  deriving DecidableEq, Repr

/-- parseHeader: the fields in order, the version checked as soon as it is read. -/
def parseHeader : ReadM Header := do
  let version ← readU32
  if version ≠ tpiVersionV80 ∧ version ≠ tpiVersionV70 then
    throw (.wrapf "%w: %d" errUnsupportedVersion [version.val])
  let headerSize ← readU32
  let typeIndexBegin ← readU32
  let typeIndexEnd ← readU32
  let typeRecordBytes ← readU32
  let hashStreamIndex ← readU16
  let hashAuxStreamIndex ← readU16
  let hashKeySize ← readU32
  let numHashBuckets ← readU32
  let hashValueOffset ← readI32
  let hashValueBufferLength ← readU32
  let indexOffsetOffset ← readI32
  let indexOffsetBufferLength ← readU32
  let hashAdjOffset ← readI32
  let hashAdjBufferLength ← readU32
  pure ⟨version, headerSize, typeIndexBegin, typeIndexEnd, typeRecordBytes, hashStreamIndex,
    hashAuxStreamIndex, hashKeySize, numHashBuckets, hashValueOffset, hashValueBufferLength,
    indexOffsetOffset, indexOffsetBufferLength, hashAdjOffset, hashAdjBufferLength⟩

/-- Stream.recordOffsets, a Go map from type index to offset in the record area. -/
abbrev OffsetMap := TypeIndex → Option U32

/-- The loop of buildOffsetIndex: while bytes remain and the type index is below the end, file
the offset under the index, read the record's length and skip that many bytes. -/
def buildOffsetIndexLoop (typeIndexEnd : TypeIndex) (offsets : OffsetMap) (typeIndex : TypeIndex)
    (r : Reader) : Except GoError OffsetMap :=
  if r.remaining > 0 ∧ typeIndex < typeIndexEnd then
    let offset := u32 r.offset
    let offsets := fun ti => if ti = typeIndex then some offset else offsets ti
    match _h : readU16 r with
    | .error e _ => .error e
    | .ok recordLen r' =>
      match hs : skip recordLen.val r' with
      | .error e _ => .error e
      | .ok () r'' => buildOffsetIndexLoop typeIndexEnd offsets (typeIndex + 1) r''
  else .ok offsets
termination_by r.data.length - r.offset
decreasing_by
  obtain ⟨-, -, rfl⟩ := readU16_ok r _h
  unfold skip at hs
  split at hs
  · cases hs
  · cases hs
    simp only [Reader.remaining] at *
    split at * <;> omega

/-- buildOffsetIndex over the record area. -/
def buildOffsetIndex (header : Header) (rawRecords : Bytes) : Except GoError OffsetMap :=
  buildOffsetIndexLoop header.typeIndexEnd (fun _ => none) header.typeIndexBegin (newReader rawRecords)

/-- The offsets of the index walk: from `offset`, at most `n` records while bytes remain, each a
`u16` length and that many bytes. -/
def typeRecordWalk (area : Bytes) (offset : Nat) : Nat → List Nat
  | 0 => []
  | n + 1 =>
    if offset < area.length then offset :: typeRecordWalk area (offset + 2 + (leU16 area offset).val) n
    else []

section Lemmas

private theorem u32_val_le (n : Nat) : (u32 n).val ≤ n := Nat.mod_le n _

private theorem typeRecordWalk_lt {area : Bytes} {off n o : Nat} (h : o ∈ typeRecordWalk area off n) :
    o < area.length := by
  induction n generalizing off with
  | zero => cases h
  | succ n ih =>
    rw [typeRecordWalk] at h
    split_ifs at h with hoff
    · rcases List.mem_cons.mp h with rfl | h
      · exact hoff
      · exact ih h
    · cases h

private theorem buildOffsetIndexLoop_stop {E t : TypeIndex} {acc : OffsetMap} {r : Reader}
    (h : ¬ (r.remaining > 0 ∧ t < E)) : buildOffsetIndexLoop E acc t r = .ok acc := by
  rw [buildOffsetIndexLoop, if_neg h]

theorem buildOffsetIndexLoop_next {E t : TypeIndex} {acc : OffsetMap} {area : Bytes} {off : Nat}
    (ht : t < E) (hfit : off + 2 + (leU16 area off).val ≤ area.length) :
    buildOffsetIndexLoop E acc t ⟨area, off⟩ =
      buildOffsetIndexLoop E (fun ti => if ti = t then some (u32 off) else acc ti) (t + 1)
        ⟨area, off + 2 + (leU16 area off).val⟩ := by
  rw [buildOffsetIndexLoop, if_pos ⟨by simp only [Reader.remaining]; split <;> omega, ht⟩]
  have hr : readU16 ⟨area, off⟩ = .ok (leU16 area off) ⟨area, off + 2⟩ := readU16_of_le _ (by simp only; omega)
  have hs : skip (leU16 area off).val ⟨area, off + 2⟩ = .ok () ⟨area, off + 2 + (leU16 area off).val⟩ := by
    rw [skip, if_neg (by simp only; omega)]
  split
  · rename_i heq; rw [hr] at heq; cases heq
  · rename_i len r' heq
    rw [hr] at heq
    cases heq
    split
    · rename_i heq; rw [hs] at heq; cases heq
    · rename_i r'' heq; rw [hs] at heq; cases heq; rfl

private theorem buildOffsetIndexLoop_short {E t : TypeIndex} {acc : OffsetMap} {area : Bytes} {off : Nat}
    (ht : t < E) (hoff : off < area.length) (hshort : area.length < off + 2 + (leU16 area off).val) :
    buildOffsetIndexLoop E acc t ⟨area, off⟩ = .error errUnexpectedEOF := by
  rw [buildOffsetIndexLoop, if_pos ⟨by simp only [Reader.remaining]; split <;> omega, ht⟩]
  by_cases h2 : off + 2 ≤ area.length
  · split <;> rename_i heq <;> rw [readU16_of_le ⟨area, off⟩ h2] at heq <;> cases heq
    split <;> rename_i heq <;> rw [skip, if_pos (by simp only; omega)] at heq <;> cases heq
    rfl
  · split <;> rename_i heq <;> rw [readU16_of_gt ⟨area, off⟩ (by simp only; omega)] at heq <;>
      cases heq
    rfl

private theorem typeIndex_succ_val {t E : TypeIndex} (h : t < E) : (t + 1).val = t.val + 1 :=
  Fin.val_add_one_of_lt (Fin.lt_def.mpr (by rw [Fin.val_last]; have := E.isLt; have := Fin.lt_def.mp h; omega))

theorem buildOffsetIndexLoop_end {E t : TypeIndex} {acc : OffsetMap} {area : Bytes} {off : Nat}
    (h : area.length ≤ off) : buildOffsetIndexLoop E acc t ⟨area, off⟩ = .ok acc :=
  buildOffsetIndexLoop_stop fun hc => by simp only [Reader.remaining] at hc; split at hc <;> omega

private theorem buildOffsetIndexLoop_spec (E : TypeIndex) (area : Bytes) (acc : OffsetMap) (t : TypeIndex)
    (off : Nat) (m : OffsetMap) (h : buildOffsetIndexLoop E acc t ⟨area, off⟩ = .ok m) :
    (∀ o ∈ typeRecordWalk area off (E.val - t.val), o + 2 + (leU16 area o).val ≤ area.length) ∧
    ∀ ti : TypeIndex, m ti =
      if t.val ≤ ti.val ∧ ti.val - t.val < (typeRecordWalk area off (E.val - t.val)).length then
        some (u32 ((typeRecordWalk area off (E.val - t.val)).getD (ti.val - t.val) 0))
      else acc ti := by
  -- induction on the number of type indices left, which bounds the loop's turns
  generalize hk : E.val - t.val = k
  induction k generalizing acc t off with
  | zero =>
    rw [buildOffsetIndexLoop_stop (fun hc => by have := Fin.lt_def.mp hc.2; omega)] at h
    cases h
    simp [typeRecordWalk]
  | succ k ih =>
    have htE : t < E := Fin.lt_def.mpr (by omega)
    by_cases hoff : off < area.length
    · by_cases hfit : off + 2 + (leU16 area off).val ≤ area.length
      · rw [buildOffsetIndexLoop_next htE hfit] at h
        have ht1 := typeIndex_succ_val htE
        obtain ⟨ihw, ihm⟩ := ih _ (t + 1) _ h (by omega)
        rw [ht1] at ihm
        rw [typeRecordWalk, if_pos hoff]
        refine ⟨List.forall_mem_cons.mpr ⟨hfit, ihw⟩, fun ti => ?_⟩
        rw [ihm ti]
        by_cases hti : ti = t
        · subst hti; simp
        · have hne : ti.val ≠ t.val := fun e => hti (Fin.ext e)
          simp only [hti, if_false, List.length_cons]
          by_cases hr : t.val + 1 ≤ ti.val ∧ ti.val - (t.val + 1) <
              (typeRecordWalk area (off + 2 + (leU16 area off).val) k).length
          · rw [if_pos hr, if_pos ⟨by omega, by omega⟩,
              show ti.val - t.val = ti.val - (t.val + 1) + 1 by omega, List.getD_cons_succ]
          · rw [if_neg hr, if_neg (by omega)]
      · rw [buildOffsetIndexLoop_short htE hoff (by omega)] at h
        cases h
    · rw [buildOffsetIndexLoop_end (by omega)] at h
      cases h
      simp [typeRecordWalk, hoff]

private theorem buildOffsetIndexLoop_map (E : TypeIndex) (area : Bytes) (acc : OffsetMap) (t : TypeIndex)
    (off : Nat) :
    (buildOffsetIndexLoop E acc t ⟨area, off⟩).map (fun _ => ()) =
      if ∀ o ∈ typeRecordWalk area off (E.val - t.val), o + 2 + (leU16 area o).val ≤ area.length
      then .ok () else .error errUnexpectedEOF := by
  generalize hk : E.val - t.val = k
  induction k generalizing acc t off with
  | zero =>
    rw [buildOffsetIndexLoop_stop (fun hc => by have := Fin.lt_def.mp hc.2; omega)]
    simp [typeRecordWalk, Except.map]
  | succ k ih =>
    have htE : t < E := Fin.lt_def.mpr (by omega)
    by_cases hoff : off < area.length
    · rw [typeRecordWalk, if_pos hoff]
      by_cases hfit : off + 2 + (leU16 area off).val ≤ area.length
      · rw [buildOffsetIndexLoop_next htE hfit, ih _ (t + 1) _ (by rw [typeIndex_succ_val htE]; omega)]
        simp only [List.forall_mem_cons, hfit, true_and]
      · rw [buildOffsetIndexLoop_short htE hoff (by omega)]
        simp only [List.forall_mem_cons, hfit, false_and, if_false]
        rfl
    · rw [buildOffsetIndexLoop_end (by omega)]
      simp [typeRecordWalk, hoff, Except.map]

private theorem buildOffsetIndex_lt {header : Header} {rawRecords : Bytes} {m : OffsetMap}
    (h : buildOffsetIndex header rawRecords = .ok m) :
    ∀ ti o, m ti = some o → o.val < rawRecords.length := by
  intro ti o ho
  obtain ⟨-, hm⟩ := buildOffsetIndexLoop_spec _ _ _ _ _ _ h
  rw [hm ti] at ho
  split_ifs at ho with hr
  cases ho
  calc (u32 _).val ≤ _ := u32_val_le _
    _ < rawRecords.length := typeRecordWalk_lt (by rw [getD_of_lt _ _ hr.2]; exact List.getElem_mem _)

end Lemmas

structure TypeRecord where
  kind : U16
  data : Bytes
  deriving DecidableEq, Repr

/-- Stream. Every offset of the index lies inside the record area, so `rawRecords[offset:]` is
always in range. The cache of parsed records is not modelled: it only ever returns what the
computation below returns for the same index. -/
structure Stream where
  header : Header
  rawRecords : Bytes
  recordOffsets : OffsetMap
  offsets_lt : ∀ ti o, recordOffsets ti = some o → o.val < rawRecords.length

def parseStream (data : Bytes) : Except GoError Stream :=
  if data.length < tpiHeaderSize then .error errInvalidTPIHeader else
  match parseHeader (newReader data) with
  | .error e _ => .error e
  | .ok header _ =>
    let recordStart := header.headerSize.val
    let recordEnd := recordStart + header.typeRecordBytes.val
    if recordEnd > data.length then
      .error (.errorf "tpi: truncated stream: expected %d bytes, got %d" [recordEnd, data.length])
    else
      let rawRecords := (data.drop recordStart).take (recordEnd - recordStart)
      match h : buildOffsetIndex header rawRecords with
      | .error e => .error e
      | .ok offsets => .ok ⟨header, rawRecords, offsets, buildOffsetIndex_lt h⟩

/-- The reads of GetTypeRecord at a record: its length, its kind, and `length - 2` bytes. -/
def readTypeRecord : ReadM TypeRecord := do
  let recordLen ← readU16
  let kind ← readU16
  let dataLen : Int := (recordLen.val : Int) - 2
  if dataLen < 0 then throw errInvalidTypeRecord
  let data ← readBytesRef dataLen.toNat
  pure ⟨kind, data⟩

/-- GetTypeRecord; a simple type has no record, `nil`. -/
def Stream.getTypeRecord (s : Stream) (ti : TypeIndex) : Except GoError (Option TypeRecord) :=
  if isSimpleType ti then .ok none
  else if ti < s.header.typeIndexBegin ∨ ti ≥ s.header.typeIndexEnd then
    .error (.wrapf "%w: %d" errTypeIndexOutOfRange [ti.val])
  else
    match s.recordOffsets ti with
    | none => .error (.wrapf "%w: no offset for type %d" errTypeIndexOutOfRange [ti.val])
    | some offset =>
      match runParser readTypeRecord (s.rawRecords.drop offset.val) with
      | .ok record => .ok (some record)
      | .error e => .error e

/-- The record at `o` as the area frames it: the `u16` after its length `ℓ`, then the `ℓ - 2`
bytes after that; a length below 2 is invalid, unless the area ends before a kind. -/
def recordAt (area : Bytes) (o : Nat) : Except GoError TypeRecord :=
  if (leU16 area o).val < 2 then
    if o + 4 ≤ area.length then .error errInvalidTypeRecord else .error errUnexpectedEOF
  else .ok ⟨leU16 area (o + 2), (area.drop (o + 4)).take ((leU16 area o).val - 2)⟩

section Lemmas

theorem parseHeader_eq (data : Bytes) (h : 56 ≤ data.length) :
    parseHeader (newReader data) =
      if leU32 data 0 ≠ tpiVersionV80 ∧ leU32 data 0 ≠ tpiVersionV70 then
        .error (.wrapf "%w: %d" errUnsupportedVersion [(leU32 data 0).val]) ⟨data, 4⟩
      else .ok ⟨leU32 data 0, leU32 data 4, leU32 data 8, leU32 data 12, leU32 data 16,
        leU16 data 20, leU16 data 22, leU32 data 24, leU32 data 28, signed 32 (leU32 data 32).val,
        leU32 data 36, signed 32 (leU32 data 40).val, leU32 data 44, signed 32 (leU32 data 48).val,
        leU32 data 52⟩ ⟨data, 56⟩ := by
  simp (disch := (simp only; omega)) only [parseHeader, bind_apply, pure_apply, newReader,
    readU32_of_le, readU16_of_le, readI32]
  split_ifs
  · rfl
  · simp (disch := (simp only; omega)) only [bind_apply, pure_apply, readU32_of_le, readU16_of_le,
      readI32]

theorem readTypeRecord_eq (area : Bytes) (o : Nat)
    (hframe : o + 2 + (leU16 area o).val ≤ area.length) :
    runParser readTypeRecord (area.drop o) = recordAt area o := by
  have h2 : 0 + 2 ≤ (area.drop o).length := by rw [List.length_drop]; omega
  simp only [runParser, readTypeRecord, bind_apply, newReader, readU16_of_le ⟨area.drop o, 0⟩ h2,
    leU16_drop, Nat.add_zero, recordAt]
  by_cases h4 : o + 4 ≤ area.length
  · rw [readU16_of_le _ (by simp only [List.length_drop]; omega)]
    simp only [leU16_drop]
    by_cases hl : (leU16 area o).val < 2
    · simp only [if_pos hl, if_pos h4, show ((leU16 area o).val : Int) - 2 < 0 by omega, if_true]
      rfl
    · simp only [if_neg hl, show ¬ ((leU16 area o).val : Int) - 2 < 0 by omega, if_false,
        bind_apply, pure_apply, readBytesRef, List.length_drop,
        show ((leU16 area o).val : Int) - 2 = ((leU16 area o).val - 2 : Nat) by omega, Int.toNat_ofNat]
      rw [if_neg (by omega)]
      simp only [bind_apply, pure_apply, readBytesRef, List.length_drop, List.drop_drop]
      rw [if_neg (by omega)]
  · have hl : (leU16 area o).val < 2 := by omega
    rw [readU16_of_gt _ (by simp only [List.length_drop]; omega), if_pos hl, if_neg h4]

end Lemmas

theorem parseStream_ok {data : Bytes} {s : Stream} (h : parseStream data = .ok s) :
    s.rawRecords = (data.drop s.header.headerSize.val).take s.header.typeRecordBytes.val ∧
    buildOffsetIndex s.header s.rawRecords = .ok s.recordOffsets := by
  unfold parseStream at h
  split_ifs at h
  split at h
  · cases h
  dsimp only at h
  split_ifs at h
  split at h
  · cases h
  rename_i heq
  cases h
  exact ⟨by dsimp only; rw [Nat.add_sub_cancel_left], heq⟩

theorem parseStream_of_index {data : Bytes} {header : Header} {r : Reader} {m : OffsetMap}
    (h56 : ¬ data.length < tpiHeaderSize) (hh : parseHeader (newReader data) = .ok header r)
    (hend : header.headerSize.val + header.typeRecordBytes.val ≤ data.length)
    (hidx : buildOffsetIndex header ((data.drop header.headerSize.val).take header.typeRecordBytes.val) = .ok m) :
    ∃ s, parseStream data = .ok s ∧ s.header = header ∧ s.recordOffsets = m := by
  unfold parseStream
  rw [if_neg h56, hh]
  dsimp only
  rw [if_neg (by omega)]
  split
  · rename_i heq; rw [Nat.add_sub_cancel_left, hidx] at heq; cases heq
  · rename_i heq; rw [Nat.add_sub_cancel_left, hidx] at heq; cases heq; exact ⟨_, rfl, rfl, rfl⟩

/-- A TPI stream of version V80 with a 56-byte header, the given Begin, End and record-area size,
and the record area after it. -/
def tpiBytes (typeIndexBegin typeIndexEnd typeRecordBytes : Nat) (records : Bytes) : Bytes :=
  [0x0B, 0xCA, 0x31, 0x01, 56, 0, 0, 0] ++ encU32 typeIndexBegin ++ encU32 typeIndexEnd ++
    encU32 typeRecordBytes ++ List.replicate 36 0 ++ records

/-- What ParseStream decides, read off the bytes: the header's length, its version, that the
record area fits, and that every record of the index walk lies inside the area. -/
def parseStreamCheck (data : Bytes) : Except GoError Unit :=
  let recordStart := (leU32 data 4).val
  let recordEnd := recordStart + (leU32 data 16).val
  let area := (data.drop recordStart).take (leU32 data 16).val
  if data.length < tpiHeaderSize then .error errInvalidTPIHeader
  else if leU32 data 0 ≠ tpiVersionV80 ∧ leU32 data 0 ≠ tpiVersionV70 then
    .error (.wrapf "%w: %d" errUnsupportedVersion [(leU32 data 0).val])
  else if recordEnd > data.length then
    .error (.errorf "tpi: truncated stream: expected %d bytes, got %d" [recordEnd, data.length])
  else if ∀ o ∈ typeRecordWalk area 0 ((leU32 data 12).val - (leU32 data 8).val),
      o + 2 + (leU16 area o).val ≤ area.length then .ok ()
  else .error errUnexpectedEOF

/-- ParseStream fails exactly as parseStreamCheck says, with the error it names: a short header,
an unsupported version, a truncated record area, or a record of the index walk that runs past
the area. -/
theorem parseStream_decides (data : Bytes) :
    (parseStream data).map (fun _ => ()) = parseStreamCheck data := by
  unfold parseStream parseStreamCheck
  dsimp only
  by_cases h56 : data.length < tpiHeaderSize
  · rw [if_pos h56, if_pos h56]; rfl
  rw [if_neg h56, if_neg h56, parseHeader_eq _ (by unfold tpiHeaderSize at h56; omega)]
  by_cases hv : leU32 data 0 ≠ tpiVersionV80 ∧ leU32 data 0 ≠ tpiVersionV70
  · rw [if_pos hv, if_pos hv]; rfl
  rw [if_neg hv, if_neg hv]
  dsimp only
  by_cases hend : (leU32 data 4).val + (leU32 data 16).val > data.length
  · rw [if_pos hend, if_pos hend]; rfl
  rw [if_neg hend, if_neg hend, Nat.add_sub_cancel_left]
  have hmap := buildOffsetIndexLoop_map (leU32 data 12)
    ((data.drop (leU32 data 4).val).take (leU32 data 16).val) (fun _ => none) (leU32 data 8) 0
  rw [← hmap]
  split <;> rename_i heq <;> simp only [buildOffsetIndex, newReader] at heq <;> rw [heq] <;> rfl

end PdbGo.Tpi
