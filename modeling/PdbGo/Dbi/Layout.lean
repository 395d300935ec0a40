import PdbGo.Dbi.Stream

/-! The byte layout of the DBI header, module-info records and section contributions, and what
ParseStream reads back from it. -/
namespace PdbGo.Dbi
open PdbGo.Stream

/-- The bytes of an `int32` field, in two's complement. -/
def encI32 (v : Int) : Bytes := encU32 (u32OfInt v).val

@[simp] private theorem encI32_length (v : Int) : (encI32 v).length = 4 := rfl

/-- A contribution whose `int32` fields hold `int32` values. -/
def SectionContribution.InRange (e : SectionContribution) : Prop :=
  -2147483648 ≤ e.offset ∧ e.offset < 2147483648 ∧ -2147483648 ≤ e.size ∧ e.size < 2147483648

instance (e : SectionContribution) : Decidable e.InRange :=
  inferInstanceAs (Decidable (_ ∧ _ ∧ _ ∧ _))

/-- An entry of the section-contribution substream: 20 bytes, then the two checksums when
`hasExtraCrc`. -/
def SectionContribution.encode (hasExtraCrc : Bool) (e : SectionContribution) : Bytes :=
  encU16 e.sectionIndex.val ++ encU16 e.padding1.val ++ encI32 e.offset ++ encI32 e.size ++
    encU32 e.characteristics.val ++ encU16 e.moduleIndex.val ++ encU16 e.padding2.val ++
    (if hasExtraCrc then encU32 e.dataCrc.val ++ encU32 e.relocCrc.val else [])

/-- What an entry reads back as: without the checksums on the wire, they stay 0. -/
def SectionContribution.decoded (hasExtraCrc : Bool) (e : SectionContribution) :
    SectionContribution :=
  if hasExtraCrc then e else { e with dataCrc := 0, relocCrc := 0 }

theorem SectionContribution.encode_length (hasExtraCrc : Bool) (e : SectionContribution) :
    (e.encode hasExtraCrc).length = if hasExtraCrc then 28 else 20 := by
  cases hasExtraCrc <;> simp [SectionContribution.encode]

/-- A module record the layout can hold: `int32` values in its contribution, and names without
a zero byte. -/
def ModuleInfo.Encodable (m : ModuleInfo) : Prop :=
  m.sectionContribution.InRange ∧ (0 : U8) ∉ m.moduleName ∧ (0 : U8) ∉ m.objFileName

instance (m : ModuleInfo) : Decidable m.Encodable :=
  inferInstanceAs (Decidable (_ ∧ _ ∧ _))

/-- A module record: the 64-byte fixed part (its padding and unused words zero), the module and
object file names each ended by a zero byte, and zero bytes up to the next 4-byte boundary. -/
def ModuleInfo.encode (m : ModuleInfo) : Bytes :=
  let named := 64 + m.moduleName.length + 1 + m.objFileName.length + 1
  encU32 m.opened.val ++ m.sectionContribution.encode true ++ encU16 m.flags.val ++
    encU16 m.moduleSymStreamIndex.val ++ encU32 m.symByteSize.val ++ encU32 m.c11ByteSize.val ++
    encU32 m.c13ByteSize.val ++ encU16 m.sourceFileCount.val ++ encU16 0 ++ encU32 0 ++
    encU32 m.sourceFileNameIndex.val ++ encU32 m.pdbFilePathNameIndex.val ++
    m.moduleName ++ [0] ++ m.objFileName ++ [0] ++ List.replicate ((4 - named % 4) % 4) 0

theorem ModuleInfo.encode_length (m : ModuleInfo) :
    m.encode.length = 64 + m.moduleName.length + 1 + m.objFileName.length + 1 +
      (4 - (64 + m.moduleName.length + 1 + m.objFileName.length + 1) % 4) % 4 := by
  simp only [ModuleInfo.encode, SectionContribution.encode, if_true, List.length_append,
    encU16_length, encU32_length, encI32_length, List.length_singleton, List.length_replicate]

/-- The module-info substream of a list of records: their encodings one after another. -/
def encodeModules : List ModuleInfo → Bytes
  | [] => []
  | m :: ms => m.encode ++ encodeModules ms

/-- A section-contribution substream's entries, one after another. -/
def encodeContributions (hasExtraCrc : Bool) : List SectionContribution → Bytes
  | [] => []
  | e :: es => e.encode hasExtraCrc ++ encodeContributions hasExtraCrc es

/-! Reading one record -/

section Records
variable {D rest : Bytes} {o : Nat}

private theorem readSectionContribution_at (hasExtraCrc : Bool) {e : SectionContribution}
    (he : e.InRange) (h : D.drop o = e.encode hasExtraCrc ++ rest) :
    readU16 ⟨D, o⟩ = .ok e.sectionIndex ⟨D, o + 2⟩ ∧
    readSectionContribution hasExtraCrc e.sectionIndex ⟨D, o + 2⟩ =
      .ok (e.decoded hasExtraCrc) ⟨D, o + (e.encode hasExtraCrc).length⟩ ∧
    D.drop (o + (e.encode hasExtraCrc).length) = rest := by
  obtain ⟨ho1, ho2, hs1, hs2⟩ := he
  have hd := drop_past h
  simp only [SectionContribution.encode, encI32, List.append_assoc] at h
  obtain ⟨r1, d1⟩ := readU16_at h
  obtain ⟨r2, d2⟩ := readU16_at d1
  obtain ⟨r3, d3⟩ := readI32_at ho1 ho2 d2
  obtain ⟨r4, d4⟩ := readI32_at hs1 hs2 d3
  obtain ⟨r5, d5⟩ := readU32_at d4
  obtain ⟨r6, d6⟩ := readU16_at d5
  obtain ⟨r7, d7⟩ := readU16_at d6
  refine ⟨r1, ?_, hd⟩
  cases hasExtraCrc
  · simp only [readSectionContribution, bind_apply, r2, r3, r4, r5, r6, r7, if_false, pure_apply,
      SectionContribution.decoded, SectionContribution.encode]
    simp
  · simp only [if_true, List.nil_append] at d7
    obtain ⟨r8, d8⟩ := readU32_at d7
    obtain ⟨r9, d9⟩ := readU32_at d8
    simp only [readSectionContribution, bind_apply, r2, r3, r4, r5, r6, r7, r8, r9, if_true,
      pure_apply, SectionContribution.decoded, SectionContribution.encode]
    simp

private theorem readModuleInfo_at {m : ModuleInfo} (hm : m.Encodable) (ho : o % 4 = 0)
    (h : D.drop o = m.encode ++ rest) :
    readU32 ⟨D, o⟩ = .ok m.opened ⟨D, o + 4⟩ ∧
    readModuleInfo m.opened ⟨D, o + 4⟩ = .ok m ⟨D, o + m.encode.length⟩ ∧
    D.drop (o + m.encode.length) = rest := by
  obtain ⟨hsc, hn1, hn2⟩ := hm
  have hd := drop_past h
  have hlen := m.encode_length
  simp only [ModuleInfo.encode, List.append_assoc, List.singleton_append] at h
  obtain ⟨r0, d0⟩ := readU32_at h
  obtain ⟨r1a, r1, d1⟩ := readSectionContribution_at true hsc d0
  have hsc28 : (m.sectionContribution.encode true).length = 28 :=
    SectionContribution.encode_length true _
  rw [hsc28] at r1 d1
  obtain ⟨r2, d2⟩ := readU16_at d1
  obtain ⟨r3, d3⟩ := readU16_at d2
  obtain ⟨r4, d4⟩ := readU32_at d3
  obtain ⟨r5, d5⟩ := readU32_at d4
  obtain ⟨r6, d6⟩ := readU32_at d5
  obtain ⟨r7, d7⟩ := readU16_at d6
  obtain ⟨r8, d8⟩ := @readU16_at _ _ _ 0 d7
  obtain ⟨r9, d9⟩ := @readU32_at _ _ _ 0 d8
  obtain ⟨r10, d10⟩ := readU32_at d9
  obtain ⟨r11, d11⟩ := readU32_at d10
  obtain ⟨r12, d12⟩ := readCString_at hn1 d11
  obtain ⟨r13, -⟩ := readCString_at hn2 d12
  refine ⟨r0, ?_, hd⟩
  simp only [readModuleInfo, bind_apply, r1a, r1, r2, r3, r4, r5, r6, r7, r8, r9, r10, r11, r12,
    r13, align_four, pure_apply, SectionContribution.decoded, if_true]
  rw [hlen]
  exact congrArg (EStateM.Result.ok m) (congrArg (Reader.mk D) (by omega))

end Records

/-! The module-info substream -/

private theorem parseModuleInfoLoop_encode (ms : List ModuleInfo) (hms : ∀ m ∈ ms, m.Encodable) :
    ∀ (pre : Bytes) (acc : List ModuleInfo), pre.length % 4 = 0 →
      parseModuleInfoLoop acc ⟨pre ++ encodeModules ms, pre.length⟩ = .ok (acc ++ ms) := by
  induction ms with
  | nil =>
    intro pre acc _
    rw [parseModuleInfoLoop, if_neg (by simp [Reader.remaining, encodeModules]), List.append_nil]
  | cons m ms ih =>
    intro pre acc hpre
    have hlen := m.encode_length
    obtain ⟨r0, r1, -⟩ := readModuleInfo_at (hms m (List.mem_cons_self m ms)) hpre
      (List.drop_left pre (m.encode ++ encodeModules ms))
    have hpos : (⟨pre ++ (m.encode ++ encodeModules ms), pre.length⟩ : Reader).remaining > 0 := by
      simp only [Reader.remaining, List.length_append]
      split <;> omega
    show parseModuleInfoLoop acc ⟨pre ++ (m.encode ++ encodeModules ms), pre.length⟩ = _
    rw [parseModuleInfoLoop, if_pos hpos]
    split
    next h => rw [r0] at h; cases h
    next opened r' h =>
      rw [r0] at h; cases h
      split
      next h => rw [r1] at h; cases h
      next mod r'' h =>
        rw [r1] at h; cases h
        have := ih (fun x hx => hms x (List.mem_cons_of_mem m hx)) (pre ++ m.encode) (acc ++ [m])
          (by rw [List.length_append]; omega)
        rw [List.append_assoc, List.length_append, List.append_assoc, List.singleton_append] at this
        exact this

private theorem encodeModules_eq_nil {ms : List ModuleInfo} (h : (encodeModules ms).length = 0) :
    ms = [] := by
  cases ms with
  | nil => rfl
  | cons m ms =>
    have := m.encode_length
    simp only [encodeModules, List.length_append] at h
    omega

/-- The 64-byte header, its fields in the order parseHeader reads them. -/
def Header.encode (h : Header) : Bytes :=
  encI32 h.versionSignature ++ encU32 h.versionHeader.val ++ encU32 h.age.val ++
    encU16 h.globalStreamIndex.val ++ encU16 h.buildNumber.val ++ encU16 h.publicStreamIndex.val ++
    encU16 h.pdbDllVersion.val ++ encU16 h.symRecordStreamIndex.val ++ encU16 h.pdbDllRbld.val ++
    encU32 h.modInfoSize.val ++ encU32 h.sectionContributionSize.val ++
    encU32 h.sectionMapSize.val ++ encU32 h.sourceInfoSize.val ++ encU32 h.typeServerMapSize.val ++
    encU32 h.mfcTypeServerIndex.val ++ encU32 h.optionalDbgHeaderSize.val ++
    encU32 h.ecSubstreamSize.val ++ encU16 h.flags.val ++ encU16 h.machine.val ++
    encU32 h.padding.val

@[simp] theorem Header.encode_length (h : Header) : h.encode.length = 64 := by
  simp [Header.encode]

private theorem parseHeader_encode {h : Header} (hsig : h.versionSignature = -1) (rest : Bytes) :
    parseHeader ⟨h.encode ++ rest, 0⟩ = .ok h ⟨h.encode ++ rest, 64⟩ := by
  generalize hD : h.encode ++ rest = D
  have h0 : D.drop 0 = h.encode ++ rest := hD.symm
  simp only [Header.encode, encI32, List.append_assoc] at h0
  obtain ⟨r1, d1⟩ := readI32_at (by rw [hsig]; decide) (by rw [hsig]; decide) h0
  obtain ⟨r2, d2⟩ := readU32_at d1
  obtain ⟨r3, d3⟩ := readU32_at d2
  obtain ⟨r4, d4⟩ := readU16_at d3
  obtain ⟨r5, d5⟩ := readU16_at d4
  obtain ⟨r6, d6⟩ := readU16_at d5
  obtain ⟨r7, d7⟩ := readU16_at d6
  obtain ⟨r8, d8⟩ := readU16_at d7
  obtain ⟨r9, d9⟩ := readU16_at d8
  obtain ⟨r10, d10⟩ := readU32_at d9
  obtain ⟨r11, d11⟩ := readU32_at d10
  obtain ⟨r12, d12⟩ := readU32_at d11
  obtain ⟨r13, d13⟩ := readU32_at d12
  obtain ⟨r14, d14⟩ := readU32_at d13
  obtain ⟨r15, d15⟩ := readU32_at d14
  obtain ⟨r16, d16⟩ := readU32_at d15
  obtain ⟨r17, d17⟩ := readU32_at d16
  obtain ⟨r18, d18⟩ := readU16_at d17
  obtain ⟨r19, d19⟩ := readU16_at d18
  obtain ⟨r20, -⟩ := readU32_at d19
  have hne : ¬ h.versionSignature ≠ -1 := fun h' => h' hsig
  simp only [parseHeader, bind_apply, r1, r2, r3, r4, r5, r6, r7, r8, r9, r10, r11, r12, r13, r14,
    r15, r16, r17, r18, r19, r20, hne, if_false, pure_apply]

section ModuleInfoSubstream
variable (h : Header) (ms : List ModuleInfo) (rest : Bytes)

private theorem modInfo_substream_encode (hsize : h.modInfoSize.val = (encodeModules ms).length)
    (hms : ∀ m ∈ ms, m.Encodable) :
    ∃ mo, parseSubstream (h.encode ++ encodeModules ms ++ rest) dbiHeaderSize h.modInfoSize.val
      parseModuleInfo "dbi: failed to parse module info: %w" =
        .ok (mo, dbiHeaderSize + h.modInfoSize.val) ∧ mo.getD [] = ms := by
  unfold parseSubstream
  by_cases hz : h.modInfoSize.val > 0
  · have hsub : ((h.encode ++ encodeModules ms ++ rest).drop dbiHeaderSize).take
        h.modInfoSize.val = encodeModules ms := by
      rw [List.append_assoc, List.drop_left' (by rw [Header.encode_length]; rfl), hsize,
        List.take_left]
    have hparse : parseModuleInfo (encodeModules ms) = .ok ms :=
      parseModuleInfoLoop_encode ms hms [] [] rfl
    rw [if_pos hz, if_neg (by simp [dbiHeaderSize, hsize]), hsub, hparse]
    exact ⟨some ms, rfl, rfl⟩
  · have hnil := encodeModules_eq_nil (show (encodeModules ms).length = 0 by omega)
    rw [if_neg hz]
    exact ⟨none, by rw [show h.modInfoSize.val = 0 by omega, Nat.add_zero], by rw [hnil]; rfl⟩

end ModuleInfoSubstream

/-- Module-info round trip: in a DBI stream whose module-info substream is the encoding of a list
of records, ParseStream's modules are that list whenever it returns, and it returns when the
section-contribution, section-map, source-info and optional-debug-header substreams are empty. -/
theorem parseStream_modules (h : Header) (ms : List ModuleInfo) (rest : Bytes)
    (hsig : h.versionSignature = -1) (hsize : h.modInfoSize.val = (encodeModules ms).length)
    (hms : ∀ m ∈ ms, m.Encodable) :
    (∀ s, parseStream (h.encode ++ encodeModules ms ++ rest) = .ok s → s.modules = ms) ∧
    (h.sectionContributionSize.val = 0 → h.sectionMapSize.val = 0 → h.sourceInfoSize.val = 0 →
      h.optionalDbgHeaderSize.val = 0 →
      ∃ s, parseStream (h.encode ++ encodeModules ms ++ rest) = .ok s ∧ s.modules = ms) := by
  have hhdr : runParser parseHeader (h.encode ++ encodeModules ms ++ rest) = .ok h := by
    unfold runParser newReader
    rw [List.append_assoc, parseHeader_encode hsig]
  obtain ⟨mo, hmod, hmo⟩ := modInfo_substream_encode h ms rest hsize hms
  refine ⟨fun s hs => ?_, fun h1 h2 h3 h4 => ⟨⟨h, ms, [], none, none⟩, ?_, rfl⟩⟩
  · obtain ⟨header, mo', off, hh, hm, hmods⟩ := parseStream_ok_modules hs
    rw [hhdr] at hh
    cases hh
    rw [hmod] at hm
    cases hm
    rw [hmods, hmo]
  · unfold parseStream
    rw [if_neg (by simp [dbiHeaderSize]), hhdr]
    simp only [hmod, except_ok_bind, h1, h2, h3, h4, parseSubstream_zero, hmo]
    rfl

/-- Two records with a four-byte boundary between them: one whose names need a byte of padding,
one whose names need none. -/
def sampleModules : List ModuleInfo :=
  [⟨0, ⟨1, 0, 0x10, 0x20, 0x60000020, 0, 0, 0x1234, 0x5678⟩, 0, 7, 100, 0, 0, 1, 0, 0,
      [0x61], [0x61, 0x2e, 0x6f]⟩,
    ⟨0, ⟨2, 0, -4, 8, 0x40000040, 1, 0, 0, 0⟩, 0, 8, 4, 0, 0, 0, 0, 0, [0x62], [0x62]⟩]

/-- A DBI header over `sampleModules`, with no other substream. -/
def sampleModulesHeader : Header :=
  ⟨-1, 20091201, 1, 0, 0, 0, 0, 0, 0, 140, 0, 0, 0, 0, 0, 0, 0, 0, 0x8664, 0⟩

theorem parseStream_modules_sample : ∃ s,
    parseStream (sampleModulesHeader.encode ++ encodeModules sampleModules ++ []) = .ok s ∧
      s.modules = sampleModules :=
  (parseStream_modules sampleModulesHeader sampleModules [] rfl
    (by simp [encodeModules, ModuleInfo.encode_length, sampleModules, sampleModulesHeader]; rfl)
    (by decide)).2 rfl rfl rfl rfl

/-! The section-contribution substream -/

private theorem parseSectionContributionsLoop_encode (hasExtraCrc : Bool) (es : List SectionContribution)
    (hes : ∀ e ∈ es, e.InRange) :
    ∀ (pre : Bytes) (acc : List SectionContribution),
      parseSectionContributionsLoop hasExtraCrc (if hasExtraCrc then 28 + 8 else 28) acc
        ⟨pre ++ encodeContributions hasExtraCrc es, pre.length⟩ =
      .ok (acc ++ (es.map (SectionContribution.decoded hasExtraCrc)).dropLast) := by
  induction es with
  | nil =>
    intro pre acc
    have hstop : ¬ (⟨pre ++ [], pre.length⟩ : Reader).remaining ≥
        (if hasExtraCrc then 28 + 8 else 28) := by
      simp only [Reader.remaining, List.append_nil]
      split <;> split <;> omega
    rw [encodeContributions, parseSectionContributionsLoop, if_neg hstop]
    simp
  | cons e es ih =>
    intro pre acc
    have he := e.encode_length hasExtraCrc
    cases es with
    | nil =>
      have hstop : ¬ (⟨pre ++ encodeContributions hasExtraCrc [e], pre.length⟩ : Reader).remaining ≥
          (if hasExtraCrc then 28 + 8 else 28) := by
        simp only [Reader.remaining, encodeContributions, List.append_nil, List.length_append]
        split <;> split at he <;> split <;> omega
      rw [parseSectionContributionsLoop, if_neg hstop]
      simp
    | cons e' es =>
      have he' := e'.encode_length hasExtraCrc
      obtain ⟨r0, r1, -⟩ := readSectionContribution_at hasExtraCrc (hes e (List.mem_cons_self _ _))
        (List.drop_left pre (e.encode hasExtraCrc ++ encodeContributions hasExtraCrc (e' :: es)))
      show parseSectionContributionsLoop hasExtraCrc _ acc
        ⟨pre ++ (e.encode hasExtraCrc ++ encodeContributions hasExtraCrc (e' :: es)), pre.length⟩ = _
      have hgo : (⟨pre ++ (e.encode hasExtraCrc ++ encodeContributions hasExtraCrc (e' :: es)),
          pre.length⟩ : Reader).remaining ≥ (if hasExtraCrc then 28 + 8 else 28) := by
        simp only [Reader.remaining, encodeContributions, List.length_append]
        split <;> split at he <;> split at he' <;> split <;> omega
      rw [parseSectionContributionsLoop, if_pos hgo]
      split
      next h => rw [r0] at h; cases h
      next sectionIndex r' h =>
        rw [r0] at h; cases h
        split
        next h => rw [r1] at h; cases h
        next sc r'' h =>
          rw [r1] at h; cases h
          have := ih (fun x hx => hes x (List.mem_cons_of_mem e hx)) (pre ++ e.encode hasExtraCrc)
            (acc ++ [e.decoded hasExtraCrc])
          rw [List.append_assoc, List.length_append] at this
          rw [this]
          simp only [List.map_cons, List.dropLast_cons₂, List.append_assoc, List.singleton_append]

/-- parseSectionContributions over a version word and `N` encoded entries returns the first
`N - 1` of them: the last entry is never read. -/
theorem parseSectionContributions_encode (version : U32) (es : List SectionContribution)
    (hes : ∀ e ∈ es, e.InRange) :
    parseSectionContributions (encU32 version.val ++ encodeContributions (hasExtraCrc version) es) =
      .ok ((es.map (SectionContribution.decoded (hasExtraCrc version))).dropLast) := by
  obtain ⟨r0, -⟩ := readU32_at (show (encU32 version.val ++
    encodeContributions (hasExtraCrc version) es).drop 0 = encU32 version.val ++ _ from rfl)
  unfold parseSectionContributions
  rw [if_neg (by simp), newReader, r0]
  exact parseSectionContributionsLoop_encode _ es hes (encU32 version.val) []

/-- A contribution of 0x100 bytes of code at offset 0x400 of section 1. -/
def sampleContribution : SectionContribution := ⟨1, 0, 0x400, 0x100, 0x60000020, 0, 0, 0, 0⟩

/-- A contribution of 0x40 bytes of data at offset 0x200 of section 2, from module 1. -/
def dataContribution : SectionContribution := ⟨2, 0, 0x200, 0x40, 0xC0000040, 1, 0, 0, 0⟩

theorem parseSectionContributions_encode_sample :
    parseSectionContributions (encU32 (0 : U32).val ++
      encodeContributions (hasExtraCrc 0) [sampleContribution, dataContribution]) =
      .ok [sampleContribution.decoded (hasExtraCrc 0)] := by
  rw [parseSectionContributions_encode 0 [sampleContribution, dataContribution] (by decide)]
  rfl

/-- A DBI stream with no module and a section-contribution substream of the plain version 0
and one entry. -/
def contributionHeader : Header :=
  ⟨-1, 20091201, 1, 0, 0, 0, 0, 0, 0, 0, 24, 0, 0, 0, 0, 0, 0, 0, 0x8664, 0⟩

theorem parseStream_drops_last_contribution :
    parseStream (contributionHeader.encode ++ (encU32 0 ++ sampleContribution.encode false)) =
      .ok ⟨contributionHeader, [], [], none, none⟩ := by
  have hhdr : runParser parseHeader (contributionHeader.encode ++
      (encU32 0 ++ sampleContribution.encode false)) = .ok contributionHeader := by
    unfold runParser newReader
    rw [parseHeader_encode rfl]
  have hsc : parseSectionContributions (encU32 0 ++ sampleContribution.encode false) = .ok [] := by
    obtain ⟨r0, -⟩ := readU32_at (show (encU32 (0 : U32).val ++
      encodeContributions false [sampleContribution]).drop 0 = encU32 (0 : U32).val ++ _ from rfl)
    unfold parseSectionContributions
    rw [if_neg (by decide), newReader]
    erw [r0]
    exact parseSectionContributionsLoop_encode false [sampleContribution]
      (by simp [SectionContribution.InRange, sampleContribution]) (encU32 0) []
  have hslice : ((contributionHeader.encode ++ (encU32 0 ++ sampleContribution.encode false)).drop
      dbiHeaderSize).take contributionHeader.sectionContributionSize.val =
        encU32 0 ++ sampleContribution.encode false := by decide
  unfold parseStream
  rw [if_neg (by decide), hhdr]
  dsimp only
  rw [show contributionHeader.modInfoSize.val = 0 from rfl, parseSubstream_zero, except_ok_bind]
  dsimp only
  rw [parseSubstream_of_ok (by decide) (by decide) (hslice ▸ hsc)]
  rfl

/-! The section map, the optional debug header and the whole stream -/

/-- A section-map entry: six `u16` fields, then two `u32` fields. -/
def SectionMapEntry.encode (e : SectionMapEntry) : Bytes :=
  encU16 e.flags.val ++ encU16 e.ovl.val ++ encU16 e.group.val ++ encU16 e.frame.val ++
    encU16 e.sectionName.val ++ encU16 e.className.val ++ encU32 e.offset.val ++
    encU32 e.sectionLength.val

/-- The section-map substream: Count, LogCount, then the entries. -/
def SectionMap.encode (sm : SectionMap) : Bytes :=
  encU16 sm.count.val ++ encU16 sm.logCount.val ++ (sm.entries.map SectionMapEntry.encode).flatten

/-- The optional debug header's stream indices, in the order parseOptionalDbgHeader fills them. -/
def OptionalDbgHeader.streamIndices (h : OptionalDbgHeader) : List U16 :=
  [h.fpoStreamIndex, h.exceptionStreamIndex, h.fixupStreamIndex, h.omapToSrcStreamIndex,
    h.omapFromSrcStreamIndex, h.sectionHdrStreamIndex, h.tokenRidMapStreamIndex,
    h.xDataStreamIndex, h.pDataStreamIndex, h.newFPOStreamIndex, h.sectionHdrOrigStreamIndex]

/-- The optional debug header: its eleven stream indices as `u16` words. -/
def OptionalDbgHeader.encode (h : OptionalDbgHeader) : Bytes :=
  (h.streamIndices.map fun v => encU16 v.val).flatten

section SectionMapReads
variable {D rest : Bytes} {o : Nat}

private theorem readSectionMapEntry_at {e : SectionMapEntry} (h : D.drop o = e.encode ++ rest) :
    readSectionMapEntry ⟨D, o⟩ = .ok e ⟨D, o + 20⟩ ∧ D.drop (o + 20) = rest := by
  simp only [SectionMapEntry.encode, List.append_assoc] at h
  obtain ⟨r1, d1⟩ := readU16_at h
  obtain ⟨r2, d2⟩ := readU16_at d1
  obtain ⟨r3, d3⟩ := readU16_at d2
  obtain ⟨r4, d4⟩ := readU16_at d3
  obtain ⟨r5, d5⟩ := readU16_at d4
  obtain ⟨r6, d6⟩ := readU16_at d5
  obtain ⟨r7, d7⟩ := readU32_at d6
  obtain ⟨r8, d8⟩ := readU32_at d7
  exact ⟨by simp only [readSectionMapEntry, bind_apply, r1, r2, r3, r4, r5, r6, r7, r8, pure_apply],
    d8⟩

private theorem parseSectionMapLoop_encode (es : List SectionMapEntry) (acc : List SectionMapEntry)
    (h : D.drop o = (es.map SectionMapEntry.encode).flatten ++ rest) :
    parseSectionMapLoop es.length acc ⟨D, o⟩ = .ok (acc ++ es) ⟨D, o + 20 * es.length⟩ := by
  induction es generalizing o acc with
  | nil => simp only [List.length_nil, parseSectionMapLoop, List.append_nil]; rfl
  | cons e es ih =>
    rw [List.map_cons, List.flatten_cons, List.append_assoc] at h
    obtain ⟨r1, h1⟩ := readSectionMapEntry_at h
    have hlen := congrArg List.length h
    simp only [List.length_drop, List.length_append, SectionMapEntry.encode, encU16_length,
      encU32_length] at hlen
    have hroom : (⟨D, o⟩ : Reader).remaining ≥ 20 := by
      simp only [Reader.remaining]
      split <;> omega
    simp only [List.length_cons, parseSectionMapLoop, if_pos hroom, r1, ih _ h1,
      List.append_assoc, List.singleton_append]
    congr 2
    omega

private theorem readStreamIndices_encode (vs : List U16)
    (h : D.drop o = (vs.map fun v => encU16 v.val).flatten ++ rest) :
    readStreamIndices vs.length ⟨D, o⟩ = vs := by
  induction vs generalizing o with
  | nil => rfl
  | cons v vs ih =>
    rw [List.map_cons, List.flatten_cons, List.append_assoc] at h
    obtain ⟨r1, h1⟩ := readU16_at h
    have hlen := congrArg List.length h
    simp only [List.length_drop, List.length_append, encU16_length] at hlen
    have hroom : ¬(⟨D, o⟩ : Reader).remaining < 2 := by
      simp only [Reader.remaining]
      split <;> omega
    simp only [List.length_cons, readStreamIndices, if_neg hroom, r1, ih h1]

end SectionMapReads

private theorem parseSectionMap_encode (sm : SectionMap) (hc : sm.entries.length = sm.count.val)
    (rest : Bytes) : parseSectionMap (sm.encode ++ rest) = .ok sm := by
  obtain ⟨r1, h1⟩ := readU16_at (D := sm.encode ++ rest) (o := 0)
    (by simp only [List.drop_zero, SectionMap.encode, List.append_assoc]; rfl)
  obtain ⟨r2, h2⟩ := readU16_at h1
  simp only [parseSectionMap, runParser, newReader, bind_apply, r1, r2, ← hc,
    parseSectionMapLoop_encode sm.entries [] h2, pure_apply, List.nil_append]

private theorem parseOptionalDbgHeader_encode (h : OptionalDbgHeader) (rest : Bytes) :
    parseOptionalDbgHeader (h.encode ++ rest) = h := by
  have hr := readStreamIndices_encode (D := h.encode ++ rest) (o := 0) h.streamIndices
    (by rw [List.drop_zero]; rfl)
  simp only [parseOptionalDbgHeader, newReader, show h.streamIndices.length = 11 from rfl] at hr ⊢
  rw [hr]
  rfl

/-- A DBI stream as ParseStream reads it: the header, then the module-info, section-contribution,
section-map, source-info, type-server-map, EC and optional-debug-header substreams. -/
structure StreamLayout where
  header : Header
  modules : List ModuleInfo
  version : U32
  contributions : List SectionContribution
  sectionMap : SectionMap
  sourceInfo : Bytes
  typeServerMap : Bytes
  ecSubstream : Bytes
  optionalDbgStreams : OptionalDbgHeader

namespace StreamLayout

/-- The section-contribution substream: the version word, then the entries. -/
def contributionBytes (l : StreamLayout) : Bytes :=
  encU32 l.version.val ++ encodeContributions (hasExtraCrc l.version) l.contributions

def encode (l : StreamLayout) : Bytes :=
  l.header.encode ++ encodeModules l.modules ++ l.contributionBytes ++ l.sectionMap.encode ++
    l.sourceInfo ++ l.typeServerMap ++ l.ecSubstream ++ l.optionalDbgStreams.encode

/-- A layout whose header gives every substream's size, with records the layout can hold. -/
structure Valid (l : StreamLayout) : Prop where
  signature : l.header.versionSignature = -1
  modInfoSize : l.header.modInfoSize.val = (encodeModules l.modules).length
  modules : ∀ m ∈ l.modules, m.Encodable
  sectionContributionSize : l.header.sectionContributionSize.val = l.contributionBytes.length
  contributions : ∀ e ∈ l.contributions, e.InRange
  sectionMapSize : l.header.sectionMapSize.val = l.sectionMap.encode.length
  count : l.sectionMap.entries.length = l.sectionMap.count.val
  sourceInfoSize : l.header.sourceInfoSize.val = l.sourceInfo.length
  typeServerMapSize : l.header.typeServerMapSize.val = l.typeServerMap.length
  ecSubstreamSize : l.header.ecSubstreamSize.val = l.ecSubstream.length
  optionalDbgHeaderSize : l.header.optionalDbgHeaderSize.val = l.optionalDbgStreams.encode.length

/-- What ParseStream returns for the layout: every part as written, but the section
contributions without their last entry. -/
def decoded (l : StreamLayout) : Stream :=
  ⟨l.header, l.modules,
    (l.contributions.map (SectionContribution.decoded (hasExtraCrc l.version))).dropLast,
    some l.sectionMap, some l.optionalDbgStreams⟩

end StreamLayout

private theorem parseSubstream_of_eq {α : Type} (data pre mid : Bytes) (parse : Bytes → Except GoError α)
    (context : String) {post : Bytes} {offset size : Nat} {v : α}
    (h : data = pre ++ mid ++ post) (ho : offset = pre.length) (hs : size = mid.length)
    (h0 : 0 < size) (hp : parse mid = .ok v) :
    parseSubstream data offset size parse context = .ok (some v, offset + size) := by
  subst h ho hs
  refine parseSubstream_of_ok h0 (by simp only [List.length_append]; omega) ?_
  rwa [List.append_assoc, List.drop_left, List.take_left]

private theorem parseSubstream_skip (data pre mid : Bytes) {post : Bytes} {offset size : Nat}
    (h : data = pre ++ mid ++ post) (ho : offset = pre.length) (hs : size = mid.length) :
    ∃ u, parseSubstream data offset size (fun _ => .ok ()) "" = .ok (u, offset + size) := by
  unfold parseSubstream
  split_ifs with h0 h1
  · subst h ho hs
    simp only [List.length_append] at h1
    omega
  · exact ⟨some (), rfl⟩
  · exact ⟨none, by rw [show size = 0 by omega, Nat.add_zero]⟩

private theorem parseSectionContributions_layout (l : StreamLayout) (hes : ∀ e ∈ l.contributions, e.InRange) :
    parseSectionContributions l.contributionBytes =
      .ok ((l.contributions.map (SectionContribution.decoded (hasExtraCrc l.version))).dropLast) := by
  obtain ⟨r0, -⟩ := readU32_at (show l.contributionBytes.drop 0 = encU32 l.version.val ++ _ from rfl)
  unfold parseSectionContributions
  rw [if_neg (by simp [StreamLayout.contributionBytes]), newReader, r0]
  exact parseSectionContributionsLoop_encode _ _ hes (encU32 l.version.val) []

/-- DBI round trip: ParseStream over a stream laid out as its header says returns the header and
every substream as written, except that the section contributions lose their last entry. -/
theorem parseStream_encode {l : StreamLayout} (hl : l.Valid) (rest : Bytes) :
    parseStream (l.encode ++ rest) = .ok l.decoded := by
  obtain ⟨hsig, hM, hms, hC, hes, hS, hcount, hI, hT, hE, hO⟩ := hl
  have hD : l.encode ++ rest = l.header.encode ++ encodeModules l.modules ++
      (l.contributionBytes ++ l.sectionMap.encode ++ l.sourceInfo ++ l.typeServerMap ++
        l.ecSubstream ++ l.optionalDbgStreams.encode ++ rest) := by
    simp only [StreamLayout.encode, List.append_assoc]
  have hhdr : runParser parseHeader (l.encode ++ rest) = .ok l.header := by
    rw [hD, runParser, newReader, List.append_assoc, parseHeader_encode hsig]
  obtain ⟨mo, hmod, hmo⟩ := modInfo_substream_encode l.header l.modules _ hM hms
  rw [← hD] at hmod
  have hc := parseSubstream_of_eq (l.encode ++ rest) (l.header.encode ++ encodeModules l.modules)
    l.contributionBytes parseSectionContributions "dbi: failed to parse section contributions: %w"
    (by simp only [StreamLayout.encode, List.append_assoc]; rfl)
    (show dbiHeaderSize + l.header.modInfoSize.val = _ by
      simp only [List.length_append, Header.encode_length, dbiHeaderSize]; omega) hC
    (by rw [hC, StreamLayout.contributionBytes, List.length_append, encU32_length]; omega)
    (parseSectionContributions_layout l hes)
  have hs := parseSubstream_of_eq (l.encode ++ rest)
    (l.header.encode ++ encodeModules l.modules ++ l.contributionBytes) l.sectionMap.encode
    parseSectionMap "dbi: failed to parse section map: %w"
    (by simp only [StreamLayout.encode, List.append_assoc]; rfl)
    (show dbiHeaderSize + l.header.modInfoSize.val + l.header.sectionContributionSize.val = _ by
      simp only [List.length_append, Header.encode_length, dbiHeaderSize]; omega) hS
    (by rw [hS, SectionMap.encode]; simp only [List.length_append, encU16_length]; omega)
    (by simpa using parseSectionMap_encode l.sectionMap hcount [])
  obtain ⟨u, hi⟩ := parseSubstream_skip (l.encode ++ rest)
    (l.header.encode ++ encodeModules l.modules ++ l.contributionBytes ++ l.sectionMap.encode)
    l.sourceInfo (by simp only [StreamLayout.encode, List.append_assoc]; rfl)
    (show dbiHeaderSize + l.header.modInfoSize.val + l.header.sectionContributionSize.val +
      l.header.sectionMapSize.val = _ by
      simp only [List.length_append, Header.encode_length, dbiHeaderSize]; omega) hI
  have hopt : parseOptionalDbgHeader l.optionalDbgStreams.encode = l.optionalDbgStreams := by
    simpa using parseOptionalDbgHeader_encode l.optionalDbgStreams []
  have ho := parseSubstream_of_eq (l.encode ++ rest)
    (l.header.encode ++ encodeModules l.modules ++ l.contributionBytes ++ l.sectionMap.encode ++
      l.sourceInfo ++ l.typeServerMap ++ l.ecSubstream) l.optionalDbgStreams.encode
    (fun d => .ok (parseOptionalDbgHeader d)) "dbi: failed to parse optional debug header: %w"
    (by simp only [StreamLayout.encode, List.append_assoc]; rfl)
    (show dbiHeaderSize + l.header.modInfoSize.val + l.header.sectionContributionSize.val +
      l.header.sectionMapSize.val + l.header.sourceInfoSize.val + l.header.typeServerMapSize.val +
      l.header.ecSubstreamSize.val = _ by
      simp only [List.length_append, Header.encode_length, dbiHeaderSize]; omega) hO
    (by simp [hO, OptionalDbgHeader.encode, OptionalDbgHeader.streamIndices])
    (v := l.optionalDbgStreams) (by simp only [hopt])
  unfold parseStream
  rw [if_neg (by simp [StreamLayout.encode, dbiHeaderSize]), hhdr]
  simp only [hmod, except_ok_bind, hc, hs, hi, ho, hmo]
  rfl

/-- A DBI header over the two sample modules, two contributions of the plain version, one
section-map entry and the optional debug header. -/
def sampleLayoutHeader : Header :=
  ⟨-1, 20091201, 1, 0, 0, 0, 0, 0, 0, 140, 44, 24, 0, 0, 0, 22, 0, 0, 0x8664, 0⟩

/-- The stream of sampleLayoutHeader; the debug header names only its section-header stream. -/
def sampleLayout : StreamLayout :=
  ⟨sampleLayoutHeader, sampleModules, 0, [sampleContribution, sampleContribution],
    ⟨1, 1, [⟨0x10d, 0, 0, 1, 0xffff, 0xffff, 0, 0x1000⟩]⟩, [], [], [],
    ⟨0xffff, 0xffff, 0xffff, 0xffff, 0xffff, 12, 0xffff, 0xffff, 0xffff, 0xffff, 0xffff⟩⟩

theorem parseStream_encode_sample :
    sampleLayout.Valid ∧ parseStream (sampleLayout.encode ++ []) = .ok sampleLayout.decoded :=
  have hv : sampleLayout.Valid :=
    ⟨rfl, by simp [encodeModules, ModuleInfo.encode_length, sampleModules]; rfl, by decide, rfl,
      by decide, rfl, rfl, rfl, rfl, rfl, rfl⟩
  ⟨hv, parseStream_encode hv []⟩

end PdbGo.Dbi
