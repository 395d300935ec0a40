import PdbGo.Msf.File

/-! The PDB info stream, stream 1: the version, signature and age words and the GUID that
File.loadPDBInfo decodes from its first 28 bytes, and File.Info's `sync.Once` around it. -/
namespace PdbGo.Pdb

def streamPDBInfo : U32 := 1

/-- PDBInfo; the GUID is a `[16]byte`. -/
structure PDBInfo where
  version : U32
  signature : U32
  age : U32
  guid : Bytes
  guid_length : guid.length = 16

/-- `uint32(data[i]) | uint32(data[i+1])<<8 | uint32(data[i+2])<<16 | uint32(data[i+3])<<24`. -/
def orWord (data : Bytes) (i : Nat) : U32 :=
  u32 (data.getD i 0).toNat ||| u32 (data.getD (i+1) 0).toNat <<< 8 |||
    u32 (data.getD (i+2) 0).toNat <<< 16 ||| u32 (data.getD (i+3) 0).toNat <<< 24

/-- loadPDBInfo once the stream is read: the length check, the three words, and
`copy(info.GUID[:], data[12:28])`. -/
def parsePDBInfo (data : Bytes) : Except GoError PDBInfo :=
  if h : data.length < 28 then .error (.errorf "pdb: PDB info stream too short" [])
  else .ok ⟨orWord data 0, orWord data 4, orWord data 8, (data.drop 12).take 16, by
    rw [List.length_take, List.length_drop]; omega⟩

/-- loadPDBInfo: ReadStream of stream 1, its error wrapped, then the decoding. -/
def loadPDBInfo (f : Msf.File) : Msf.Run PDBInfo × Msf.File :=
  let r := f.readStream streamPDBInfo
  (((match r.1.1 with
    | .ret (.ok data) => .ret (parsePDBInfo data)
    | .ret (.error e) => .ret (.error (.wrapf "pdb: failed to read PDB info stream: %w" e []))
    | .panic m => .panic m
    | .hang => .hang), r.1.2), r.2)

/-- File, with the cache of Info: `pdbInfoOnce` is `none` until Info has run, then the result
it cached. The file's other lazily loaded streams are not modelled. -/
structure File where
  msf : Msf.File
  pdbInfoOnce : Option (Except GoError PDBInfo)

/-- Info: the first call loads the PDB info and caches what it returns; a panic ends the
program, so the cache only ever holds a returned result. -/
def File.info (f : File) : Msf.Run PDBInfo × File :=
  match f.pdbInfoOnce with
  | some r => ((.ret r, []), f)
  | none =>
    let r := loadPDBInfo f.msf
    match r.1.1 with
    | .ret res => ((.ret res, r.1.2), ⟨r.2, some res⟩)
    | o => ((o, r.1.2), ⟨r.2, none⟩)

/-- The 28 bytes a PDB info stream starts with: the three words little-endian, then the GUID. -/
def PDBInfo.encode (info : PDBInfo) : Bytes :=
  encU32 info.version.val ++ encU32 info.signature.val ++ encU32 info.age.val ++ info.guid

section Lemmas

private theorem or_shiftLeft {a b k : Nat} (ha : a < 1 <<< k) : a ||| b <<< k = a + b <<< k := by
  rw [Nat.one_shiftLeft] at ha
  apply Nat.eq_of_testBit_eq
  intro j
  rw [Nat.testBit_or, Nat.testBit_shiftLeft, Nat.shiftLeft_eq,
    show a + b * 2 ^ k = 2 ^ k * b + a by rw [Nat.add_comm, Nat.mul_comm],
    Nat.testBit_mul_pow_two_add b ha]
  by_cases hj : j < k
  · simp [hj]
  · have : a.testBit j = false :=
      Nat.testBit_lt_two_pow (lt_of_lt_of_le ha (Nat.pow_le_pow_right (by decide) (by omega)))
    simp [hj, this]
    omega

private theorem val_lor (x y : U32) : (x ||| y).val = (x.val ||| y.val) % 4294967296 := rfl

private theorem val_shiftLeft (x y : U32) : (x <<< y).val = x.val <<< y.val % 4294967296 := rfl

private theorem u32_byte (x : U8) : (u32 x.toNat).val = x.toNat :=
  Nat.mod_eq_of_lt (by have := x.toNat_lt_size; simp only [UInt8.size] at this; omega)

private theorem orWord_eq (data : Bytes) (i : Nat) : orWord data i = leU32 data i := by
  have hb (n : Nat) : (data.getD n 0).toNat < 256 := (data.getD n 0).toNat_lt_size
  have h0 := hb i; have h1 := hb (i+1); have h2 := hb (i+2); have h3 := hb (i+3)
  apply Fin.ext
  simp only [orWord, leU32, leU16, val_lor, val_shiftLeft, u32_byte]
  generalize (data.getD i 0).toNat = a at h0 ⊢
  generalize (data.getD (i+1) 0).toNat = b at h1 ⊢
  generalize (data.getD (i+2) 0).toNat = c at h2 ⊢
  generalize (data.getD (i+2+1) 0).toNat = d at h3 ⊢
  have s8 : b <<< 8 = b * 256 := Nat.shiftLeft_eq b 8
  have s16 : c <<< 16 = c * 65536 := Nat.shiftLeft_eq c 16
  have s24 : d <<< 24 = d * 16777216 := Nat.shiftLeft_eq d 24
  rw [show ((8 : U32) : Nat) = 8 from rfl, show ((16 : U32) : Nat) = 16 from rfl,
    show ((24 : U32) : Nat) = 24 from rfl, Nat.mod_eq_of_lt (show b <<< 8 < 4294967296 by omega),
    or_shiftLeft (show a < 1 <<< 8 by rw [Nat.one_shiftLeft]; omega), Nat.mod_eq_of_lt (show a + b <<< 8 < 4294967296 by omega),
    Nat.mod_eq_of_lt (show c <<< 16 < 4294967296 by omega),
    or_shiftLeft (show a + b <<< 8 < 1 <<< 16 by rw [Nat.one_shiftLeft]; omega),
    Nat.mod_eq_of_lt (show a + b <<< 8 + c <<< 16 < 4294967296 by omega),
    Nat.mod_eq_of_lt (show d <<< 24 < 4294967296 by omega),
    or_shiftLeft (show a + b <<< 8 + c <<< 16 < 1 <<< 24 by rw [Nat.one_shiftLeft]; omega),
    Nat.mod_eq_of_lt (show a + b <<< 8 + c <<< 16 + d <<< 24 < 4294967296 by omega)]
  omega

theorem PDBInfo.encode_length (info : PDBInfo) : info.encode.length = 28 := by
  simp [PDBInfo.encode, encU32, info.guid_length]

private theorem parsePDBInfo_encode (info : PDBInfo) (rest : Bytes) :
    parsePDBInfo (info.encode ++ rest) = .ok info := by
  obtain ⟨v, s, a, g, hg⟩ := info
  have hlen : ¬ (PDBInfo.encode ⟨v, s, a, g, hg⟩ ++ rest).length < 28 := by
    rw [List.length_append, PDBInfo.encode_length]; omega
  rw [parsePDBInfo, dif_neg hlen]
  simp only [PDBInfo.encode, orWord_eq, List.append_assoc, PDBInfo.mk.injEq, Except.ok.injEq]
  have e4 := leU32_at_encU32 (encU32 v.val) s (encU32 a.val ++ (g ++ rest))
  have e8 := leU32_at_encU32 (encU32 v.val ++ encU32 s.val) a (g ++ rest)
  simp only [encU32_length, List.length_append, List.append_assoc, Nat.reduceAdd] at e4 e8
  refine ⟨leU32_at_encU32 [] v _, e4, e8, ?_⟩
  rw [← List.append_assoc, ← List.append_assoc, List.drop_left' (by simp), List.take_left' hg]

private theorem parsePDBInfo_ok_encode {data : Bytes} {info : PDBInfo} (h : parsePDBInfo data = .ok info) :
    data.take 28 = info.encode := by
  unfold parsePDBInfo at h
  split_ifs at h with hlen
  cases h
  simp only [PDBInfo.encode, orWord_eq, encU32_leU32 data 0 (by omega),
    encU32_leU32 data 4 (by omega), encU32_leU32 data 8 (by omega), List.drop_zero]
  rw [show 28 = 4 + (4 + (4 + 16)) from rfl, List.take_add, List.take_add, List.take_add,
    List.drop_drop, List.drop_drop]
  simp only [List.append_assoc, Nat.reduceAdd]

end Lemmas

/-- The PDB info stream's layout: loadPDBInfo accepts exactly the streams of at least 28 bytes,
and then decodes the info whose encoding the first 28 bytes are; a shorter stream is rejected
as too short. -/
theorem pdbInfo_layout (data : Bytes) :
    (∀ info, parsePDBInfo data = .ok info ↔ data.take 28 = info.encode) ∧
    (∀ e, parsePDBInfo data = .error e ↔
      data.length < 28 ∧ e = .errorf "pdb: PDB info stream too short" []) := by
  refine ⟨fun info => ⟨parsePDBInfo_ok_encode, fun h => ?_⟩, fun e => ?_⟩
  · rw [← List.take_append_drop 28 data, h, parsePDBInfo_encode]
  · unfold parsePDBInfo
    split_ifs with hlen
    · exact ⟨fun h => ⟨hlen, by cases h; rfl⟩, fun h => by rw [h.2]⟩
    · exact ⟨fun h => (by cases h), fun h => absurd h.1 hlen⟩

/-- The stream OpenStream(1) opens once the directory is read. -/
def pdbInfoStream (f : Msf.File) (dir : Msf.StreamDirectory) : Msf.Stream :=
  Msf.newStream f.data (dir.streamBlocks.getD 1 []) f.superBlock.blockSize (dir.streamSizes.getD 1 0)

/-- Info on a file whose cache is empty, once the directory has been read and lists a stream 1
whose blocks the source holds: it returns the decoding of stream 1's bytes, reading them through
the stream, and caches it, so the next call returns the same result and reads nothing. -/
theorem info_decodes_stream (f : File) (dir : Msf.StreamDirectory) (hfresh : f.pdbInfoOnce = none)
    (hdir : f.msf.directory.1.1 = .ret (.ok dir)) (hidx : streamPDBInfo < dir.numStreams)
    (hnil : dir.streamSizes.getD 1 0 ≠ Msf.nilStreamSize) (hb : (pdbInfoStream f.msf dir).Backed) :
    ∃ reads, f.info.1 =
        (.ret (parsePDBInfo ((pdbInfoStream f.msf dir).slice 0 (dir.streamSizes.getD 1 0).val)), reads) ∧
      f.info.2.info = ((.ret (parsePDBInfo
        ((pdbInfoStream f.msf dir).slice 0 (dir.streamSizes.getD 1 0).val)), []), f.info.2) := by
  obtain ⟨reads, hbytes⟩ := Msf.Stream.bytes_spec _ hb
  have hval : (streamPDBInfo : Nat) = 1 := rfl
  have hread : (f.msf.readStream streamPDBInfo).1 =
      (.ret (.ok ((pdbInfoStream f.msf dir).slice 0 (dir.streamSizes.getD 1 0).val)),
        f.msf.directory.1.2 ++ reads) := by
    simp only [pdbInfoStream] at hbytes
    simp only [Msf.File.readStream, Msf.File.openStream, Msf.Run.andThen, hdir, hval,
      if_neg (fun h => Fin.not_lt.mpr h hidx), if_neg hnil, hbytes, List.append_nil]
    rfl
  refine ⟨f.msf.directory.1.2 ++ reads, ?_, ?_⟩ <;> simp only [File.info, hfresh, loadPDBInfo, hread]

/-- The directory of a file of two 512-byte blocks whose stream 1 is 28 bytes in block 1. -/
def sampleInfoDirectory : Msf.StreamDirectory := ⟨2, [0, 28], [[], [1]]⟩

/-- A file with that directory already read and Info not yet called. -/
def sampleInfoFile : File :=
  ⟨⟨List.replicate 1024 0, 1024, ⟨Msf.magic, 512, 1, 2, 0, 0, 0⟩, some (.ok sampleInfoDirectory),
    by decide, by decide⟩, none⟩

theorem info_decodes_stream_sample :
    sampleInfoFile.pdbInfoOnce = none ∧
      sampleInfoFile.msf.directory.1.1 = .ret (.ok sampleInfoDirectory) ∧
      streamPDBInfo < sampleInfoDirectory.numStreams ∧
      sampleInfoDirectory.streamSizes.getD 1 0 ≠ Msf.nilStreamSize ∧
      (pdbInfoStream sampleInfoFile.msf sampleInfoDirectory).Backed ∧
      ∃ reads, sampleInfoFile.info.1 = (.ret (parsePDBInfo ((pdbInfoStream sampleInfoFile.msf
          sampleInfoDirectory).slice 0 (sampleInfoDirectory.streamSizes.getD 1 0).val)), reads) ∧
        sampleInfoFile.info.2.info = ((.ret (parsePDBInfo ((pdbInfoStream sampleInfoFile.msf
          sampleInfoDirectory).slice 0 (sampleInfoDirectory.streamSizes.getD 1 0).val)), []),
          sampleInfoFile.info.2) := by
  have hb : (pdbInfoStream sampleInfoFile.msf sampleInfoDirectory).Backed :=
    ⟨by decide, by decide, by
      show ∀ i < (28 + 512 - 1) / 512, ((([1] : List U32).getD i 0).val + 1) * 512 ≤
        (List.replicate 1024 (0 : U8)).length
      rw [List.length_replicate]
      decide⟩
  exact ⟨rfl, rfl, by decide, by decide, hb,
    info_decodes_stream sampleInfoFile sampleInfoDirectory rfl rfl (by decide) (by decide) hb⟩

end PdbGo.Pdb
