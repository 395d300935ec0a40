import PdbGo.Msf.File

/-! An MSF file written from its block size and streams: NewFile accepts it, and every run of
ReadStream calls returns each stream as it was written. -/
namespace PdbGo.Msf

/-- Little-endian `uint32` words, one after another. -/
def encodeWords (ws : List U32) : Bytes := (ws.map fun w => encU32 w.val).flatten

/-- `bs`, zero-filled to `n` bytes. -/
def padTo (bs : Bytes) (n : Nat) : Bytes := bs ++ List.replicate (n - bs.length) 0

@[simp] private theorem encodeWords_nil : encodeWords [] = [] := rfl

@[simp] private theorem encodeWords_cons (w : U32) (ws : List U32) :
    encodeWords (w :: ws) = encU32 w.val ++ encodeWords ws := rfl

@[simp] private theorem encodeWords_append (ws vs : List U32) :
    encodeWords (ws ++ vs) = encodeWords ws ++ encodeWords vs := by
  simp [encodeWords]

@[simp] private theorem encodeWords_length (ws : List U32) : (encodeWords ws).length = 4 * ws.length := by
  induction ws <;> simp [*]; omega

private theorem padTo_length {bs : Bytes} {n : Nat} (h : bs.length ≤ n) : (padTo bs n).length = n := by
  simp [padTo]; omega

private theorem le_ceil_mul (n : Nat) {B : Nat} (hB : 0 < B) : n ≤ (n + B - 1) / B * B := by
  have := Nat.lt_div_mul_add (a := n + B - 1) hB
  omega

/-! Reads that lie inside the file never fail. -/

/-- The call does not end in an error: it returns a value, panics or hangs. -/
def Run.NoError {α : Type} (x : Run α) : Prop := ∀ e, x.1 ≠ .ret (.error e)

section Reads
variable {α β : Type}

private theorem Run.ok_of_okOrError {x : Run α} {v : α} (h : x.okOrError v) (hx : x.NoError) :
    x.1 = .ret (.ok v) :=
  h.elim (fun ⟨e, he⟩ => absurd he (hx e)) id

private theorem Run.andThen_noError {x : Run α} {f : α → Run β} (hx : x.NoError)
    (hf : ∀ a, (f a).NoError) : (x.andThen f).NoError := by
  intro e
  unfold Run.andThen
  split
  · exact hf _ e
  · exact absurd ‹_› (hx _)
  all_goals simp

private theorem sourceReadAt_snd {src : Bytes} {len off : Nat} (h : off + len ≤ src.length)
    (h0 : off < src.length) : (sourceReadAt src len off).2 = none := by
  unfold sourceReadAt
  simp only [ge_iff_le, Nat.not_le.mpr h0, if_false, List.length_take, List.length_drop]
  rw [if_neg (by omega)]

private theorem readBlockMapBlocks_noError (sb : SuperBlock) (data : Bytes) (hB : 0 < sb.blockSize.val) :
    ∀ k i, sb.blockMapAddr.val + i + k ≤ 4294967296 →
      (sb.blockMapAddr.val + i + k) * sb.blockSize.val ≤ data.length →
      (readBlockMapBlocks sb data k i).NoError
  | 0, _, _, _ => by simp [Run.NoError, readBlockMapBlocks]
  | k+1, i, h, hd => by
    have hoff : sb.blockOffset (sb.blockMapAddr + u32 i) =
        (sb.blockMapAddr.val + i) * sb.blockSize.val := by
      rw [SuperBlock.blockOffset, add_u32_val _ _ (by omega)]
    have hin : (sb.blockMapAddr.val + i) * sb.blockSize.val + sb.blockSize.val ≤ data.length := by
      rw [← Nat.succ_mul]; exact (Nat.mul_le_mul_right _ (by omega)).trans hd
    have ih := readBlockMapBlocks_noError sb data hB k (i+1) (by omega)
      (by rwa [show sb.blockMapAddr.val + (i + 1) + k = sb.blockMapAddr.val + i + (k + 1) by omega])
    simp only [readBlockMapBlocks, hoff, sourceReadAt_snd hin (by omega)]
    intro e
    have ih : ∀ e, (readBlockMapBlocks sb data k (i + 1)).1 ≠ .ret (.error e) := ih
    revert ih
    generalize (readBlockMapBlocks sb data k (i + 1)).1 = o
    rcases o with (_ | _) | _ | _ <;> simp_all

private theorem readDirectoryLoop_noError (sb : SuperBlock) (data : Bytes) (hB : 0 < sb.blockSize.val)
    (hd : sb.numBlocks.val * sb.blockSize.val ≤ data.length) :
    ∀ bs i remaining buf, (∀ b ∈ bs, b < sb.numBlocks) →
      (readDirectoryLoop sb data bs i remaining buf).NoError
  | [], _, _, _, _ => by simp [Run.NoError, readDirectoryLoop]
  | b :: bs, i, remaining, buf, hb => by
    have hbN : b.val + 1 ≤ sb.numBlocks.val := hb b (List.mem_cons_self _ _)
    have hin : sb.blockOffset b + (blockToRead sb.blockSize remaining).val ≤ data.length := by
      have := (Nat.mul_le_mul_right sb.blockSize.val hbN).trans hd
      rw [Nat.succ_mul] at this
      simp only [SuperBlock.blockOffset, blockToRead_val]; omega
    have h0 : sb.blockOffset b < data.length := by
      have := Nat.mul_lt_mul_of_pos_right (show b.val < sb.numBlocks.val by omega) hB
      simp only [SuperBlock.blockOffset]; omega
    have ih := readDirectoryLoop_noError sb data hB hd bs
    simp only [readDirectoryLoop, ge_iff_le, Fin.le_def, Nat.not_le.mpr hbN, if_false]
    split_ifs
    · simp [Run.NoError]
    · simp only [sourceReadAt_snd hin h0]
      exact ih _ _ _ fun b' hb' => hb b' (List.mem_cons_of_mem _ hb')

private theorem u32_val_of_lt {n : Nat} (h : n < 4294967296) : (u32 n).val = n := Nat.mod_eq_of_lt h

private theorem words_encodeWords {D : Bytes} {o : Nat} (ws : List U32) (rest : Bytes)
    (h : D.drop o = encodeWords ws ++ rest) : words D o ws.length = ws := by
  induction ws generalizing o with
  | nil => rfl
  | cons w ws ih =>
    rw [encodeWords_cons, List.append_assoc] at h
    have hw : leU32 D o = w := by
      have hd := leU32_drop D o 0
      rw [Nat.add_zero, h, leU32_encU32 _ w.isLt] at hd
      exact hd.symm
    have hrest : D.drop (o + 4) = encodeWords ws ++ rest := by
      rw [← List.drop_drop, h, List.drop_left' (encU32_length _)]
    rw [List.length_cons, words, hw, ih hrest]

private theorem blocksFrom_eq (data : Bytes) (B start k : Nat) :
    blocksFrom data B start k = (data.drop (start * B)).take (k * B) := by
  induction k generalizing start with
  | zero => simp [blocksFrom]
  | succ k ih =>
    rw [blocksFrom, ih, blockAt, Nat.succ_mul start, Nat.succ_mul k, Nat.add_comm (k * B) B,
      List.take_add, List.drop_drop]

private theorem flatten_blockAt (data : Bytes) (B start k : Nat) (h : start + k ≤ 4294967296) :
    (((List.range' start k).map u32).map fun b => blockAt data B b.val).flatten =
      blocksFrom data B start k := by
  induction k generalizing start with
  | zero => rfl
  | succ k ih =>
    rw [List.range'_succ, List.map_cons, List.map_cons, List.flatten_cons,
      ih (start + 1) (by omega), blocksFrom, u32_val_of_lt (by omega)]

private theorem directoryData_ok (sb : SuperBlock) (data : Bytes) (hv : sb.validate = none)
    (hD : sb.numDirectoryBytes.val + sb.blockSize.val - 1 < 4294967296)
    (hA : sb.blockMapAddr.val + blockMapBlockCount sb ≤ sb.numBlocks.val)
    (hN : sb.fileSize ≤ data.length) (hbm : ∀ b ∈ blockMapIndices sb data, b < sb.numBlocks) :
    (directoryData sb data).1 = .ret (.ok (directoryContents sb data)) := by
  have hB := validate_blockSize_pos hv
  have hB0 : sb.blockSize ≠ 0 := fun h => by simp [h] at hB
  have hm := numBlockMapBlocks_le sb hv
  have hmap : (readBlockMap sb data).1 = .ret (.ok (blockMapIndices sb data)) := by
    refine Run.ok_of_okOrError (readBlockMap_spec sb data hv hD (by omega)) ?_
    simp only [readBlockMap, if_neg hB0]
    refine Run.andThen_noError (readBlockMapBlocks_noError sb data hB _ 0 (by omega) ?_)
      fun _ _ => by simp
    exact (Nat.mul_le_mul_right _ (by omega)).trans hN
  have hloop := readDirectoryLoop_spec sb data hB (blockMapIndices sb data) 0
    sb.numDirectoryBytes []
    (by simp) (by simp) (by simp [blockMapIndices, directoryBlockCount])
  rw [List.nil_append, List.nil_append] at hloop
  simp only [directoryData, Run.andThen, hmap]
  exact Run.ok_of_okOrError hloop (readDirectoryLoop_noError sb data hB hN _ _ _ _ hbm)

end Reads

/-- An MSF file to write: its block size, and its streams in order, `none` for a nil stream. -/
structure Layout where
  blockSize : Nat
  streams : List (Option Bytes)
  deriving DecidableEq, Repr

namespace Layout
variable (l : Layout)

/-- The blocks a stream takes: its size over the block size, rounded up; none for a nil one. -/
def blocksOf (s : Option Bytes) : Nat := ((s.getD []).length + l.blockSize - 1) / l.blockSize

/-- The size the directory records for a stream: NilStreamSize for a nil one. -/
def sizeOf : Option Bytes → U32
  | none => nilStreamSize
  | some bs => u32 bs.length

/-- Each stream's block numbers, consecutive from block `start`, stream after stream. -/
def allocate : List (Option Bytes) → Nat → List (List U32)
  | [], _ => []
  | s :: ss, start =>
    (List.range' start (l.blocksOf s)).map u32 :: allocate ss (start + l.blocksOf s)

/-- The directory: the stream count, the stream sizes, and the streams' blocks from block 3. -/
def directory : StreamDirectory :=
  ⟨u32 l.streams.length, l.streams.map sizeOf, l.allocate l.streams 3⟩

/-- The directory as ParseDirectory reads it. -/
def directoryBytes : Bytes :=
  encU32 l.streams.length ++ encodeWords l.directory.streamSizes ++
    encodeWords l.directory.streamBlocks.flatten

/-- The blocks the streams take together. -/
def totalBlocks : List (Option Bytes) → Nat
  | [] => 0
  | s :: ss => l.blocksOf s + totalBlocks ss

/-- The first block of the directory, right after the streams' blocks. -/
def directoryStart : Nat := 3 + l.totalBlocks l.streams

def directoryBlocks : Nat := (l.directoryBytes.length + l.blockSize - 1) / l.blockSize

/-- The block map's first block, right after the directory. -/
def blockMapAddr : Nat := l.directoryStart + l.directoryBlocks

def blockMapBlocks : Nat := (4 * l.directoryBlocks + l.blockSize - 1) / l.blockSize

def numBlocks : Nat := l.blockMapAddr + l.blockMapBlocks

/-- The block map: the directory's block numbers. -/
def blockMap : List U32 := (List.range' l.directoryStart l.directoryBlocks).map u32

def superBlock : SuperBlock :=
  ⟨magic, u32 l.blockSize, 1, u32 l.numBlocks, u32 l.directoryBytes.length, 0,
    u32 l.blockMapAddr⟩

/-- The superblock's 56 bytes: the magic, then its six words in order. -/
def superBlockBytes : Bytes :=
  magic ++ encodeWords [l.superBlock.blockSize, l.superBlock.freeBlockMapBlock,
    l.superBlock.numBlocks, l.superBlock.numDirectoryBytes, l.superBlock.unknown,
    l.superBlock.blockMapAddr]

/-- A stream's bytes, zero-filled to its blocks. -/
def streamBytes (s : Option Bytes) : Bytes := padTo (s.getD []) (l.blocksOf s * l.blockSize)

def bytes : Bytes :=
  padTo l.superBlockBytes l.blockSize ++ List.replicate (2 * l.blockSize) 0 ++
    (l.streams.map l.streamBytes).flatten ++
    padTo l.directoryBytes (l.directoryBlocks * l.blockSize) ++
    padTo (encodeWords l.blockMap) (l.blockMapBlocks * l.blockSize)

/-- What ReadStream returns for stream `i` of the file. -/
def streamResult (i : Nat) : Except GoError Bytes :=
  match l.streams[i]? with
  | some (some bs) => .ok bs
  | some none => .error (.errorf "msf: stream %d is nil" [i])
  | none => .error (.wrapf "%w: %d" errInvalidStreamIndex [i])

/-- What the writer needs: a block size that Validate accepts, and fewer than `2^32` bytes in
all, so that every size, block number and offset fits its `uint32`. -/
structure Valid : Prop where
  blockSize_mem : l.blockSize ∈ [512, 1024, 2048, 4096, 8192, 16384, 32768, 65536]
  size_lt : l.numBlocks * l.blockSize < 4294967296

end Layout

/-- A run of ReadStream calls on one file, each on the file the call before left behind, so
that the directory the first call reads is the one the later calls find cached. -/
def File.readStreams (f : File) : List U32 → List (Outcome (Except GoError Bytes))
  | [] => []
  | i :: is => (f.readStream i).1.1 :: (f.readStream i).2.readStreams is

namespace Layout
variable {l : Layout}

/-! Where each part of the file lies. -/

private theorem blockSize_bounds (hv : l.Valid) : 512 ≤ l.blockSize ∧ l.blockSize ≤ 65536 := by
  have hm := hv.blockSize_mem
  simp only [List.mem_cons, List.mem_singleton, List.not_mem_nil, or_false] at hm
  omega

theorem blockSize_pos (hv : l.Valid) : 0 < l.blockSize := by
  have := blockSize_bounds hv
  omega

private theorem streamBytes_length (hB : 0 < l.blockSize) (s : Option Bytes) :
    (l.streamBytes s).length = l.blocksOf s * l.blockSize :=
  padTo_length (le_ceil_mul _ hB)

private theorem streamsBytes_length (hB : 0 < l.blockSize) (ss : List (Option Bytes)) :
    (ss.map l.streamBytes).flatten.length = l.totalBlocks ss * l.blockSize := by
  induction ss with
  | nil => simp [totalBlocks]
  | cons s ss ih => simp [ih, streamBytes_length hB, totalBlocks, Nat.add_mul]

private theorem superBlockBytes_length : l.superBlockBytes.length = 56 := rfl

private theorem directoryBytes_le (hB : 0 < l.blockSize) :
    l.directoryBytes.length ≤ l.directoryBlocks * l.blockSize :=
  le_ceil_mul _ hB

private theorem blockMap_length : l.blockMap.length = l.directoryBlocks := by simp [blockMap]

private theorem bytes_eq :
    l.bytes = (padTo l.superBlockBytes l.blockSize ++ List.replicate (2 * l.blockSize) 0) ++
      ((l.streams.map l.streamBytes).flatten ++
        (padTo l.directoryBytes (l.directoryBlocks * l.blockSize) ++
          padTo (encodeWords l.blockMap) (l.blockMapBlocks * l.blockSize))) := by
  simp only [bytes, List.append_assoc]

private theorem header_length (hv : l.Valid) :
    (padTo l.superBlockBytes l.blockSize ++ List.replicate (2 * l.blockSize) 0).length =
      3 * l.blockSize := by
  have := blockSize_bounds hv
  rw [List.length_append, padTo_length (by rw [superBlockBytes_length]; omega),
    List.length_replicate]
  omega

private theorem directoryPart_length (hv : l.Valid) :
    (padTo l.directoryBytes (l.directoryBlocks * l.blockSize)).length =
      l.directoryBlocks * l.blockSize :=
  padTo_length (directoryBytes_le (blockSize_pos hv))

private theorem blockMapPart_length (hv : l.Valid) :
    (padTo (encodeWords l.blockMap) (l.blockMapBlocks * l.blockSize)).length =
      l.blockMapBlocks * l.blockSize :=
  padTo_length (by
    rw [encodeWords_length, blockMap_length]
    exact le_ceil_mul _ (blockSize_pos hv))

private theorem bytes_length (hv : l.Valid) : l.bytes.length = l.numBlocks * l.blockSize := by
  have hB := blockSize_bounds hv
  rw [bytes_eq, List.length_append, header_length hv, List.length_append, List.length_append,
    streamsBytes_length (by omega), directoryPart_length hv, blockMapPart_length hv]
  simp only [numBlocks, blockMapAddr, directoryStart, Nat.add_mul]
  omega

private theorem numBlocks_lt (hv : l.Valid) : l.numBlocks < 4294967296 := by
  have := blockSize_bounds hv
  have := Nat.le_mul_of_pos_right l.numBlocks (show 0 < l.blockSize by omega)
  have := hv.size_lt
  omega

private theorem directoryBytes_lt (hv : l.Valid) :
    l.directoryBytes.length + l.blockSize ≤ l.numBlocks * l.blockSize := by
  have := directoryBytes_le (l := l) (blockSize_pos hv)
  have : (l.directoryBlocks + 1) * l.blockSize ≤ l.numBlocks * l.blockSize :=
    Nat.mul_le_mul_right _ (by simp only [numBlocks, blockMapAddr, directoryStart]; omega)
  rw [Nat.succ_mul] at this
  omega

@[simp] private theorem superBlock_blockSize (hv : l.Valid) : l.superBlock.blockSize.val = l.blockSize :=
  u32_val_of_lt (by have := blockSize_bounds hv; omega)

@[simp] private theorem superBlock_numBlocks (hv : l.Valid) : l.superBlock.numBlocks.val = l.numBlocks :=
  u32_val_of_lt (numBlocks_lt hv)

@[simp] private theorem superBlock_numDirectoryBytes (hv : l.Valid) :
    l.superBlock.numDirectoryBytes.val = l.directoryBytes.length :=
  u32_val_of_lt (by have := directoryBytes_lt hv; have := hv.size_lt; omega)

@[simp] private theorem superBlock_blockMapAddr (hv : l.Valid) :
    l.superBlock.blockMapAddr.val = l.blockMapAddr :=
  u32_val_of_lt (by have := numBlocks_lt hv; simp only [numBlocks] at this; omega)

private theorem superBlock_validate (hv : l.Valid) : l.superBlock.validate = none :=
  (by decide : ∀ B ∈ [512, 1024, 2048, 4096, 8192, 16384, 32768, 65536],
    SuperBlock.validate ⟨magic, u32 B, 1, 0, 0, 0, 0⟩ = none) l.blockSize hv.blockSize_mem

private theorem readSuperBlock_layout (hv : l.Valid) :
    readSuperBlock l.superBlockBytes = .ok l.superBlock := by
  have hw := words_encodeWords (D := l.superBlockBytes) (o := 32)
    [l.superBlock.blockSize, l.superBlock.freeBlockMapBlock, l.superBlock.numBlocks,
      l.superBlock.numDirectoryBytes, l.superBlock.unknown, l.superBlock.blockMapAddr] []
    (by rw [superBlockBytes, List.drop_left' (show magic.length = 32 from rfl), List.append_nil])
  simp only [List.length_cons, List.length_nil, words, List.cons.injEq, and_true] at hw
  obtain ⟨h32, h36, h40, h44, h48, h52⟩ := hw
  have hmagic : l.superBlockBytes.take 32 = magic := List.take_left' rfl
  unfold readSuperBlock
  rw [if_neg (by rw [superBlockBytes_length]; decide)]
  simp only [hmagic, h32, h36, h40, h44, h48, h52]
  rw [show (⟨magic, l.superBlock.blockSize, l.superBlock.freeBlockMapBlock,
      l.superBlock.numBlocks, l.superBlock.numDirectoryBytes, l.superBlock.unknown,
      l.superBlock.blockMapAddr⟩ : SuperBlock) = l.superBlock from rfl, superBlock_validate hv]

private theorem header_le (hv : l.Valid) : 3 * l.blockSize ≤ l.bytes.length := by
  rw [bytes_length hv]
  exact Nat.mul_le_mul_right _ (by simp only [numBlocks, blockMapAddr, directoryStart]; omega)

private theorem sourceReadAt_superBlock (hv : l.Valid) :
    sourceReadAt l.bytes superBlockSize 0 = (l.superBlockBytes, none) := by
  have hB := blockSize_bounds hv
  have := header_le hv
  rw [sourceReadAt_of_le (by simp only [superBlockSize]; omega) (by decide), List.drop_zero,
    bytes_eq, padTo, List.append_assoc, List.append_assoc,
    List.take_left' (show l.superBlockBytes.length = superBlockSize from rfl)]

/-- A file opened on the written bytes: its source and superblock are the written ones, and its
directory is not read yet or was read as the written one. -/
structure Opened (l : Layout) (f : File) : Prop where
  data : f.data = l.bytes
  superBlock : f.superBlock = l.superBlock
  dirOnce : f.dirOnce = none ∨ f.dirOnce = some (.ok l.directory)

private theorem newFile_layout (hv : l.Valid) :
    ∃ f, newFile l.bytes l.bytes.length = (.ret (.ok f), [⟨0, 56⟩]) ∧ l.Opened f := by
  have hB := blockSize_bounds hv
  have := header_le hv
  unfold newFile
  rw [if_neg (by simp only [superBlockSize]; omega)]
  simp only [sourceReadAt_superBlock hv]
  split
  · rename_i h; rw [sourceReadAt_superBlock hv, readSuperBlock_layout hv] at h; cases h
  · rename_i sb h
    rw [sourceReadAt_superBlock hv, readSuperBlock_layout hv] at h
    cases h
    rw [dif_neg (by
      simp only [SuperBlock.fileSize, superBlock_numBlocks hv, superBlock_blockSize hv,
        ← bytes_length hv]
      omega)]
    exact ⟨_, rfl, rfl, rfl, .inl rfl⟩

/-! The directory and its block map read back. -/

private theorem directoryBytes_eq : l.directoryBytes = encU32 l.streams.length ++
    encodeWords (l.streams.map sizeOf) ++ encodeWords (l.allocate l.streams 3).flatten := rfl

private theorem directoryBlockCount_superBlock (hv : l.Valid) :
    directoryBlockCount l.superBlock = l.directoryBlocks := by
  simp only [directoryBlockCount, superBlock_numDirectoryBytes hv, superBlock_blockSize hv,
    directoryBlocks]

private theorem blockMapBlockCount_superBlock (hv : l.Valid) :
    blockMapBlockCount l.superBlock = l.blockMapBlocks := by
  simp only [blockMapBlockCount, directoryBlockCount_superBlock hv, superBlock_blockSize hv,
    blockMapBlocks]

private theorem bytes_drop_directory (hv : l.Valid) :
    l.bytes.drop (l.directoryStart * l.blockSize) =
      padTo l.directoryBytes (l.directoryBlocks * l.blockSize) ++
        padTo (encodeWords l.blockMap) (l.blockMapBlocks * l.blockSize) := by
  rw [bytes_eq, ← List.append_assoc]
  apply List.drop_left'
  rw [List.length_append, header_length hv,
    streamsBytes_length (blockSize_pos hv), directoryStart, Nat.add_mul]

private theorem bytes_drop_blockMap (hv : l.Valid) :
    l.bytes.drop (l.blockMapAddr * l.blockSize) =
      padTo (encodeWords l.blockMap) (l.blockMapBlocks * l.blockSize) := by
  rw [blockMapAddr, Nat.add_mul, ← List.drop_drop, bytes_drop_directory hv]
  exact List.drop_left' (directoryPart_length hv)

private theorem blockMapIndices_layout (hv : l.Valid) :
    blockMapIndices l.superBlock l.bytes = l.blockMap := by
  rw [blockMapIndices, superBlock_blockSize hv, superBlock_blockMapAddr hv,
    blockMapBlockCount_superBlock hv, directoryBlockCount_superBlock hv, blocksFrom_eq,
    bytes_drop_blockMap hv, List.take_of_length_le (le_of_eq (blockMapPart_length hv)),
    ← blockMap_length]
  exact words_encodeWords _ _ (by rw [padTo, List.drop_zero])

private theorem blockMap_lt (hv : l.Valid) : ∀ b ∈ l.blockMap, b < l.superBlock.numBlocks := by
  intro b hb
  obtain ⟨j, hj, rfl⟩ := List.mem_map.mp hb
  rw [List.mem_range'_1] at hj
  have := numBlocks_lt hv
  simp only [numBlocks, blockMapAddr] at this
  rw [Fin.lt_def, superBlock_numBlocks hv, u32_val_of_lt (by omega), numBlocks, blockMapAddr]
  omega

private theorem directoryContents_layout (hv : l.Valid) :
    directoryContents l.superBlock l.bytes = l.directoryBytes := by
  have hN := numBlocks_lt hv
  simp only [numBlocks, blockMapAddr] at hN
  rw [directoryContents, blockMapIndices_layout hv, superBlock_blockSize hv,
    superBlock_numDirectoryBytes hv, blockMap,
    flatten_blockAt l.bytes l.blockSize l.directoryStart l.directoryBlocks (by omega),
    blocksFrom_eq, bytes_drop_directory hv,
    List.take_append_of_le_length (le_of_eq (directoryPart_length hv).symm),
    List.take_of_length_le (le_of_eq (directoryPart_length hv)), padTo, List.take_left]

private theorem directoryData_layout (hv : l.Valid) :
    (directoryData l.superBlock l.bytes).1 = .ret (.ok l.directoryBytes) := by
  have := directoryBytes_lt hv
  have := hv.size_lt
  rw [directoryData_ok _ _ (superBlock_validate hv)
    (by rw [superBlock_numDirectoryBytes hv, superBlock_blockSize hv]; omega)
    (by rw [superBlock_blockMapAddr hv, blockMapBlockCount_superBlock hv, superBlock_numBlocks hv]
        rfl)
    (by rw [SuperBlock.fileSize, superBlock_numBlocks hv, superBlock_blockSize hv, bytes_length hv])
    (blockMapIndices_layout hv ▸ blockMap_lt hv), directoryContents_layout hv]

/-! ParseDirectory over the directory written. -/

private theorem blockCount_sizeOf (hB : 512 ≤ l.blockSize) (s : Option Bytes)
    (h : (s.getD []).length + l.blockSize ≤ 4294967296) :
    blockCount l.blockSize (sizeOf s) = l.blocksOf s := by
  cases s with
  | none =>
    simp [blockCount, sizeOf, blocksOf,
      Nat.div_eq_of_lt (show l.blockSize - 1 < l.blockSize by omega)]
  | some bs =>
    simp only [Option.getD_some] at h
    have hv : (u32 bs.length).val = bs.length := u32_val_of_lt (by omega)
    unfold blockCount sizeOf blocksOf
    split_ifs with hc
    · rcases hc with hc | hc <;> have hc := congrArg Fin.val hc <;> rw [hv] at hc
      · simp only [nilStreamSize] at hc; omega
      · simp only [Fin.val_zero] at hc
        simp [hc, Nat.div_eq_of_lt (show l.blockSize - 1 < l.blockSize by omega)]
    · rw [hv, Option.getD_some]

private theorem expectedBlocks_allocate (hB : 512 ≤ l.blockSize) {D : Bytes} (rest : Bytes) :
    ∀ (ss : List (Option Bytes)) (start offset : Nat),
      (∀ s ∈ ss, (s.getD []).length + l.blockSize ≤ 4294967296) →
      D.drop offset = encodeWords (l.allocate ss start).flatten ++ rest →
      expectedBlocks D l.blockSize (ss.map sizeOf) offset = l.allocate ss start ∧
        totalBlockCount l.blockSize (ss.map sizeOf) = (l.allocate ss start).flatten.length
  | [], _, _, _, _ => ⟨rfl, rfl⟩
  | s :: ss, start, offset, hs, hD => by
    have hc := blockCount_sizeOf hB s (hs s (List.mem_cons_self _ _))
    simp only [allocate, List.flatten_cons, encodeWords_append, List.append_assoc] at hD
    have hwords := words_encodeWords _ _ hD
    rw [List.length_map, List.length_range'] at hwords
    have hrest : D.drop (offset + 4 * l.blocksOf s) =
        encodeWords (l.allocate ss (start + l.blocksOf s)).flatten ++ rest := by
      rw [← List.drop_drop, hD, List.drop_left' (by simp)]
    obtain ⟨ih1, ih2⟩ := expectedBlocks_allocate hB rest ss (start + l.blocksOf s) _
      (fun s' h' => hs s' (List.mem_cons_of_mem _ h')) hrest
    simp only [List.map_cons, expectedBlocks, totalBlockCount, hc, hwords, ih1, ih2, allocate,
      List.flatten_cons, List.length_append, List.length_map, List.length_range', and_self]

private theorem allocate_getD (hB : 0 < l.blockSize) :
    ∀ (ss : List (Option Bytes)) (start i : Nat) (hi : i < ss.length),
      ∃ a, (l.allocate ss start).getD i [] = (List.range' a (l.blocksOf ss[i])).map u32 ∧
        start ≤ a ∧ a + l.blocksOf ss[i] ≤ start + l.totalBlocks ss ∧
        ∃ rest, (ss.map l.streamBytes).flatten.drop ((a - start) * l.blockSize) =
          l.streamBytes ss[i] ++ rest
  | [], _, _, hi => absurd hi (Nat.not_lt_zero _)
  | s :: ss, start, 0, _ =>
    ⟨start, rfl, le_rfl, by simp [totalBlocks], (ss.map l.streamBytes).flatten, by simp⟩
  | s :: ss, start, i + 1, hi => by
    obtain ⟨a, hget, hle, hend, rest, hdrop⟩ :=
      allocate_getD hB ss (start + l.blocksOf s) i (by simpa using hi)
    have hend' : a + l.blocksOf (s :: ss)[i + 1] ≤ start + l.totalBlocks (s :: ss) := by
      simp only [totalBlocks, List.getElem_cons_succ]
      omega
    refine ⟨a, hget, by omega, hend', rest, ?_⟩
    rw [show (a - start) * l.blockSize =
        (l.streamBytes s).length + (a - (start + l.blocksOf s)) * l.blockSize by
      rw [streamBytes_length hB, ← Nat.add_mul]; congr 1; omega,
      List.map_cons, List.flatten_cons, ← List.drop_drop, List.drop_left]
    exact hdrop

private theorem stream_fits (hv : l.Valid) {s : Option Bytes} (hs : s ∈ l.streams) :
    (s.getD []).length + l.blockSize ≤ 4294967296 := by
  have hB := blockSize_bounds hv
  have hB0 : 0 < l.blockSize := by omega
  obtain ⟨i, hi, rfl⟩ := List.getElem_of_mem hs
  obtain ⟨a, -, ha, hend, -⟩ := allocate_getD hB0 l.streams 3 i hi
  have hc : (l.blocksOf l.streams[i] + 1) * l.blockSize ≤ l.numBlocks * l.blockSize :=
    Nat.mul_le_mul_right _ (by simp only [numBlocks, blockMapAddr, directoryStart]; omega)
  have := le_ceil_mul (l.streams[i].getD []).length hB0
  have := hv.size_lt
  rw [Nat.succ_mul] at hc
  simp only [blocksOf] at hc
  omega

private theorem parseDirectory_layout (hv : l.Valid) :
    parseDirectory l.directoryBytes (u32 l.blockSize) = .ret (.ok l.directory) := by
  have hB := blockSize_bounds hv
  have hlt := directoryBytes_lt hv
  have hsize := hv.size_lt
  have hlen : l.directoryBytes.length =
      4 + l.streams.length * 4 + 4 * (l.allocate l.streams 3).flatten.length := by
    simp only [directoryBytes_eq, List.length_append, encU32_length, encodeWords_length,
      List.length_map]
    omega
  have hn : l.streams.length < 4294967296 := by omega
  have hB' : (u32 l.blockSize).val = l.blockSize := u32_val_of_lt (by omega)
  have h0 : leU32 l.directoryBytes 0 = u32 l.streams.length := by
    rw [directoryBytes_eq, List.append_assoc, leU32_encU32 _ hn]
    exact Fin.ext (u32_val_of_lt hn).symm
  have hsizes : words l.directoryBytes 4 l.streams.length = l.streams.map sizeOf := by
    have := words_encodeWords (D := l.directoryBytes) (o := 4) (l.streams.map sizeOf) _
      (by rw [directoryBytes_eq, List.append_assoc, List.drop_left' (encU32_length _)])
    rwa [List.length_map] at this
  obtain ⟨he, ht⟩ := expectedBlocks_allocate (D := l.directoryBytes) hB.1 [] l.streams 3
    (4 + l.streams.length * 4) (fun s hs => stream_fits hv hs)
    (by rw [directoryBytes_eq, List.append_nil, List.drop_left' (by simp; omega)])
  have hwrap : ∀ size ∈ l.streams.map sizeOf, size ≠ nilStreamSize →
      size.val + (u32 l.blockSize).val - 1 < 4294967296 := by
    intro size hsize hnil
    obtain ⟨s, hs, rfl⟩ := List.mem_map.mp hsize
    cases s with
    | none => exact absurd rfl hnil
    | some bs =>
      have := stream_fits hv hs
      simp only [Option.getD_some] at this
      rw [sizeOf, u32_val_of_lt (by omega), hB']
      omega
  unfold parseDirectory
  dsimp only
  rw [if_neg (by omega), h0, u32_val_of_lt hn, if_neg (by omega), hsizes,
    readStreamBlocks_eq _ _ (by omega) _ _ (by omega) hwrap, hB', ht, if_pos (by omega), he]
  rfl

private theorem readDirectory_layout (hv : l.Valid) :
    (readDirectory l.superBlock l.bytes).1 = .ret (.ok l.directory) := by
  simp only [readDirectory, Run.andThen, directoryData_layout hv]
  exact parseDirectory_layout hv

/-! The streams read back. -/

private theorem bytes_drop_streams (hv : l.Valid) :
    l.bytes.drop (3 * l.blockSize) = (l.streams.map l.streamBytes).flatten ++
      (padTo l.directoryBytes (l.directoryBlocks * l.blockSize) ++
        padTo (encodeWords l.blockMap) (l.blockMapBlocks * l.blockSize)) := by
  rw [bytes_eq]
  exact List.drop_left' (header_length hv)

private theorem stream_layout (hv : l.Valid) {i : Nat} (hi : i < l.streams.length) {bs : Bytes}
    (hs : l.streams[i] = some bs) :
    (newStream l.bytes (l.directory.streamBlocks.getD i []) (u32 l.blockSize)
        (u32 bs.length)).Backed ∧
      (newStream l.bytes (l.directory.streamBlocks.getD i []) (u32 l.blockSize)
        (u32 bs.length)).slice 0 bs.length = bs := by
  have hB := blockSize_bounds hv
  have hB0 : 0 < l.blockSize := by omega
  have hN := numBlocks_lt hv
  have hfit := stream_fits hv (hs ▸ List.getElem_mem hi)
  simp only [Option.getD_some] at hfit
  obtain ⟨a, hget, ha, hend, rest, hdrop⟩ := allocate_getD hB0 l.streams 3 i hi
  rw [hs] at hget hend hdrop
  have hlen := le_ceil_mul bs.length hB0
  have hBv : (u32 l.blockSize).val = l.blockSize := u32_val_of_lt (by omega)
  have hSv : (u32 bs.length).val = bs.length := u32_val_of_lt (by omega)
  have hend' : a + l.blocksOf (some bs) ≤ l.numBlocks := by
    simp only [numBlocks, blockMapAddr, directoryStart]; omega
  have hblock : ∀ j < l.blocksOf (some bs),
      (((List.range' a (l.blocksOf (some bs))).map u32).getD j 0).val = a + j := by
    intro j hj
    rw [getD_of_lt _ _ (by simpa using hj), List.getElem_map, List.getElem_range', Nat.one_mul,
      u32_val_of_lt (by omega)]
  have hfile : l.bytes.drop (a * l.blockSize) = l.streamBytes (some bs) ++ (rest ++
      (padTo l.directoryBytes (l.directoryBlocks * l.blockSize) ++
        padTo (encodeWords l.blockMap) (l.blockMapBlocks * l.blockSize))) := by
    have hle : (a - 3) * l.blockSize ≤ (l.streams.map l.streamBytes).flatten.length := by
      rw [streamsBytes_length hB0]; exact Nat.mul_le_mul_right _ (by omega)
    rw [show a * l.blockSize = 3 * l.blockSize + (a - 3) * l.blockSize by
        rw [← Nat.add_mul]; congr 1; omega,
      ← List.drop_drop, bytes_drop_streams hv, List.drop_append_of_le_length hle, hdrop,
      List.append_assoc]
  have hblocks : l.directory.streamBlocks.getD i [] =
      (List.range' a (l.blocksOf (some bs))).map u32 := hget
  refine ⟨⟨?_, ?_, ?_⟩, ?_⟩
  · simp only [newStream, hBv]; exact hB0
  · simp only [newStream, hSv, hBv, hblocks, List.length_map, List.length_range', blocksOf,
      Option.getD_some, le_refl]
  · intro j hj
    simp only [newStream, hSv, hBv, hblocks] at hj ⊢
    rw [hblock j hj, bytes_length hv]
    exact Nat.mul_le_mul_right _ (by simp only [blocksOf, Option.getD_some] at hend'; omega)
  · refine List.ext_getElem (by simp [Stream.slice]) fun o h1 h2 => ?_
    have ho : o / l.blockSize < l.blocksOf (some bs) :=
      Nat.div_lt_of_lt_mul (by
        simp only [blocksOf, Option.getD_some] at hlen ⊢
        rw [Nat.mul_comm]
        omega)
    have hpos : (a + o / l.blockSize) * l.blockSize + o % l.blockSize = a * l.blockSize + o := by
      have := Nat.div_add_mod o l.blockSize
      rw [Nat.add_mul, Nat.mul_comm (o / l.blockSize)]
      omega
    simp only [Stream.slice, List.getElem_map, List.getElem_range, Nat.zero_add, Stream.byteAt,
      newStream, hBv, hblocks]
    rw [hblock _ ho, hpos, ← getD_drop, hfile, streamBytes, padTo, Option.getD_some,
      List.append_assoc, getD_append_left h2, getD_of_lt _ _ h2]

/-! Every run of ReadStream calls. -/

private theorem streams_length_lt (hv : l.Valid) : l.streams.length < 4294967296 := by
  have := directoryBytes_lt hv
  have := hv.size_lt
  have : 4 * l.streams.length ≤ l.directoryBytes.length := by
    simp only [directoryBytes_eq, List.length_append, encU32_length, encodeWords_length,
      List.length_map]
    omega
  omega

theorem Opened.directory (hv : l.Valid) {f : File} (ho : l.Opened f) :
    f.directory.1.1 = .ret (.ok l.directory) ∧ l.Opened f.directory.2 := by
  unfold File.directory
  rcases ho.dirOnce with h | h <;> simp only [h, true_and]
  · have hr : (readDirectory f.superBlock f.data).1 = .ret (.ok l.directory) := by
      rw [ho.data, ho.superBlock]; exact readDirectory_layout hv
    simp only [hr, true_and]
    exact ⟨ho.data, ho.superBlock, .inr rfl⟩
  · exact ho

theorem Opened.readStream (hv : l.Valid) {f : File} (ho : l.Opened f) (i : U32) :
    (f.readStream i).1.1 = .ret (l.streamResult i.val) ∧ l.Opened (f.readStream i).2 := by
  obtain ⟨hd, ho'⟩ := ho.directory hv
  refine ⟨?_, ho'⟩
  have hn := streams_length_lt hv
  have hcount : (l.directory.numStreams).val = l.streams.length := u32_val_of_lt hn
  rcases h : l.streams[i.val]? with _ | _ | bs
  · have hge : i ≥ l.directory.numStreams := by
      rw [ge_iff_le, Fin.le_def, hcount]; exact List.getElem?_eq_none_iff.mp h
    simp only [File.readStream, File.openStream, Run.andThen, hd, if_pos hge, streamResult, h]
  · obtain ⟨hi, hs⟩ := List.getElem?_eq_some_iff.mp h
    have hlt : ¬ i ≥ l.directory.numStreams := by rw [ge_iff_le, Fin.le_def, hcount]; omega
    have hnil : l.directory.streamSizes.getD i.val 0 = nilStreamSize := by
      simp [Layout.directory, h, sizeOf]
    simp only [File.readStream, File.openStream, Run.andThen, hd, if_neg hlt, if_pos hnil,
      streamResult, h]
  · obtain ⟨hi, hs⟩ := List.getElem?_eq_some_iff.mp h
    have hlt : ¬ i ≥ l.directory.numStreams := by rw [ge_iff_le, Fin.le_def, hcount]; omega
    have hfit := stream_fits hv (hs ▸ List.getElem_mem hi)
    have hB := blockSize_bounds hv
    simp only [Option.getD_some] at hfit
    have hsize : l.directory.streamSizes.getD i.val 0 = u32 bs.length := by
      simp [Layout.directory, h, sizeOf]
    have hne : u32 bs.length ≠ nilStreamSize := fun he => by
      have := congrArg Fin.val he
      rw [u32_val_of_lt (by omega)] at this
      simp only [nilStreamSize] at this
      omega
    obtain ⟨hback, hslice⟩ := stream_layout hv hi hs
    obtain ⟨reads, hbytes⟩ := Stream.bytes_spec _ hback
    rw [show (newStream l.bytes (l.directory.streamBlocks.getD i.val []) (u32 l.blockSize)
        (u32 bs.length)).streamSize.val = bs.length from u32_val_of_lt (by omega), hslice] at hbytes
    simp only [File.readStream, File.openStream, Run.andThen, hd, if_neg hlt, hsize, if_neg hne,
      ho.data, ho.superBlock, Layout.superBlock, hbytes, streamResult, h]

private theorem Opened.readStreams (hv : l.Valid) :
    ∀ {f : File}, l.Opened f → ∀ idxs : List U32,
      f.readStreams idxs = idxs.map fun i => .ret (l.streamResult i.val)
  | _, _, [] => rfl
  | f, ho, i :: idxs => by
    rw [File.readStreams, (ho.readStream hv i).1, Opened.readStreams hv (ho.readStream hv i).2 idxs,
      List.map_cons]

end Layout

/-- A file written from a layout is read back. NewFile accepts it after reading its superblock,
Directory returns the directory written, and every run of ReadStream calls returns each stream
as it was written, the nil-stream error for a nil stream and the invalid-index error past the
last stream: the first call reads the directory, and the calls after it answer from its cache. -/
theorem readStreams_layout (l : Layout) (hv : l.Valid) :
    ∃ f, newFile l.bytes l.bytes.length = (.ret (.ok f), [⟨0, 56⟩]) ∧
      f.directory.1.1 = .ret (.ok l.directory) ∧
      ∀ idxs : List U32, f.readStreams idxs = idxs.map fun i => .ret (l.streamResult i.val) := by
  obtain ⟨f, hf, ho⟩ := Layout.newFile_layout hv
  exact ⟨f, hf, (ho.directory hv).1, ho.readStreams hv⟩

/-- A file of 512-byte blocks with a three-byte stream, a nil stream and an empty stream. -/
def threeStreams : Layout := ⟨512, [some [1, 2, 3], none, some []]⟩

theorem readStreams_layout_threeStreams : threeStreams.Valid ∧
    ∃ f, newFile threeStreams.bytes threeStreams.bytes.length = (.ret (.ok f), [⟨0, 56⟩]) ∧
      f.directory.1.1 = .ret (.ok threeStreams.directory) ∧
      ∀ idxs : List U32,
        f.readStreams idxs = idxs.map fun i => .ret (threeStreams.streamResult i.val) :=
  ⟨⟨by decide, by decide⟩, readStreams_layout threeStreams ⟨by decide, by decide⟩⟩

example : threeStreams.directory = ⟨3, [3, 0xFFFFFFFF, 0], [[3], [], []]⟩ ∧
    threeStreams.numBlocks = 6 := by
  decide

end PdbGo.Msf
