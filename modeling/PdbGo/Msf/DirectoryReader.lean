import PdbGo.Msf.Directory

/-! Reading the directory through its block map, with every block count and block number a
`uint32` as the Go code computes it. -/
namespace PdbGo.Msf

/-- A call that reads the source: how it ended, and the source reads it made, in order. -/
abbrev Run (α : Type) := Outcome (Except GoError α) × List Access

/-- `x, err := f(); if err != nil { return nil, err }; return g(x)`, keeping both calls' reads. -/
def Run.andThen {α β : Type} (x : Run α) (f : α → Run β) : Run β :=
  match x.1 with
  | .ret (.ok a) => ((f a).1, x.2 ++ (f a).2)
  | .ret (.error e) => (.ret (.error e), x.2)
  | .panic m => (.panic m, x.2)
  | .hang => (.hang, x.2)

/-- The `for i < numBlockMapBlocks` loop of readBlockMap, from block-map block `i`. Each read
asks for a whole block at `BlockOffset(BlockMapAddr + i)`, with `uint32` addition; a read that
succeeds fills its whole block, so the filled buffer is the concatenation of the reads. -/
def readBlockMapBlocks (sb : SuperBlock) (data : Bytes) : Nat → Nat → Run Bytes
  | 0, _ => (.ret (.ok []), [])
  | k+1, i =>
    let off := sb.blockOffset (sb.blockMapAddr + u32 i)
    let r := sourceReadAt data sb.blockSize.val off
    match r.2 with
    | some e =>
      (.ret (.error (.wrapf "msf: failed to read block map: %w" e [])), [⟨off, sb.blockSize.val⟩])
    | none =>
      let rest := readBlockMapBlocks sb data k (i+1)
      (match rest.1 with
        | .ret (.ok bs) => .ret (.ok (r.1 ++ bs))
        | o => o, ⟨off, sb.blockSize.val⟩ :: rest.2)

/-- readBlockMap: the `NumDirectoryBlocks()` block indices of the directory. -/
def readBlockMap (sb : SuperBlock) (data : Bytes) : Run (List U32) :=
  if sb.blockSize = 0 then (.panic "runtime error: integer divide by zero", []) else
  let numDirectoryBlocks := sb.numDirectoryBlocks
  let blockMapSize := numDirectoryBlocks * 4
  let numBlockMapBlocks := (blockMapSize + sb.blockSize - 1) / sb.blockSize
  (readBlockMapBlocks sb data numBlockMapBlocks.val 0).andThen fun blockMapData =>
    (.ret (.ok (words blockMapData 0 numDirectoryBlocks.val)), [])

/-- Go's `copy(buf[off:], src)` into a buffer long enough for it. -/
def writeAt (buf : Bytes) (off : Nat) (src : Bytes) : Bytes :=
  buf.take off ++ src ++ buf.drop (off + src.length)

@[simp] private theorem writeAt_append_replicate (P src : Bytes) (n : Nat) :
    writeAt (P ++ List.replicate n 0) P.length src =
      P ++ src ++ List.replicate (n - src.length) 0 := by
  simp [writeAt, List.drop_append_eq_append_drop, List.drop_replicate]

/-- readDirectoryBlocks' `toRead`: a whole block, or what is left of the directory. -/
def blockToRead (blockSize remaining : U32) : U32 :=
  if blockSize > remaining then remaining else blockSize

@[simp] theorem blockToRead_val (blockSize remaining : U32) :
    (blockToRead blockSize remaining).val = min blockSize.val remaining.val := by
  unfold blockToRead
  split_ifs with h <;> simp only [gt_iff_lt, Fin.lt_def] at h <;> omega

/-- The loop of readDirectoryBlocks from the `i`-th block index on, with `remaining` bytes of
the directory still to read into `buf`. -/
def readDirectoryLoop (sb : SuperBlock) (data : Bytes) :
    List U32 → Nat → U32 → Bytes → Run Bytes
  | [], _, _, buf => (.ret (.ok buf), [])
  | blockIdx :: rest, i, remaining, buf =>
    if blockIdx ≥ sb.numBlocks then
      (.ret (.error (.wrapf "%w: %d >= %d" errInvalidBlockIndex
        [blockIdx.val, sb.numBlocks.val])), [])
    else
      let toRead := blockToRead sb.blockSize remaining
      let blockOffset := sb.blockOffset blockIdx
      let destOffset := u32 i * sb.blockSize
      if (destOffset + toRead).val > buf.length ∨ destOffset > destOffset + toRead then
        (.panic "runtime error: slice bounds out of range", [])
      else
      let r := sourceReadAt data toRead.val blockOffset
      match r.2 with
      | some e =>
        (.ret (.error (.wrapf "msf: failed to read directory block %d: %w" e [blockIdx.val])),
          [⟨blockOffset, toRead.val⟩])
      | none =>
        let next := readDirectoryLoop sb data rest (i+1) (remaining - toRead)
          (writeAt buf destOffset.val r.1)
        (next.1, ⟨blockOffset, toRead.val⟩ :: next.2)

/-- readDirectoryBlocks: the blocks copied into a zeroed buffer of `NumDirectoryBytes`. -/
def readDirectoryBlocks (sb : SuperBlock) (data : Bytes) (blockIndices : List U32) : Run Bytes :=
  readDirectoryLoop sb data blockIndices 0 sb.numDirectoryBytes
    (List.replicate sb.numDirectoryBytes.val 0)

/-- The bytes ReadDirectory hands to ParseDirectory. -/
def directoryData (sb : SuperBlock) (data : Bytes) : Run Bytes :=
  (readBlockMap sb data).andThen (readDirectoryBlocks sb data)

def readDirectory (sb : SuperBlock) (data : Bytes) : Run StreamDirectory :=
  (directoryData sb data).andThen fun directoryBytes => (parseDirectory directoryBytes sb.blockSize, [])

/-! The directory as the format describes it: exact ceilings and block numbers. -/

def directoryBlockCount (sb : SuperBlock) : Nat :=
  (sb.numDirectoryBytes.val + sb.blockSize.val - 1) / sb.blockSize.val

/-- `ceil(4 * directoryBlockCount / BlockSize)`. -/
def blockMapBlockCount (sb : SuperBlock) : Nat :=
  (4 * directoryBlockCount sb + sb.blockSize.val - 1) / sb.blockSize.val

/-- Block `n` of the source. -/
def blockAt (data : Bytes) (blockSize n : Nat) : Bytes := (data.drop (n * blockSize)).take blockSize

/-- The `k` consecutive blocks from block `start`. -/
def blocksFrom (data : Bytes) (blockSize start : Nat) : Nat → Bytes
  | 0 => []
  | k+1 => blockAt data blockSize start ++ blocksFrom data blockSize (start+1) k

/-- The directory's block numbers: the first words of the blocks from `BlockMapAddr` on. -/
def blockMapIndices (sb : SuperBlock) (data : Bytes) : List U32 :=
  words (blocksFrom data sb.blockSize.val sb.blockMapAddr.val (blockMapBlockCount sb)) 0
    (directoryBlockCount sb)

/-- The directory: its blocks concatenated and cut to `NumDirectoryBytes`. -/
def directoryContents (sb : SuperBlock) (data : Bytes) : Bytes :=
  (((blockMapIndices sb data).map fun b => blockAt data sb.blockSize.val b.val).flatten).take
    sb.numDirectoryBytes.val

/-- The call returns `v` or an error: it neither panics nor hangs. -/
def Run.okOrError {α : Type} (x : Run α) (v : α) : Prop :=
  (∃ e, x.1 = .ret (.error e)) ∨ x.1 = .ret (.ok v)

section Lemmas
variable {α β : Type}

private theorem Run.andThen_okOrError {x : Run α} {f : α → Run β} {a : α} {b : β}
    (hx : x.okOrError a) (hf : (f a).okOrError b) : (x.andThen f).okOrError b := by
  rcases hx with ⟨e, he⟩ | hx
  · exact .inl ⟨e, by simp [Run.andThen, he]⟩
  · simpa only [Run.okOrError, Run.andThen, hx] using hf

private theorem Run.andThen_reads {P : Access → Prop} {x : Run α} {f : α → Run β}
    (hx : ∀ a ∈ x.2, P a) (hf : ∀ v, ∀ a ∈ (f v).2, P a) : ∀ a ∈ (x.andThen f).2, P a := by
  unfold Run.andThen
  split <;> simp only [List.mem_append] <;> first
    | exact hx
    | exact fun a ha => ha.elim (hx a) (hf _ a)

private theorem Run.okOrError_ret {a : α} : Run.okOrError ((.ret (.ok a), []) : Run α) a := .inr rfl

theorem add_u32_val (a : U32) (i : Nat) (h : a.val + i < 4294967296) : (a + u32 i).val = a.val + i := by
  simp only [Fin.val_add, u32, Fin.ofNat, Fin.val_mk]
  rw [Nat.mod_eq_of_lt (show i < 4294967296 by omega), Nat.mod_eq_of_lt h]

private theorem readBlockMapBlocks_spec (sb : SuperBlock) (data : Bytes) :
    ∀ k i, sb.blockMapAddr.val + i + k ≤ 4294967296 →
      (readBlockMapBlocks sb data k i).okOrError
        (blocksFrom data sb.blockSize.val (sb.blockMapAddr.val + i) k)
  | 0, _, _ => .inr rfl
  | k+1, i, h => by
    have hoff : sb.blockOffset (sb.blockMapAddr + u32 i) = (sb.blockMapAddr.val + i) * sb.blockSize.val := by
      rw [SuperBlock.blockOffset, add_u32_val _ _ (by omega)]
    simp only [readBlockMapBlocks, hoff]
    split
    · exact .inl ⟨_, rfl⟩
    · rcases readBlockMapBlocks_spec sb data k (i+1) (by omega) with ⟨e, he⟩ | hrest
      · exact .inl ⟨e, by simp [he]⟩
      · right
        simp [hrest, blocksFrom, sourceReadAt_fst, blockAt, Nat.add_assoc]

private theorem ceil_pos {r B : Nat} (hB : 0 < B) (h : 0 < r) : 0 < (r + B - 1) / B :=
  Nat.div_pos (by omega) hB

private theorem ceil_sub {r B : Nat} (hB : 0 < B) (h : B ≤ r) :
    (r + B - 1) / B = (r - B + B - 1) / B + 1 := by
  rw [← Nat.add_div_right _ hB]; congr 1; omega

theorem readDirectoryLoop_spec (sb : SuperBlock) (data : Bytes) (hB : 0 < sb.blockSize.val) :
    ∀ (bs : List U32) (i : Nat) (remaining : U32) (P : Bytes),
      P.length = i * sb.blockSize.val → i * sb.blockSize.val + remaining.val < 4294967296 →
      bs.length = (remaining.val + sb.blockSize.val - 1) / sb.blockSize.val →
      (readDirectoryLoop sb data bs i remaining (P ++ List.replicate remaining.val 0)).okOrError
        (P ++ ((bs.map fun b => blockAt data sb.blockSize.val b.val).flatten).take remaining.val) := by
  intro bs
  induction bs with
  | nil =>
    intro i remaining P hP hlt hlen
    have : remaining.val = 0 := by
      by_contra h0; have := ceil_pos hB (Nat.pos_of_ne_zero h0); simp at hlen; omega
    exact .inr (by simp [readDirectoryLoop, this])
  | cons b bs ih =>
    intro i remaining P hP hlt hlen
    have hrem : 0 < remaining.val := by
      by_contra h0
      have : (remaining.val + sb.blockSize.val - 1) / sb.blockSize.val = 0 := by
        rw [Nat.div_eq_zero_iff hB]; omega
      simp [this] at hlen
    have hdest : (u32 i * sb.blockSize).val = i * sb.blockSize.val := by
      have : i < 4294967296 := by have := Nat.le_mul_of_pos_right i hB; omega
      simp only [Fin.val_mul, u32, Fin.ofNat, Fin.val_mk, Nat.mod_eq_of_lt this]
      exact Nat.mod_eq_of_lt (by omega)
    obtain ⟨t, ht, htv⟩ : ∃ t, blockToRead sb.blockSize remaining = t ∧
        t.val = min sb.blockSize.val remaining.val := ⟨_, rfl, blockToRead_val _ _⟩
    have hsum : (u32 i * sb.blockSize + t).val = i * sb.blockSize.val + t.val := by
      rw [Fin.val_add, hdest]; exact Nat.mod_eq_of_lt (by omega)
    simp only [readDirectoryLoop, ht]
    split_ifs with hN hslice
    · exact .inl ⟨_, rfl⟩
    · simp only [gt_iff_lt, Fin.lt_def, hsum, hdest, List.length_append, List.length_replicate] at hslice
      omega
    split
    · exact .inl ⟨_, rfl⟩
    rename_i hread
    have hgot := sourceReadAt_none_length hread
    rw [sourceReadAt_fst] at hgot ⊢
    rw [hdest, ← hP, writeAt_append_replicate, hgot]
    have hblk : blockAt data sb.blockSize.val b.val = (data.drop (sb.blockOffset b)).take sb.blockSize.val := rfl
    simp only [List.map_cons, List.flatten_cons]
    by_cases hle : remaining.val ≤ sb.blockSize.val
    · -- the last block: `toRead` is what remains, and no block index follows
      have hnil : bs = [] := by
        rw [← List.length_eq_zero]
        have := (Nat.div_lt_iff_lt_mul hB).mpr (show remaining.val + sb.blockSize.val - 1 < 2 * sb.blockSize.val by omega)
        simp at hlen; omega
      subst hnil
      refine .inr ?_
      have htr : t.val = remaining.val := by rw [htv]; exact Nat.min_eq_right hle
      simp only [readDirectoryLoop, htr, Nat.sub_self, List.replicate_zero, List.append_nil,
        List.map_nil, List.flatten_nil, hblk, List.take_take, Nat.min_eq_left hle]
    · -- a whole block, then the rest of the directory from block index `i + 1`
      have htB : t.val = sb.blockSize.val := by omega
      have hsub : (remaining - t).val = remaining.val - sb.blockSize.val := by
        rw [Fin.sub_val_of_le (by rw [Fin.le_def]; omega), htB]
      have ih := ih (i+1) (remaining - t)
        (P ++ (data.drop (sb.blockOffset b)).take t.val)
        (by rw [List.length_append, hP, hgot, htB, Nat.succ_mul]) (by rw [hsub, Nat.succ_mul]; omega)
        (by rw [hsub]; rw [ceil_sub hB (by omega)] at hlen; simpa using hlen)
      rw [hsub, htv, Nat.min_eq_left (by omega)] at ih
      have hblen : (blockAt data sb.blockSize.val b.val).length = sb.blockSize.val := by
        rw [hblk, ← htB]; exact hgot
      rw [htB, List.take_append_eq_append_take,
        @List.take_of_length_le _ remaining.val (blockAt data sb.blockSize.val b.val) (by omega),
        hblen, hblk, ← List.append_assoc]
      exact ih

theorem readBlockMap_spec (sb : SuperBlock) (data : Bytes) (hv : sb.validate = none)
    (hD : sb.numDirectoryBytes.val + sb.blockSize.val - 1 < 4294967296)
    (hA : sb.blockMapAddr.val + blockMapBlockCount sb ≤ 4294967296) :
    (readBlockMap sb data).okOrError (blockMapIndices sb data) := by
  have hB := validate_blockSize hv
  have hB0 : sb.blockSize ≠ 0 := fun h => by simp [h] at hB
  have hk : sb.numDirectoryBlocks.val = directoryBlockCount sb := numBlocks_val _ _ (by omega) hD
  have hkle : directoryBlockCount sb ≤ (sb.numDirectoryBytes.val + sb.blockSize.val - 1) / 512 :=
    Nat.div_le_div_left hB.1 (by decide)
  have hsize : (sb.numDirectoryBlocks * 4).val = 4 * directoryBlockCount sb := by
    rw [Fin.val_mul, hk]
    show directoryBlockCount sb * 4 % 4294967296 = _
    omega
  have hm : ((sb.numDirectoryBlocks * 4 + sb.blockSize - 1) / sb.blockSize).val = blockMapBlockCount sb := by
    rw [numBlocks_val _ _ (by omega) (by rw [hsize]; omega), hsize, blockMapBlockCount]
  simp only [readBlockMap, if_neg hB0, hm, hk]
  exact Run.andThen_okOrError (readBlockMapBlocks_spec sb data (blockMapBlockCount sb) 0 (by omega))
    Run.okOrError_ret


private theorem readBlockMapBlocks_reads (sb : SuperBlock) (data : Bytes) :
    ∀ k i, sb.blockMapAddr.val + i + k ≤ 4294967296 →
      ∀ a ∈ (readBlockMapBlocks sb data k i).2,
        a.below ((sb.blockMapAddr.val + i + k) * sb.blockSize.val)
  | 0, _, _ => by simp [readBlockMapBlocks]
  | k+1, i, h => by
    have hoff : sb.blockOffset (sb.blockMapAddr + u32 i) = (sb.blockMapAddr.val + i) * sb.blockSize.val := by
      rw [SuperBlock.blockOffset, add_u32_val _ _ (by omega)]
    have hfirst : (sb.blockMapAddr.val + i) * sb.blockSize.val + sb.blockSize.val ≤
        (sb.blockMapAddr.val + i + (k + 1)) * sb.blockSize.val := by
      rw [← Nat.succ_mul]; exact Nat.mul_le_mul_right _ (by omega)
    simp only [readBlockMapBlocks, hoff]
    split
    · simpa [Access.below] using hfirst
    · intro a ha
      rcases List.mem_cons.mp ha with rfl | ha
      · exact hfirst
      · have := readBlockMapBlocks_reads sb data k (i+1) (by omega) a ha
        simp only [Access.below] at this ⊢
        rw [show sb.blockMapAddr.val + (i + 1) + k = sb.blockMapAddr.val + i + (k + 1) by omega] at this
        exact this

private theorem readDirectoryLoop_reads (sb : SuperBlock) (data : Bytes) :
    ∀ bs i remaining buf, ∀ a ∈ (readDirectoryLoop sb data bs i remaining buf).2,
      a.below (sb.numBlocks.val * sb.blockSize.val)
  | [], _, _, _ => by simp [readDirectoryLoop]
  | b :: bs, i, remaining, buf => by
    simp only [readDirectoryLoop]
    split_ifs with hN hslice
    · simp
    · simp
    have hin : b.val * sb.blockSize.val + sb.blockSize.val ≤ sb.numBlocks.val * sb.blockSize.val := by
      rw [← Nat.succ_mul]; exact Nat.mul_le_mul_right _ (by simp only [ge_iff_le, Fin.le_def] at hN; omega)
    have hfirst : Access.below (sb.numBlocks.val * sb.blockSize.val)
        ⟨sb.blockOffset b, (blockToRead sb.blockSize remaining).val⟩ := by
      simp only [Access.below, SuperBlock.blockOffset, blockToRead_val]; omega
    split
    · simpa using hfirst
    · intro a ha
      rcases List.mem_cons.mp ha with rfl | ha
      · exact hfirst
      · exact readDirectoryLoop_reads sb data bs _ _ _ a ha

theorem numBlockMapBlocks_le (sb : SuperBlock) (hv : sb.validate = none) :
    ((sb.numDirectoryBlocks * 4 + sb.blockSize - 1) / sb.blockSize).val ≤ blockMapBlockCount sb := by
  have hB := validate_blockSize hv
  have hsum : (sb.numDirectoryBytes + sb.blockSize - 1).val ≤ sb.numDirectoryBytes.val + sb.blockSize.val - 1 := by
    omega
  have hndb : sb.numDirectoryBlocks.val ≤ directoryBlockCount sb := by
    rw [SuperBlock.numDirectoryBlocks, Fin.div_val]; exact Nat.div_le_div_right hsum
  have hsmall : sb.numDirectoryBlocks.val ≤ 4294967295 / 512 := by
    rw [SuperBlock.numDirectoryBlocks, Fin.div_val]
    exact (Nat.div_le_div_left hB.1 (by decide)).trans (Nat.div_le_div_right (by omega))
  have h4 : (sb.numDirectoryBlocks * 4 + sb.blockSize - 1).val = sb.numDirectoryBlocks.val * 4 + sb.blockSize.val - 1 := by
    omega
  rw [Fin.div_val, h4, blockMapBlockCount]
  exact Nat.div_le_div_right (by omega)

end Lemmas

/-- When `NumDirectoryBytes` is at least `BlockSize` below `2^32` and the block map's blocks
are numbered below `2^32`, ReadDirectory hands ParseDirectory exactly the directory's contents,
or fails with an error: it never panics and never parses zero fill. -/
theorem directoryData_exact (sb : SuperBlock) (data : Bytes) (hv : sb.validate = none)
    (hD : sb.numDirectoryBytes.val + sb.blockSize.val - 1 < 4294967296)
    (hA : sb.blockMapAddr.val + blockMapBlockCount sb ≤ 4294967296) :
    (directoryData sb data).okOrError (directoryContents sb data) := by
  have hloop := readDirectoryLoop_spec sb data (validate_blockSize_pos hv) (blockMapIndices sb data)
    0 sb.numDirectoryBytes [] (by simp) (by simp) (by simp [blockMapIndices, directoryBlockCount])
  rw [List.nil_append, List.nil_append] at hloop
  exact Run.andThen_okOrError (readBlockMap_spec sb data hv hD hA) hloop

/-- An eight-byte directory in block 1 of three, listed by the block map in block 2. -/
def sbSample : SuperBlock :=
  { fileMagic := magic, blockSize := 512, freeBlockMapBlock := 1, numBlocks := 3,
    numDirectoryBytes := 8, unknown := 0, blockMapAddr := 2 }

/-- The blocks sbSample describes: block 1 holds a directory of one empty stream, block 2 the
block map, which lists block 1. -/
def sbSampleData : Bytes :=
  List.replicate 512 0 ++ ([1, 0, 0, 0, 0, 0, 0, 0] ++ List.replicate 504 0) ++
    ([1, 0, 0, 0] ++ List.replicate 508 0)

theorem directoryData_exact_sample :
    sbSample.validate = none ∧
    sbSample.numDirectoryBytes.val + sbSample.blockSize.val - 1 < 4294967296 ∧
    sbSample.blockMapAddr.val + blockMapBlockCount sbSample ≤ 4294967296 ∧
    (directoryData sbSample sbSampleData).okOrError (directoryContents sbSample sbSampleData) :=
  ⟨by decide, by decide, by decide,
    directoryData_exact sbSample sbSampleData (by decide) (by decide) (by decide)⟩

set_option maxRecDepth 8000 in
example : directoryContents sbSample sbSampleData = [1, 0, 0, 0, 0, 0, 0, 0] := rfl

/-- ReadDirectory reads only inside the file when the block map's blocks are inside it: every
directory block is checked against `NumBlocks` before it is read. -/
theorem readDirectory_reads_inside (sb : SuperBlock) (data : Bytes) (hv : sb.validate = none)
    (hA : sb.blockMapAddr.val + blockMapBlockCount sb ≤ sb.numBlocks.val) :
    ∀ a ∈ (readDirectory sb data).2, a.below sb.fileSize := by
  have hB0 : sb.blockSize ≠ 0 := fun h => by simpa [h] using validate_blockSize_pos hv
  have hm := numBlockMapBlocks_le sb hv
  have hmap : ∀ a ∈ (readBlockMap sb data).2, a.below sb.fileSize := by
    simp only [readBlockMap, if_neg hB0]
    refine Run.andThen_reads (fun a ha => ?_) (fun _ _ h => by simp at h)
    have := readBlockMapBlocks_reads sb data _ 0 (by omega) a ha
    exact this.trans (Nat.mul_le_mul_right _ (by omega))
  exact Run.andThen_reads (Run.andThen_reads hmap fun bm => readDirectoryLoop_reads sb data bm _ _ _)
    fun _ _ h => by simp at h

theorem readDirectory_reads_inside_sample :
    sbSample.validate = none ∧ sbSample.blockMapAddr.val + blockMapBlockCount sbSample ≤ sbSample.numBlocks.val ∧
    ∀ a ∈ (readDirectory sbSample sbSampleData).2, a.below sbSample.fileSize :=
  ⟨by decide, by decide, readDirectory_reads_inside sbSample sbSampleData (by decide) (by decide)⟩

set_option maxRecDepth 8000 in
example : readDirectory sbSample sbSampleData = (.ret (.ok ⟨1, [0], [[]]⟩), [⟨1024, 512⟩, ⟨512, 8⟩]) :=
  rfl

/-- A valid superblock whose directory is `2^32 - 511` bytes long. -/
def sbWrap : SuperBlock :=
  { fileMagic := magic, blockSize := 512, freeBlockMapBlock := 1, numBlocks := 1,
    numDirectoryBytes := 4294966785, unknown := 0, blockMapAddr := 0 }

theorem readDirectory_zero_fill :
    sbWrap.validate = none ∧
    directoryData sbWrap [] = (.ret (.ok (List.replicate 4294966785 0)), []) ∧
    directoryContents sbWrap [] = [] ∧
    readDirectory sbWrap [] = (.ret (.ok ⟨0, [], []⟩), []) := by
  have hv : sbWrap.validate = none := by decide
  have hdata : directoryData sbWrap [] = (.ret (.ok (List.replicate 4294966785 0)), []) := by
    rfl
  refine ⟨hv, hdata, by simp [directoryContents, blockAt], ?_⟩
  simp only [readDirectory, Run.andThen, hdata, parseDirectory_replicate_zero 4294966785 (by decide)]
  rfl

end PdbGo.Msf
