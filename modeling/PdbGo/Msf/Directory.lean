import PdbGo.Msf.SuperBlock

/-! The stream directory: stream count, stream sizes, then each stream's block indices.
The block count of a stream is computed in `uint32`, as ParseDirectory computes it. -/
namespace PdbGo.Msf

def nilStreamSize : U32 := 0xFFFFFFFF

def errTruncatedDirectory : GoError := .new "msf: truncated stream directory"
def errInvalidStreamIndex : GoError := .new "msf: invalid stream index"
def errInvalidBlockIndex : GoError := .new "msf: invalid block index"

/-- StreamBlocks holds `nil`, here `[]`, for nil and empty streams. -/
structure StreamDirectory where
  numStreams : U32
  streamSizes : List U32
  streamBlocks : List (List U32)
  deriving DecidableEq, Repr

/-- The inner loop of ParseDirectory: `numBlocks` words from `offset`, each bounds-checked. -/
def readBlockIndices (data : Bytes) : Nat → Nat → Except GoError (List U32 × Nat)
  | 0, offset => .ok ([], offset)
  | k+1, offset =>
    if offset + 4 > data.length then .error errTruncatedDirectory
    else match readBlockIndices data k (offset + 4) with
      | .ok (rest, offset') => .ok (leU32 data offset :: rest, offset')
      | .error e => .error e

/-- The outer loop of ParseDirectory over the stream sizes, from byte `offset`. -/
def readStreamBlocks (data : Bytes) (blockSize : U32) :
    List U32 → Nat → Outcome (Except GoError (List (List U32)))
  | [], _ => .ret (.ok [])
  | size :: sizes, offset =>
    if size = nilStreamSize ∨ size = 0 then
      match readStreamBlocks data blockSize sizes offset with
      | .ret (.ok rest) => .ret (.ok ([] :: rest))
      | r => r
    else if blockSize = 0 then .panic "runtime error: integer divide by zero"
    else
      let numBlocks := (size + blockSize - 1) / blockSize
      match readBlockIndices data numBlocks.val offset with
      | .error e => .ret (.error e)
      | .ok (blocks, offset') =>
        match readStreamBlocks data blockSize sizes offset' with
        | .ret (.ok rest) => .ret (.ok (blocks :: rest))
        | r => r

def parseDirectory (data : Bytes) (blockSize : U32) : Outcome (Except GoError StreamDirectory) :=
  if data.length < 4 then .ret (.error errTruncatedDirectory)
  else
    let numStreams := leU32 data 0
    if data.length < 4 + numStreams.val * 4 then .ret (.error errTruncatedDirectory)
    else
      let streamSizes := words data 4 numStreams.val
      match readStreamBlocks data blockSize streamSizes (4 + numStreams.val * 4) with
      | .ret (.ok streamBlocks) => .ret (.ok ⟨numStreams, streamSizes, streamBlocks⟩)
      | .ret (.error e) => .ret (.error e)
      | .panic m => .panic m
      | .hang => .hang

/-! The directory's layout in exact arithmetic: ceilings with no 32-bit wrap-around. -/

/-- The number of block-index words a stream of this size owns, by exact division. -/
def blockCount (blockSize : Nat) (size : U32) : Nat :=
  if size = nilStreamSize ∨ size = 0 then 0 else (size.val + blockSize - 1) / blockSize

/-- The number of block indices that streams of these sizes own together. -/
def totalBlockCount (blockSize : Nat) : List U32 → Nat
  | [] => 0
  | size :: sizes => blockCount blockSize size + totalBlockCount blockSize sizes

/-- The directory's own length: count, sizes, and every stream's block indices. -/
def directoryLength (data : Bytes) (blockSize : Nat) : Nat :=
  let n := (leU32 data 0).val
  4 + 4 * n + 4 * totalBlockCount blockSize (words data 4 n)

/-- Each stream's block indices, read in directory order from byte `offset`. -/
def expectedBlocks (data : Bytes) (blockSize : Nat) : List U32 → Nat → List (List U32)
  | [], _ => []
  | size :: sizes, offset =>
    words data offset (blockCount blockSize size) ::
      expectedBlocks data blockSize sizes (offset + 4 * blockCount blockSize size)

section Lemmas

private theorem readBlockIndices_eq (data : Bytes) (k offset : Nat) (hoff : offset ≤ data.length) :
    readBlockIndices data k offset = if offset + 4 * k ≤ data.length
      then .ok (words data offset k, offset + 4 * k) else .error errTruncatedDirectory := by
  induction k generalizing offset with
  | zero => simp [readBlockIndices, words, hoff]
  | succ k ih =>
    rw [readBlockIndices]
    by_cases h : offset + 4 > data.length
    · rw [if_pos h, if_neg (by omega)]
    · rw [if_neg h, ih _ (by omega)]
      by_cases h' : offset + 4 + 4 * k ≤ data.length
      · rw [if_pos h', if_pos (by omega)]
        simp [words, Nat.mul_succ, Nat.add_assoc, Nat.add_comm 4]
      · rw [if_neg h', if_neg (by omega)]

theorem numBlocks_val (size blockSize : U32) (hB : 0 < blockSize.val)
    (hwrap : size.val + blockSize.val - 1 < 4294967296) :
    ((size + blockSize - 1) / blockSize).val = (size.val + blockSize.val - 1) / blockSize.val := by
  rw [Fin.div_val]
  congr 1
  omega

theorem readStreamBlocks_eq (data : Bytes) (blockSize : U32) (hB : 0 < blockSize.val) :
    ∀ (sizes : List U32) (offset : Nat), offset ≤ data.length →
      (∀ size ∈ sizes, size ≠ nilStreamSize → size.val + blockSize.val - 1 < 4294967296) →
      readStreamBlocks data blockSize sizes offset = .ret
        (if offset + 4 * totalBlockCount blockSize.val sizes ≤ data.length
          then .ok (expectedBlocks data blockSize.val sizes offset)
          else .error errTruncatedDirectory)
  | [], offset, hoff, _ => by simp [readStreamBlocks, expectedBlocks, totalBlockCount, hoff]
  | size :: sizes, offset, hoff, hwrap => by
    have ih := readStreamBlocks_eq data blockSize hB sizes
    have hrest := fun s hs => hwrap s (List.mem_cons_of_mem size hs)
    by_cases hskip : size = nilStreamSize ∨ size = 0
    · have hzero : blockCount blockSize.val size = 0 := by simp [blockCount, hskip]
      rw [readStreamBlocks, if_pos hskip, ih offset hoff hrest]
      simp only [totalBlockCount, hzero, Nat.zero_add, expectedBlocks, Nat.mul_zero,
        Nat.add_zero, words]
      split_ifs <;> rfl
    · have hB0 : blockSize ≠ 0 := fun h => by simp [h] at hB
      have hcount : ((size + blockSize - 1) / blockSize).val = blockCount blockSize.val size := by
        rw [numBlocks_val _ _ hB (hwrap size (List.mem_cons_self _ _) (fun h => hskip (.inl h))),
          blockCount, if_neg hskip]
      rw [readStreamBlocks, if_neg hskip, if_neg hB0]
      simp only [hcount, readBlockIndices_eq _ _ _ hoff]
      by_cases hfit : offset + 4 * blockCount blockSize.val size ≤ data.length
      · simp only [if_pos hfit, ih _ hfit hrest, totalBlockCount, expectedBlocks]
        by_cases hall : offset + 4 * blockCount blockSize.val size
            + 4 * totalBlockCount blockSize.val sizes ≤ data.length
        · rw [if_pos hall, if_pos (by rw [Nat.mul_add, ← Nat.add_assoc]; exact hall)]
        · rw [if_neg hall, if_neg (by rw [Nat.mul_add, ← Nat.add_assoc]; exact hall)]
      · simp only [if_neg hfit, totalBlockCount]
        rw [if_neg (by rw [Nat.mul_add]; omega)]

theorem parseDirectory_replicate_zero (n : Nat) (h : 4 ≤ n) (blockSize : U32) :
    parseDirectory (List.replicate n 0) blockSize = .ret (.ok ⟨0, [], []⟩) := by
  have h0 : leU32 (List.replicate n 0) 0 = 0 := by
    simp only [leU32, leU16, getD_replicate_zero]; rfl
  simp [parseDirectory, h0, show ¬ n < 4 by omega, words, readStreamBlocks]

end Lemmas

/-- ParseDirectory reads that layout whenever no stream size is within `B` of `2^32`:
it fails with ErrTruncatedDirectory exactly when the data is shorter than the directory, and
otherwise returns the count, the sizes and each stream's `ceil(S/B)` block indices in order. -/
theorem parseDirectory_exact (data : Bytes) (blockSize : U32) (hB : 0 < blockSize.val)
    (hwrap : ∀ size ∈ words data 4 (leU32 data 0).val,
      size ≠ nilStreamSize → size.val + blockSize.val - 1 < 4294967296) :
    parseDirectory data blockSize = .ret
      (if data.length < directoryLength data blockSize.val then .error errTruncatedDirectory
      else .ok ⟨leU32 data 0, words data 4 (leU32 data 0).val,
        expectedBlocks data blockSize.val (words data 4 (leU32 data 0).val)
          (4 + (leU32 data 0).val * 4)⟩) := by
  unfold parseDirectory directoryLength
  dsimp only
  by_cases h4 : data.length < 4
  · rw [if_pos h4, if_pos (by omega)]
  rw [if_neg h4]
  by_cases hn : data.length < 4 + (leU32 data 0).val * 4
  · rw [if_pos hn, if_pos (by omega)]
  rw [if_neg hn, readStreamBlocks_eq data blockSize hB _ _ (by omega) hwrap]
  by_cases hfit : 4 + (leU32 data 0).val * 4
      + 4 * totalBlockCount blockSize.val (words data 4 (leU32 data 0).val) ≤ data.length
  · rw [if_pos hfit, if_neg (by omega)]
  · rw [if_neg hfit, if_pos (by omega)]

/-- Two streams, one of ten bytes in block 7 and one nil, in 512-byte blocks. -/
theorem parseDirectory_exact_sample :
    parseDirectory [2, 0, 0, 0, 10, 0, 0, 0, 0xFF, 0xFF, 0xFF, 0xFF, 7, 0, 0, 0] 512 =
      .ret (.ok ⟨2, [10, 0xFFFFFFFF], [[7], []]⟩) := by
  have hsizes : words [2, 0, 0, 0, 10, 0, 0, 0, 0xFF, 0xFF, 0xFF, 0xFF, 7, 0, 0, 0] 4
      (leU32 [2, 0, 0, 0, 10, 0, 0, 0, 0xFF, 0xFF, 0xFF, 0xFF, 7, 0, 0, 0] 0).val =
        [10, 0xFFFFFFFF] := rfl
  rw [parseDirectory_exact _ 512 (by decide) (by
    rw [hsizes]
    intro size hs
    simp only [List.mem_cons, List.mem_singleton, List.not_mem_nil, or_false] at hs
    rcases hs with rfl | rfl <;> decide)]
  decide

/-- A stream of `2^32 - 2` bytes gets no block at all: `size + blockSize - 1` wraps to 509,
so an eight-byte directory parses, though its exact length is `8 + 4 * 8388608` bytes. -/
theorem parseDirectory_wraps_huge_stream :
    parseDirectory [1, 0, 0, 0, 0xFE, 0xFF, 0xFF, 0xFF] 512 =
      .ret (.ok ⟨1, [0xFFFFFFFE], [[]]⟩) ∧
    directoryLength [1, 0, 0, 0, 0xFE, 0xFF, 0xFF, 0xFF] 512 = 8 + 4 * 8388608 := by
  decide

end PdbGo.Msf
