import PdbGo.Core.Source

/-! The MSF superblock at file offset 0 and its validation.
Its `uint32` fields are `U32`, so `NumDirectoryBlocks` wraps as the Go expression does. -/
namespace PdbGo.Msf

def errInvalidMagic : GoError := .new "msf: invalid magic signature, not a valid PDB file"
def errInvalidBlockSize : GoError := .new "msf: invalid block size"
def errInvalidFPMBlock : GoError := .new "msf: invalid free block map block index"
def errTruncatedFile : GoError := .new "msf: file is truncated"

/-- The 32 bytes of `Magic`, "Microsoft C/C++ MSF 7.00\r\n\x1a\x44\x53\x00\x00\x00". -/
def magic : Bytes :=
  [0x4D, 0x69, 0x63, 0x72, 0x6F, 0x73, 0x6F, 0x66, 0x74, 0x20, 0x43, 0x2F, 0x43, 0x2B, 0x2B, 0x20,
   0x4D, 0x53, 0x46, 0x20, 0x37, 0x2E, 0x30, 0x30, 0x0D, 0x0A, 0x1A, 0x44, 0x53, 0x00, 0x00, 0x00]

def superBlockSize : Nat := 56

structure SuperBlock where
  fileMagic : Bytes
  blockSize : U32
  freeBlockMapBlock : U32
  numBlocks : U32
  numDirectoryBytes : U32
  unknown : U32
  blockMapAddr : U32
  deriving DecidableEq, Repr

/-- Validate: `nil` is `none`. -/
def SuperBlock.validate (sb : SuperBlock) : Option GoError :=
  if sb.fileMagic ≠ magic then some errInvalidMagic
  else if sb.blockSize < 512 ∨ sb.blockSize > 65536 then some errInvalidBlockSize
  else if sb.blockSize &&& (sb.blockSize - 1) ≠ 0 then some errInvalidBlockSize
  else if sb.freeBlockMapBlock ≠ 1 ∧ sb.freeBlockMapBlock ≠ 2 then some errInvalidFPMBlock
  else none

def SuperBlock.numDirectoryBlocks (sb : SuperBlock) : U32 :=
  (sb.numDirectoryBytes + sb.blockSize - 1) / sb.blockSize

/-- FileSize and BlockOffset compute in `int64`, where these products cannot overflow. -/
def SuperBlock.fileSize (sb : SuperBlock) : Nat := sb.numBlocks.val * sb.blockSize.val

def SuperBlock.blockOffset (sb : SuperBlock) (blockNum : U32) : Nat :=
  blockNum.val * sb.blockSize.val

/-- ReadSuperBlock: `binary.Read` of the 56-byte layout, then Validate. -/
def readSuperBlock (bs : Bytes) : Except GoError SuperBlock :=
  if bs.length < superBlockSize then .error errTruncatedFile
  else
    let sb : SuperBlock :=
      { fileMagic := bs.take 32, blockSize := leU32 bs 32, freeBlockMapBlock := leU32 bs 36,
        numBlocks := leU32 bs 40, numDirectoryBytes := leU32 bs 44, unknown := leU32 bs 48,
        blockMapAddr := leU32 bs 52 }
    match sb.validate with
    | some e => .error e
    | none => .ok sb

section Lemmas
variable {sb : SuperBlock}

theorem validate_blockSize (h : sb.validate = none) :
    512 ≤ sb.blockSize.val ∧ sb.blockSize.val ≤ 65536 := by
  unfold SuperBlock.validate at h
  split_ifs at h with h1 h2
  simp only [not_or, gt_iff_lt, Fin.lt_def] at h2
  omega

theorem validate_blockSize_pos (h : sb.validate = none) : 0 < sb.blockSize.val := by
  have := validate_blockSize h; omega

theorem readSuperBlock_valid {bs : Bytes} (h : readSuperBlock bs = .ok sb) : sb.validate = none := by
  unfold readSuperBlock at h
  split_ifs at h
  dsimp only at h
  split at h
  · cases h
  · cases h; assumption

end Lemmas

end PdbGo.Msf
