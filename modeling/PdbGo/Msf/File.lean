import PdbGo.Msf.DirectoryReader
import PdbGo.Msf.Stream

/-! An opened MSF file: its source and validated superblock, the stream directory read on the
first call of Directory and kept by its `sync.Once`, and the streams opened from it. -/
namespace PdbGo.Msf

/-- File. `dirOnce` is `none` until Directory has run, then the result it cached
(`directory` or `dirErr`). NewFile builds only files whose superblock passed Validate and whose
size holds `NumBlocks * BlockSize` bytes. -/
structure File where
  data : Bytes
  size : Int
  superBlock : SuperBlock
  dirOnce : Option (Except GoError StreamDirectory)
  valid : superBlock.validate = none
  fits : (superBlock.fileSize : Int) ≤ size

def newFile (data : Bytes) (size : Int) : Run File :=
  if size < superBlockSize then (.ret (.error errTruncatedFile), []) else
  let r := sourceReadAt data superBlockSize 0
  match r.2 with
  | some e =>
    (.ret (.error (.wrapf "msf: failed to read superblock: %w" e [])), [⟨0, superBlockSize⟩])
  | none =>
    match h : readSuperBlock r.1 with
    | .error e => (.ret (.error e), [⟨0, superBlockSize⟩])
    | .ok sb =>
      if hs : size < sb.fileSize then
        (.ret (.error (.errorf "msf: file too small: got %d bytes, expected %d"
          [size, sb.fileSize])), [⟨0, superBlockSize⟩])
      else
        (.ret (.ok ⟨data, size, sb, none, readSuperBlock_valid h, Int.not_lt.mp hs⟩),
          [⟨0, superBlockSize⟩])

/-- Directory: the first call reads and parses the directory and caches what it returns; a
panic ends the program, so the cache only ever holds a returned result. -/
def File.directory (f : File) : Run StreamDirectory × File :=
  match f.dirOnce with
  | some r => ((.ret r, []), f)
  | none =>
    let r := readDirectory f.superBlock f.data
    match r.1 with
    | .ret res => ((.ret res, r.2), { f with dirOnce := some res })
    | o => ((o, r.2), f)

def File.openStream (f : File) (streamIndex : U32) : Run Stream × File :=
  let d := f.directory
  (d.1.andThen fun dir =>
    if streamIndex ≥ dir.numStreams then
      (.ret (.error (.wrapf "%w: %d" errInvalidStreamIndex [streamIndex.val])), [])
    else
      let size := dir.streamSizes.getD streamIndex.val 0
      if size = nilStreamSize then
        (.ret (.error (.errorf "msf: stream %d is nil" [streamIndex.val])), [])
      else
        (.ret (.ok (newStream f.data (dir.streamBlocks.getD streamIndex.val [])
          f.superBlock.blockSize size)), []), d.2)

/-- ReadStream: OpenStream, then Bytes. -/
def File.readStream (f : File) (streamIndex : U32) : Run Bytes × File :=
  let o := f.openStream streamIndex
  (o.1.andThen fun s =>
    match s.bytes with
    | .ret (r, reads) => (.ret r, reads)
    | .panic m => (.panic m, [])
    | .hang => (.hang, []), o.2)

/-- The capacity of the slice ReadStream returns: Bytes reads into make([]byte, streamSize) and
returns data[:n], which keeps the capacity streamSize and zeros past n. -/
def File.readStreamCap (f : File) (streamIndex : U32) : Nat :=
  match (f.openStream streamIndex).1.1 with
  | .ret (.ok s) => s.streamSize.val
  | _ => 0

theorem File.readStreamCap_lt (f : File) (streamIndex : U32) :
    f.readStreamCap streamIndex < 4294967296 := by
  unfold File.readStreamCap
  split
  · exact Fin.isLt _
  · decide

/-- A file of two 512-byte blocks whose superblock puts the block map at block 2, past
`NumBlocks`; the source goes on with that block, which lists block 1 as the directory. -/
def outsideBlockMapFile : Bytes :=
  magic ++ [0, 2, 0, 0, 1, 0, 0, 0, 2, 0, 0, 0, 4, 0, 0, 0, 0, 0, 0, 0, 2, 0, 0, 0] ++
    List.replicate 968 0 ++ [1, 0, 0, 0] ++ List.replicate 508 0

set_option maxRecDepth 8000 in
theorem directory_reads_outside_file : ∃ f,
    newFile outsideBlockMapFile 1536 = (.ret (.ok f), [⟨0, 56⟩]) ∧
    f.superBlock.numBlocks = 2 ∧ f.superBlock.blockSize = 512 ∧ f.superBlock.blockMapAddr = 2 ∧
    f.directory.1 = (.ret (.ok ⟨0, [], []⟩), [⟨1024, 512⟩, ⟨512, 4⟩]) := by
  refine ⟨_, rfl, rfl, rfl, rfl, ?_⟩
  rfl

end PdbGo.Msf
