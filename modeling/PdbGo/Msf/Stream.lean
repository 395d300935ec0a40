import PdbGo.Msf.SuperBlock

/-! The virtual stream: a byte range spliced from the blocks of its block list; a ReadAt iteration
that reads nothing and fails nothing repeats forever, which the model reports as `hang`. -/
namespace PdbGo.Msf

structure Stream where
  data : Bytes
  blocks : List U32
  blockSize : U32
  streamSize : U32
  pos : U32
  deriving DecidableEq, Repr

def newStream (data : Bytes) (blocks : List U32) (blockSize streamSize : U32) : Stream :=
  { data, blocks, blockSize, streamSize, pos := 0 }

/-- What ReadAt hands back: the filled prefix `p[:n]`, its error, and the source reads made. -/
structure ReadResult where
  bytes : Bytes
  err : Option GoError
  reads : List Access
  deriving DecidableEq, Repr

/-- The variables of ReadAt's loop: `pos`, the prefix of `p` filled so far, `len(p)` of the
rest of `p`, and the source reads made. -/
structure ReadState where
  pos : U32
  got : Bytes
  want : Nat
  reads : List Access

/-- The loop stops by its condition or a `break`, or returns from its body. -/
inductive LoopExit where
  | done (st : ReadState)
  | returned (st : ReadState) (err : GoError)

/-- ReadAt's `toRead`: `uint32(len(p))`, cut to what is left of the block and of the stream. -/
def clampToRead (want : Nat) (blockRemaining streamRemaining : U32) : U32 :=
  let toRead := u32 want
  let toRead := if toRead > blockRemaining then blockRemaining else toRead
  if toRead > streamRemaining then streamRemaining else toRead

/-- One block-bounded chunk per iteration, as in ReadAt's `for` loop. -/
def Stream.readLoop (s : Stream) (st : ReadState) : Outcome LoopExit :=
  if st.want > 0 ∧ st.pos < s.streamSize then
    if s.blockSize = 0 then .panic "runtime error: integer divide by zero" else
    let blockIndex := st.pos / s.blockSize
    let blockOffset := st.pos % s.blockSize
    if blockIndex.val ≥ s.blocks.length then .ret (.returned st ioEOF) else
    let fileOffset := (s.blocks.getD blockIndex.val 0).val * s.blockSize.val + blockOffset.val
    let toRead := clampToRead st.want (s.blockSize - blockOffset) (s.streamSize - st.pos)
    match hr : sourceReadAt s.data toRead.val fileOffset with
    | (bytesRead, err) =>
    let st' : ReadState :=
      { pos := st.pos + u32 bytesRead.length, got := st.got ++ bytesRead,
        want := st.want - bytesRead.length, reads := st.reads ++ [⟨fileOffset, toRead.val⟩] }
    match err with
    | some e => if e = ioEOF ∧ 0 < st'.got.length then .ret (.done st') else .ret (.returned st' e)
    | none =>
      if bytesRead.length = 0 then .hang
      else
        have : bytesRead.length ≤ (u32 st.want).val := by
          have := hr ▸ @sourceReadAt_length_le s.data toRead.val fileOffset
          simp only [toRead, clampToRead] at this
          split_ifs at this <;> simp only [Fin.lt_def] at * <;> omega
        s.readLoop st'
  else .ret (.done st)
termination_by st.want
decreasing_by
  have : (u32 st.want).val ≤ st.want := Nat.mod_le _ _
  omega

/-- ReadAt(p, off) with `len(p) = len`. -/
def Stream.readAt (s : Stream) (len : Nat) (off : Int) : Outcome ReadResult :=
  if off < 0 then .ret ⟨[], some (.errorf "msf: negative offset: %d" [off]), []⟩
  else if s.streamSize.val ≤ off then .ret ⟨[], some ioEOF, []⟩
  else match s.readLoop ⟨u32 off.toNat, [], len, []⟩ with
    | .ret (.returned st e) => .ret ⟨st.got, some e, st.reads⟩
    | .ret (.done st) =>
      if st.got.length = 0 ∧ s.streamSize.val ≤ s.pos.val then .ret ⟨[], some ioEOF, st.reads⟩
      else .ret ⟨st.got, none, st.reads⟩
    | .panic m => .panic m
    | .hang => .hang

/-- Bytes: ReadAt into a buffer of `streamSize` bytes, keeping `data[:n]`. -/
def Stream.bytes (s : Stream) : Outcome (Except GoError Bytes × List Access) :=
  match s.readAt s.streamSize.val 0 with
  | .ret r =>
    .ret ((match r.err with
      | some e => if e ≠ ioEOF then .error e else .ok r.bytes
      | none => .ok r.bytes), r.reads)
  | .panic m => .panic m
  | .hang => .hang

/-- Read(p) with `len(p) = len`: a ReadAt at the position, with `p` cut to what is left of the
stream when `uint32(len(p))` exceeds it; the position then moves past the bytes read. -/
def Stream.read (s : Stream) (len : Nat) : Outcome (ReadResult × Stream) :=
  if s.pos ≥ s.streamSize then .ret (⟨[], some ioEOF, []⟩, s) else
  let remaining := s.streamSize - s.pos
  let len := if u32 len > remaining then remaining.val else len
  match s.readAt len s.pos.val with
  | .ret r => .ret (r, { s with pos := s.pos + u32 r.bytes.length })
  | .panic m => .panic m
  | .hang => .hang

/-- Seek's `newPos` for each `whence`: io.SeekStart, io.SeekCurrent and io.SeekEnd are 0, 1, 2. -/
def Stream.seekTarget (s : Stream) (offset whence : Int) : Option Int :=
  match whence with
  | 0 => some offset
  | 1 => some (i64 (s.pos.val + offset))
  | 2 => some (i64 (s.streamSize.val + offset))
  | _ => none

/-- Seek(offset, whence): a target past the end is cut to the stream's size. -/
def Stream.seek (s : Stream) (offset whence : Int) : Except GoError Int × Stream :=
  match s.seekTarget offset whence with
  | none => (.error (.errorf "msf: invalid seek whence: %d" [whence]), s)
  | some newPos =>
    if newPos < 0 then (.error (.errorf "msf: negative seek position: %d" [newPos]), s) else
    let newPos := if newPos > s.streamSize.val then (s.streamSize.val : Int) else newPos
    (.ok newPos, { s with pos := u32OfInt newPos })

/-- The calls a caller makes on a stream, each with the length of its buffer. -/
inductive Call where
  | read (len : Nat)
  | readAt (len : Nat) (off : Int)
  | seek (offset whence : Int)

/-- What a call hands back. -/
inductive Reply where
  | read (r : ReadResult)
  | readAt (r : ReadResult)
  | seek (r : Except GoError Int)

/-- The length of the buffer a call passes; Seek passes none. -/
def Call.bufferLen : Call → Nat
  | .read len => len
  | .readAt len _ => len
  | .seek _ _ => 0

/-- One call on the stream: Read and Seek move the position, ReadAt leaves it. -/
def Stream.call (s : Stream) : Call → Outcome (Reply × Stream)
  | .read len => match s.read len with
    | .ret (r, s') => .ret (.read r, s')
    | .panic m => .panic m
    | .hang => .hang
  | .readAt len off => match s.readAt len off with
    | .ret r => .ret (.readAt r, s)
    | .panic m => .panic m
    | .hang => .hang
  | .seek offset whence => .ret (.seek (s.seek offset whence).1, (s.seek offset whence).2)

/-- A run of calls made one after another on the same stream. -/
def Stream.run (s : Stream) : List Call → Outcome (List Reply × Stream)
  | [] => .ret ([], s)
  | c :: cs => match s.call c with
    | .ret (rep, s') => match s'.run cs with
      | .ret (reps, s'') => .ret (rep :: reps, s'')
      | .panic m => .panic m
      | .hang => .hang
    | .panic m => .panic m
    | .hang => .hang

/-- The byte at logical offset `o`: `blocks[o / B] * B + o % B` of the source. -/
def Stream.byteAt (s : Stream) (o : Nat) : U8 :=
  s.data.getD ((s.blocks.getD (o / s.blockSize.val) 0).val * s.blockSize.val
    + o % s.blockSize.val) 0

/-- The logical bytes `[o, o + n)` of the stream. -/
def Stream.slice (s : Stream) (o n : Nat) : Bytes := (List.range n).map (fun k => s.byteAt (o + k))


/-- The stream's blocks cover its size, and the source holds in full each block it uses. -/
structure Stream.Backed (s : Stream) : Prop where
  blockSize_pos : 0 < s.blockSize.val
  covers : (s.streamSize.val + s.blockSize.val - 1) / s.blockSize.val ≤ s.blocks.length
  held : ∀ i < (s.streamSize.val + s.blockSize.val - 1) / s.blockSize.val,
    ((s.blocks.getD i 0).val + 1) * s.blockSize.val ≤ s.data.length

/-- A source read that lies inside one of the blocks the stream uses. -/
def Stream.inUsedBlock (s : Stream) (a : Access) : Prop :=
  ∃ i < (s.streamSize.val + s.blockSize.val - 1) / s.blockSize.val,
    (s.blocks.getD i 0).val * s.blockSize.val ≤ a.off ∧
      a.off + a.len ≤ ((s.blocks.getD i 0).val + 1) * s.blockSize.val

section Lemmas

private theorem take_drop_eq_map (l : Bytes) (a t : Nat) (h : a + t ≤ l.length) :
    (l.drop a).take t = (List.range t).map (fun j => l.getD (a + j) 0) := by
  apply List.ext_getElem
  · simp; omega
  · intro n h1 h2
    simp [List.getD_eq_getElem?_getD, List.getElem?_eq_getElem (show a + n < l.length by simp at h2; omega)]

private theorem Stream.slice_add (s : Stream) (o a b : Nat) :
    s.slice o (a + b) = s.slice o a ++ s.slice (o + a) b := by
  simp [Stream.slice, List.range_add, Nat.add_assoc]

private theorem Stream.chunk_eq_slice (s : Stream) (hB : 0 < s.blockSize.val) (p t : Nat)
    (ht : p % s.blockSize.val + t ≤ s.blockSize.val)
    (hd : ((s.blocks.getD (p / s.blockSize.val) 0).val + 1) * s.blockSize.val ≤ s.data.length) :
    (s.data.drop ((s.blocks.getD (p / s.blockSize.val) 0).val * s.blockSize.val
      + p % s.blockSize.val)).take t = s.slice p t := by
  rw [take_drop_eq_map _ _ _ (by rw [Nat.succ_mul] at hd; omega), Stream.slice]
  refine List.map_congr_left fun j hj => ?_
  have hj : j < t := List.mem_range.mp hj
  obtain ⟨hdiv, hmod⟩ := (@Nat.div_mod_unique (p + j) s.blockSize.val (p % s.blockSize.val + j)
    (p / s.blockSize.val) hB).mpr
    ⟨by have := Nat.mod_add_div p s.blockSize.val; omega, by omega⟩
  simp only [Stream.byteAt, hdiv, hmod, Nat.add_assoc]

private theorem clampToRead_val (w : Nat) (br sr : U32) :
    (clampToRead w br sr).val = min (min (w % 4294967296) br.val) sr.val := by
  unfold clampToRead
  dsimp only
  split_ifs <;> simp only [Fin.lt_def, u32, Fin.ofNat, Fin.val_mk] at * <;> omega

private theorem ceil_gt (B p S : Nat) (hB : 0 < B) (h : p < S) : p / B < (S + B - 1) / B := by
  have h1 : (p / B + 1) * B ≤ S + B - 1 := by
    have := Nat.div_mul_le_self p B; rw [Nat.succ_mul]; omega
  exact (Nat.le_div_iff_mul_le hB).mpr h1

private theorem Stream.readLoop_step (s : Stream) (hs : s.Backed) (st : ReadState)
    (hw : 0 < st.want) (hw' : st.want < 4294967296) (hp : st.pos.val < s.streamSize.val) (t : Nat)
    (ht : t = min (min st.want (s.blockSize.val - st.pos.val % s.blockSize.val))
      (s.streamSize.val - st.pos.val)) :
    s.readLoop st = s.readLoop ⟨st.pos + u32 t, st.got ++ s.slice st.pos.val t, st.want - t,
      st.reads ++ [⟨(s.blocks.getD (st.pos.val / s.blockSize.val) 0).val * s.blockSize.val
        + st.pos.val % s.blockSize.val, t⟩]⟩ := by
  rw [Stream.readLoop]
  have hB := hs.blockSize_pos
  have hB0 : s.blockSize ≠ 0 := fun h => by simp [h] at hB
  have hc : st.want > 0 ∧ st.pos < s.streamSize := ⟨hw, Fin.lt_def.mpr hp⟩
  have hbi : ¬ (st.pos / s.blockSize).val ≥ s.blocks.length := by
    have := hs.covers; have := ceil_gt _ _ _ hB hp; simp only [Fin.div_val]; omega
  have hbo : st.pos.val % s.blockSize.val < s.blockSize.val := Nat.mod_lt _ hB
  have hclamp : (clampToRead st.want (s.blockSize - st.pos % s.blockSize)
      (s.streamSize - st.pos)).val = t := by
    have hmod := Fin.mod_val st.pos s.blockSize
    rw [clampToRead_val, Nat.mod_eq_of_lt hw', ht,
      Fin.sub_val_of_le (Fin.le_of_lt (Fin.lt_def.mpr hp)),
      Fin.sub_val_of_le (Fin.le_def.mpr (by rw [hmod]; omega)), hmod]
  have hread : sourceReadAt s.data t ((s.blocks.getD (st.pos.val / s.blockSize.val) 0).val
      * s.blockSize.val + st.pos.val % s.blockSize.val) = (s.slice st.pos.val t, none) := by
    have held := hs.held _ (ceil_gt _ _ _ hB hp)
    rw [sourceReadAt_of_le (by rw [Nat.succ_mul] at held; omega) (by omega),
      s.chunk_eq_slice hB _ _ (by omega) held]
  have hlen : (s.slice st.pos.val t).length = t := by simp [Stream.slice]
  have ht0 : ¬ t = 0 := by omega
  simp only [hc, and_self, if_true, hB0, if_false, hbi]
  split
  · rename_i _ _ _ _ hsnd _
    simp only [hclamp, Fin.div_val, Fin.mod_val, hread] at hsnd
    cases hsnd
  · simp only [hclamp, Fin.div_val, Fin.mod_val, hread, hlen, ht0, if_false]

private theorem Stream.readLoop_run (s : Stream) (hs : s.Backed) (st : ReadState)
    (hp : st.pos.val ≤ s.streamSize.val) (hw : st.want < 4294967296) :
    ∃ st', s.readLoop st = .ret (.done st') ∧
      st'.got = st.got ++ s.slice st.pos.val (min st.want (s.streamSize.val - st.pos.val)) ∧
      ∀ a ∈ st'.reads, a ∈ st.reads ∨ s.inUsedBlock a := by
  induction' hwant : st.want using Nat.strong_induction_on with w ih generalizing st
  by_cases hc : 0 < st.want ∧ st.pos.val < s.streamSize.val
  · have hB := hs.blockSize_pos
    have hbo : st.pos.val % s.blockSize.val < s.blockSize.val := Nat.mod_lt _ hB
    obtain ⟨t, ht⟩ : ∃ t, t = min (min st.want (s.blockSize.val - st.pos.val % s.blockSize.val))
      (s.streamSize.val - st.pos.val) := ⟨_, rfl⟩
    have htB : t ≤ s.blockSize.val - st.pos.val % s.blockSize.val :=
      ht ▸ le_trans (Nat.min_le_left _ _) (Nat.min_le_right _ _)
    have htS : t ≤ s.streamSize.val - st.pos.val := ht ▸ Nat.min_le_right _ _
    have htw : t = st.want ∨ t < st.want := by omega
    have ht0 : 0 < t := by omega
    rw [s.readLoop_step hs st hc.1 hw hc.2 t ht]
    clear ht
    have ht32 : (u32 t).val = t := Nat.mod_eq_of_lt (by omega)
    have hpos : (st.pos + u32 t).val = st.pos.val + t := by
      rw [Fin.val_add, ht32]; exact Nat.mod_eq_of_lt (by omega)
    obtain ⟨st', hrun, hgot, hreads⟩ := ih (w - t) (by omega)
      ⟨st.pos + u32 t, st.got ++ s.slice st.pos.val t, st.want - t,
        st.reads ++ [⟨(s.blocks.getD (st.pos.val / s.blockSize.val) 0).val * s.blockSize.val
          + st.pos.val % s.blockSize.val, t⟩]⟩ (by dsimp only; omega) (by dsimp only; omega)
      (by dsimp only; omega)
    refine ⟨st', hrun, ?_, fun a ha => ?_⟩
    · rw [hgot, hpos, List.append_assoc, ← Stream.slice_add]
      congr 2
      omega
    · rcases hreads a ha with h | h
      · rcases List.mem_append.mp h with h | h
        · exact .inl h
        · refine .inr ⟨st.pos.val / s.blockSize.val, ceil_gt _ _ _ hB hc.2, ?_⟩
          rw [List.mem_singleton.mp h]
          exact ⟨by dsimp only; omega, by dsimp only; rw [Nat.succ_mul]; omega⟩
      · exact .inr h
  · rw [Stream.readLoop, if_neg (by rw [Fin.lt_def]; omega)]
    refine ⟨st, rfl, ?_, fun a ha => .inl ha⟩
    rw [show min w (s.streamSize.val - st.pos.val) = 0 by omega]
    simp [Stream.slice]

private theorem Stream.readLoop_hang (s : Stream) (hs : s.Backed) (st : ReadState) (hw : 0 < st.want)
    (hw32 : st.want % 4294967296 = 0) (hp : st.pos.val < s.streamSize.val) :
    s.readLoop st = .hang := by
  rw [Stream.readLoop]
  have hB := hs.blockSize_pos
  have hB0 : s.blockSize ≠ 0 := fun h => by simp [h] at hB
  have hc : st.want > 0 ∧ st.pos < s.streamSize := ⟨hw, Fin.lt_def.mpr hp⟩
  have hbi : ¬ (st.pos / s.blockSize).val ≥ s.blocks.length := by
    have := hs.covers; have := ceil_gt _ _ _ hB hp; simp only [Fin.div_val]; omega
  have hclamp : (clampToRead st.want (s.blockSize - st.pos % s.blockSize)
      (s.streamSize - st.pos)).val = 0 := by
    rw [clampToRead_val, hw32]; simp
  have hread : sourceReadAt s.data 0 ((s.blocks.getD (st.pos.val / s.blockSize.val) 0).val
      * s.blockSize.val + st.pos.val % s.blockSize.val) = ([], none) := by
    have held := hs.held _ (ceil_gt _ _ _ hB hp)
    have hbo : st.pos.val % s.blockSize.val < s.blockSize.val := Nat.mod_lt _ hB
    simp only [sourceReadAt, List.take_zero, List.length_nil, Nat.lt_irrefl, if_false]
    rw [if_neg (by rw [Nat.succ_mul] at held; omega)]
  simp only [hc, and_self, if_true, hB0, if_false, hbi]
  split
  · rename_i _ _ _ _ hsnd _
    simp only [hclamp, Fin.div_val, Fin.mod_val, hread] at hsnd
    cases hsnd
  · simp only [hclamp, Fin.div_val, Fin.mod_val, hread, List.length_nil, if_true]

end Lemmas

private theorem Stream.readAt_spec (s : Stream) (hs : s.Backed) (len : Nat) (off : Int)
    (hlen : len < 4294967296) :
    ∃ r, s.readAt len off = .ret r ∧
      (off < 0 → r = ⟨[], some (.errorf "msf: negative offset: %d" [off]), []⟩) ∧
      (s.streamSize.val ≤ off → r = ⟨[], some ioEOF, []⟩) ∧
      (0 ≤ off → off < s.streamSize.val →
        r.bytes = s.slice off.toNat (min len (s.streamSize.val - off.toNat)) ∧
        r.err = (if r.bytes = [] ∧ s.streamSize.val ≤ s.pos.val then some ioEOF else none) ∧
        ∀ a ∈ r.reads, s.inUsedBlock a) := by
  unfold Stream.readAt
  by_cases hneg : off < 0
  · rw [if_pos hneg]
    exact ⟨_, rfl, fun _ => rfl, fun h => absurd h (by omega), fun h => absurd h (by omega)⟩
  by_cases hend : s.streamSize.val ≤ off
  · rw [if_neg hneg, if_pos hend]
    exact ⟨_, rfl, fun h => absurd h hneg, fun _ => rfl, fun _ h => absurd h (by omega)⟩
  rw [if_neg hneg, if_neg hend]
  have hoff : (u32 off.toNat).val = off.toNat := Nat.mod_eq_of_lt (by omega)
  obtain ⟨st', hrun, hgot, hreads⟩ := s.readLoop_run hs ⟨u32 off.toNat, [], len, []⟩
    (by dsimp only; omega) hlen
  simp only [hoff, List.nil_append] at hgot
  have hreads' : ∀ a ∈ st'.reads, s.inUsedBlock a := fun a ha =>
    (hreads a ha).resolve_left (List.not_mem_nil a)
  rw [hrun]
  dsimp only
  split_ifs with h0
  · refine ⟨_, rfl, fun h => absurd h hneg, fun h => absurd h hend,
      fun _ _ => ⟨?_, by simp [h0.2], hreads'⟩⟩
    rw [← hgot, List.length_eq_zero.mp h0.1]
  · refine ⟨_, rfl, fun h => absurd h hneg, fun h => absurd h hend,
      fun _ _ => ⟨hgot, ?_, hreads'⟩⟩
    rw [if_neg (by rwa [← List.length_eq_zero])]

theorem Stream.bytes_spec (s : Stream) (hs : s.Backed) :
    ∃ reads, s.bytes = .ret (.ok (s.slice 0 s.streamSize.val), reads) := by
  obtain ⟨r, hr, -, hend, hin⟩ := s.readAt_spec hs s.streamSize.val 0 s.streamSize.isLt
  unfold Stream.bytes
  rw [hr]
  by_cases h0 : s.streamSize.val = 0
  · rw [hend (by omega)]
    exact ⟨[], by simp [Stream.slice, h0]⟩
  · obtain ⟨hbytes, herr, -⟩ := hin (Int.le_refl 0) (by omega)
    refine ⟨r.reads, ?_⟩
    simp only [hbytes, Int.toNat_zero, Nat.sub_zero, Nat.min_self] at herr ⊢
    split_ifs at herr <;> simp [herr]
/-- Every read of a backed stream returns; the bytes it returns are the logical bytes of the
stream, and Bytes returns all `S` of them. -/
theorem Stream.readAt_logical_bytes (s : Stream) (hs : s.Backed) :
    (∀ len off, len < 4294967296 → ∃ r, s.readAt len off = .ret r ∧
      (off < 0 → r = ⟨[], some (.errorf "msf: negative offset: %d" [off]), []⟩) ∧
      (s.streamSize.val ≤ off → r = ⟨[], some ioEOF, []⟩) ∧
      (0 ≤ off → off < s.streamSize.val →
        r.bytes = s.slice off.toNat (min len (s.streamSize.val - off.toNat)) ∧
        ∀ a ∈ r.reads, s.inUsedBlock a)) ∧
    ∃ reads, s.bytes = .ret (.ok (s.slice 0 s.streamSize.val), reads) := by
  refine ⟨fun len off hlen => ?_, s.bytes_spec hs⟩
  obtain ⟨r, hr, hneg, hend, hin⟩ := s.readAt_spec hs len off hlen
  exact ⟨r, hr, hneg, hend, fun h0 h1 => ⟨(hin h0 h1).1, (hin h0 h1).2.2⟩⟩

/-! Read, Seek, and runs of calls -/

private theorem Stream.readAt_hang (s : Stream) (hs : s.Backed) (len : Nat) (off : Int) (h0 : 0 ≤ off)
    (hoff : off < s.streamSize.val) (hw : 0 < len) (hw32 : len % 4294967296 = 0) :
    s.readAt len off = .hang := by
  have hp : (u32 off.toNat).val = off.toNat := Nat.mod_eq_of_lt (by omega)
  unfold Stream.readAt
  rw [if_neg (by omega), if_neg (by omega), s.readLoop_hang hs _ hw hw32 (by dsimp only; omega)]

private theorem Stream.read_hang (s : Stream) (hs : s.Backed) (len : Nat) (hp : s.pos.val < s.streamSize.val)
    (hw : 0 < len) (hw32 : len % 4294967296 = 0) : s.read len = .hang := by
  have hu : ¬ u32 len > s.streamSize - s.pos := by
    have h0 : (u32 len).val = 0 := hw32
    rw [gt_iff_lt, Fin.lt_def, h0]; omega
  unfold Stream.read
  rw [if_neg (Fin.not_le.mpr (Fin.lt_def.mpr hp))]
  dsimp only
  rw [if_neg hu, s.readAt_hang hs len _ (by omega) (by omega) hw hw32]

/-- Read returns the next `min(len(p), S - pos)` bytes of the stream and moves the position past
them, with io.EOF exactly when the position is already at the end. -/
theorem Stream.read_spec (s : Stream) (hs : s.Backed) (hpos : s.pos.val ≤ s.streamSize.val)
    (len : Nat) (hlen : len < 4294967296) :
    ∃ r s', s.read len = .ret (r, s') ∧ s' = { s with pos := s'.pos } ∧
      s'.pos.val = s.pos.val + r.bytes.length ∧
      r.bytes = s.slice s.pos.val (min len (s.streamSize.val - s.pos.val)) ∧
      r.err = if s.pos.val = s.streamSize.val then some ioEOF else none := by
  unfold Stream.read
  by_cases hend : s.pos ≥ s.streamSize
  · have he : s.pos.val = s.streamSize.val := by have := Fin.le_def.mp hend; omega
    rw [if_pos hend]
    exact ⟨_, _, rfl, rfl, by simp, by simp [he, Stream.slice], by simp [he]⟩
  rw [if_neg hend]
  have hlt : s.pos.val < s.streamSize.val := Fin.lt_def.mp (Fin.not_le.mp hend)
  have hrem : (s.streamSize - s.pos).val = s.streamSize.val - s.pos.val :=
    Fin.sub_val_of_le (Fin.le_of_lt (Fin.lt_def.mpr hlt))
  dsimp only
  obtain ⟨len', hlen', hmin⟩ : ∃ len', (if u32 len > s.streamSize - s.pos then (s.streamSize - s.pos).val
      else len) = len' ∧ min len' (s.streamSize.val - s.pos.val) = min len (s.streamSize.val - s.pos.val) := by
    refine ⟨_, rfl, ?_⟩
    have hu : (u32 len).val = len := Nat.mod_eq_of_lt hlen
    split_ifs with h
    · simp only [gt_iff_lt, Fin.lt_def, hu, hrem] at h ⊢; omega
    · rfl
  rw [hlen']
  obtain ⟨r, hr, -, -, hin⟩ := s.readAt_spec hs len' s.pos.val (by
    rw [← hlen']; split_ifs
    · exact (s.streamSize - s.pos).isLt
    · exact hlen)
  obtain ⟨hbytes, herr, -⟩ := hin (by omega) (by omega)
  simp only [Int.toNat_ofNat, hmin] at hbytes
  have hn : r.bytes.length = min len (s.streamSize.val - s.pos.val) := by simp [hbytes, Stream.slice]
  rw [hr]
  refine ⟨r, _, rfl, rfl, ?_, hbytes, ?_⟩
  · rw [Fin.val_add, show (u32 r.bytes.length).val = r.bytes.length from Nat.mod_eq_of_lt (by omega)]
    exact Nat.mod_eq_of_lt (by omega)
  · rw [herr, if_neg (show ¬ s.pos.val = s.streamSize.val by omega),
      if_neg fun h => absurd h.2 (by omega)]


private theorem Stream.seek_cases (s : Stream) (offset whence : Int) :
    (∃ t, s.seekTarget offset whence = some t ∧ 0 ≤ t ∧
      s.seek offset whence = (.ok (min t s.streamSize.val),
        { s with pos := u32OfInt (min t s.streamSize.val) })) ∨
    ∃ e, s.seek offset whence = (.error e, s) := by
  unfold Stream.seek
  cases s.seekTarget offset whence with
  | none => exact .inr ⟨_, rfl⟩
  | some t =>
    dsimp only
    by_cases ht : t < 0
    · exact .inr ⟨_, by rw [if_pos ht]⟩
    · refine .inl ⟨t, rfl, by omega, ?_⟩
      rw [if_neg ht]
      split_ifs with hS
      · rw [Int.min_eq_right (Int.le_of_lt hS)]
      · rw [Int.min_eq_left (Int.not_lt.mp hS)]

private theorem u32OfInt_min_val (t : Int) (S : Nat) (ht : 0 ≤ t) (hS : S < 4294967296) :
    (u32OfInt (min t S)).val = (min t S).toNat := by
  show ((min t S) % 4294967296).toNat % 4294967296 = _
  omega

private theorem Stream.call_spec (s : Stream) (hs : s.Backed) (hpos : s.pos.val ≤ s.streamSize.val)
    (c : Call) (hc : c.bufferLen < 4294967296) :
    ∃ rep s', s.call c = .ret (rep, s') ∧ s' = { s with pos := s'.pos } ∧
      s'.pos.val ≤ s.streamSize.val := by
  cases c with
  | read len =>
    obtain ⟨r, s', hr, hframe, hp, hbytes, -⟩ := s.read_spec hs hpos len hc
    have hn : r.bytes.length ≤ s.streamSize.val - s.pos.val := by
      rw [hbytes, Stream.slice, List.length_map, List.length_range]; exact Nat.min_le_right _ _
    exact ⟨.read r, s', by simp only [Stream.call, hr], hframe, by omega⟩
  | readAt len off =>
    obtain ⟨r, hr, -⟩ := s.readAt_spec hs len off hc
    exact ⟨.readAt r, s, by simp only [Stream.call, hr], rfl, hpos⟩
  | seek offset whence =>
    refine ⟨_, _, rfl, ?_⟩
    rcases s.seek_cases offset whence with ⟨t, -, ht, hseek⟩ | ⟨e, hseek⟩ <;> rw [hseek]
    · refine ⟨rfl, ?_⟩
      dsimp only
      rw [u32OfInt_min_val _ _ ht (by omega)]
      omega
    · exact ⟨rfl, hpos⟩

/-- Over any run of Read, Seek and ReadAt calls whose buffers are under 4 GiB, every call on a
backed stream returns, and the position stays inside the stream. -/
theorem Stream.run_returns (s : Stream) (hs : s.Backed) (hpos : s.pos.val ≤ s.streamSize.val)
    (calls : List Call) (hbuf : ∀ c ∈ calls, c.bufferLen < 4294967296) :
    ∃ replies s', s.run calls = .ret (replies, s') ∧ replies.length = calls.length ∧
      s' = { s with pos := s'.pos } ∧ s'.pos.val ≤ s.streamSize.val := by
  induction calls generalizing s with
  | nil => exact ⟨[], s, rfl, rfl, rfl, hpos⟩
  | cons c cs ih =>
    obtain ⟨rep, s1, hc, hframe1, hpos1⟩ :=
      s.call_spec hs hpos c (hbuf c (List.mem_cons_self c cs))
    have hs1 : s1.Backed := by rw [hframe1]; exact ⟨hs.1, hs.2, hs.3⟩
    obtain ⟨reps, s2, hrun, hlen, hframe2, hpos2⟩ := ih s1 hs1 (by rw [hframe1]; exact hpos1)
      fun c' hc' => hbuf c' (List.mem_cons_of_mem c hc')
    refine ⟨rep :: reps, s2, by simp only [Stream.run, hc, hrun], by simp [hlen], ?_, ?_⟩
    · rw [hframe2, hframe1]
    · rw [hframe1] at hpos2; exact hpos2

/-- A six-byte stream over two four-byte blocks stored in reverse order. -/
def sampleStream : Stream := newStream [0, 1, 2, 3, 4, 5, 6, 7] [1, 0] 4 6

private theorem sampleStream_backed : sampleStream.Backed := ⟨by decide, by decide, by decide⟩

theorem readAt_logical_bytes_sample : sampleStream.Backed ∧ ∃ r,
    sampleStream.readAt 3 2 = .ret r ∧ r.bytes = sampleStream.slice 2 3 := by
  obtain ⟨hread, -⟩ := Stream.readAt_logical_bytes sampleStream sampleStream_backed
  obtain ⟨r, hr, -, -, hin⟩ := hread 3 2 (by decide)
  exact ⟨sampleStream_backed, r, hr, (hin (by decide) (by decide)).1⟩

example : sampleStream.slice 2 3 = [6, 7, 0] := by decide

/-- At offset `-1` ReadAt returns no byte, where `min(L, S - off)` would be one. -/
theorem readAt_negative_offset : ¬ ∃ r, sampleStream.readAt 1 (-1) = .ret r ∧
    (r.bytes.length : Int) = min 1 ((sampleStream.streamSize.val : Int) - (-1)) := by
  rintro ⟨r, hr, hlen⟩
  simp only [Stream.readAt, if_pos (show (-1 : Int) < 0 by decide), Outcome.ret.injEq] at hr
  subst hr
  exact absurd hlen (by decide)

/-- A Read of four bytes from the start of the sample stream. -/
theorem read_spec_sample : ∃ r s', sampleStream.read 4 = .ret (r, s') ∧
    s' = { sampleStream with pos := s'.pos } ∧
    s'.pos.val = sampleStream.pos.val + r.bytes.length ∧
    r.bytes = sampleStream.slice sampleStream.pos.val
      (min 4 (sampleStream.streamSize.val - sampleStream.pos.val)) ∧
    r.err = if sampleStream.pos.val = sampleStream.streamSize.val then some ioEOF else none :=
  Stream.read_spec sampleStream sampleStream_backed (by decide) 4 (by decide)

/-- Three calls on the sample stream: a Read, a Seek back from the end, and a ReadAt. -/
theorem run_returns_sample : ∃ replies s',
    sampleStream.run [.read 4, .seek (-3) 2, .readAt 2 1] = .ret (replies, s') ∧
    replies.length = 3 ∧ s' = { sampleStream with pos := s'.pos } ∧
    s'.pos.val ≤ sampleStream.streamSize.val :=
  Stream.run_returns sampleStream sampleStream_backed (by decide) _ (by decide)

/-- A ReadAt that returns fewer bytes than its buffer holds with no error, and a ReadAt and a
Read of a 4 GiB buffer that never return. -/
theorem stream_breaks_io_contracts :
    (∃ r, sampleStream.readAt 3 4 = .ret r ∧ r.bytes.length = 2 ∧ r.err = none) ∧
    sampleStream.readAt 4294967296 0 = .hang ∧ sampleStream.read 4294967296 = .hang := by
  refine ⟨?_, sampleStream.readAt_hang sampleStream_backed _ _ (by decide) (by decide) (by decide)
    (by decide), sampleStream.read_hang sampleStream_backed _ (by decide) (by decide) (by decide)⟩
  obtain ⟨r, hr, -, -, hin⟩ := sampleStream.readAt_spec sampleStream_backed 3 4 (by decide)
  obtain ⟨hbytes, herr, -⟩ := hin (by decide) (by decide)
  exact ⟨r, hr, by rw [hbytes]; rfl, by rw [herr, hbytes]; decide⟩

end PdbGo.Msf
