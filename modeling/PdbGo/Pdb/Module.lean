import PdbGo.Msf.File
import PdbGo.Pdb.Symbol
import PdbGo.Symbols.Walk

/-! A module's symbol stream: read from the MSF file, cut after its four-byte signature, and
walked by the symbol iterator, keeping the records Module.convertSymbol rebuilds. -/
namespace PdbGo.Pdb
open PdbGo.Symbols PdbGo.Msf PdbGo.Stream

/-- The fields of a module-info record that parseSymbols reads. -/
structure ModuleInfo where
  moduleSymStreamIndex : U16
  symByteSize : U32
  deriving DecidableEq, Repr

/-- File.readModuleSymbols: `0xFFFF` names no stream, and gives `nil`. -/
def readModuleSymbols (f : Msf.File) (streamIndex : U16) : Run (Option Bytes) × Msf.File :=
  if streamIndex = 0xFFFF then ((.ret (.ok none), []), f)
  else
    let r := f.readStream (u32 streamIndex.val)
    (r.1.andThen fun data => (.ret (.ok (some data)), []), r.2)

/-- SymbolIterator. -/
structure SymbolIterator where
  data : Bytes
  offset : Nat

def newSymbolIterator (data : Bytes) : SymbolIterator := ⟨data, 0⟩

/-- SymbolIterator.Next: `none` once the offset reaches the end; a record that parses moves the
offset past it. -/
def SymbolIterator.next (it : SymbolIterator) : Except GoError (Option SymbolRecord) × SymbolIterator :=
  if it.offset ≥ it.data.length then (.ok none, it)
  else
    match parseSymbolRecord (it.data.drop it.offset) with
    | .error e => (.error e, it)
    | .ok (rec, size) => (.ok (some rec), { it with offset := it.offset + size })

/-- Module.convertSymbol; `nil` is `none`. -/
def convertSymbol (rec : SymbolRecord) : Option Symbol :=
  if rec.kind = sGProc32 ∨ rec.kind = sLProc32 ∨ rec.kind = sGProc32Id ∨ rec.kind = sLProc32Id then
    match parseProcSym rec.data with
    | .ok proc => some (.function proc.name proc.segment proc.codeOffset proc.codeSize proc.functionType)
    | .error _ => none
  else if rec.kind = sGData32 ∨ rec.kind = sLData32 then
    match parseDataSym rec.data with
    | .ok data => some (.data data.name data.segment data.offset data.type)
    | .error _ => none
  else if rec.kind = sUdt ∨ rec.kind = sUdtSt then
    match parseUDTSym rec.data with
    | .ok udt => some (.udt udt.name udt.type)
    | .error _ => none
  else if rec.kind = sConstant ∨ rec.kind = sConstantSt then
    match parseConstantSym rec.data with
    | .ok c => some (.constant c.name c.value c.type)
    | .error _ => none
  else if rec.kind = sLocal then
    match parseLocalSym rec.data with
    | .ok l => some (.local l.name l.type (LocalFlags.isParameter l.flags))
    | .error _ => none
  else if rec.kind = sLabel32 then
    match parseLabelSym rec.data with
    | .ok label => some (.label label.name label.segment label.offset)
    | .error _ => none
  else if rec.kind = sBlock32 then
    match parseBlockSym rec.data with
    | .ok block => some (.block block.name block.segment block.offset block.codeSize)
    | .error _ => none
  else if rec.kind = sThunk32 then
    match parseThunkSym rec.data with
    | .ok thunk => some (.thunk thunk.name thunk.segment thunk.offset (u32 thunk.length.val))
    | .error _ => none
  else none

/-- The loop of parseSymbols: until Next fails or reaches the end, keep what converts. -/
def parseSymbolsLoop (result : List Symbol) (it : SymbolIterator) : List Symbol :=
  match _h : it.next with
  | (.error _, _) => result
  | (.ok none, _) => result
  | (.ok (some rec), it') =>
    let result := match convertSymbol rec with
      | some sym => result ++ [sym]
      | none => result
    parseSymbolsLoop result it'
termination_by it.data.length - it.offset
decreasing_by
  unfold SymbolIterator.next at _h
  split_ifs at _h with hend
  · cases _h
  · split at _h
    · cases _h
    · rename_i size hp
      cases _h
      have := (parseSymbolRecord_ok hp).2.1
      dsimp only
      omega

/-- `s[:k]` on a slice with elements `s` and capacity `cap`, whose backing array is zero past
`len(s)` as `make` leaves it: Go panics only when `k` passes the capacity. -/
def sliceTo (s : Bytes) (cap k : Nat) : Outcome Bytes :=
  if k > cap then .panic "runtime error: slice bounds out of range"
  else if k ≤ s.length then .ret (s.take k)
  else .ret (s ++ List.replicate (k - s.length) 0)

/-- parseSymbols once the stream's bytes are read, `cap` being their slice's capacity: skip the
signature, cut at `SymByteSize - 4` as the code compares, and walk the rest. -/
def parseSymbolSlice (symByteSize : U32) (data : Bytes) (cap : Nat) : Outcome (List Symbol) :=
  if data.length = 0 then .ret []
  else if data.length < 4 then .ret []
  else
    let symData := data.drop 4
    let cut := if u32 symData.length < symByteSize - 4 then
        sliceTo symData (cap - 4) (symByteSize - 4).val
      else .ret symData
    match cut with
    | .ret symData => .ret (parseSymbolsLoop [] (newSymbolIterator symData))
    | .panic m => .panic m
    | .hang => .hang

/-- parseSymbols on bytes whose slice has no room past them, as after a full read. -/
def parseSymbolData (symByteSize : U32) (data : Bytes) : Outcome (List Symbol) :=
  parseSymbolSlice symByteSize data data.length

def Module.parseSymbols (f : Msf.File) (info : ModuleInfo) :
    Outcome (Except GoError (List Symbol)) × Msf.File :=
  let r := readModuleSymbols f info.moduleSymStreamIndex
  (match r.1.1 with
    | .ret (.error e) => .ret (.error e)
    | .ret (.ok none) => .ret (.ok [])
    | .ret (.ok (some data)) =>
      match parseSymbolSlice info.symByteSize data
          (f.readStreamCap (u32 info.moduleSymStreamIndex.val)) with
      | .ret syms => .ret (.ok syms)
      | .panic m => .panic m
      | .hang => .hang
    | .panic m => .panic m
    | .hang => .hang, r.2)

/-- Symbols: what it yields to a consumer that takes all of it, on the call that runs
loadSymbols; a failed parse yields nothing. -/
def Module.symbols (f : Msf.File) (info : ModuleInfo) : Outcome (List Symbol) × Msf.File :=
  let r := Module.parseSymbols f info
  (match r.1 with
    | .ret (.ok syms) => .ret syms
    | .ret (.error _) => .ret []
    | .panic m => .panic m
    | .hang => .hang, r.2)

section Lemmas

private theorem convertSymbol_empty (kind : U16) : convertSymbol ⟨kind, []⟩ = none := by
  have h : ∀ {α : Type} (f : U32 → ReadM α), runParser (readU32 >>= f) [] = .error errUnexpectedEOF :=
    fun _ => rfl
  simp only [convertSymbol, parseProcSym, parseDataSym, parseUDTSym, parseConstantSym, parseLocalSym,
    parseLabelSym, parseBlockSym, parseThunkSym, h, ite_self]

private theorem parseSymbolsLoop_eq (data : Bytes) (result : List Symbol) (offset : Nat) :
    parseSymbolsLoop result ⟨data, offset⟩ =
      result ++ (framingWalk data offset).filterMap fun p => convertSymbol p.2 := by
  rw [parseSymbolsLoop]
  split
  · rename_i e it' hn
    unfold SymbolIterator.next at hn
    split_ifs at hn with hend
    · cases hn
    · split at hn
      · rename_i e' hp
        rw [framingWalk_eq]
        split_ifs
        · simp [hp]
        · simp
      · cases hn
  · rename_i it' hn
    unfold SymbolIterator.next at hn
    split_ifs at hn with hend
    · rw [framingWalk_eq, if_neg (by dsimp only at hend; omega)]; simp
    · split at hn <;> cases hn
  · rename_i rec it' hn
    unfold SymbolIterator.next at hn
    split_ifs at hn with hend
    · cases hn
    · split at hn
      · cases hn
      · rename_i rec' size hp
        cases hn
        have hrec := parseSymbolsLoop_eq data (match convertSymbol rec with
          | some sym => result ++ [sym]
          | none => result) (offset + size)
        refine hrec.trans ?_
        obtain ⟨hs, h4, hle, hr⟩ := parseSymbolRecord_ok hp
        simp only [List.length_drop] at hle
        rw [framingWalk_eq data offset]
        by_cases hm : offset + 4 < data.length
        · rw [if_pos hm, hp]
          cases hc : convertSymbol rec <;> simp [hc]
        · rw [if_neg hm, framingWalk_eq, if_neg (by omega)]
          have hnone : convertSymbol rec = none := by
            rw [hr, show size - 4 = 0 by omega, List.take_zero]; exact convertSymbol_empty _
          simp [hnone]
termination_by data.length - offset
decreasing_by
  all_goals
    have := parseSymbolRecord_ok ‹_›
    simp only [List.length_drop] at this
    omega

theorem symbols_of_read {f : Msf.File} {info : ModuleInfo} {m : Bytes}
    (h : (readModuleSymbols f info.moduleSymStreamIndex).1.1 = .ret (.ok (some m))) :
    (Module.symbols f info).1 =
      parseSymbolSlice info.symByteSize m (f.readStreamCap (u32 info.moduleSymStreamIndex.val)) := by
  simp only [Module.symbols, Module.parseSymbols, h]
  cases parseSymbolSlice _ m _ <;> rfl

theorem parseSymbolSlice_eq (symByteSize : U32) (m : Bytes) (cap : Nat) (h4 : 4 ≤ m.length)
    (hm : m.length < 4294967296) (hc : cap < 4294967296) :
    parseSymbolSlice symByteSize m cap =
      if 4 ≤ symByteSize.val ∧ symByteSize.val ≤ m.length then
        .ret ((framingWalk (m.drop 4) 0).filterMap fun p => convertSymbol p.2)
      else if 4 ≤ symByteSize.val ∧ symByteSize.val ≤ cap then
        .ret ((framingWalk (m.drop 4 ++ List.replicate (symByteSize.val - m.length) 0) 0).filterMap
          fun p => convertSymbol p.2)
      else .panic "runtime error: slice bounds out of range" := by
  have hlen : (u32 (m.drop 4).length).val = m.length - 4 := by
    rw [List.length_drop]; exact Nat.mod_eq_of_lt (by omega)
  have hsub : (symByteSize - 4).val =
      if 4 ≤ symByteSize.val then symByteSize.val - 4 else 4294967296 + symByteSize.val - 4 := by
    split_ifs with h
    · exact Fin.coe_sub_iff_le.mpr (Fin.le_def.mpr h)
    · exact Fin.coe_sub_iff_lt.mpr (Fin.lt_def.mpr (by simp only [not_le] at h; exact h))
  unfold parseSymbolSlice
  rw [if_neg (by omega), if_neg (by omega)]
  dsimp only
  by_cases hok : 4 ≤ symByteSize.val ∧ symByteSize.val ≤ m.length
  · rw [if_neg (by rw [Fin.lt_def, hlen, hsub]; split_ifs <;> omega), if_pos hok]
    simp only [newSymbolIterator, parseSymbolsLoop_eq, List.nil_append]
  rw [if_pos (by rw [Fin.lt_def, hlen, hsub]; split_ifs <;> omega), if_neg hok, sliceTo]
  by_cases hin : 4 ≤ symByteSize.val ∧ symByteSize.val ≤ cap
  · have hk : (symByteSize - 4).val = symByteSize.val - 4 := by rw [hsub, if_pos hin.1]
    rw [if_neg (by omega), if_neg (by rw [List.length_drop]; omega), if_pos hin, hk,
      List.length_drop, show symByteSize.val - 4 - (m.length - 4) = symByteSize.val - m.length by omega]
    simp only [newSymbolIterator, parseSymbolsLoop_eq, List.nil_append]
  · rw [if_pos (by rw [hsub]; split_ifs <;> omega), if_neg hin]

private theorem parseSymbolData_eq (symByteSize : U32) (m : Bytes) (h4 : 4 ≤ m.length)
    (hm : m.length < 4294967296) :
    parseSymbolData symByteSize m =
      if 4 ≤ symByteSize.val ∧ symByteSize.val ≤ m.length then
        .ret ((framingWalk (m.drop 4) 0).filterMap fun p => convertSymbol p.2)
      else .panic "runtime error: slice bounds out of range" := by
  rw [parseSymbolData, parseSymbolSlice_eq _ _ _ h4 hm hm]
  split_ifs <;> rfl

end Lemmas

/-- The bytes SymByteSize delimits: those after the signature, up to SymByteSize and no further
than the stream. -/
def symByteSizeWindow (symByteSize : U32) (m : Bytes) : Bytes :=
  (m.take (max 4 (min m.length symByteSize.val))).drop 4

/-- Module.Symbols on stream bytes `m`, `4 ≤ |m|`: when `4 ≤ SymByteSize ≤ |m|` it yields the
converted records of the framing walk over all of `m[4:]`, SymByteSize cutting nothing; when
SymByteSize passes `m` but not the capacity Stream.Bytes allocated, it walks `m[4:]` followed by
zeros up to SymByteSize; for any other SymByteSize it panics. -/
theorem symbols_walks_whole_stream (symByteSize : U32) (m : Bytes) (h4 : 4 ≤ m.length)
    (hm : m.length < 4294967296) :
    ∀ (f : Msf.File) (info : ModuleInfo), info.symByteSize = symByteSize →
      (readModuleSymbols f info.moduleSymStreamIndex).1.1 = .ret (.ok (some m)) →
      (Module.symbols f info).1 =
        if 4 ≤ symByteSize.val ∧ symByteSize.val ≤ m.length then
          .ret ((framingWalk (m.drop 4) 0).filterMap fun p => convertSymbol p.2)
        else if 4 ≤ symByteSize.val ∧
            symByteSize.val ≤ f.readStreamCap (u32 info.moduleSymStreamIndex.val) then
          .ret ((framingWalk (m.drop 4 ++ List.replicate (symByteSize.val - m.length) 0) 0).filterMap
            fun p => convertSymbol p.2)
        else .panic "runtime error: slice bounds out of range" := by
  rintro f info rfl hread
  rw [symbols_of_read hread, parseSymbolSlice_eq _ _ _ h4 hm (f.readStreamCap_lt _)]

/-- A module stream: the signature, then an `S_UDT` record for type `0x74` named `a`. -/
def udtStream : Bytes := [0, 0, 0, 0, 8, 0, 0x08, 0x11, 0x74, 0, 0, 0, 0x61, 0]

theorem symbols_walks_whole_stream_sample : 4 ≤ udtStream.length ∧ udtStream.length < 4294967296 ∧
    ∀ (f : Msf.File) (info : ModuleInfo), info.symByteSize = 4 →
      (readModuleSymbols f info.moduleSymStreamIndex).1.1 = .ret (.ok (some udtStream)) →
      (Module.symbols f info).1 =
        if 4 ≤ (4 : U32).val ∧ (4 : U32).val ≤ udtStream.length then
          .ret ((framingWalk (udtStream.drop 4) 0).filterMap fun p => convertSymbol p.2)
        else if 4 ≤ (4 : U32).val ∧
            (4 : U32).val ≤ f.readStreamCap (u32 info.moduleSymStreamIndex.val) then
          .ret ((framingWalk (udtStream.drop 4 ++ List.replicate ((4 : U32).val - udtStream.length) 0)
            0).filterMap fun p => convertSymbol p.2)
        else .panic "runtime error: slice bounds out of range" :=
  ⟨by decide, by decide, symbols_walks_whole_stream 4 udtStream (by decide) (by decide)⟩

private theorem udtStream_walk :
    framingWalk (udtStream.drop 4) 0 = [(0, ⟨0x1108, [0x74, 0, 0, 0, 0x61, 0]⟩)] := by
  rw [framingWalk_eq, if_pos (by decide),
    show parseSymbolRecord ((udtStream.drop 4).drop 0) = .ok (⟨0x1108, [0x74, 0, 0, 0, 0x61, 0]⟩, 10)
      by decide]
  dsimp only
  rw [framingWalk_eq, if_neg (by decide)]

/-- With SymByteSize 4 the record after the signature lies past SymByteSize, yet Symbols yields
it; SymByteSize 0, whose `SymByteSize - 4` wraps, and SymByteSize past the stream both panic. -/
theorem symbols_parse_past_symByteSize :
    (framingWalk (symByteSizeWindow 4 udtStream) 0).filterMap (fun p => convertSymbol p.2) = [] ∧
    parseSymbolData 4 udtStream = .ret [.udt [0x61] 0x74] ∧
    parseSymbolData 0 udtStream = .panic "runtime error: slice bounds out of range" ∧
    parseSymbolData 15 udtStream = .panic "runtime error: slice bounds out of range" ∧
    ∀ (f : Msf.File) (info : ModuleInfo), info.symByteSize = 4 →
      (readModuleSymbols f info.moduleSymStreamIndex).1.1 = .ret (.ok (some udtStream)) →
      (Module.symbols f info).1 = .ret [.udt [0x61] 0x74] := by
  have hudt : parseSymbolData 4 udtStream = .ret [.udt [0x61] 0x74] := by
    rw [parseSymbolData_eq _ _ (by decide) (by decide), if_pos (by decide), udtStream_walk]; rfl
  refine ⟨?_, hudt, ?_, ?_, fun f info hs hread => ?_⟩
  · rw [show symByteSizeWindow 4 udtStream = [] by decide, framingWalk_eq, if_neg (by decide)]; rfl
  · rw [parseSymbolData_eq _ _ (by decide) (by decide), if_neg (by decide)]
  · rw [parseSymbolData_eq _ _ (by decide) (by decide), if_neg (by decide)]
  · rw [symbols_of_read hread, hs, parseSymbolSlice_eq _ _ _ (by decide) (by decide)
      (f.readStreamCap_lt _), if_pos (by decide), udtStream_walk]
    rfl

end PdbGo.Pdb
