import PdbGo.Symbols.Record

/-! Walking a symbol-record stream record by record. The framing walk is the sequence of
records the stream's framing gives; every loop over the stream is a fold over it. -/
namespace PdbGo.Symbols
open PdbGo.Stream

/-- The framing walk from `offset`: while more than four bytes remain and a record parses there,
that record, then the walk from its end. -/
def framingWalk (data : Bytes) (offset : Nat) : List (Nat × SymbolRecord) :=
  if offset + 4 < data.length then
    match _h : parseSymbolRecord (data.drop offset) with
    | .error _ => []
    | .ok (rec, size) => (offset, rec) :: framingWalk data (offset + size)
  else []
termination_by data.length - offset
decreasing_by have := (parseSymbolRecord_ok _h).2.1; omega

/-- The loop of SymbolTable.Public, of both passes of loadPublicSymbols and of PublicCount:
`for offset < len(data)-4`, parse the record at `offset`, stop at an error, otherwise let `step`
see it and advance by its size. -/
def scanRecords {β : Type} (data : Bytes) (step : β → Nat → SymbolRecord → β) (acc : β)
    (offset : Nat) : β :=
  if (offset : Int) < (data.length : Int) - 4 then
    match _h : parseSymbolRecord (data.drop offset) with
    | .error _ => acc
    | .ok (rec, size) => scanRecords data step (step acc offset rec) (offset + size)
  else acc
termination_by data.length - offset
decreasing_by have := (parseSymbolRecord_ok _h).2.1; omega

/-- The public symbol of a walked record: an `S_PUB32` record whose payload decodes. -/
def publicOf (rec : SymbolRecord) : Option PublicSym32 :=
  if rec.kind = sPub32 then
    match parsePublicSym32 rec.data with
    | .ok sym => some sym
    | .error _ => none
  else none

/-- The loop of ParseSymbolRecordStream, on the reader over the stream: `for r.Remaining() > 4`,
keeping the `S_PUB32` records that decode, and stopping where `r.Skip(size)` fails. -/
def parseSymbolRecordStreamLoop (symbols : List PublicSym32) (r : Reader) : List PublicSym32 :=
  if r.remaining > 4 then
    match _h : parseSymbolRecord (r.data.drop r.offset) with
    | .error _ => symbols
    | .ok (rec, size) =>
      let symbols := match publicOf rec with
        | some sym => symbols ++ [sym]
        | none => symbols
      match _hs : skip size r with
      | .error _ _ => symbols
      | .ok () r' => parseSymbolRecordStreamLoop symbols r'
  else symbols
termination_by r.data.length - r.offset
decreasing_by
  have h4 := (parseSymbolRecord_ok _h).2.1
  unfold skip at _hs
  split at _hs
  · cases _hs
  · cases _hs; simp only [Reader.remaining] at *; split at * <;> omega

/-- ParseSymbolRecordStream: the decodable public symbols of the stream; it never fails. -/
def parseSymbolRecordStream (data : Bytes) : Except GoError (List PublicSym32) :=
  .ok (parseSymbolRecordStreamLoop [] (newReader data))

section Lemmas

theorem framingWalk_eq (data : Bytes) (offset : Nat) :
    framingWalk data offset =
      if offset + 4 < data.length then
        match parseSymbolRecord (data.drop offset) with
        | .error _ => []
        | .ok (rec, size) => (offset, rec) :: framingWalk data (offset + size)
      else [] := by
  rw [framingWalk]
  split_ifs <;> [split <;> rename_i h <;> simp only [h]; rfl]

theorem framingWalk_length (data : Bytes) (offset : Nat) :
    4 * (framingWalk data offset).length ≤ data.length - offset := by
  rw [framingWalk_eq]
  split_ifs
  · split
    · simp
    · rename_i rec size hp
      have hok := parseSymbolRecord_ok hp
      simp only [List.length_drop] at hok
      have := framingWalk_length data (offset + size)
      simp only [List.length_cons]
      omega
  · simp
termination_by data.length - offset
decreasing_by have := parseSymbolRecord_ok ‹_›; simp only [List.length_drop] at this; omega

theorem scanRecords_eq_foldl {β : Type} (data : Bytes) (step : β → Nat → SymbolRecord → β)
    (acc : β) (offset : Nat) :
    scanRecords data step acc offset =
      (framingWalk data offset).foldl (fun a p => step a p.1 p.2) acc := by
  rw [scanRecords, framingWalk_eq]
  by_cases hm : offset + 4 < data.length
  · rw [if_pos (by omega), if_pos hm]
    split
    · rename_i h; simp only [h]; rfl
    · rename_i rec size h
      simp only [h, List.foldl_cons]
      exact scanRecords_eq_foldl data step _ (offset + size)
  · rw [if_neg (by omega), if_neg hm]; rfl
termination_by data.length - offset
decreasing_by
  all_goals
    have := parseSymbolRecord_ok ‹_›
    simp only [List.length_drop] at this
    omega

theorem publicOf_some {rec : SymbolRecord} {sym : PublicSym32} (h : publicOf rec = some sym) :
    11 ≤ rec.data.length ∧ rec.kind = sPub32 ∧ parsePublicSym32 rec.data = .ok sym := by
  unfold publicOf at h
  split_ifs at h with hk
  split at h
  · rename_i sym' hp
    cases h
    refine ⟨?_, hk, hp⟩
    rw [parsePublicSym32_eq] at hp
    split_ifs at hp with hd
    have := List.length_pos_of_mem hd.2
    simp only [List.length_drop] at this
    omega
  · cases h

private theorem parseSymbolRecordStreamLoop_eq (data : Bytes) (symbols : List PublicSym32) (offset : Nat) :
    parseSymbolRecordStreamLoop symbols ⟨data, offset⟩ =
      symbols ++ (framingWalk data offset).filterMap (fun p => publicOf p.2) := by
  rw [parseSymbolRecordStreamLoop, framingWalk_eq]
  by_cases hm : offset + 4 < data.length
  · rw [if_pos (by simp only [Reader.remaining]; split <;> omega), if_pos hm]
    split
    · rename_i h; simp only [h]; simp
    · rename_i rec size h
      have hok := parseSymbolRecord_ok h
      simp only [List.length_drop] at hok
      have hskip : skip size ⟨data, offset⟩ = .ok () ⟨data, offset + size⟩ := by
        simp [skip]; omega
      simp only [h, List.filterMap_cons]
      split
      · rename_i heq; rw [hskip] at heq; cases heq
      · rename_i r' heq
        rw [hskip] at heq; cases heq
        rw [parseSymbolRecordStreamLoop_eq data _ (offset + size)]
        cases publicOf rec <;> simp
  · rw [if_neg (by simp only [Reader.remaining]; split <;> omega), if_neg hm]; simp
termination_by data.length - offset
decreasing_by
  all_goals
    have := parseSymbolRecord_ok ‹_›
    simp only [List.length_drop] at this
    omega

theorem parseSymbolRecordStream_eq (data : Bytes) :
    parseSymbolRecordStream data = .ok ((framingWalk data 0).filterMap fun p => publicOf p.2) := by
  rw [parseSymbolRecordStream, newReader, parseSymbolRecordStreamLoop_eq, List.nil_append]

end Lemmas

end PdbGo.Symbols
