import PdbGo.Symbols.NameIndex
import PdbGo.Symbols.AddressIndex
import PdbGo.Pdb.Symbol

/-! The symbol table of a PDB file: the symbol-record stream and the PSI stream as loaded, the
public symbols walked, cached or counted, and the lookups by name and by address. -/
namespace PdbGo.Pdb
open PdbGo.Symbols

/-- convertSymbolRecord; `nil` is `none`. -/
def convertSymbolRecord (rec : SymbolRecord) : Option Symbol :=
  if rec.kind = sPub32 then
    match parsePublicSym32 rec.data with
    | .ok sym => some (.public (publicSymbolOf sym))
    | .error _ => none
  else if rec.kind = sGProc32 ∨ rec.kind = sLProc32 ∨ rec.kind = sGProc32Id ∨ rec.kind = sLProc32Id then
    match parseProcSym rec.data with
    | .ok sym => some (.function sym.name sym.segment sym.codeOffset sym.codeSize sym.functionType)
    | .error _ => none
  else if rec.kind = sGData32 ∨ rec.kind = sLData32 then
    match parseDataSym rec.data with
    | .ok sym => some (.data sym.name sym.segment sym.offset sym.type)
    | .error _ => none
  else if rec.kind = sUdt then
    match parseUDTSym rec.data with
    | .ok sym => some (.udt sym.name sym.type)
    | .error _ => none
  else if rec.kind = sConstant then
    match parseConstantSym rec.data with
    | .ok sym => some (.constant sym.name sym.value sym.type)
    | .error _ => none
  else none

/-- SymbolTable. `symRecordData` and `psi` are what ensureSymRecordData and ensurePSI loaded,
`none` for a stream the file does not have; `publicSymbols` is PublicCached's cache. A stream of
an MSF file has a `uint32` size, so the record stream is shorter than `2^32` bytes. The name and
address indexes are built once from these unchanging streams, so a lookup is modelled as
building its index. -/
structure SymbolTable where
  symRecordData : Option Bytes
  symRecordDataErr : Option GoError
  psi : Option PSI
  psiErr : Option GoError
  publicSymbolsOnce : Bool
  publicSymbols : Option (List PublicSymbol)
  publicSymbolsErr : Option GoError
  data_short : ∀ data, symRecordData = some data → data.length < 4294967296
  cache_fresh : publicSymbolsOnce = false → publicSymbols = none

/-- The record stream, when ensureSymRecordData succeeded and the stream exists. -/
def SymbolTable.records (st : SymbolTable) : Option Bytes :=
  if st.symRecordDataErr.isSome then none else st.symRecordData

/-- The body of Public's loop and of loadPublicSymbols' second pass. -/
def collectPublic (acc : List PublicSymbol) (_ : Nat) (rec : SymbolRecord) : List PublicSymbol :=
  if rec.kind = sPub32 then
    match parsePublicSym32 rec.data with
    | .ok sym => acc ++ [publicSymbolOf sym]
    | .error _ => acc
  else acc

/-- The body of loadPublicSymbols' first pass and of PublicCount's loop. -/
def countPublic (count : Nat) (_ : Nat) (rec : SymbolRecord) : Nat :=
  if rec.kind = sPub32 then count + 1 else count

/-- Public: the sequence it yields to a consumer that takes all of it. -/
def SymbolTable.public (st : SymbolTable) : List PublicSymbol :=
  match st.records with
  | none => []
  | some data => scanRecords data collectPublic [] 0

/-- loadPublicSymbols. Its first pass counts `S_PUB32` records only to size the result. -/
def SymbolTable.loadPublicSymbols (st : SymbolTable) :
    Option (List PublicSymbol) × Option GoError :=
  match st.symRecordDataErr with
  | some e => (none, some e)
  | none =>
    match st.symRecordData with
    | none => (none, none)
    | some data =>
      let _capacity := scanRecords data countPublic 0 0
      (some (scanRecords data collectPublic [] 0), none)

/-- PublicCached: the first call runs loadPublicSymbols and caches its result. -/
def SymbolTable.publicCached (st : SymbolTable) :
    (Option (List PublicSymbol) × Option GoError) × SymbolTable :=
  if st.publicSymbolsOnce then ((st.publicSymbols, st.publicSymbolsErr), st)
  else
    let r := st.loadPublicSymbols
    (r, { st with
      publicSymbolsOnce := true, publicSymbols := r.1, publicSymbolsErr := r.2
      cache_fresh := Bool.noConfusion })

/-- PublicCount: the cached list's length once PublicCached has filled it, otherwise a count of
the `S_PUB32` records. -/
def SymbolTable.publicCount (st : SymbolTable) : Nat :=
  match st.publicSymbols with
  | some syms => syms.length
  | none =>
    match st.records with
    | none => 0
    | some data => scanRecords data countPublic 0 0

def SymbolTable.parseSymbolAt (st : SymbolTable) (offset : U32) : Option Symbol :=
  match st.symRecordData with
  | none => none
  | some data =>
    if offset.val ≥ data.length then none
    else
      match parseSymbolRecord (data.drop offset.val) with
      | .error _ => none
      | .ok (rec, _) => convertSymbolRecord rec

/-- buildNameIndex's index: `none` without a record stream. -/
def SymbolTable.nameIndex (st : SymbolTable) : Outcome (Option NameIndex) :=
  match st.records with
  | none => .ret none
  | some data =>
    match newNameIndex data with
    | .ret idx => .ret (some idx)
    | .panic m => .panic m
    | .hang => .hang

/-- ByName: the sequence it yields to a consumer that takes all of it. -/
def SymbolTable.byName (st : SymbolTable) (name : Bytes) : Outcome (List Symbol) :=
  match st.nameIndex with
  | .ret none => .ret []
  | .ret (some idx) => .ret ((idx.findByName name).filterMap st.parseSymbolAt)
  | .panic m => .panic m
  | .hang => .hang

/-- FindByName: the first symbol ByName would yield, and whether there is one. -/
def SymbolTable.findByName (st : SymbolTable) (name : Bytes) : Outcome (Option Symbol × Bool) :=
  match st.nameIndex with
  | .ret none => .ret (none, false)
  | .ret (some idx) =>
    match idx.findByName name with
    | [] => .ret (none, false)
    | offset :: _ => .ret (st.parseSymbolAt offset, (st.parseSymbolAt offset).isSome)
  | .panic m => .panic m
  | .hang => .hang

/-- buildAddrIndex's index: `none` without a record stream or a PSI. -/
def SymbolTable.addrIndex (st : SymbolTable) : Option AddressIndex :=
  match st.records with
  | none => none
  | some data =>
    if st.psiErr.isSome then none
    else
      match st.psi with
      | none => none
      | some psi => some (newAddressIndex psi.addrMap data)

def SymbolTable.byAddress (st : SymbolTable) (sectionNum : U16) (offset : U32) :
    Option Symbol × Bool :=
  match st.addrIndex with
  | none => (none, false)
  | some idx =>
    let (symOffset, _, found) := idx.findByAddress sectionNum offset
    if !found then (none, false)
    else (st.parseSymbolAt symOffset, (st.parseSymbolAt symOffset).isSome)

/-- FindSymbolContaining has ByAddress's body. -/
def SymbolTable.findSymbolContaining (st : SymbolTable) (sectionNum : U16) (offset : U32) :
    Option Symbol × Bool :=
  st.byAddress sectionNum offset

section Lemmas
variable {st : SymbolTable} {data : Bytes}

private theorem foldl_collectPublic (walk : List (Nat × SymbolRecord)) (acc : List PublicSymbol) :
    walk.foldl (fun a p => collectPublic a p.1 p.2) acc =
      acc ++ (walk.filterMap fun p => publicOf p.2).map publicSymbolOf := by
  induction walk generalizing acc with
  | nil => simp
  | cons p walk ih =>
    rw [List.foldl_cons, ih, List.filterMap_cons]
    unfold collectPublic publicOf
    split_ifs
    · split <;> simp_all
    · simp

private theorem foldl_countPublic (walk : List (Nat × SymbolRecord)) (count : Nat) :
    walk.foldl (fun c p => countPublic c p.1 p.2) count =
      count + (walk.filter fun p => p.2.kind = sPub32).length := by
  induction walk generalizing count with
  | nil => simp
  | cons p walk ih =>
    rw [List.foldl_cons, ih, List.filter_cons]
    unfold countPublic
    split_ifs <;> simp_all; omega

private theorem publicOf_length_le (walk : List (Nat × SymbolRecord)) :
    (walk.filterMap fun p => publicOf p.2).length ≤ (walk.filter fun p => p.2.kind = sPub32).length := by
  induction walk with
  | nil => simp
  | cons p walk ih =>
    rw [List.filterMap_cons, List.filter_cons]
    cases hp : publicOf p.2 with
    | none => split_ifs <;> simp only [List.length_cons] <;> omega
    | some sym =>
      rw [if_pos (by simpa using (publicOf_some hp).2.1)]
      simp only [List.length_cons]; omega

private theorem publicOf_length_eq_iff (walk : List (Nat × SymbolRecord)) :
    (walk.filterMap fun p => publicOf p.2).length = (walk.filter fun p => p.2.kind = sPub32).length ↔
      ∀ p ∈ walk, p.2.kind = sPub32 → (publicOf p.2).isSome := by
  induction walk with
  | nil => simp
  | cons p walk ih =>
    rw [List.filterMap_cons, List.filter_cons, List.forall_mem_cons]
    cases hp : publicOf p.2 with
    | none =>
      by_cases hk : p.2.kind = sPub32
      · have := publicOf_length_le walk
        simp only [hk, decide_True, if_true, List.length_cons, Option.isSome_none]
        exact iff_of_false (by omega) (by simp)
      · simp [hk, ih]
    | some sym => simp [(publicOf_some hp).2.1, ih]

private theorem records_some (h : st.records = some data) :
    st.symRecordDataErr = none ∧ st.symRecordData = some data := by
  unfold SymbolTable.records at h
  split_ifs at h with he
  exact ⟨Option.not_isSome_iff_eq_none.mp he, h⟩

private theorem public_eq (h : st.records = some data) :
    st.public = ((framingWalk data 0).filterMap fun p => publicOf p.2).map publicSymbolOf := by
  rw [SymbolTable.public, h]
  simp only [scanRecords_eq_foldl, foldl_collectPublic, List.nil_append]

private theorem loadPublicSymbols_eq (h : st.records = some data) :
    st.loadPublicSymbols = (some st.public, none) := by
  obtain ⟨he, hd⟩ := records_some h
  rw [SymbolTable.loadPublicSymbols, he, hd, SymbolTable.public, h]

private theorem publicCount_eq (h : st.records = some data) (hnone : st.publicSymbols = none) :
    st.publicCount = ((framingWalk data 0).filter fun p => p.2.kind = sPub32).length := by
  rw [SymbolTable.publicCount, hnone, h]
  simp only [scanRecords_eq_foldl, foldl_countPublic, Nat.zero_add]

private theorem publicCached_fresh (hfresh : st.publicSymbolsOnce = false) (h : st.records = some data) :
    st.publicCached.1 = (some st.public, none) ∧ st.publicCached.2.publicSymbols = some st.public := by
  simp [SymbolTable.publicCached, hfresh, loadPublicSymbols_eq h]

private theorem parseSymbolAt_publicAt (hd : st.symRecordData = some data) {o : U32} {sym : PublicSym32}
    (hp : publicAt data o = some sym) : st.parseSymbolAt o = some (.public (publicSymbolOf sym)) := by
  unfold publicAt at hp
  split at hp
  · cases hp
  · rename_i rec size hr
    obtain ⟨-, hk, hd'⟩ := publicOf_some hp
    have hlt := (parseSymbolRecord_ok hr).2
    simp only [List.length_drop] at hlt
    simp only [SymbolTable.parseSymbolAt, hd, if_neg (show ¬ o.val ≥ data.length by omega), hr,
      convertSymbolRecord, hk, if_true, hd']

private theorem addrIndex_eq {psi : PSI} (h : st.records = some data) (hpsi : st.psi = some psi)
    (herr : st.psiErr = none) : st.addrIndex = some (newAddressIndex psi.addrMap data) := by
  simp only [SymbolTable.addrIndex, h, herr, hpsi, Option.isSome_none, Bool.false_eq_true, if_false]

private theorem byAddress_eq (idx : AddressIndex) (hidx : st.addrIndex = some idx) (s : U16) (x : U32) :
    st.byAddress s x = if (idx.findByAddress s x).2.2 then
      (st.parseSymbolAt (idx.findByAddress s x).1, (st.parseSymbolAt (idx.findByAddress s x).1).isSome)
      else (none, false) := by
  simp only [SymbolTable.byAddress, hidx]
  rcases idx.findByAddress s x with ⟨o, exact, found⟩
  cases found <;> rfl

end Lemmas

/-- The framing of a record is its two header words, and every loop over the stream walks the
same records: the loops of Public, loadPublicSymbols and PublicCount (any step they take), that
of NewNameIndex and that of ParseSymbolRecordStream. A record's successor is `length + 2` bytes
on, whether or not its payload decodes. -/
theorem record_framing_shared (data : Bytes) :
    (∀ o rec size, parseSymbolRecord (data.drop o) = .ok (rec, size) →
      size = (leU16 (data.drop o) 0).val + 2 ∧ 4 ≤ size ∧ o + size ≤ data.length ∧
      rec.data = (data.drop (o + 4)).take ((leU16 (data.drop o) 0).val - 2)) ∧
    4 * (framingWalk data 0).length ≤ data.length ∧
    (∀ o rec size, o + 4 < data.length → parseSymbolRecord (data.drop o) = .ok (rec, size) →
      framingWalk data o = (o, rec) :: framingWalk data (o + (leU16 (data.drop o) 0).val + 2)) ∧
    (∀ {β : Type} (step : β → Nat → SymbolRecord → β) (acc : β),
      scanRecords data step acc 0 = (framingWalk data 0).foldl (fun a p => step a p.1 p.2) acc) ∧
    newNameIndexLoop (List.replicate numBuckets.val []) (Stream.newReader data) =
      .ret ((nameEntries (framingWalk data 0)).foldl insertEntry (List.replicate numBuckets.val [])) ∧
    parseSymbolRecordStream data = .ok ((framingWalk data 0).filterMap fun p => publicOf p.2) := by
  refine ⟨fun o rec size hp => ?_, by simpa using framingWalk_length data 0,
    fun o rec size ho hp => ?_, fun step acc => scanRecords_eq_foldl data step acc 0,
    newNameIndexLoop_eq data _ 0, parseSymbolRecordStream_eq data⟩
  · obtain ⟨hs, h4, hle, rfl⟩ := parseSymbolRecord_ok hp
    simp only [List.length_drop] at hle
    refine ⟨hs, h4, by omega, ?_⟩
    show List.take (size - 4) _ = _
    rw [List.drop_drop]
    congr 1
    omega
  · rw [framingWalk_eq, if_pos ho, hp, (parseSymbolRecord_ok hp).1, Nat.add_assoc]

/-- A record stream holding one public symbol, `f` at section 1, offset `0x10`. -/
def sampleSymData : Bytes := [14, 0, 0x0e, 0x11, 0, 0, 0, 0, 0x10, 0, 0, 0, 1, 0, 0x66, 0]

/-- A PSI whose address map points at that symbol. -/
def samplePsi : PSI := ⟨⟨[], [], 0⟩, ⟨0, 4, 0, 0, 0, 0, 0, 0⟩, [0]⟩

def sampleTable : SymbolTable :=
  ⟨some sampleSymData, none, some samplePsi, none, false, none, none, by rintro data ⟨⟩; decide,
    fun _ => rfl⟩

/-- An address-map entry of `psi` that contains the address `(s, x)`: the bytes there frame an
`S_PUB32` record of a symbol in section `s` at an offset at most `x`. -/
def ContainsAddress (data : Bytes) (addrMap : List U32) (s : U16) (x : U32) (o : U32)
    (sym : PublicSym32) : Prop :=
  o ∈ addrMap ∧ PublicRecordAt data o.val sym ∧ sym.segment = s ∧ sym.offset ≤ x

theorem byAddress_finds_containing {st : SymbolTable} {data : Bytes} {psi : PSI}
    (h : st.records = some data) (hpsi : st.psi = some psi) (herr : st.psiErr = none)
    (s : U16) (x : U32) :
    st.findSymbolContaining s x = st.byAddress s x ∧
    ((st.byAddress s x).2 = true ↔ ∃ o sym, ContainsAddress data psi.addrMap s x o sym) ∧
    ((st.byAddress s x).2 = true → ∃ o sym, ContainsAddress data psi.addrMap s x o sym ∧
      (st.byAddress s x).1 = some (.public (publicSymbolOf sym)) ∧
      ∀ o' sym', ContainsAddress data psi.addrMap s x o' sym' → sym'.offset ≤ sym.offset) := by
  set idx := newAddressIndex psi.addrMap data
  have hby := byAddress_eq idx (addrIndex_eq h hpsi herr) s x
  obtain ⟨hfound, hbest⟩ := findByAddress_spec idx s x
  -- a found entry is the best candidate, and parseSymbolAt rebuilds it
  have hyes : (idx.findByAddress s x).2.2 = true → ∃ o sym, ContainsAddress data psi.addrMap s x o sym ∧
      st.byAddress s x = (some (.public (publicSymbolOf sym)), true) ∧
      ∀ o' sym', ContainsAddress data psi.addrMap s x o' sym' → sym'.offset ≤ sym.offset := fun hf => by
    obtain ⟨e, he, hoff, hs, hx, hmax, -⟩ := hbest hf
    obtain ⟨o, ho, sym, hsym, rfl⟩ := (mem_newAddressIndex _ _ _).mp he
    have hat := parseSymbolAt_publicAt (records_some h).2 hsym
    refine ⟨o, sym, ⟨ho, (publicAt_eq_some_iff _ _ _).mp hsym, hs, hx⟩,
      by rw [hby, if_pos hf, ← hoff, hat]; rfl, ?_⟩
    rintro o' sym' ⟨ho', hsym', hs', hx'⟩
    exact hmax _ ((mem_newAddressIndex _ _ _).mpr
      ⟨o', ho', sym', (publicAt_eq_some_iff _ _ _).mpr hsym', rfl⟩) hs' hx'
  refine ⟨rfl, ?_, fun hb => ?_⟩
  · cases hf : (idx.findByAddress s x).2.2
    · rw [hby, hf]
      refine iff_of_false (by simp) ?_
      rintro ⟨o, sym, ho, hsym, hs, hx⟩
      exact absurd (hfound.mpr ⟨_, (mem_newAddressIndex _ _ _).mpr
        ⟨o, ho, sym, (publicAt_eq_some_iff _ _ _).mpr hsym, rfl⟩, hs, hx⟩)
        (by rw [hf]; simp)
    · obtain ⟨o, sym, hc, hb, -⟩ := hyes hf
      exact iff_of_true (by rw [hb]) ⟨o, sym, hc⟩
  · cases hf : (idx.findByAddress s x).2.2
    · rw [hby, hf] at hb; simp at hb
    · obtain ⟨o, sym, hc, hb', hmax⟩ := hyes hf
      exact ⟨o, sym, hc, by rw [hb'], hmax⟩

theorem byAddress_finds_containing_sample :
    sampleTable.records = some sampleSymData ∧ sampleTable.psi = some samplePsi ∧
    sampleTable.psiErr = none ∧
    (sampleTable.findSymbolContaining 1 0x20 = sampleTable.byAddress 1 0x20 ∧
    ((sampleTable.byAddress 1 0x20).2 = true ↔
      ∃ o sym, ContainsAddress sampleSymData samplePsi.addrMap 1 0x20 o sym) ∧
    ((sampleTable.byAddress 1 0x20).2 = true → ∃ o sym,
      ContainsAddress sampleSymData samplePsi.addrMap 1 0x20 o sym ∧
      (sampleTable.byAddress 1 0x20).1 = some (.public (publicSymbolOf sym)) ∧
      ∀ o' sym', ContainsAddress sampleSymData samplePsi.addrMap 1 0x20 o' sym' →
        sym'.offset ≤ sym.offset)) :=
  ⟨rfl, rfl, rfl, @byAddress_finds_containing sampleTable sampleSymData samplePsi rfl rfl rfl 1 0x20⟩

/-- Public, PublicCached and ParseSymbolRecordStream give the same public symbols, and PublicCount
after PublicCached is their number; before it, PublicCount is their number exactly when every
`S_PUB32` record of the walk decodes. -/
theorem public_enumerations_agree {st : SymbolTable} {data : Bytes} (h : st.records = some data)
    (hfresh : st.publicSymbolsOnce = false) :
    parseSymbolRecordStream data = .ok ((framingWalk data 0).filterMap fun p => publicOf p.2) ∧
    st.public = ((framingWalk data 0).filterMap fun p => publicOf p.2).map publicSymbolOf ∧
    st.publicCached.1 = (some st.public, none) ∧
    st.publicCached.2.publicCount = st.public.length ∧
    (st.publicCount = st.public.length ↔
      ∀ p ∈ framingWalk data 0, p.2.kind = sPub32 → (publicOf p.2).isSome) := by
  have hpub := public_eq h
  obtain ⟨hc1, hc2⟩ := publicCached_fresh hfresh h
  refine ⟨parseSymbolRecordStream_eq data, hpub, hc1, by rw [SymbolTable.publicCount, hc2], ?_⟩
  rw [publicCount_eq h (st.cache_fresh hfresh), hpub, List.length_map, eq_comm]
  exact publicOf_length_eq_iff _

theorem public_enumerations_agree_sample :
    sampleTable.records = some sampleSymData ∧ sampleTable.publicSymbolsOnce = false ∧
    (parseSymbolRecordStream sampleSymData =
      .ok ((framingWalk sampleSymData 0).filterMap fun p => publicOf p.2) ∧
    sampleTable.public = ((framingWalk sampleSymData 0).filterMap fun p => publicOf p.2).map publicSymbolOf ∧
    sampleTable.publicCached.1 = (some sampleTable.public, none) ∧
    sampleTable.publicCached.2.publicCount = sampleTable.public.length ∧
    (sampleTable.publicCount = sampleTable.public.length ↔
      ∀ p ∈ framingWalk sampleSymData 0, p.2.kind = sPub32 → (publicOf p.2).isSome)) :=
  ⟨rfl, rfl, @public_enumerations_agree sampleTable sampleSymData rfl rfl⟩

/-- A stream of one `S_PUB32` record with an empty payload, which does not decode. -/
def undecodedPublicTable : SymbolTable :=
  ⟨some [2, 0, 0x0e, 0x11, 0], none, none, none, false, none, none, by
    rintro data ⟨⟩; decide, fun _ => rfl⟩

private theorem undecoded_walk : framingWalk [2, 0, 0x0e, 0x11, 0] 0 = [(0, ⟨0x110e, []⟩)] := by
  rw [framingWalk_eq, if_pos (by decide)]
  rw [show parseSymbolRecord (List.drop 0 [2, 0, 0x0e, 0x11, 0]) = .ok (⟨0x110e, []⟩, 4) by decide]
  dsimp only
  rw [framingWalk_eq, if_neg (by decide)]

theorem publicCount_counts_undecoded :
    undecodedPublicTable.public = [] ∧
    undecodedPublicTable.publicCached.1 = (some [], none) ∧
    parseSymbolRecordStream [2, 0, 0x0e, 0x11, 0] = .ok [] ∧
    undecodedPublicTable.publicCount = 1 ∧
    undecodedPublicTable.publicCached.2.publicCount = 0 := by
  have hrec : undecodedPublicTable.records = some [2, 0, 0x0e, 0x11, 0] := rfl
  have hpub : undecodedPublicTable.public = [] := by
    rw [public_eq hrec, undecoded_walk]; decide
  obtain ⟨hc1, hc2⟩ := publicCached_fresh rfl hrec
  refine ⟨hpub, by rw [hc1, hpub], ?_, ?_, ?_⟩
  · rw [parseSymbolRecordStream_eq, undecoded_walk]; decide
  · rw [publicCount_eq hrec rfl, undecoded_walk]; decide
  · rw [SymbolTable.publicCount, hc2, hpub]; rfl

end PdbGo.Pdb
