import PdbGo.Symbols.Layout

/-! The public symbol index stream (PSI) and the address index built from its address map: the
public symbols' addresses sorted by section, then offset, searched with `sort.Search`. -/
namespace PdbGo.Symbols
open PdbGo.Stream

/-- `v, _ := r.ReadU32()`: a read whose error is dropped, leaving `0`. -/
def readU32OrZero : ReadM U32 := fun r =>
  match readU32 r with
  | .ok v r' => .ok v r'
  | .error _ r' => .ok 0 r'

structure HashRecord where
  offset : U32
  cRef : U32
  deriving DecidableEq, Repr

structure GSI where
  hashRecords : List HashRecord
  buckets : List Int
  numBuckets : U32
  deriving DecidableEq, Repr

/-- ParseGSI's loop over the hash records: each record fills the first empty bucket among
`uint32(i) % numBuckets`, skipping records with offset 0. -/
def gsiBuckets (numBuckets : Nat) (buckets : List Int) : List (Nat × HashRecord) → List Int
  | [] => buckets
  | (i, rec) :: rest =>
    if rec.offset = 0 then gsiBuckets numBuckets buckets rest
    else
      let bucket := (u32 i % u32 numBuckets).val
      let buckets := if buckets.getD bucket 0 = -1 then buckets.set bucket i else buckets
      gsiBuckets numBuckets buckets rest

/-- ParseGSI. The hash records are read with their errors dropped; the buckets are rebuilt from
the records, not read from the stream. -/
def parseGSI (data : Bytes) : Except GoError GSI :=
  if data.length < 16 then .error errUnexpectedEnd else
  let gsi : ReadM GSI := do
    let _verSig ← readU32OrZero
    let _verHdr ← readU32OrZero
    let hrSize ← readU32OrZero
    let bucketSize ← readU32OrZero
    let numRecords := (hrSize / 8).val
    let hashRecords ← (List.range numRecords).mapM fun _ => do
      let offset ← readU32OrZero
      let cref ← readU32OrZero
      pure (⟨offset, cref⟩ : HashRecord)
    if bucketSize > 0 then
      let numBuckets := 4096
      let buckets := gsiBuckets numBuckets (List.replicate numBuckets (-1))
        ((List.range hashRecords.length).zip hashRecords)
      pure ⟨hashRecords, buckets, u32 numBuckets⟩
    else pure ⟨hashRecords, [], 0⟩
  runParser gsi data

structure PSIHeader where
  symHash : U32
  addrMapSize : U32
  numThunks : U32
  sizeOfThunk : U32
  iSectThunkTable : U16
  padding : U16
  offThunkTable : U32
  numSects : U32
  deriving DecidableEq, Repr

structure PSI where
  gsi : GSI
  header : PSIHeader
  addrMap : List U32
  deriving DecidableEq, Repr

/-- ParsePSI's address-map loop: up to `n` words, stopping at the first failed read. -/
def readAddrMap (r : Reader) : Nat → List U32
  | 0 => []
  | n+1 =>
    match readU32 r with
    | .ok offset r' => offset :: readAddrMap r' n
    | .error _ _ => []

def parsePSI (data : Bytes) : Except GoError PSI :=
  if data.length < 16 then .error errUnexpectedEnd else
  let headers : ReadM PSIHeader := do
    let _verSig ← readU32OrZero
    let _verHdr ← readU32OrZero
    let hrSize ← readU32OrZero
    let bucketSize ← readU32OrZero
    skip hrSize.val
    skip bucketSize.val
    let symHash ← readU32
    let addrMapSize ← readU32
    let numThunks ← readU32
    let sizeOfThunk ← readU32
    let iSectThunkTable ← readU16
    let padding ← readU16
    let offThunkTable ← readU32
    let numSects ← readU32
    pure ⟨symHash, addrMapSize, numThunks, sizeOfThunk, iSectThunkTable, padding, offThunkTable,
      numSects⟩
  match headers (newReader data) with
  | .error e _ => .error e
  | .ok header r =>
    let addrMap := readAddrMap r (header.addrMapSize / 4).val
    match parseGSI data with
    | .error e => .error e
    | .ok gsi => .ok ⟨gsi, header, addrMap⟩

/-- ParsePublicSymbolIndex's address-map loop over `make([]uint32, n)`: the first failed read
stores the `0` it returns and breaks, so the rest of the slice stays zero. -/
def readAddrMapFilled (r : Reader) : Nat → List U32
  | 0 => []
  | n+1 =>
    match readU32 r with
    | .ok offset r' => offset :: readAddrMapFilled r' n
    | .error _ _ => List.replicate (n+1) 0

/-- ParsePublicSymbolIndex, the symbol package's decoder of the same stream: the GSI header's
reads keep their errors, and the address map is the zero-filled slice above. -/
def parsePublicSymbolIndex (data : Bytes) : Except GoError (PSIHeader × List U32) :=
  if data.length < 28 then .error (.errorf "symbols: PSI stream too short" []) else
  let headers : ReadM PSIHeader := do
    let _versionSignature ← readU32
    let _version ← readU32
    let hashRecordsSize ← readU32
    let bucketSize ← readU32
    skip hashRecordsSize.val
    skip bucketSize.val
    let symHash ← readU32
    let addrMapSize ← readU32
    let numThunks ← readU32
    let sizeOfThunk ← readU32
    let iSectThunkTable ← readU16
    let padding ← readU16
    let offThunkTable ← readU32
    let numSects ← readU32
    pure ⟨symHash, addrMapSize, numThunks, sizeOfThunk, iSectThunkTable, padding, offThunkTable,
      numSects⟩
  match headers (newReader data) with
  | .error e _ => .error e
  | .ok header r => .ok (header, readAddrMapFilled r (header.addrMapSize / 4).val)

section Decoders
variable {α β : Type}

/-- A read that never fails, as every read whose error is dropped. -/
def NeverFails (p : ReadM α) : Prop := ∀ r, ∃ a r', p r = .ok a r'

/-- A read that, when it succeeds, has taken exactly `n` bytes, all of them inside the data. -/
def Takes (p : ReadM α) (n : Nat) : Prop :=
  ∀ r a r', p r = .ok a r' →
    r' = { r with offset := r.offset + n } ∧ (0 < n → r.offset + n ≤ r.data.length)

theorem NeverFails.bind {x : ReadM α} {f : α → ReadM β} (hx : NeverFails x)
    (hf : ∀ a, NeverFails (f a)) : NeverFails (x >>= f) := fun r => by
  obtain ⟨a, r1, h1⟩ := hx r
  rw [bind_apply, h1]
  exact hf a r1

theorem NeverFails.pure (a : α) : NeverFails (pure a : ReadM α) := fun r => ⟨a, r, rfl⟩

theorem NeverFails.ite {c : Prop} [Decidable c] {x y : ReadM α} (hx : NeverFails x)
    (hy : NeverFails y) : NeverFails (if c then x else y) := by
  split <;> assumption

private theorem NeverFails.mapM {f : α → ReadM β} (hf : ∀ a, NeverFails (f a)) (l : List α) :
    NeverFails (l.mapM f) := by
  induction l with
  | nil => exact .pure []
  | cons a l ih => rw [List.mapM_cons]; exact (hf a).bind fun b => ih.bind fun bs => .pure _

private theorem NeverFails.not_error {p : ReadM α} {r r' : Reader} {e : GoError} (h : p r = .error e r')
    (hp : NeverFails p) : False := by
  obtain ⟨_, _, hok⟩ := hp r; rw [hok] at h; cases h

private theorem readU32OrZero_neverFails : NeverFails readU32OrZero := fun r => by
  unfold readU32OrZero; split <;> exact ⟨_, _, rfl⟩

theorem Takes.bind {x : ReadM α} {f : α → ReadM β} {n m : Nat} (hx : Takes x n)
    (hf : ∀ a, Takes (f a) m) : Takes (x >>= f) (n + m) := by
  intro r b r'' h
  rw [bind_apply] at h
  split at h
  next a r1 h1 =>
    obtain ⟨rfl, hn⟩ := hx r a r1 h1
    obtain ⟨rfl, hm⟩ := hf a _ b r'' h
    refine ⟨by simp only [Nat.add_assoc], fun _ => ?_⟩
    rcases Nat.eq_zero_or_pos m with rfl | hm'
    · exact hn (by omega)
    · have := hm hm'; simp only at this; omega
  next => cases h

private theorem Takes.of_ok {p : ReadM α} {n : Nat} {r r' : Reader} {a : α} (h : p r = .ok a r')
    (hp : Takes p n) :
    r' = { r with offset := r.offset + n } ∧ (0 < n → r.offset + n ≤ r.data.length) :=
  hp r a r' h

theorem Takes.pure (a : α) : Takes (pure a : ReadM α) 0 := fun r b r' h => by
  cases h; exact ⟨rfl, fun h => absurd h (Nat.lt_irrefl 0)⟩

private theorem skip_takes (n : Nat) : Takes (skip n) n := fun r _ r' h => by
  unfold skip at h
  split_ifs at h with hn
  cases h; exact ⟨rfl, fun _ => by omega⟩

private theorem readU32_takes : Takes readU32 4 := fun r _ r' h => by
  obtain ⟨hle, -, rfl⟩ := readU32_ok r h; exact ⟨rfl, fun _ => hle⟩

private theorem readU16_takes : Takes readU16 2 := fun r _ r' h => by
  obtain ⟨hle, -, rfl⟩ := readU16_ok r h; exact ⟨rfl, fun _ => hle⟩

private theorem parseGSI_ok {data : Bytes} (h : 16 ≤ data.length) : ∃ gsi, parseGSI data = .ok gsi := by
  unfold parseGSI runParser
  rw [if_neg (by omega)]
  dsimp only
  split
  · exact ⟨_, rfl⟩
  · next e r heq =>
    exact (NeverFails.not_error heq (readU32OrZero_neverFails.bind fun _ =>
      readU32OrZero_neverFails.bind fun _ => readU32OrZero_neverFails.bind fun _ =>
      readU32OrZero_neverFails.bind fun _ => (NeverFails.mapM (fun _ =>
        readU32OrZero_neverFails.bind fun _ => readU32OrZero_neverFails.bind fun _ => .pure _) _).bind
      fun _ => .ite (.pure _) (.pure _))).elim

private theorem gsiHeader_readU32 (T : U32 → U32 → ReadM α) {data : Bytes} (h : 16 ≤ data.length) :
    (readU32 >>= fun _ => readU32 >>= fun _ => readU32 >>= fun a => readU32 >>= fun b => T a b)
      (newReader data) = T (leU32 data 8) (leU32 data 12) ⟨data, 16⟩ := by
  simp only [bind_apply, newReader]
  iterate 3 (rw [readU32_of_le _ (by simp only; omega)]; dsimp only)
  rw [readU32_of_le _ (by simp only; omega)]

private theorem gsiHeader_readU32OrZero (T : U32 → U32 → ReadM α) {data : Bytes} (h : 16 ≤ data.length) :
    (readU32OrZero >>= fun _ => readU32OrZero >>= fun _ => readU32OrZero >>= fun a =>
      readU32OrZero >>= fun b => T a b) (newReader data) =
      T (leU32 data 8) (leU32 data 12) ⟨data, 16⟩ := by
  simp only [bind_apply, newReader, readU32OrZero]
  iterate 3 (rw [readU32_of_le _ (by simp only; omega)]; dsimp only)
  rw [readU32_of_le _ (by simp only; omega)]

private theorem readAddrMapFilled_eq (r : Reader) (n : Nat) :
    readAddrMapFilled r n = readAddrMap r n ++ List.replicate (n - (readAddrMap r n).length) 0 := by
  induction n generalizing r with
  | zero => rfl
  | succ n ih =>
    unfold readAddrMapFilled readAddrMap
    split
    · rw [ih, List.length_cons, Nat.add_sub_add_right, List.cons_append]
    · rfl

private theorem readAddrMap_words (data : Bytes) (o n : Nat) :
    readAddrMap ⟨data, o⟩ n = words data o (min n ((data.length - o) / 4)) := by
  induction n generalizing o with
  | zero => rw [Nat.zero_min]; rfl
  | succ n ih =>
    unfold readAddrMap
    by_cases h : o + 4 ≤ data.length
    · rw [readU32_of_le ⟨data, o⟩ h, show min (n + 1) ((data.length - o) / 4) =
        min n ((data.length - (o + 4)) / 4) + 1 by omega]
      exact congrArg _ (ih (o + 4))
    · rw [readU32_of_gt ⟨data, o⟩ (by simp only; omega),
        show min (n + 1) ((data.length - o) / 4) = 0 by omega]
      rfl

end Decoders

/-- The two decoders of the PSI stream. ParsePSI and ParsePublicSymbolIndex accept the same
streams and read the same header. ParsePSI's address map is the words that follow the header, up
to AddrMapSize / 4 of them or as many as the stream holds; ParsePublicSymbolIndex's is that map
filled up with zeros to AddrMapSize / 4 entries. -/
theorem psiDecoders_agree (data : Bytes) :
    ((∃ psi, parsePSI data = .ok psi) ↔ ∃ p, parsePublicSymbolIndex data = .ok p) ∧
    ∀ psi, parsePSI data = .ok psi →
      psi.addrMap = words data (44 + (leU32 data 8).val + (leU32 data 12).val)
        (min (psi.header.addrMapSize / 4).val
          ((data.length - (44 + (leU32 data 8).val + (leU32 data 12).val)) / 4)) ∧
      parsePublicSymbolIndex data = .ok (psi.header,
        psi.addrMap ++ List.replicate ((psi.header.addrMapSize / 4).val - psi.addrMap.length) 0) := by
  by_cases h16 : data.length < 16
  · have hpsi : ∀ psi, parsePSI data ≠ .ok psi := fun psi h => by
      unfold parsePSI at h; rw [if_pos h16] at h; cases h
    have hpub : ∀ p, parsePublicSymbolIndex data ≠ .ok p := fun p h => by
      unfold parsePublicSymbolIndex at h; rw [if_pos (by omega)] at h; cases h
    exact ⟨⟨fun ⟨psi, h⟩ => absurd h (hpsi psi), fun ⟨p, h⟩ => absurd h (hpub p)⟩,
      fun psi h => absurd h (hpsi psi)⟩
  obtain ⟨gsi, hgsi⟩ := parseGSI_ok (by omega : 16 ≤ data.length)
  unfold parsePSI parsePublicSymbolIndex
  rw [if_neg h16]
  dsimp only
  simp only [gsiHeader_readU32OrZero _ (show 16 ≤ data.length by omega),
    gsiHeader_readU32 _ (show 16 ≤ data.length by omega), hgsi]
  split
  · -- a header read fails in both
    refine ⟨⟨fun ⟨_, h⟩ => (by cases h), fun ⟨_, h⟩ => (by split at h <;> cases h)⟩,
      fun _ h => by cases h⟩
  · next header r heq =>
    -- the header takes 28 bytes past the skipped hash records and buckets
    obtain ⟨rfl, hlen⟩ := Takes.of_ok heq ((skip_takes _).bind fun _ => (skip_takes _).bind
      fun _ => readU32_takes.bind fun _ => readU32_takes.bind fun _ => readU32_takes.bind fun _ =>
      readU32_takes.bind fun _ => readU16_takes.bind fun _ => readU16_takes.bind fun _ =>
      readU32_takes.bind fun _ => readU32_takes.bind fun _ => .pure _)
    simp only at hlen
    rw [if_neg (by omega)]
    refine ⟨⟨fun _ => ⟨_, rfl⟩, fun _ => ⟨_, rfl⟩⟩, fun psi h => ?_⟩
    cases h
    refine ⟨?_, by rw [readAddrMapFilled_eq]⟩
    rw [readAddrMap_words]
    dsimp only
    exact congrArg₂ (words data) (by omega) (by omega)

/-- A PSI stream whose address map is cut short: no hash records or buckets, AddrMapSize 8, and
one map word, `0x10`, after the header. -/
def truncatedPSIStream : Bytes :=
  List.replicate 20 0 ++ [8, 0, 0, 0] ++ List.replicate 20 0 ++ [0x10, 0, 0, 0]

/-- On that stream ParsePSI's map is the one word there, and ParsePublicSymbolIndex's has a zero
standing in for the missing second word. -/
theorem parsePublicSymbolIndex_zero_fills :
    parsePSI truncatedPSIStream = .ok ⟨⟨[], [], 0⟩, ⟨0, 8, 0, 0, 0, 0, 0, 0⟩, [0x10]⟩ ∧
    parsePublicSymbolIndex truncatedPSIStream = .ok (⟨0, 8, 0, 0, 0, 0, 0, 0⟩, [0x10, 0]) :=
  ⟨rfl, rfl⟩

/-- SymbolAddress. Go's field `Section` is `sectionNum` here, `section` being a Lean keyword. -/
structure SymbolAddress where
  sectionNum : U16
  offset : U32
  symOffset : U32
  deriving DecidableEq, Repr, Inhabited

/-- The `sort.Slice` order of NewAddressIndex: by section, then by offset. -/
def addressLess (a b : SymbolAddress) : Bool :=
  if a.sectionNum ≠ b.sectionNum then a.sectionNum < b.sectionNum else a.offset < b.offset

/-- The body of NewAddressIndex's loop: the address of the `S_PUB32` record at `symOffset`,
when there is one and its payload decodes. -/
def addressEntry (symData : Bytes) (symOffset : U32) : Option SymbolAddress :=
  if symOffset.val + 10 > symData.length then none else
  match parseSymbolRecord (symData.drop symOffset.val) with
  | .error _ => none
  | .ok (rec, _) =>
    if rec.kind ≠ sPub32 then none else
    match parsePublicSym32 rec.data with
    | .error _ => none
    | .ok sym => some ⟨sym.segment, sym.offset, symOffset⟩

/-- The public symbol the code reads at `o`: the record parseSymbolRecord frames there, when it
is an `S_PUB32` record whose payload decodes. -/
def publicAt (symData : Bytes) (o : U32) : Option PublicSym32 :=
  match parseSymbolRecord (symData.drop o.val) with
  | .error _ => none
  | .ok (rec, _) => publicOf rec

/-- The bytes at `o` frame an `S_PUB32` record of `sym`: a u16 length `ℓ` whose record lies
inside the data, the kind `S_PUB32`, and a payload `data[o+4, o+2+ℓ)` that lays out `sym`'s
fields and its zero-terminated name, then any bytes. -/
def PublicRecordAt (data : Bytes) (o : Nat) (sym : PublicSym32) : Prop :=
  o + 2 + (leU16 data o).val ≤ data.length ∧ leU16 data (o + 2) = sPub32 ∧ (0 : U8) ∉ sym.name ∧
    ∃ pad, (data.drop (o + 4)).take ((leU16 data o).val - 2) = sym.encode ++ pad

theorem publicAt_eq_some_iff (data : Bytes) (o : U32) (sym : PublicSym32) :
    publicAt data o = some sym ↔ PublicRecordAt data o.val sym := by
  unfold publicAt PublicRecordAt
  simp only [parseSymbolRecord_eq, leU16_drop, Nat.add_zero, List.length_drop, List.drop_drop]
  constructor
  · intro h
    split_ifs at h with h4 hl h2
    dsimp only at h
    unfold publicOf at h
    split_ifs at h with hk
    split at h
    · rename_i hp
      cases h
      obtain ⟨hname, pad, hpad⟩ := parsePublicSym32_layout hp
      exact ⟨by omega, hk, hname, pad, hpad⟩
    · cases h
  · rintro ⟨hl, hk, hname, pad, hpad⟩
    have hlen := congrArg List.length hpad
    simp only [List.length_take, List.length_drop, List.length_append, PublicSym32.encode,
      encU32_length, encU16_length, List.length_singleton] at hlen
    rw [if_neg (by omega), if_neg (by omega), if_neg (by omega)]
    simp only [publicOf, if_pos hk, hpad, parsePublicSym32_encode pad sym hname]

/-- The address of an entry as one number: section, then offset. -/
def SymbolAddress.key (a : SymbolAddress) : Nat := a.sectionNum.val * 4294967296 + a.offset.val

/-- AddressIndex: its entries are sorted by address. -/
structure AddressIndex where
  entries : List SymbolAddress
  sorted : entries.Pairwise fun a b => a.key ≤ b.key

section Lemmas

private theorem addressLess_iff (a b : SymbolAddress) : addressLess a b = true ↔ a.key < b.key := by
  have := a.offset.isLt; have := b.offset.isLt
  unfold addressLess SymbolAddress.key
  split_ifs with h
  · simp only [ne_eq, Fin.ext_iff] at h
    simp only [decide_eq_true_eq, Fin.lt_def]
    omega
  · simp only [not_not] at h; simp only [h, decide_eq_true_eq, Fin.lt_def]; omega

private theorem addressEntry_eq (symData : Bytes) (o : U32) :
    addressEntry symData o = (publicAt symData o).map fun sym => ⟨sym.segment, sym.offset, o⟩ := by
  unfold addressEntry publicAt
  rcases hp : parseSymbolRecord (symData.drop o.val) with _ | ⟨rec, size⟩
  · split_ifs <;> rfl
  · by_cases hlen : o.val + 10 > symData.length
    · rw [if_pos hlen]
      dsimp only
      cases hpub : publicOf rec with
      | none => rfl
      | some sym =>
        obtain ⟨h11, -, -⟩ := publicOf_some hpub
        obtain ⟨-, -, hsize, rfl⟩ := parseSymbolRecord_ok hp
        simp only [List.length_take, List.length_drop] at h11 hsize
        omega
    · rw [if_neg hlen]
      dsimp only
      unfold publicOf
      by_cases hk : rec.kind = sPub32
      · simp only [hk, ne_eq, not_true_eq_false, if_false, if_true]
        cases parsePublicSym32 rec.data <;> rfl
      · simp only [hk, ne_eq, not_false_eq_true, if_true, if_false, Option.map_none']

end Lemmas

/-- NewAddressIndex. `sort.Slice` is not stable and leaves the order of equal addresses
unspecified; the model sorts with `mergeSort`, and the lookup theorems hold for every order
sorted by address. -/
def newAddressIndex (addrMap : List U32) (symData : Bytes) : AddressIndex :=
  ⟨(addrMap.filterMap (addressEntry symData)).mergeSort fun a b => !addressLess b a,
    (@List.sorted_mergeSort _ (fun a b => !addressLess b a)
      (fun a b c hab hbc => by
        simp only [Bool.not_eq_true', Bool.not_eq_eq_eq_not, Bool.not_true] at *
        rw [← Bool.not_eq_true, addressLess_iff] at *; omega)
      (fun a b => by
        simp only [Bool.or_eq_true, Bool.not_eq_true']
        rw [← Bool.not_eq_true, ← Bool.not_eq_true, addressLess_iff, addressLess_iff]; omega)
      (addrMap.filterMap (addressEntry symData))).imp fun h => by
        rw [Bool.not_eq_true', ← Bool.not_eq_true, addressLess_iff] at h; omega⟩

theorem mem_newAddressIndex (addrMap : List U32) (symData : Bytes) (e : SymbolAddress) :
    e ∈ (newAddressIndex addrMap symData).entries ↔
      ∃ o ∈ addrMap, ∃ sym, publicAt symData o = some sym ∧ e = ⟨sym.segment, sym.offset, o⟩ := by
  rw [newAddressIndex, (List.mergeSort_perm _ _).mem_iff, List.mem_filterMap]
  simp only [addressEntry_eq, Option.map_eq_some']
  constructor
  · rintro ⟨o, ho, sym, hs, rfl⟩; exact ⟨o, ho, sym, hs, rfl⟩
  · rintro ⟨o, ho, sym, hs, rfl⟩; exact ⟨o, ho, sym, hs, rfl⟩

private theorem SymbolAddress.key_le_iff (a b : SymbolAddress) :
    a.key ≤ b.key ↔
      a.sectionNum < b.sectionNum ∨ (a.sectionNum = b.sectionNum ∧ a.offset ≤ b.offset) := by
  have := a.offset.isLt; have := b.offset.isLt
  simp only [SymbolAddress.key, Fin.lt_def, Fin.le_def, Fin.ext_iff]
  omega

/-- NewAddressIndex's representation invariant: its entries are sorted by section, then offset,
and as a multiset they are the addresses of the address-map entries where the code finds a public
symbol, each such entry once and nothing else; those are the entries whose bytes frame an
`S_PUB32` record of the symbol. -/
theorem newAddressIndex_sorted_perm (addrMap : List U32) (symData : Bytes) :
    (newAddressIndex addrMap symData).entries.Pairwise (fun a b =>
        a.sectionNum < b.sectionNum ∨ (a.sectionNum = b.sectionNum ∧ a.offset ≤ b.offset)) ∧
    (newAddressIndex addrMap symData).entries.Perm (addrMap.filterMap fun o =>
        (publicAt symData o).map fun sym => ⟨sym.segment, sym.offset, o⟩) ∧
    ∀ o sym, publicAt symData o = some sym ↔ PublicRecordAt symData o.val sym :=
  ⟨(newAddressIndex addrMap symData).sorted.imp fun h => (SymbolAddress.key_le_iff _ _).mp h, by
    rw [newAddressIndex, ← funext (addressEntry_eq symData)]; exact List.mergeSort_perm _ _,
    publicAt_eq_some_iff symData⟩

/-- sort.Search's loop over `[i, j)`. -/
def sortSearchLoop (f : Nat → Bool) (i j : Nat) : Nat :=
  if i < j then
    let h := (i + j) / 2
    if !f h then sortSearchLoop f (h + 1) j else sortSearchLoop f i h
  else i
termination_by j - i

/-- sort.Search: the least `i < n` where `f` holds, for an `f` that once true stays true;
`n` when there is none. -/
def sortSearch (n : Nat) (f : Nat → Bool) : Nat := sortSearchLoop f 0 n

/-- The bounds of sort.Search: `f` fails below `i` and holds from `j` to `n`. -/
def SearchInv (f : Nat → Bool) (n i j : Nat) : Prop :=
  i ≤ j ∧ j ≤ n ∧ (∀ m < i, f m = false) ∧ (∀ m, j ≤ m → m < n → f m = true)

/-- FindByAddress: the symbol offset, whether the match is exact, and whether one was found. -/
def AddressIndex.findByAddress (idx : AddressIndex) (sectionNum : U16) (offset : U32) :
    U32 × Bool × Bool :=
  let es := idx.entries
  if es.length = 0 then (0, false, false) else
  let i := sortSearch es.length fun k =>
    let e := es.getD k default
    if e.sectionNum ≠ sectionNum then e.sectionNum > sectionNum else e.offset ≥ offset
  if i < es.length ∧ (es.getD i default).sectionNum = sectionNum ∧
      (es.getD i default).offset = offset then
    ((es.getD i default).symOffset, true, true)
  else if i > 0 then
    let prev := es.getD (i - 1) default
    if prev.sectionNum = sectionNum then (prev.symOffset, false, true) else (0, false, false)
  else (0, false, false)

section Search

private theorem sortSearchLoop_spec (f : Nat → Bool) (n : Nat)
    (hmono : ∀ a b, a ≤ b → b < n → f a = true → f b = true) (i j : Nat)
    (hinv : SearchInv f n i j) : SearchInv f n (sortSearchLoop f i j) (sortSearchLoop f i j) := by
  induction i, j using sortSearchLoop.induct f with
  | case1 i j hlt mid hf ih =>
    -- `f` fails at the midpoint, so it fails at and below it
    obtain ⟨hij, hjn, hlo, hhi⟩ := hinv
    simp only [show mid = (i + j) / 2 from rfl] at hf ih
    rw [sortSearchLoop, if_pos hlt]
    dsimp only
    rw [if_pos hf]
    simp only [Bool.not_eq_true'] at hf
    refine ih ⟨by omega, hjn, fun m hm => ?_, hhi⟩
    by_cases hm' : m < i
    · exact hlo m hm'
    · by_contra hc
      have := hmono m ((i + j) / 2) (by omega) (by omega) (by simpa using hc)
      simp [hf] at this
  | case2 i j hlt mid hf ih =>
    -- `f` holds at the midpoint, so it holds from it on
    obtain ⟨hij, hjn, hlo, hhi⟩ := hinv
    simp only [show mid = (i + j) / 2 from rfl] at hf ih
    rw [sortSearchLoop, if_pos hlt]
    dsimp only
    rw [if_neg hf]
    simp only [Bool.not_eq_true', Bool.not_eq_false] at hf
    exact ih ⟨by omega, by omega, hlo, fun m hm hmn => hmono _ m hm hmn hf⟩
  | case3 i j hlt =>
    obtain ⟨hij, hjn, hlo, hhi⟩ := hinv
    rw [sortSearchLoop, if_neg hlt]
    exact ⟨le_refl _, by omega, hlo, fun m hm hmn => hhi m (by omega) hmn⟩

private theorem sortSearch_spec (n : Nat) (f : Nat → Bool)
    (hmono : ∀ a b, a ≤ b → b < n → f a = true → f b = true) :
    sortSearch n f ≤ n ∧ (∀ m < sortSearch n f, f m = false) ∧
      (sortSearch n f < n → f (sortSearch n f) = true) := by
  obtain ⟨-, hn, hlo, hhi⟩ := sortSearchLoop_spec f n hmono 0 n
    ⟨Nat.zero_le n, le_refl n, fun m hm => absurd hm (Nat.not_lt_zero m), fun m hm hmn => absurd hmn (by omega)⟩
  exact ⟨hn, hlo, fun h => hhi _ le_rfl h⟩

private theorem searchPred_iff (e : SymbolAddress) (s : U16) (x : U32) :
    (if e.sectionNum ≠ s then decide (e.sectionNum > s) else decide (e.offset ≥ x)) = true ↔
      SymbolAddress.key ⟨s, x, 0⟩ ≤ e.key := by
  have := e.offset.isLt; have := x.isLt
  unfold SymbolAddress.key
  split_ifs with h
  · simp only [ne_eq, Fin.ext_iff] at h
    simp only [decide_eq_true_eq, gt_iff_lt, Fin.lt_def]; omega
  · simp only [not_not] at h; simp only [h, decide_eq_true_eq, ge_iff_le, Fin.le_def]; omega

private theorem AddressIndex.key_mono (idx : AddressIndex) {a b : Nat} (hab : a ≤ b)
    (hb : b < idx.entries.length) :
    (idx.entries.getD a default).key ≤ (idx.entries.getD b default).key := by
  rcases Nat.lt_or_eq_of_le hab with h | rfl
  · rw [getD_of_lt _ _ (by omega : a < idx.entries.length), getD_of_lt _ _ hb]
    exact List.pairwise_iff_getElem.mp idx.sorted a b _ hb h
  · exact le_refl _

private theorem AddressIndex.search_split (idx : AddressIndex) (s : U16) (x : U32) (i : Nat)
    (hi : i = sortSearch idx.entries.length fun k =>
      if (idx.entries.getD k default).sectionNum ≠ s then
        decide ((idx.entries.getD k default).sectionNum > s)
      else decide ((idx.entries.getD k default).offset ≥ x)) :
    i ≤ idx.entries.length ∧
    (∀ m < i, (idx.entries.getD m default).key < SymbolAddress.key ⟨s, x, 0⟩) ∧
    (i < idx.entries.length → SymbolAddress.key ⟨s, x, 0⟩ ≤ (idx.entries.getD i default).key) ∧
    ∀ m < idx.entries.length,
      (idx.entries.getD m default).key < SymbolAddress.key ⟨s, x, 0⟩ → m < i := by
  obtain ⟨hin, hbelow, hat⟩ := sortSearch_spec idx.entries.length
    (fun k => if (idx.entries.getD k default).sectionNum ≠ s then
        decide ((idx.entries.getD k default).sectionNum > s)
      else decide ((idx.entries.getD k default).offset ≥ x))
    (fun a b hab hb ha => by
      rw [searchPred_iff] at ha ⊢; exact le_trans ha (idx.key_mono hab hb))
  rw [← hi] at hin hbelow hat
  have hbelow' : ∀ m < i, (idx.entries.getD m default).key < SymbolAddress.key ⟨s, x, 0⟩ :=
    fun m hm => by
      have h := hbelow m hm
      rw [← Bool.not_eq_true, searchPred_iff] at h; omega
  have hat' := fun h => (searchPred_iff _ _ _).mp (hat h)
  refine ⟨hin, hbelow', hat', fun m hm hk => ?_⟩
  by_contra hc
  have := hat' (by omega); have := idx.key_mono (not_lt.mp hc) hm; omega

theorem findByAddress_spec (idx : AddressIndex) (s : U16) (x : U32) :
    ((idx.findByAddress s x).2.2 = true ↔ ∃ e ∈ idx.entries, e.sectionNum = s ∧ e.offset ≤ x) ∧
    ((idx.findByAddress s x).2.2 = true → ∃ e ∈ idx.entries,
      e.symOffset = (idx.findByAddress s x).1 ∧ e.sectionNum = s ∧ e.offset ≤ x ∧
      (∀ e' ∈ idx.entries, e'.sectionNum = s → e'.offset ≤ x → e'.offset ≤ e.offset) ∧
      ((idx.findByAddress s x).2.1 = true ↔ e.offset = x)) := by
  have hx := x.isLt
  have hkey : ∀ e : SymbolAddress, e.key = SymbolAddress.key ⟨s, x, 0⟩ ↔
      e.sectionNum = s ∧ e.offset = x := fun e => by
    have := e.offset.isLt; simp only [SymbolAddress.key, Fin.ext_iff]; omega
  have hsort : ∀ a b, a ≤ b → b < idx.entries.length →
      (idx.entries.getD a default).key ≤ (idx.entries.getD b default).key :=
    fun _ _ => idx.key_mono
  obtain ⟨hin, hbelow, hat, hpast⟩ := idx.search_split s x _ rfl
  unfold AddressIndex.findByAddress
  dsimp only
  generalize sortSearch idx.entries.length _ = i at hin hbelow hat hpast ⊢
  generalize idx.entries = es at hsort hin hbelow hat hpast ⊢
  have hmem : ∀ k < es.length, es.getD k default ∈ es := fun k hk => by
    rw [getD_of_lt _ _ hk]; exact List.getElem_mem hk
  by_cases hn : es.length = 0
  · rw [List.length_eq_zero.mp hn]; simp
  rw [if_neg hn]
  by_cases hA : i < es.length ∧ (es.getD i default).sectionNum = s ∧ (es.getD i default).offset = x
  · rw [if_pos hA]
    have hle : (es.getD i default).offset ≤ x := by rw [Fin.le_def, hA.2.2]
    exact ⟨iff_of_true rfl ⟨_, hmem i hA.1, hA.2.1, hle⟩, fun _ =>
      ⟨_, hmem i hA.1, rfl, hA.2.1, hle, fun e' _ _ h => hA.2.2 ▸ h, iff_of_true rfl hA.2.2⟩⟩
  rw [if_neg hA]
  -- without an exact match, every candidate of the section lies before position `i`
  have hbefore : ∀ e' ∈ es, e'.sectionNum = s → e'.offset ≤ x →
      ∃ m < i, es.getD m default = e' := fun e' he' hs hle => by
    obtain ⟨m, hm, rfl⟩ := List.mem_iff_getElem.mp he'
    rw [← getD_of_lt _ default hm] at hs hle ⊢
    refine ⟨m, hpast m hm ?_, rfl⟩
    by_contra hge
    have hmi : i ≤ m := by by_contra h; exact hge (hbelow m (by omega))
    have := hat (by omega); have := hsort i m hmi hm
    have hs' := congrArg Fin.val hs; have hle' := Fin.le_def.mp hle
    have := (es.getD i default).offset.isLt
    exact hA ⟨by omega, (hkey _).mp (by simp only [SymbolAddress.key] at *; omega)⟩
  by_cases hpos : 0 < i
  · rw [if_pos hpos]
    have hprev := hbelow (i - 1) (by omega)
    simp only [SymbolAddress.key] at hprev
    by_cases hB : (es.getD (i - 1) default).sectionNum = s
    · rw [if_pos hB]
      have hB' := congrArg Fin.val hB
      have hoff : (es.getD (i - 1) default).offset < x := by rw [Fin.lt_def]; omega
      refine ⟨iff_of_true rfl ⟨_, hmem (i - 1) (by omega), hB, Fin.le_of_lt hoff⟩, fun _ =>
        ⟨_, hmem (i - 1) (by omega), rfl, hB, Fin.le_of_lt hoff, fun e' he' hs hle => ?_,
          iff_of_false (by simp) (Fin.ne_of_lt hoff)⟩⟩
      obtain ⟨m, hm, rfl⟩ := hbefore e' he' hs hle
      have := hsort m (i - 1) (by omega) (by omega)
      have hs' := congrArg Fin.val hs
      simp only [SymbolAddress.key] at this
      rw [Fin.le_def]; omega
    · rw [if_neg hB]
      refine ⟨iff_of_false (by simp) ?_, fun h => absurd h (by simp)⟩
      rintro ⟨e', he', hs, hle⟩
      obtain ⟨m, hm, rfl⟩ := hbefore e' he' hs hle
      have hmk := hsort m (i - 1) (by omega) (by omega)
      have hs' := congrArg Fin.val hs
      have := (es.getD m default).offset.isLt; have := (es.getD (i - 1) default).offset.isLt
      simp only [SymbolAddress.key] at hmk
      exact hB (Fin.ext (by omega))
  · rw [if_neg hpos]
    refine ⟨iff_of_false (by simp) ?_, fun h => absurd h (by simp)⟩
    rintro ⟨e', he', hs, hle⟩
    obtain ⟨m, hm, -⟩ := hbefore e' he' hs hle
    omega

end Search

end PdbGo.Symbols
