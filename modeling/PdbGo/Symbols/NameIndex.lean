import PdbGo.Symbols.Walk

/-! The name index: each walked record with a name, filed under its name's hash modulo 4096,
every bucket in stream order. -/
namespace PdbGo.Symbols
open PdbGo.Stream

/-- hashName: `hash = hash*31 + uint32(name[i])` over the name's bytes, in `uint32`. -/
def hashName (name : Bytes) : U32 := name.foldl (fun hash b => hash * 31 + u32 b.toNat) 0

/-- The name of a decoded payload, or `""` when the decode failed. -/
def decodedName {α : Type} (r : Except GoError α) (name : α → Bytes) : Bytes :=
  match r with
  | .ok sym => name sym
  | .error _ => []

def getSymbolName (rec : SymbolRecord) : Bytes :=
  if rec.kind = sPub32 then decodedName (parsePublicSym32 rec.data) PublicSym32.name
  else if rec.kind = sGProc32 ∨ rec.kind = sLProc32 ∨ rec.kind = sGProc32Id ∨ rec.kind = sLProc32Id then
    decodedName (parseProcSym rec.data) ProcSym.name
  else if rec.kind = sGData32 ∨ rec.kind = sLData32 then
    decodedName (parseDataSym rec.data) DataSym.name
  else if rec.kind = sUdt then decodedName (parseUDTSym rec.data) UDTSym.name
  else if rec.kind = sConstant then decodedName (parseConstantSym rec.data) ConstantSym.name
  else []

structure NameEntry where
  name : Bytes
  symOffset : U32
  deriving DecidableEq, Repr

/-- NewNameIndex's `const numBuckets = 4096`. -/
def numBuckets : U32 := 4096

/-- `hashName(name) % numBuckets`: where NewNameIndex files a name and FindByName looks. -/
def bucketOf (name : Bytes) : Nat := (hashName name % numBuckets).val

/-- `idx.buckets[bucket] = append(idx.buckets[bucket], entry)`. -/
def insertEntry (buckets : List (List NameEntry)) (e : NameEntry) : List (List NameEntry) :=
  buckets.modify (· ++ [e]) (bucketOf e.name)

/-- The loop of NewNameIndex, on the reader over the stream. It ignores the error of
`r.Skip(size)`: were Skip to fail, the offset would stay and the loop would read the same
record forever. -/
def newNameIndexLoop (buckets : List (List NameEntry)) (r : Reader) :
    Outcome (List (List NameEntry)) :=
  if r.remaining > 4 then
    let offset := r.offset
    match _h : parseSymbolRecord (r.data.drop offset) with
    | .error _ => .ret buckets
    | .ok (rec, size) =>
      let name := getSymbolName rec
      let buckets := if name ≠ [] then insertEntry buckets ⟨name, u32 offset⟩ else buckets
      match _hs : skip size r with
      | .error _ _ => .hang
      | .ok () r' => newNameIndexLoop buckets r'
  else .ret buckets
termination_by r.data.length - r.offset
decreasing_by
  have h4 := (parseSymbolRecord_ok _h).2.1
  unfold skip at _hs
  split at _hs
  · cases _hs
  · cases _hs; simp only [Reader.remaining] at *; split at * <;> omega

/-- The named records of a walk, as NewNameIndex files them. -/
def nameEntries (walk : List (Nat × SymbolRecord)) : List NameEntry :=
  walk.filterMap fun p => if getSymbolName p.2 ≠ [] then some ⟨getSymbolName p.2, u32 p.1⟩ else none

section Lemmas

private theorem insertEntries_length (es : List NameEntry) (buckets : List (List NameEntry)) :
    (es.foldl insertEntry buckets).length = buckets.length := by
  induction es generalizing buckets with
  | nil => rfl
  | cons e es ih => rw [List.foldl_cons, ih, insertEntry, List.length_modify]

theorem newNameIndexLoop_eq (data : Bytes) (buckets : List (List NameEntry)) (offset : Nat) :
    newNameIndexLoop buckets ⟨data, offset⟩ =
      .ret ((nameEntries (framingWalk data offset)).foldl insertEntry buckets) := by
  rw [newNameIndexLoop, framingWalk_eq]
  by_cases hm : offset + 4 < data.length
  · rw [if_pos (by simp only [Reader.remaining]; split <;> omega), if_pos hm]
    dsimp only
    split
    · rename_i h; simp only [h]; rfl
    · rename_i rec size h
      have hok := parseSymbolRecord_ok h
      simp only [List.length_drop] at hok
      have hskip : skip size ⟨data, offset⟩ = .ok () ⟨data, offset + size⟩ := by
        simp [skip]; omega
      simp only [h]
      split
      · rename_i heq; rw [hskip] at heq; cases heq
      · rename_i r' heq
        rw [hskip] at heq; cases heq
        rw [newNameIndexLoop_eq data _ (offset + size)]
        simp only [nameEntries, List.filterMap_cons]
        split_ifs <;> rfl
  · rw [if_neg (by simp only [Reader.remaining]; split <;> omega), if_neg hm]; rfl
termination_by data.length - offset
decreasing_by
  all_goals
    have := parseSymbolRecord_ok ‹_›
    simp only [List.length_drop] at this
    omega

private theorem newNameIndexLoop_length {data : Bytes} {buckets b : List (List NameEntry)}
    (h : newNameIndexLoop buckets ⟨data, 0⟩ = .ret b) : b.length = buckets.length := by
  rw [newNameIndexLoop_eq] at h
  cases h
  exact insertEntries_length _ _

end Lemmas

/-- NameIndex: `numBuckets` buckets of entries. -/
structure NameIndex where
  buckets : List (List NameEntry)
  numBuckets : U32
  buckets_length : buckets.length = numBuckets.val
  numBuckets_pos : 0 < numBuckets.val

def newNameIndex (symData : Bytes) : Outcome NameIndex :=
  match h : newNameIndexLoop (List.replicate numBuckets.val []) (newReader symData) with
  | .ret buckets => .ret ⟨buckets, numBuckets, by simpa using newNameIndexLoop_length h, by decide⟩
  | .panic m => .panic m
  | .hang => .hang

/-- FindByName: the offsets filed under the name's bucket whose name is the name. -/
def NameIndex.findByName (idx : NameIndex) (name : Bytes) : List U32 :=
  let bucket := hashName name % idx.numBuckets
  let entries := idx.buckets.get ⟨bucket.val, by
    rw [idx.buckets_length, Fin.mod_val]; exact Nat.mod_lt _ idx.numBuckets_pos⟩
  (entries.filter (·.name = name)).map (·.symOffset)

end PdbGo.Symbols
