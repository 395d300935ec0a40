import PdbGo.Pdb.Types

/-! A TypeTable answers as the pure table of its stream: every run of calls, and every interleaving
of goroutines in ByIndex, replies what the table without caches answers. -/
namespace PdbGo.Pdb
open PdbGo.Stream PdbGo.Tpi

namespace TypeTable
variable (tt : TypeTable)

/-- The type at `index` with no cache: the simple type, or the type the TPI record makes. -/
def typeAt (index : TypeIndex) : Except GoError PdbType :=
  if isSimpleType index then .ok (parseSimpleType index)
  else
    match tt.tpiStream.getTypeRecord index with
    | .error e => .error e
    | .ok none => .error errTypeNotFound
    | .ok (some record) => parseTypeRecord index record

/-- The types of the stream's type indices, in order, those that fail skipped. -/
def types : List PdbType :=
  (typeIndexRange tt.tpiStream.header).filterMap fun ti => (tt.typeAt ti).toOption

private theorem bind_index {α : Type} {x : Except GoError α} {g : α → PdbType} {index : TypeIndex}
    {typ : PdbType} (h : x >>= (fun a => pure (g a)) = .ok typ) (hg : ∀ a, (g a).index = index) :
    typ.index = index := by
  cases x with
  | error => cases h
  | ok a =>
    cases h
    exact hg a

private theorem parseTypeRecord_index {index : TypeIndex} {record : TypeRecord} {typ : PdbType}
    (h : parseTypeRecord index record = .ok typ) : typ.index = index := by
  unfold parseTypeRecord at h
  iterate 10 (rcases ite_eq_iff.mp h with ⟨-, h⟩ | ⟨-, h⟩; exact bind_index h fun _ => rfl)
  cases h
  rfl

variable {tt} in
private theorem typeAt_index {index : TypeIndex} {typ : PdbType} (h : tt.typeAt index = .ok typ) :
    typ.index = index := by
  unfold typeAt at h
  split_ifs at h
  · cases h
    rfl
  · rcases hr : tt.tpiStream.getTypeRecord index with _ | _ | record <;> rw [hr] at h
    · cases h
    · cases h
    · exact parseTypeRecord_index h

private theorem typeIndexRange_increasing (header : Header) :
    (typeIndexRange header).Pairwise (· < ·) := by
  have hE := header.typeIndexEnd.isLt
  refine List.pairwise_map.mpr ((List.pairwise_lt_range _).imp_of_mem fun {x y} hx hy hxy => ?_)
  rw [List.mem_range] at hx hy
  simp only [u32, Fin.ofNat, Fin.lt_def,
    Nat.mod_eq_of_lt (show header.typeIndexBegin.val + x < 4294967295 + 1 by omega),
    Nat.mod_eq_of_lt (show header.typeIndexBegin.val + y < 4294967295 + 1 by omega)]
  omega

private theorem mem_toOption {e : Except GoError PdbType} {typ : PdbType} (h : typ ∈ e.toOption) :
    e = .ok typ := by
  cases e with
  | error => cases h
  | ok t => cases h; rfl

private theorem types_increasing : tt.types.Pairwise fun a b => a.index < b.index :=
  List.pairwise_filterMap.mpr <| (typeIndexRange_increasing _).imp_of_mem
    fun {_ _} _ _ hxy _ ha _ hb => by
      rwa [typeAt_index (mem_toOption ha), typeAt_index (mem_toOption hb)]

/-- What caches may hold: in typeCache only types typeAt makes at their index, and in byName,
once it is built, the entries of all the types. -/
structure CacheSound (c : TypeCaches) : Prop where
  typeCache : ∀ ti typ, c.typeCache ti = some typ → tt.typeAt ti = .ok typ
  byName : ∀ entries, c.byName = some entries → entries = nameEntries tt.types

variable {tt} {c : TypeCaches}

theorem CacheSound.empty : tt.CacheSound TypeCaches.empty :=
  ⟨fun _ _ h => (nomatch h), fun _ h => (nomatch h)⟩

theorem CacheSound.store {index : TypeIndex} {typ : PdbType} (h : tt.CacheSound c)
    (ht : tt.typeAt index = .ok typ) : tt.CacheSound (c.store index typ) := by
  refine ⟨fun ti t hs => ?_, h.byName⟩
  simp only [TypeCaches.store] at hs
  split_ifs at hs with hi
  · cases hs
    rw [hi, ht]
  · exact h.typeCache ti t hs

private theorem byIndexMiss_eq (c : TypeCaches) (index : TypeIndex) :
    tt.byIndexMiss c index = (tt.typeAt index, match tt.typeAt index with
      | .ok typ => c.store index typ
      | .error _ => c) := by
  unfold byIndexMiss typeAt
  split_ifs
  · rfl
  · rcases tt.tpiStream.getTypeRecord index with _ | _ | record
    · rfl
    · rfl
    · dsimp only
      rcases parseTypeRecord index record with _ | _ <;> rfl

theorem CacheSound.byIndexMiss (h : tt.CacheSound c) (index : TypeIndex) :
    tt.CacheSound (tt.byIndexMiss c index).2 := by
  rw [byIndexMiss_eq]
  cases ht : tt.typeAt index with
  | error _ => exact h
  | ok typ => exact h.store ht

theorem byIndex_sound (h : tt.CacheSound c) (index : TypeIndex) :
    (tt.byIndex c index).1 = tt.typeAt index ∧ tt.CacheSound (tt.byIndex c index).2 := by
  unfold byIndex
  cases hc : c.typeCache index with
  | some cached => exact ⟨(h.typeCache _ _ hc).symm, h⟩
  | none => exact ⟨by rw [byIndexMiss_eq], h.byIndexMiss index⟩

private theorem allFrom_sound (tis : List TypeIndex) (h : tt.CacheSound c) :
    (tt.allFrom tis c).1 = tis.filterMap (fun ti => (tt.typeAt ti).toOption) ∧
      tt.CacheSound (tt.allFrom tis c).2 := by
  induction tis generalizing c with
  | nil => exact ⟨rfl, h⟩
  | cons ti rest ih =>
    obtain ⟨hr, hc⟩ := byIndex_sound h ti
    obtain ⟨ih1, ih2⟩ := ih hc
    simp only [allFrom, List.filterMap_cons]
    refine ⟨?_, ih2⟩
    rw [ih1, hr]
    cases tt.typeAt ti <;> rfl

theorem all_sound (h : tt.CacheSound c) :
    (tt.all c).1 = tt.types ∧ tt.CacheSound (tt.all c).2 :=
  allFrom_sound _ h

private theorem buildNameIndex_sound (h : tt.CacheSound c) :
    (tt.buildNameIndex c).byName = some (nameEntries tt.types) ∧
      tt.CacheSound (tt.buildNameIndex c) := by
  unfold buildNameIndex
  cases hb : c.byName with
  | some entries => exact ⟨by rw [hb, h.byName entries hb], h⟩
  | none =>
    obtain ⟨h1, h2⟩ := all_sound h
    rcases hp : tt.all c with ⟨types, c1⟩
    rw [hp] at h1 h2
    subst h1
    exact ⟨rfl, h2.typeCache, fun entries he => by cases he; rfl⟩

private theorem nameEntries_cons (typ : PdbType) (rest : List PdbType) :
    nameEntries (typ :: rest) =
      if typ.name ≠ [] then (typ.name, typ) :: nameEntries rest else nameEntries rest := by
  simp only [nameEntries, List.filterMap_cons]
  split_ifs <;> rfl

private theorem nameEntries_lookup (ts : List PdbType) (name : Bytes) :
    (nameEntries ts).filterMap (fun e => if e.1 = name then some e.2 else none) =
      ts.filter fun typ => typ.name ≠ [] ∧ typ.name = name := by
  induction ts with
  | nil => rfl
  | cons typ rest ih =>
    rw [nameEntries_cons, List.filter_cons]
    by_cases hn : typ.name = []
    · simpa [hn] using ih
    · by_cases he : typ.name = name
      · subst he
        simpa [hn] using ih
      · simpa [hn, he] using ih

theorem byName_sound (h : tt.CacheSound c) (name : Bytes) :
    (tt.byName c name).1 = tt.types.filter (fun typ => typ.name ≠ [] ∧ typ.name = name) ∧
      tt.CacheSound (tt.byName c name).2 := by
  obtain ⟨h1, h2⟩ := buildNameIndex_sound h
  refine ⟨?_, h2⟩
  simp only [byName, h1, Option.getD_some]
  exact nameEntries_lookup _ _

end TypeTable

/-- The calls a client makes on a TypeTable. -/
inductive TypeCall where
  | byIndex (index : TypeIndex)
  | all
  | byName (name : Bytes)

/-- A call's reply: ByIndex's type or error, or the types All or ByName yields. -/
inductive TypeReply where
  | type (r : Except GoError PdbType)
  | types (ts : List PdbType)

namespace TypeTable
variable (tt : TypeTable)

/-- One call on the caches. -/
def call (c : TypeCaches) : TypeCall → TypeReply × TypeCaches
  | .byIndex index => ((TypeReply.type (tt.byIndex c index).1), (tt.byIndex c index).2)
  | .all => (.types (tt.all c).1, (tt.all c).2)
  | .byName name => (.types (tt.byName c name).1, (tt.byName c name).2)

/-- The replies of a run of calls. -/
def run : TypeCaches → List TypeCall → List TypeReply
  | _, [] => []
  | c, q :: qs => (tt.call c q).1 :: run (tt.call c q).2 qs

/-- What the pure table answers a call. -/
def answer : TypeCall → TypeReply
  | .byIndex index => .type (tt.typeAt index)
  | .all => .types tt.types
  | .byName name => .types (tt.types.filter fun typ => typ.name ≠ [] ∧ typ.name = name)

/-- The caches a run of calls from newTypeTable can leave. -/
inductive Reachable : TypeCaches → Prop where
  | empty : Reachable TypeCaches.empty
  | call {c : TypeCaches} (q : TypeCall) : Reachable c → Reachable (tt.call c q).2

variable {tt} {c : TypeCaches}

private theorem call_sound (h : tt.CacheSound c) (q : TypeCall) :
    (tt.call c q).1 = tt.answer q ∧ tt.CacheSound (tt.call c q).2 := by
  cases q with
  | byIndex index => exact (byIndex_sound h index).imp (congrArg _) id
  | all => exact (all_sound h).imp (congrArg _) id
  | byName name => exact (byName_sound h name).imp (congrArg _) id

theorem Reachable.sound (h : tt.Reachable c) : tt.CacheSound c := by
  induction h with
  | empty => exact CacheSound.empty
  | call q _ ih => exact (call_sound ih q).2

private theorem run_sound (calls : List TypeCall) (h : tt.CacheSound c) :
    tt.run c calls = calls.map tt.answer := by
  induction calls generalizing c with
  | nil => rfl
  | cons q rest ih =>
    obtain ⟨h1, h2⟩ := call_sound h q
    rw [run, h1, ih h2, List.map_cons]

/-- From any caches a run can leave, the type ByIndex returns for `index` is at `index`. -/
theorem byIndex_at_index (h : tt.Reachable c) {index : TypeIndex} {typ : PdbType}
    (hr : (tt.byIndex c index).1 = .ok typ) : typ.index = index :=
  typeAt_index ((byIndex_sound h.sound index).1 ▸ hr)

/-- ByIndex on int, once All has filled the caches. -/
theorem byIndex_at_index_int :
    (newTypeTable nsTypes).Reachable ((newTypeTable nsTypes).call TypeCaches.empty .all).2 ∧
      ((newTypeTable nsTypes).byIndex ((newTypeTable nsTypes).call TypeCaches.empty .all).2
        0x74).1 = .ok (parseSimpleType 0x74) ∧
      (parseSimpleType 0x74).index = 0x74 :=
  have h : (newTypeTable nsTypes).Reachable _ := .call .all .empty
  have hr := (byIndex_sound h.sound 0x74).1.trans rfl
  ⟨h, hr, byIndex_at_index h hr⟩

/-- From any caches a run can leave, All yields its types in strictly increasing order of their
index, and so does ByName for any name: no type comes twice. -/
theorem all_increasing (h : tt.Reachable c) (name : Bytes) :
    (tt.all c).1.Pairwise (fun a b => a.index < b.index) ∧
      (tt.byName c name).1.Pairwise (fun a b => a.index < b.index) := by
  rw [(all_sound h.sound).1, (byName_sound h.sound name).1]
  exact ⟨types_increasing tt, (types_increasing tt).filter _⟩

/-- All and ByName on nsTypes, once a ByIndex call on the structure has filled its cache entry. -/
theorem all_increasing_nsTypes :
    (newTypeTable nsTypes).Reachable ((newTypeTable nsTypes).call TypeCaches.empty (.byIndex 0x1001)).2 ∧
      ((newTypeTable nsTypes).all ((newTypeTable nsTypes).call TypeCaches.empty
        (.byIndex 0x1001)).2).1.Pairwise (fun a b => a.index < b.index) ∧
      ((newTypeTable nsTypes).byName ((newTypeTable nsTypes).call TypeCaches.empty
        (.byIndex 0x1001)).2 nsBase).1.Pairwise (fun a b => a.index < b.index) :=
  have h : (newTypeTable nsTypes).Reachable _ := .call (.byIndex 0x1001) .empty
  ⟨h, all_increasing h nsBase⟩

/-- The caches change nothing a client sees: from newTypeTable, every run of ByIndex, All and
ByName calls replies what the pure table answers. -/
theorem run_answers (tt : TypeTable) (calls : List TypeCall) :
    tt.run TypeCaches.empty calls = calls.map tt.answer :=
  run_sound calls CacheSound.empty

end TypeTable

/-- A goroutine in ByIndex: before its Load of typeCache, past a Load that missed, or returned
with its result. -/
inductive Goroutine where
  | loading (index : TypeIndex)
  | missed (index : TypeIndex)
  | returned (index : TypeIndex) (r : Except GoError PdbType)

/-- One atomic step of a goroutine: the Load; or the rest of ByIndex, which reads only the stream
and ends in the Store. A returned goroutine takes no step. -/
def Goroutine.step (tt : TypeTable) (c : TypeCaches) : Goroutine → Goroutine × TypeCaches
  | .loading index =>
    match c.typeCache index with
    | some cached => (.returned index (.ok cached), c)
    | none => (.missed index, c)
  | .missed index => (.returned index (tt.byIndexMiss c index).1, (tt.byIndexMiss c index).2)
  | g@(.returned ..) => (g, c)

/-- A schedule runs, in turn, the goroutine at each position it names; a position with no
goroutine is skipped. -/
def interleave (tt : TypeTable) : List Goroutine × TypeCaches → List Nat → List Goroutine × TypeCaches
  | s, [] => s
  | s, k :: ks =>
    match s.1[k]? with
    | none => interleave tt s ks
    | some g => interleave tt (s.1.set k (g.step tt s.2).1, (g.step tt s.2).2) ks

namespace Goroutine
variable {tt : TypeTable} {c : TypeCaches}

/-- A goroutine that has returned holds the pure table's result. -/
def Agrees (tt : TypeTable) : Goroutine → Prop
  | returned index r => r = tt.typeAt index
  | _ => True

private theorem step_sound (h : tt.CacheSound c) (g : Goroutine) (hg : g.Agrees tt) :
    (g.step tt c).1.Agrees tt ∧ tt.CacheSound (g.step tt c).2 := by
  cases g with
  | loading index =>
    simp only [step]
    cases hc : c.typeCache index with
    | some cached => exact ⟨(h.typeCache _ _ hc).symm, h⟩
    | none => exact ⟨trivial, h⟩
  | missed index =>
    exact ⟨by simp only [step, Agrees, TypeTable.byIndexMiss_eq], h.byIndexMiss index⟩
  | returned => exact ⟨hg, h⟩

end Goroutine

private theorem interleave_sound {tt : TypeTable} (schedule : List Nat) :
    ∀ (gs : List Goroutine) (c : TypeCaches), tt.CacheSound c → (∀ g ∈ gs, g.Agrees tt) →
      (∀ g ∈ (interleave tt (gs, c) schedule).1, g.Agrees tt) ∧
        tt.CacheSound (interleave tt (gs, c) schedule).2 := by
  induction schedule with
  | nil => exact fun _ _ h hg => ⟨hg, h⟩
  | cons k ks ih =>
    intro gs c h hg
    simp only [interleave]
    cases hk : gs[k]? with
    | none => exact ih gs c h hg
    | some g =>
      obtain ⟨h1, h2⟩ := Goroutine.step_sound h g (hg g (List.getElem?_mem hk))
      refine ih _ _ h2 fun g' hg' => ?_
      rcases List.mem_or_eq_of_mem_set hg' with hm | rfl
      · exact hg g' hm
      · exact h1

private theorem interleave_fresh_sound (tt : TypeTable) (indices : List TypeIndex) (schedule : List Nat) :
    ∀ g ∈ (interleave tt (indices.map .loading, TypeCaches.empty) schedule).1, g.Agrees tt :=
  (interleave_sound schedule _ _ TypeTable.CacheSound.empty
    (fun g hg => by obtain ⟨_, _, rfl⟩ := List.mem_map.mp hg; trivial)).1

/-- Goroutines calling ByIndex on a fresh TypeTable, their Loads and Stores of typeCache
interleaved in any order: each goroutine that has returned holds the type or error that ByIndex
makes with no cache. -/
theorem interleave_returns (tt : TypeTable) (indices : List TypeIndex) (schedule : List Nat)
    (index : TypeIndex) (r : Except GoError PdbType)
    (hr : Goroutine.returned index r ∈
      (interleave tt (indices.map .loading, TypeCaches.empty) schedule).1) :
    r = tt.typeAt index :=
  interleave_fresh_sound tt indices schedule _ hr

/-- Two goroutines race on int: both Loads miss, then both compute the type and store it. -/
theorem interleave_returns_race :
    Goroutine.returned 0x74 (.ok (parseSimpleType 0x74)) ∈
        (interleave (newTypeTable nsTypes) ([0x74, 0x74].map .loading, TypeCaches.empty)
          [0, 1, 0, 1]).1 ∧
      Except.ok (parseSimpleType 0x74) = (newTypeTable nsTypes).typeAt 0x74 :=
  have hm : Goroutine.returned 0x74 (.ok (parseSimpleType 0x74)) ∈
      (interleave (newTypeTable nsTypes) ([0x74, 0x74].map .loading, TypeCaches.empty)
        [0, 1, 0, 1]).1 := List.mem_cons_self _ _
  ⟨hm, interleave_returns _ _ _ _ _ hm⟩

end PdbGo.Pdb
