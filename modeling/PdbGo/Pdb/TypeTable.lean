import PdbGo.Tpi.Layout
import Mathlib.Logic.Relation
import Mathlib.Data.List.Nodup

/-! The member index of pdb.TypeTable: buildMemberIndex, the base-class walk of
getInheritanceChain, and the two ways to list members. -/
namespace PdbGo.Pdb
open PdbGo.Stream PdbGo.Tpi

def errTypeNotFound : GoError := .new "pdb: type not found"

/-- The string `"::"`. -/
def colons : Bytes := [0x3a, 0x3a]

/-- strings.Index: where `sep` first occurs in `s`, or -1. -/
def stringsIndex (s sep : Bytes) : Int :=
  match s with
  | [] => if sep = [] then 0 else -1
  | c :: cs =>
    if sep.isPrefixOf (c :: cs) then 0
    else
      let i := stringsIndex cs sep
      if i < 0 then -1 else i + 1

def memberAccessString (ma : U8) : String :=
  if ma = 1 then "private" else if ma = 2 then "protected" else if ma = 3 then "public" else ""

/-- Member. -/
structure Member where
  name : Bytes
  type : TypeIndex
  offset : U64
  access : String
  ownerType : TypeIndex
  ownerName : Bytes
  isStatic : Bool
  deriving DecidableEq, Repr

/-- TypeTable, reduced to its TPI stream: its caches only ever hold what the functions below
compute from that stream, which never changes. -/
structure TypeTable where
  tpiStream : Tpi.Stream

def newTypeTable (tpiStream : Tpi.Stream) : TypeTable := ⟨tpiStream⟩

/-- memberNameIndex. Each of Go's maps from a name to the slice appended under it is kept as
everything appended, in order: `members` for byName and byQualifiedName, which file the same
members, and the (class, base) pairs of `inheritance`. A lookup is what was filed under the
name. -/
structure MemberNameIndex where
  members : List Member
  inheritance : List (Bytes × Bytes)
  deriving DecidableEq, Repr

namespace MemberNameIndex

def byName (idx : MemberNameIndex) (name : Bytes) : List Member :=
  idx.members.filter (·.name == name)

/-- `byQualifiedName[qualifiedName]`, filed under `OwnerName + "::" + Name`. -/
def byQualifiedName (idx : MemberNameIndex) (qualifiedName : Bytes) : List Member :=
  idx.members.filter fun m => m.ownerName ++ colons ++ m.name == qualifiedName

def basesOf (idx : MemberNameIndex) (className : Bytes) : List Bytes :=
  idx.inheritance.filterMap fun e => if e.1 = className then some e.2 else none

end MemberNameIndex

/-- buildMemberIndex's classInfo. -/
structure ClassInfo where
  name : Bytes
  fieldListIndex : TypeIndex
  typeIndex : TypeIndex
  deriving DecidableEq, Repr

/-- The type indices of `for ti := begin; ti < end; ti++`; `ti` stays below `end`, so it never
wraps. -/
def typeIndexRange (header : Tpi.Header) : List TypeIndex :=
  (List.range (header.typeIndexEnd.val - header.typeIndexBegin.val)).map
    fun i => u32 (header.typeIndexBegin.val + i)

/-- buildMemberIndex's switch in its first pass: the name, properties and field list of a class,
structure or union record at `ti` that decodes. -/
def classRecordAt (s : Tpi.Stream) (ti : TypeIndex) : Option (Bytes × U16 × TypeIndex) :=
  match s.getTypeRecord ti with
  | .ok (some record) =>
    if record.kind = lfClass ∨ record.kind = lfClassSt ∨ record.kind = lfStructure ∨
        record.kind = lfStructureSt then
      match parseClassRecord record.data with
      | .ok rec => some (rec.name, rec.properties, rec.fieldList)
      | .error _ => none
    else if record.kind = lfUnion ∨ record.kind = lfUnionSt then
      match parseUnionRecord record.data with
      | .ok rec => some (rec.name, rec.properties, rec.fieldList)
      | .error _ => none
    else none
  | _ => none

/-- One turn of buildMemberIndex's first pass: file the name of a class record under its type
index, and keep it for the second pass when it is a definition with a field list. -/
def collectClass (s : Tpi.Stream) (acc : (TypeIndex → Bytes) × List ClassInfo) (ti : TypeIndex) :
    (TypeIndex → Bytes) × List ClassInfo :=
  match classRecordAt s ti with
  | some (name, properties, fieldList) =>
    (fun t => if t = ti then name else acc.1 t,
      if !isForwardRef properties && fieldList != 0 then acc.2 ++ [⟨name, fieldList, ti⟩] else acc.2)
  | none => acc

/-- The second pass's switch on a member of a class's field list: the Member `m` it makes of a
data member, static or not. -/
def memberEntry (cls : ClassInfo) : FieldListMember → Option Member
  | .member mem =>
    some ⟨mem.name, mem.type, mem.offset, memberAccessString mem.access, cls.typeIndex, cls.name, false⟩
  | .staticMember mem =>
    some ⟨mem.name, mem.type, 0, memberAccessString mem.access, cls.typeIndex, cls.name, true⟩
  | _ => none

/-- The same switch on a base class, direct or virtual: the base filed when its type has a
name. -/
def baseEntry (typeNames : TypeIndex → Bytes) (cls : ClassInfo) : FieldListMember → Option (Bytes × Bytes)
  | .baseClass mem => if typeNames mem.type ≠ [] then some (cls.name, typeNames mem.type) else none
  | .virtualBaseClass mem =>
    if typeNames mem.baseType ≠ [] then some (cls.name, typeNames mem.baseType) else none
  | _ => none

/-- The second pass at one member: file the base, and the member `m` when it is not nil. -/
def indexMember (typeNames : TypeIndex → Bytes) (cls : ClassInfo) (idx : MemberNameIndex)
    (member : FieldListMember) : MemberNameIndex :=
  ⟨idx.members ++ (memberEntry cls member).toList,
    idx.inheritance ++ (baseEntry typeNames cls member).toList⟩

/-- The second pass at one class: the members of its field list, when that decodes. -/
def indexClass (s : Tpi.Stream) (typeNames : TypeIndex → Bytes) (idx : MemberNameIndex)
    (cls : ClassInfo) : MemberNameIndex :=
  match s.getTypeRecord cls.fieldListIndex with
  | .ok (some fieldRecord) =>
    if fieldRecord.kind ≠ lfFieldList then idx
    else match parseFieldListRecord fieldRecord.data with
      | .ok fieldList => fieldList.members.foldl (indexMember typeNames cls) idx
      | .error _ => idx
  | _ => idx

/-- buildMemberIndex: type names and class definitions first, then the members and bases of
each class. -/
def buildMemberIndex (s : Tpi.Stream) : MemberNameIndex :=
  let pass1 := (typeIndexRange s.header).foldl (collectClass s) (fun _ => [], [])
  pass1.2.foldl (indexClass s pass1.1) ⟨[], []⟩

/-- The names the inheritance map files as bases; the walk only ever adds these. -/
def MemberNameIndex.baseNames (idx : MemberNameIndex) : List Bytes := idx.inheritance.map (·.2)

/-- The inner loop of getInheritanceChain over a class's bases: each not yet visited is visited,
added to the result and queued. The visited set is always the set of names in `result`. -/
def visitBases (result queue : List Bytes) : List Bytes → List Bytes × List Bytes
  | [] => (result, queue)
  | base :: bases =>
    if base ∈ result then visitBases result queue bases
    else visitBases (result ++ [base]) (queue ++ [base]) bases

/-- What is left to visit: base names not yet in the result, and the queue. -/
def pending (idx : MemberNameIndex) (result queue : List Bytes) : Nat :=
  (idx.baseNames.filter (· ∉ result)).length + queue.length

private theorem visitBases_pending (idx : MemberNameIndex) (result queue bases : List Bytes)
    (hb : ∀ b ∈ bases, b ∈ idx.baseNames) :
    pending idx (visitBases result queue bases).1 (visitBases result queue bases).2 ≤
      pending idx result queue := by
  induction bases generalizing result queue with
  | nil => exact Nat.le_refl _
  | cons base bases ih =>
    have hrest (r q : List Bytes) := ih r q (fun b h => hb b (List.mem_cons_of_mem _ h))
    unfold visitBases
    split_ifs with hin
    · exact hrest result queue
    · refine (hrest _ _).trans ?_
      have hlt : ((idx.baseNames.filter (· ∉ result)).filter (· ≠ base)).length <
          (idx.baseNames.filter (· ∉ result)).length :=
        List.length_filter_lt_length_iff_exists.mpr
          ⟨base, List.mem_filter.mpr ⟨hb base (List.mem_cons_self _ _), by simpa using hin⟩, by simp⟩
      have heq : idx.baseNames.filter (· ∉ result ++ [base]) =
          (idx.baseNames.filter (· ∉ result)).filter (· ≠ base) := by
        rw [List.filter_filter]
        congr 1
        funext x
        simp [and_comm]
      unfold pending
      rw [heq, List.length_append, List.length_singleton]
      omega

private theorem MemberNameIndex.basesOf_mem (idx : MemberNameIndex) (c : Bytes) :
    ∀ b ∈ idx.basesOf c, b ∈ idx.baseNames := by
  intro b hb
  obtain ⟨e, he, hb⟩ := List.mem_filterMap.mp hb
  split_ifs at hb
  cases hb
  exact List.mem_map_of_mem _ he

private theorem pending_visit (idx : MemberNameIndex) (result queue : List Bytes) (current : Bytes) :
    pending idx (visitBases result queue (idx.basesOf current)).1
      (visitBases result queue (idx.basesOf current)).2 < pending idx result (current :: queue) := by
  have h := visitBases_pending idx result queue _ (idx.basesOf_mem current)
  unfold pending at h ⊢
  rw [List.length_cons]
  omega

/-- The loop of getInheritanceChain: take the first queued class and visit its bases. -/
def inheritanceLoop (idx : MemberNameIndex) (result : List Bytes) : List Bytes → List Bytes
  | [] => result
  | current :: queue =>
    let next := visitBases result queue (idx.basesOf current)
    inheritanceLoop idx next.1 next.2
termination_by queue => pending idx result queue
decreasing_by exact pending_visit _ _ _ _

/-- getInheritanceChain: the class, then its ancestors in breadth-first order. -/
def getInheritanceChain (idx : MemberNameIndex) (className : Bytes) : List Bytes :=
  inheritanceLoop idx [className] [className]

/-- FindMembers' loop over the classes to search, for each class over the members filed under
its qualified name, yielding a member whose `OwnerName + "::" + Name` was not yet seen. The two
nested Go loops share `seen`, so they are one loop over the concatenated candidates. -/
def yieldUnseen : List Bytes → List Member → List Member
  | _, [] => []
  | seen, m :: ms =>
    let key := m.ownerName ++ colons ++ m.name
    if key ∈ seen then yieldUnseen seen ms else m :: yieldUnseen (seen ++ [key]) ms

/-- FindMembers, as the list of results a consumer that takes them all receives. A name with
`"::"` past its first byte is split at the first `"::"`: the class before it and its ancestors
are searched for the member after it. -/
def TypeTable.findMembers (tt : TypeTable) (name : Bytes) : List Member :=
  let idx := buildMemberIndex tt.tpiStream
  let i := stringsIndex name colons
  if i > 0 then
    let className := name.take i.toNat
    let memberName := name.drop (i.toNat + 2)
    let classesToSearch := getInheritanceChain idx className
    yieldUnseen [] (classesToSearch.flatMap fun c => idx.byQualifiedName (c ++ colons ++ memberName))
  else idx.byName name

/-- GetMembers' switch on the record's kind: the owner's name and field list of a class,
structure or union record; `none` for any other kind. -/
def memberOwner (record : TypeRecord) : Except GoError (Option (Bytes × TypeIndex)) :=
  if record.kind = lfClass ∨ record.kind = lfClassSt ∨ record.kind = lfStructure ∨
      record.kind = lfStructureSt then
    (parseClassRecord record.data).map fun rec => some (rec.name, rec.fieldList)
  else if record.kind = lfUnion ∨ record.kind = lfUnionSt then
    (parseUnionRecord record.data).map fun rec => some (rec.name, rec.fieldList)
  else .ok none

/-- GetMembers at one member of the field list. Unlike buildMemberIndex, it leaves IsStatic
unset on a static member. -/
def getMembersMember (typeIndex : TypeIndex) (ownerName : Bytes) : FieldListMember → Option Member
  | .member mem =>
    some ⟨mem.name, mem.type, mem.offset, memberAccessString mem.access, typeIndex, ownerName, false⟩
  | .staticMember mem =>
    some ⟨mem.name, mem.type, 0, memberAccessString mem.access, typeIndex, ownerName, false⟩
  | _ => none

/-- GetMembers; Go's `nil, nil` is the empty list. -/
def TypeTable.getMembers (tt : TypeTable) (typeIndex : TypeIndex) : Except GoError (List Member) :=
  match tt.tpiStream.getTypeRecord typeIndex with
  | .ok (some record) =>
    match memberOwner record with
    | .error e => .error e
    | .ok none => .error errTypeNotFound
    | .ok (some (ownerName, fieldListIndex)) =>
      if fieldListIndex = 0 then .ok [] else
      match tt.tpiStream.getTypeRecord fieldListIndex with
      | .ok (some fieldRecord) =>
        if fieldRecord.kind ≠ lfFieldList then .ok [] else
        match parseFieldListRecord fieldRecord.data with
        | .ok fieldList => .ok (fieldList.members.filterMap (getMembersMember typeIndex ownerName))
        | .error e => .error e
      | _ => .ok []
  | _ => .error errTypeNotFound

/-- The edge of the inheritance map: `b` is filed as a base of `a`. -/
def MemberNameIndex.BaseOf (idx : MemberNameIndex) (a b : Bytes) : Prop := b ∈ idx.basesOf a

private theorem visitBases_eq (result queue bases : List Bytes) :
    ∃ new, visitBases result queue bases = (result ++ new, queue ++ new) ∧ (∀ x ∈ new, x ∈ bases) ∧
      (∀ b ∈ bases, b ∈ result ++ new) ∧ (result.Nodup → (result ++ new).Nodup) := by
  induction bases generalizing result queue with
  | nil => exact ⟨[], by simp [visitBases]⟩
  | cons base bases ih =>
    by_cases hin : base ∈ result
    · obtain ⟨new, he, hsub, hall, hnd⟩ := ih result queue
      refine ⟨new, by rw [visitBases, if_pos hin, he], fun x hx => List.mem_cons_of_mem _ (hsub x hx),
        ?_, hnd⟩
      rintro b (_ | ⟨_, hb⟩)
      · exact List.mem_append_left _ hin
      · exact hall b hb
    · obtain ⟨new, he, hsub, hall, hnd⟩ := ih (result ++ [base]) (queue ++ [base])
      refine ⟨base :: new, by rw [visitBases, if_neg hin, he]; simp, ?_, ?_, ?_⟩
      · rintro x (_ | ⟨_, hx⟩)
        · exact List.mem_cons_self _ _
        · exact List.mem_cons_of_mem _ (hsub x hx)
      · rintro b (_ | ⟨_, hb⟩)
        · simp
        · simpa using hall b hb
      · intro hr
        have := hnd (List.nodup_append.mpr ⟨hr, List.nodup_singleton _, by simpa using hin⟩)
        simpa using this

private theorem inheritanceLoop_nil (idx : MemberNameIndex) (result : List Bytes) :
    inheritanceLoop idx result [] = result := by
  rw [inheritanceLoop]

private theorem inheritanceLoop_cons (idx : MemberNameIndex) (result queue : List Bytes) (current : Bytes) :
    inheritanceLoop idx result (current :: queue) =
      inheritanceLoop idx (visitBases result queue (idx.basesOf current)).1
        (visitBases result queue (idx.basesOf current)).2 := by
  rw [inheritanceLoop]

/-- What the loop of getInheritanceChain keeps: the queue is the tail of the result still to be
expanded, every class before it has its bases in the result, the result names each class once,
and every class in it is reached from `c` along base edges. -/
structure WalkInv (idx : MemberNameIndex) (c : Bytes) (result queue : List Bytes) : Prop where
  expanded : ∃ done, result = done ++ queue ∧ ∀ x ∈ done, ∀ b ∈ idx.basesOf x, b ∈ result
  nodup : result.Nodup
  reach : ∀ x ∈ result, Relation.ReflTransGen idx.BaseOf c x

theorem WalkInv.visit {idx : MemberNameIndex} {c current : Bytes} {result queue : List Bytes}
    (hi : WalkInv idx c result (current :: queue)) :
    WalkInv idx c (visitBases result queue (idx.basesOf current)).1
      (visitBases result queue (idx.basesOf current)).2 ∧
    result <+: (visitBases result queue (idx.basesOf current)).1 := by
  obtain ⟨new, he, hsub, hall, hnd⟩ := visitBases_eq result queue (idx.basesOf current)
  obtain ⟨done, rfl, hdone⟩ := hi.expanded
  have hcur : current ∈ done ++ current :: queue := List.mem_append_right _ (List.mem_cons_self _ _)
  rw [he]
  refine ⟨⟨⟨done ++ [current], by simp, ?_⟩, hnd hi.nodup, ?_⟩, List.prefix_append _ _⟩
  · intro x hx b hb
    rcases List.mem_append.mp hx with hx | hx
    · exact List.mem_append_left _ (hdone x hx b hb)
    · rw [List.mem_singleton.mp hx] at hb
      exact hall b hb
  · intro x hx
    rcases List.mem_append.mp hx with hx | hx
    · exact hi.reach x hx
    · exact (hi.reach current hcur).tail (hsub x hx)

theorem WalkInv.run {idx : MemberNameIndex} {c : Bytes} {result queue : List Bytes}
    (hi : WalkInv idx c result queue) :
    WalkInv idx c (inheritanceLoop idx result queue) [] ∧ result <+: inheritanceLoop idx result queue := by
  induction result, queue using inheritanceLoop.induct idx with
  | case1 result => rw [inheritanceLoop_nil]; exact ⟨hi, List.prefix_refl _⟩
  | case2 result current queue _ ih =>
    obtain ⟨hi', hpre⟩ := hi.visit
    obtain ⟨hrun, hpre'⟩ := ih hi'
    rw [inheritanceLoop_cons]
    exact ⟨hrun, hpre.trans hpre'⟩

/-- getInheritanceChain is the class followed by its ancestors: it starts with the class, names
each class once, and holds exactly the classes reached from it along base edges. -/
theorem getInheritanceChain_ancestors (idx : MemberNameIndex) (c : Bytes) :
    (getInheritanceChain idx c).head? = some c ∧ (getInheritanceChain idx c).Nodup ∧
    ∀ x, x ∈ getInheritanceChain idx c ↔ Relation.ReflTransGen idx.BaseOf c x := by
  have hstart : WalkInv idx c [c] [c] :=
    ⟨⟨[], rfl, by simp⟩, List.nodup_singleton c, by simpa using Relation.ReflTransGen.refl⟩
  obtain ⟨hrun, hpre⟩ := hstart.run
  obtain ⟨done, hdone, hclosed⟩ := hrun.expanded
  rw [List.append_nil] at hdone
  refine ⟨?_, hrun.nodup, fun x => ⟨hrun.reach x, fun hx => ?_⟩⟩
  · obtain ⟨rest, hrest⟩ := hpre
    rw [getInheritanceChain, ← hrest]
    rfl
  · induction hx with
    | refl => exact hpre.subset (List.mem_singleton_self c)
    | tail _ hb ih => exact hclosed _ (hdone ▸ ih) _ hb

/-- The class the first pass keeps at `ti`: a definition, not a forward reference, with a field
list. -/
def classDefinitionAt (s : Tpi.Stream) (ti : TypeIndex) : Option ClassInfo :=
  match classRecordAt s ti with
  | some (name, properties, fieldList) =>
    if !isForwardRef properties && fieldList != 0 then some ⟨name, fieldList, ti⟩ else none
  | none => none

/-- The members of the field list at `ti`, when it is one and decodes. -/
def fieldListMembers (s : Tpi.Stream) (ti : TypeIndex) : List FieldListMember :=
  match s.getTypeRecord ti with
  | .ok (some fieldRecord) =>
    if fieldRecord.kind ≠ lfFieldList then [] else
    match parseFieldListRecord fieldRecord.data with
    | .ok fieldList => fieldList.members
    | .error _ => []
  | _ => []

/-- The members the second pass files for one class. -/
def classMembers (s : Tpi.Stream) (cls : ClassInfo) : List Member :=
  (fieldListMembers s cls.fieldListIndex).filterMap (memberEntry cls)

section Passes

variable (s : Tpi.Stream)

private theorem foldl_collectClass_classes (tis : List TypeIndex) (acc : (TypeIndex → Bytes) × List ClassInfo) :
    (tis.foldl (collectClass s) acc).2 = acc.2 ++ tis.filterMap (classDefinitionAt s) := by
  induction tis generalizing acc with
  | nil => simp
  | cons ti tis ih =>
    rw [List.foldl_cons, ih, List.filterMap_cons]
    unfold collectClass classDefinitionAt
    rcases classRecordAt s ti with _ | ⟨name, properties, fieldList⟩
    · simp
    · by_cases h : (!isForwardRef properties && fieldList != 0) = true <;> simp [h]

private theorem foldl_indexMember_members (typeNames : TypeIndex → Bytes) (cls : ClassInfo)
    (ms : List FieldListMember) (idx : MemberNameIndex) :
    (ms.foldl (indexMember typeNames cls) idx).members = idx.members ++ ms.filterMap (memberEntry cls) := by
  induction ms generalizing idx with
  | nil => simp
  | cons m ms ih =>
    rw [List.foldl_cons, ih, List.filterMap_cons]
    rcases h : memberEntry cls m with _ | e <;> simp [indexMember, h]

private theorem foldl_indexClass_members (typeNames : TypeIndex → Bytes) (classes : List ClassInfo)
    (idx : MemberNameIndex) :
    (classes.foldl (indexClass s typeNames) idx).members = idx.members ++ classes.flatMap (classMembers s) := by
  induction classes generalizing idx with
  | nil => simp
  | cons cls classes ih =>
    have hcls : (indexClass s typeNames idx cls).members = idx.members ++ classMembers s cls := by
      unfold indexClass classMembers fieldListMembers
      rcases s.getTypeRecord cls.fieldListIndex with _ | _ | fieldRecord
      · simp
      · simp
      · by_cases hk : fieldRecord.kind = lfFieldList
        · simp [hk, parseFieldListRecord, foldl_indexMember_members]
        · simp [hk]
    rw [List.foldl_cons, ih, hcls, List.flatMap_cons, List.append_assoc]

private theorem buildMemberIndex_members :
    (buildMemberIndex s).members =
      ((typeIndexRange s.header).filterMap (classDefinitionAt s)).flatMap (classMembers s) := by
  rw [buildMemberIndex, foldl_indexClass_members, foldl_collectClass_classes]
  simp

private theorem classDefinitionAt_typeIndex {ti : TypeIndex} {cls : ClassInfo}
    (h : classDefinitionAt s ti = some cls) : cls.typeIndex = ti := by
  unfold classDefinitionAt at h
  split at h
  · split_ifs at h
    cases h
    rfl
  · cases h

private theorem classMembers_ownerType {cls : ClassInfo} {m : Member} (h : m ∈ classMembers s cls) :
    m.ownerType = cls.typeIndex := by
  obtain ⟨x, _, hx⟩ := List.mem_filterMap.mp h
  unfold memberEntry at hx
  split at hx <;> cases hx <;> rfl

private theorem filter_classMembers_at (ti t : TypeIndex) :
    ((classDefinitionAt s t).toList.flatMap (classMembers s)).filter (·.ownerType == ti) =
      if t = ti then (classDefinitionAt s t).toList.flatMap (classMembers s) else [] := by
  rcases h : classDefinitionAt s t with _ | cls
  · simp
  · have hown : ∀ m ∈ classMembers s cls, m.ownerType = t := fun m hm =>
      (classMembers_ownerType s hm).trans (classDefinitionAt_typeIndex s h)
    simp only [Option.toList_some, List.flatMap_cons, List.flatMap_nil, List.append_nil]
    split_ifs with ht
    · exact List.filter_eq_self.mpr fun m hm => by simp [hown m hm, ht]
    · exact List.filter_eq_nil_iff.mpr fun m hm => by simp [hown m hm, ht]

private theorem filter_flatMap_classMembers (ti : TypeIndex) (tis : List TypeIndex) (hnd : tis.Nodup) :
    ((tis.filterMap (classDefinitionAt s)).flatMap (classMembers s)).filter (·.ownerType == ti) =
      if ti ∈ tis then (classDefinitionAt s ti).toList.flatMap (classMembers s) else [] := by
  induction tis with
  | nil => simp
  | cons t tis ih =>
    obtain ⟨hnot, hnd⟩ := List.nodup_cons.mp hnd
    have hcons : (t :: tis).filterMap (classDefinitionAt s) =
        (classDefinitionAt s t).toList ++ tis.filterMap (classDefinitionAt s) := by
      rw [List.filterMap_cons]; cases classDefinitionAt s t <;> rfl
    rw [hcons, List.flatMap_append, List.filter_append, filter_classMembers_at, ih hnd]
    by_cases ht : t = ti
    · subst ht; simp [hnot]
    · simp [ht, Ne.symm ht]

private theorem typeIndexRange_nodup (header : Tpi.Header) : (typeIndexRange header).Nodup := by
  refine List.Nodup.map_on (fun x hx y hy hxy => ?_) (List.nodup_range _)
  have hval := congrArg Fin.val hxy
  have := header.typeIndexEnd.isLt
  rw [List.mem_range] at hx hy
  simp only [u32, Fin.ofNat, Nat.mod_eq_of_lt (show header.typeIndexBegin.val + x < 4294967295 + 1 by omega),
    Nat.mod_eq_of_lt (show header.typeIndexBegin.val + y < 4294967295 + 1 by omega)] at hval
  omega

private theorem mem_typeIndexRange {ti : TypeIndex} {record : TypeRecord}
    (h : s.getTypeRecord ti = .ok (some record)) : ti ∈ typeIndexRange s.header := by
  unfold Stream.getTypeRecord at h
  split_ifs at h with hs hr
  · cases h
  · rw [Fin.lt_def, ge_iff_le, Fin.le_def] at hr
    refine List.mem_map.mpr ⟨ti.val - s.header.typeIndexBegin.val, List.mem_range.mpr (by omega), Fin.ext ?_⟩
    simp only [u32, Fin.ofNat]
    rw [Nat.add_sub_cancel' (by omega), Nat.mod_eq_of_lt ti.isLt]

end Passes

private theorem memberOwner_of_classRecordAt {s : Tpi.Stream} {ti : TypeIndex} {name : Bytes}
    {properties : U16} {fieldList : TypeIndex}
    (h : classRecordAt s ti = some (name, properties, fieldList)) :
    ∃ record, s.getTypeRecord ti = .ok (some record) ∧
      memberOwner record = .ok (some (name, fieldList)) := by
  unfold classRecordAt at h
  split at h
  next _ record hrec =>
    refine ⟨record, hrec, ?_⟩
    unfold memberOwner
    split_ifs at h ⊢
    · cases hp : parseClassRecord record.data <;> rw [hp] at h <;> cases h
      rfl
    · cases hp : parseUnionRecord record.data <;> rw [hp] at h <;> cases h
      rfl
  · cases h

private theorem getMembers_of_memberOwner {s : Tpi.Stream} {ti : TypeIndex} {record : TypeRecord}
    {name : Bytes} {fieldList : TypeIndex} (hr : s.getTypeRecord ti = .ok (some record))
    (ho : memberOwner record = .ok (some (name, fieldList))) :
    (newTypeTable s).getMembers ti =
      .ok (if fieldList = 0 then [] else (fieldListMembers s fieldList).filterMap (getMembersMember ti name)) := by
  simp only [TypeTable.getMembers, newTypeTable, hr, ho, fieldListMembers]
  split_ifs
  · rfl
  · rcases s.getTypeRecord fieldList with _ | _ | fieldRecord
    · rfl
    · rfl
    · by_cases hk : fieldRecord.kind = lfFieldList <;> simp [hk, parseFieldListRecord]

private theorem memberEntry_clearStatic (name : Bytes) (fieldList ti : TypeIndex) (x : FieldListMember) :
    (memberEntry ⟨name, fieldList, ti⟩ x).map (fun m => { m with isStatic := false }) =
      getMembersMember ti name x := by
  cases x <;> rfl

/-- GetMembers at a class definition lists exactly the members the index files under that class,
with IsStatic cleared. -/
theorem getMembers_eq_indexed (s : Tpi.Stream) (ti : TypeIndex) (name : Bytes) (properties : U16)
    (fieldList : TypeIndex) (hr : classRecordAt s ti = some (name, properties, fieldList))
    (hdef : isForwardRef properties = false) :
    (newTypeTable s).getMembers ti =
      .ok (((buildMemberIndex s).members.filter (·.ownerType == ti)).map fun m => { m with isStatic := false }) := by
  obtain ⟨record, hrec, ho⟩ := memberOwner_of_classRecordAt hr
  have hdefn : classDefinitionAt s ti = if fieldList = 0 then none else some ⟨name, fieldList, ti⟩ := by
    simp only [classDefinitionAt, hr, hdef]
    by_cases h0 : fieldList = 0 <;> simp [h0]
  rw [getMembers_of_memberOwner hrec ho, buildMemberIndex_members,
    filter_flatMap_classMembers s ti _ (typeIndexRange_nodup _), if_pos (mem_typeIndexRange s hrec), hdefn]
  split_ifs
  · rfl
  · simp only [Option.toList_some, List.flatMap_cons, List.flatMap_nil, List.append_nil, classMembers,
      List.map_filterMap, memberEntry_clearStatic]

/-- A type record as the record area frames it: its length, its kind, its data. -/
def frameRecord (kind : U16) (data : Bytes) : Bytes :=
  encU16 (data.length + 2) ++ encU16 kind.val ++ data

/-- The data of an LF_STRUCTURE defining a 4-byte structure with one member and a field list. -/
def structureData (name : Bytes) (fieldList : TypeIndex) : Bytes :=
  encU16 1 ++ encU16 0 ++ encU32 fieldList.val ++ encU32 0 ++ encU32 0 ++ (Numeric.direct 4).encode ++
    name ++ [0]

/-- `ns::Base` and `ns::Derived`. -/
def nsBase : Bytes := [0x6e, 0x73, 0x3a, 0x3a, 0x42, 0x61, 0x73, 0x65]
def nsDerived : Bytes := [0x6e, 0x73, 0x3a, 0x3a, 0x44, 0x65, 0x72, 0x69, 0x76, 0x65, 0x64]

/-- ns::Base's fields: a public `int x` at offset 0 and a public static `int s`. -/
def nsBaseFields : List (Bytes × SubRecord) :=
  [([], .member 3 0x74 (.direct 0) [0x78]), ([], .staticMember 3 0x74 [0x73])]

/-- ns::Derived's fields: ns::Base as a public base at offset 0. -/
def nsDerivedFields : List (Bytes × SubRecord) := [([], .baseClass 3 0x1001 (.direct 0))]

/-- The record area: ns::Base's field list and structure, then ns::Derived's. -/
def nsRecords : Bytes :=
  frameRecord lfFieldList (encodeFieldList nsBaseFields) ++ frameRecord lfStructure (structureData nsBase 0x1000) ++
    frameRecord lfFieldList (encodeFieldList nsDerivedFields) ++
    frameRecord lfStructure (structureData nsDerived 0x1002)

/-- A TPI stream of types 0x1000 to 0x1003, the records of nsRecords. -/
def nsTypes : Tpi.Stream where
  header := ⟨tpiVersionV80, 56, 0x1000, 0x1004, u32 nsRecords.length, 0, 0, 4, 0, 0, 0, 0, 0, 0, 0⟩
  rawRecords := nsRecords
  recordOffsets := fun ti =>
    if ti = 0x1000 then some 0 else if ti = 0x1001 then some 26 else if ti = 0x1002 then some 57
    else if ti = 0x1003 then some 71 else none
  offsets_lt := by
    intro ti o h
    dsimp only at h
    split_ifs at h <;> cases h <;> decide

private theorem nsTypes_fieldLists :
    parseFieldListRecord (encodeFieldList nsBaseFields) =
      .ok ⟨[.member ⟨3, 0x74, 0, [0x78]⟩, .staticMember ⟨3, 0x74, [0x73]⟩]⟩ ∧
    parseFieldListRecord (encodeFieldList nsDerivedFields) = .ok ⟨[.baseClass ⟨3, 0x1001, 0⟩]⟩ := by
  have h1 := parseFieldListLoop_encode nsBaseFields (by decide) [] []
  have h2 := parseFieldListLoop_encode nsDerivedFields (by decide) [] []
  exact ⟨by rw [parseFieldListRecord, newReader]; exact congrArg _ (congrArg _ h1),
    by rw [parseFieldListRecord, newReader]; exact congrArg _ (congrArg _ h2)⟩

/-- ns::Base's members, as the index files them. -/
def nsX : Member := ⟨[0x78], 0x74, 0, "public", 0x1001, nsBase, false⟩
def nsS : Member := ⟨[0x73], 0x74, 0, "public", 0x1001, nsBase, true⟩

private theorem buildMemberIndex_nsTypes :
    buildMemberIndex nsTypes = ⟨[nsX, nsS], [(nsDerived, nsBase)]⟩ := by
  unfold buildMemberIndex
  generalize hp : (typeIndexRange nsTypes.header).foldl (collectClass nsTypes) (fun _ => [], []) = pass1
  have hc : pass1.2 = [⟨nsBase, 0x1000, 0x1001⟩, ⟨nsDerived, 0x1002, 0x1003⟩] := by rw [← hp]; decide
  have ht : pass1.1 0x1001 = nsBase := by rw [← hp]; decide
  have hr0 : nsTypes.getTypeRecord 0x1000 = .ok (some ⟨lfFieldList, encodeFieldList nsBaseFields⟩) := by
    decide
  have hr2 : nsTypes.getTypeRecord 0x1002 = .ok (some ⟨lfFieldList, encodeFieldList nsDerivedFields⟩) := by
    decide
  obtain ⟨hf0, hf2⟩ := nsTypes_fieldLists
  simp only [hc, List.foldl, indexClass, hr0, hr2, hf0, hf2, ne_eq, not_true_eq_false, if_false,
    indexMember, memberEntry, baseEntry, ht]
  decide

/-- GetMembers at ns::Base, a class definition of nsTypes, agrees with the index. -/
theorem getMembers_eq_indexed_nsBase :
    classRecordAt nsTypes 0x1001 = some (nsBase, 0, 0x1000) ∧ isForwardRef 0 = false ∧
    (newTypeTable nsTypes).getMembers 0x1001 =
      .ok (((buildMemberIndex nsTypes).members.filter (·.ownerType == 0x1001)).map
        fun m => { m with isStatic := false }) :=
  ⟨by decide, by decide, getMembers_eq_indexed nsTypes 0x1001 nsBase 0 0x1000 (by decide) (by decide)⟩

private theorem getInheritanceChain_of_no_bases {idx : MemberNameIndex} {c : Bytes}
    (h : idx.basesOf c = []) : getInheritanceChain idx c = [c] := by
  rw [getInheritanceChain, inheritanceLoop_cons, h]
  exact inheritanceLoop_nil idx [c]

/-- GetMembers lists ns::Base's static member `s` with IsStatic unset, while buildMemberIndex,
and so FindMembers, files it as static. -/
theorem getMembers_leaves_static_unflagged :
    (newTypeTable nsTypes).getMembers 0x1001 = .ok [nsX, { nsS with isStatic := false }] ∧
    (buildMemberIndex nsTypes).members = [nsX, nsS] ∧ nsS.isStatic = true := by
  have hr0 : nsTypes.getTypeRecord 0x1000 = .ok (some ⟨lfFieldList, encodeFieldList nsBaseFields⟩) := by
    decide
  have hr1 : nsTypes.getTypeRecord 0x1001 = .ok (some ⟨lfStructure, structureData nsBase 0x1000⟩) := by
    decide
  have ho : memberOwner ⟨lfStructure, structureData nsBase 0x1000⟩ = .ok (some (nsBase, 0x1000)) := by
    decide
  refine ⟨?_, by rw [buildMemberIndex_nsTypes], rfl⟩
  simp only [TypeTable.getMembers, newTypeTable, hr1, ho, hr0, nsTypes_fieldLists.1]
  decide

/-- FindMembers splits `ns::Derived::x` at its first `"::"`, and so walks the bases of `ns`, not
of `ns::Derived`: ns::Base's `x`, which the walk from ns::Derived reaches, is not found. -/
theorem findMembers_splits_at_first_colons :
    getInheritanceChain (buildMemberIndex nsTypes) nsDerived = [nsDerived, nsBase] ∧
    (newTypeTable nsTypes).findMembers (nsBase ++ colons ++ [0x78]) = [nsX] ∧
    (newTypeTable nsTypes).findMembers (nsDerived ++ colons ++ [0x78]) = [] := by
  have hns : getInheritanceChain (buildMemberIndex nsTypes) [0x6e, 0x73] = [[0x6e, 0x73]] :=
    getInheritanceChain_of_no_bases (by rw [buildMemberIndex_nsTypes]; decide)
  refine ⟨?_, ?_, ?_⟩
  · have hv : visitBases [nsDerived] [] ((buildMemberIndex nsTypes).basesOf nsDerived) =
        ([nsDerived, nsBase], [nsBase]) := by rw [buildMemberIndex_nsTypes]; decide
    have hb : (buildMemberIndex nsTypes).basesOf nsBase = [] := by rw [buildMemberIndex_nsTypes]; decide
    rw [getInheritanceChain, inheritanceLoop_cons, hv]
    dsimp only
    rw [inheritanceLoop_cons, hb]
    exact inheritanceLoop_nil _ _
  all_goals
    simp only [TypeTable.findMembers, newTypeTable]
    rw [if_pos (by decide)]
  · rw [show List.take (stringsIndex (nsBase ++ colons ++ [0x78]) colons).toNat
      (nsBase ++ colons ++ [0x78]) = [0x6e, 0x73] by decide, hns, buildMemberIndex_nsTypes]
    decide
  · rw [show List.take (stringsIndex (nsDerived ++ colons ++ [0x78]) colons).toNat
      (nsDerived ++ colons ++ [0x78]) = [0x6e, 0x73] by decide, hns, buildMemberIndex_nsTypes]
    decide

end PdbGo.Pdb
