import PdbGo.Pdb.TypeCache

/-! A TPI stream written from type records is accepted by ParseStream, and its TypeTable returns
the types parseTypeRecord makes of those records. -/
namespace PdbGo.Pdb
open PdbGo.Stream PdbGo.Tpi

/-- A record area: each record framed by its length and kind. -/
def encodeRecords : List TypeRecord → Bytes
  | [] => []
  | r :: rs => frameRecord r.kind r.data ++ encodeRecords rs

/-- Where the `k`-th record of the area starts. -/
def recordOffset (rs : List TypeRecord) (k : Nat) : Nat := (encodeRecords (rs.take k)).length

private theorem encodeRecords_append (as bs : List TypeRecord) :
    encodeRecords (as ++ bs) = encodeRecords as ++ encodeRecords bs := by
  induction as with
  | nil => rfl
  | cons a as ih => rw [List.cons_append, encodeRecords, encodeRecords, ih, List.append_assoc]

section Frames
variable (pre post : Bytes) (r : TypeRecord) (hr : r.data.length + 2 < 65536)
include hr

private theorem leU16_frame :
    leU16 (pre ++ frameRecord r.kind r.data ++ post) pre.length = ⟨r.data.length + 2, hr⟩ := by
  rw [frameRecord, List.append_assoc, List.append_assoc, List.append_assoc]
  exact leU16_at_encU16 pre ⟨_, hr⟩ _

private theorem recordAt_frame : recordAt (pre ++ frameRecord r.kind r.data ++ post) pre.length = .ok r := by
  have hk : leU16 (pre ++ frameRecord r.kind r.data ++ post) (pre.length + 2) = r.kind := by
    have := leU16_at_encU16 (pre ++ encU16 (r.data.length + 2)) r.kind (r.data ++ post)
    simpa only [frameRecord, List.append_assoc, List.length_append, encU16_length] using this
  rw [recordAt, leU16_frame pre post r hr, if_neg (by simp only; omega), hk]
  have hdata : ((pre ++ frameRecord r.kind r.data ++ post).drop (pre.length + 4)).take
      r.data.length = r.data := by
    rw [show pre.length + 4 = (pre ++ encU16 (r.data.length + 2) ++ encU16 r.kind.val).length by simp,
      frameRecord, ← List.append_assoc, ← List.append_assoc, List.append_assoc _ r.data, List.drop_left,
      List.take_left]
  simp only [Nat.add_sub_cancel, hdata]

end Frames

private theorem buildOffsetIndexLoop_encode (E : TypeIndex) (rs : List TypeRecord)
    (hr : ∀ r ∈ rs, r.data.length + 2 < 65536) :
    ∀ (pre : Bytes) (acc : OffsetMap) (t : TypeIndex), t.val + rs.length ≤ E.val →
      buildOffsetIndexLoop E acc t ⟨pre ++ encodeRecords rs, pre.length⟩ =
        .ok fun ti => if t.val ≤ ti.val ∧ ti.val < t.val + rs.length
          then some (u32 (pre.length + recordOffset rs (ti.val - t.val))) else acc ti := by
  induction rs with
  | nil =>
    intro pre acc t _
    rw [buildOffsetIndexLoop_end (by simp [encodeRecords])]
    exact congrArg Except.ok (funext fun ti => (if_neg (by simp only [List.length_nil]; omega)).symm)
  | cons r rs ih =>
    intro pre acc t hE
    simp only [List.length_cons] at hE
    have hr0 := hr r (List.mem_cons_self r rs)
    have hl := leU16_frame pre (encodeRecords rs) r hr0
    have ht : t < E := Fin.lt_def.mpr (by omega)
    have ht1 : (t + 1).val = t.val + 1 :=
      Fin.val_add_one_of_lt (Fin.lt_def.mpr (by rw [Fin.val_last]; have := E.isLt; omega))
    have hframe : (frameRecord r.kind r.data).length = r.data.length + 4 := by
      simp only [frameRecord, List.length_append, encU16_length]; omega
    rw [encodeRecords, ← List.append_assoc, buildOffsetIndexLoop_next ht
      (by rw [hl]; simp only [List.length_append, hframe]; omega), hl]
    have := ih (fun x hx => hr x (List.mem_cons_of_mem r hx)) (pre ++ frameRecord r.kind r.data)
      (fun ti => if ti = t then some (u32 pre.length) else acc ti) (t + 1) (by omega)
    rw [List.length_append, hframe, ht1] at this
    rw [show pre.length + 2 + (r.data.length + 2) = pre.length + (r.data.length + 4) by omega, this]
    refine congrArg Except.ok (funext fun ti => ?_)
    by_cases hti : ti = t
    · subst hti
      simp only [recordOffset, encodeRecords, List.take_zero, Nat.sub_self]
      simp
    · have hne : ti.val ≠ t.val := fun e => hti (Fin.ext e)
      simp only [hti, if_false, List.length_cons]
      by_cases hin : t.val + 1 ≤ ti.val ∧ ti.val < t.val + 1 + rs.length
      · rw [if_pos hin, if_pos ⟨by omega, by omega⟩, show ti.val - t.val = ti.val - (t.val + 1) + 1 by omega]
        simp only [recordOffset, List.take_succ_cons, encodeRecords, List.length_append, hframe]
        congr 2
        omega
      · rw [if_neg hin, if_neg (by omega)]

private theorem u32_of_lt {n : Nat} (h : n < 4294967296) : u32 n = ⟨n, h⟩ := Fin.ext (Nat.mod_eq_of_lt h)

private theorem encodeRecords_split (rs : List TypeRecord) (i : Nat) (hi : i < rs.length) :
    encodeRecords rs = encodeRecords (rs.take i) ++ frameRecord rs[i].kind rs[i].data ++
      encodeRecords (rs.drop (i + 1)) := by
  conv_lhs => rw [← List.take_append_drop i rs, List.drop_eq_getElem_cons hi]
  rw [encodeRecords_append, encodeRecords, List.append_assoc]

section Layout
variable (begin : Nat) (rs : List TypeRecord) (rest : Bytes)

/-- The bytes of a TPI stream written from records: Begin, End one past the last record's index,
and the record area. -/
def recordsBytes : Bytes :=
  tpiBytes begin (begin + rs.length) (encodeRecords rs).length (encodeRecords rs) ++ rest

variable {begin rs} (hb : 0x1000 ≤ begin) (hn : begin + rs.length < 4294967296)
  (hr : ∀ r ∈ rs, r.data.length + 2 < 65536) (ha : (encodeRecords rs).length < 4294967296)

private theorem recordsBytes_eq : recordsBytes begin rs rest =
    [0x0B, 0xCA, 0x31, 0x01, 56, 0, 0, 0] ++ (encU32 begin ++ (encU32 (begin + rs.length) ++
      (encU32 (encodeRecords rs).length ++ (List.replicate 36 0 ++ (encodeRecords rs ++ rest))))) := by
  simp only [recordsBytes, tpiBytes, List.append_assoc]

include hn ha in
private theorem recordsBytes_header :
    leU32 (recordsBytes begin rs rest) 0 = tpiVersionV80 ∧
    leU32 (recordsBytes begin rs rest) 4 = 56 ∧
    leU32 (recordsBytes begin rs rest) 8 = u32 begin ∧
    leU32 (recordsBytes begin rs rest) 12 = u32 (begin + rs.length) ∧
    leU32 (recordsBytes begin rs rest) 16 = u32 (encodeRecords rs).length := by
  rw [recordsBytes_eq, u32_of_lt (by omega), u32_of_lt hn, u32_of_lt ha]
  refine ⟨by rw [leU32_append_left (by decide)]; rfl, by rw [leU32_append_left (by decide)]; rfl,
    leU32_at_encU32 [0x0B, 0xCA, 0x31, 0x01, 56, 0, 0, 0] ⟨begin, by omega⟩ _, ?_, ?_⟩
  · have := leU32_at_encU32 ([0x0B, 0xCA, 0x31, 0x01, 56, 0, 0, 0] ++ encU32 begin)
      ⟨begin + rs.length, hn⟩ (encU32 (encodeRecords rs).length ++
        (List.replicate 36 0 ++ (encodeRecords rs ++ rest)))
    simpa only [List.append_assoc] using this
  · have := leU32_at_encU32 ([0x0B, 0xCA, 0x31, 0x01, 56, 0, 0, 0] ++ encU32 begin ++
      encU32 (begin + rs.length)) ⟨(encodeRecords rs).length, ha⟩
        (List.replicate 36 0 ++ (encodeRecords rs ++ rest))
    simpa only [List.append_assoc] using this

include hb hn hr ha in
private theorem parseStream_records :
    ∃ s, Tpi.parseStream (recordsBytes begin rs rest) = .ok s ∧
      s.header.typeIndexBegin = u32 begin ∧ s.header.typeIndexEnd = u32 (begin + rs.length) ∧
      ∀ i (hi : i < rs.length), s.getTypeRecord (u32 (begin + i)) = .ok (some rs[i]) := by
  obtain ⟨h0, h4, h8, h12, h16⟩ := recordsBytes_header rest hn ha
  have hlen : (recordsBytes begin rs rest).length = 56 + (encodeRecords rs).length + rest.length := by
    simp only [recordsBytes_eq, List.length_append, List.length_cons, encU32_length,
      List.length_replicate, List.length_nil]
    omega
  have harea : ((recordsBytes begin rs rest).drop 56).take (encodeRecords rs).length =
      encodeRecords rs := by
    rw [recordsBytes_eq]
    simp only [← List.append_assoc]
    rw [List.append_assoc _ (encodeRecords rs), List.drop_left' (by simp), List.take_left]
  have hh := parseHeader_eq (recordsBytes begin rs rest) (by omega)
  rw [if_neg (by rw [h0]; decide)] at hh
  have hidx := buildOffsetIndexLoop_encode (u32 (begin + rs.length)) rs hr [] (fun _ => none)
    (u32 begin) (by rw [u32_of_lt (by omega), u32_of_lt hn])
  obtain ⟨s, hs, hhdr, hm⟩ := parseStream_of_index (by unfold tpiHeaderSize; omega) hh
    (by simp only [h4, h16, u32_of_lt ha, show (56 : U32).val = 56 from rfl]; omega)
    (by simp only [buildOffsetIndex, h4, h8, h12, h16, u32_of_lt ha, show (56 : U32).val = 56 from rfl,
      harea, newReader]; exact hidx)
  obtain ⟨hraw, -⟩ := parseStream_ok hs
  simp only [hhdr, h4, h16, u32_of_lt ha, show (56 : U32).val = 56 from rfl, harea] at hraw
  refine ⟨s, hs, by rw [hhdr]; exact h8, by rw [hhdr]; exact h12, fun i hi => ?_⟩
  have hsplit := encodeRecords_split rs i hi
  have hri := hr rs[i] (List.getElem_mem hi)
  have hoff : recordOffset rs i + 2 + (rs[i].data.length + 2) ≤ (encodeRecords rs).length := by
    rw [hsplit]
    simp only [recordOffset, frameRecord, List.length_append, encU16_length]
    omega
  have hbi : (u32 (begin + i)).val = begin + i := Nat.mod_eq_of_lt (by omega)
  have hb' : (u32 begin).val = begin := Nat.mod_eq_of_lt (by omega)
  have he' : (u32 (begin + rs.length)).val = begin + rs.length := Nat.mod_eq_of_lt hn
  unfold Stream.getTypeRecord
  rw [if_neg (by simp only [isSimpleType, firstUserTypeIndex, decide_eq_true_eq, Fin.lt_def, hbi]; omega),
    if_neg (by rw [hhdr]; simp only [h8, h12, Fin.lt_def, ge_iff_le, Fin.le_def, hbi, hb', he']; omega),
    hm]
  simp only [hb', hbi, if_pos (show begin ≤ begin + i ∧ begin + i < begin + rs.length by omega),
    List.length_nil, Nat.zero_add, Nat.add_sub_cancel_left]
  rw [show (u32 (recordOffset rs i)).val = recordOffset rs i from Nat.mod_eq_of_lt (by omega), hraw,
    readTypeRecord_eq _ _ (by rw [hsplit, recordOffset, leU16_frame _ _ _ hri]; rw [← hsplit]; exact hoff),
    hsplit, recordOffset, recordAt_frame _ _ _ hri]

include hb hn hr ha in
theorem typeAt_records :
    ∃ s, Tpi.parseStream (recordsBytes begin rs rest) = .ok s ∧
      (∀ i (hi : i < rs.length),
        (newTypeTable s).typeAt (u32 (begin + i)) = parseTypeRecord (u32 (begin + i)) rs[i]) ∧
      (newTypeTable s).types = (List.range rs.length).filterMap fun i =>
        (parseTypeRecord (u32 (begin + i)) (rs.getD i ⟨0, []⟩)).toOption := by
  obtain ⟨s, hs, hb', he', hget⟩ := parseStream_records rest hb hn hr ha
  have hat : ∀ i (hi : i < rs.length),
      (newTypeTable s).typeAt (u32 (begin + i)) = parseTypeRecord (u32 (begin + i)) rs[i] := by
    intro i hi
    have hbi : (u32 (begin + i)).val = begin + i := Nat.mod_eq_of_lt (by omega)
    rw [TypeTable.typeAt, if_neg (by simp only [isSimpleType, firstUserTypeIndex, decide_eq_true_eq,
      Fin.lt_def, hbi, show (0x1000 : TypeIndex).val = 4096 from rfl]; omega),
      show (newTypeTable s).tpiStream = s from rfl, hget i hi]
  refine ⟨s, hs, hat, ?_⟩
  have hbv : (u32 begin).val = begin := Nat.mod_eq_of_lt (by omega)
  have hev : (u32 (begin + rs.length)).val = begin + rs.length := Nat.mod_eq_of_lt hn
  rw [TypeTable.types, typeIndexRange, List.filterMap_map]
  simp only [newTypeTable, hb', he', hbv, hev, Nat.add_sub_cancel_left]
  refine List.filterMap_congr fun i hi => ?_
  have hi' := List.mem_range.mp hi
  rw [getD_of_lt rs _ hi']
  exact congrArg Except.toOption (hat i hi')

include hb hn hr ha in
/-- From TPI bytes to types: ParseStream accepts a stream written from records, and over its
TypeTable, from any caches a run of calls left, ByIndex returns for each record's index the type
parseTypeRecord makes of that record, and All returns those types in order, skipping the records
parseTypeRecord fails on. -/
theorem typeTable_records :
    ∃ s, Tpi.parseStream (recordsBytes begin rs rest) = .ok s ∧
      ∀ c, (newTypeTable s).Reachable c →
        (∀ i (hi : i < rs.length), ((newTypeTable s).byIndex c (u32 (begin + i))).1 =
          parseTypeRecord (u32 (begin + i)) rs[i]) ∧
        ((newTypeTable s).all c).1 = (List.range rs.length).filterMap fun i =>
          (parseTypeRecord (u32 (begin + i)) (rs.getD i ⟨0, []⟩)).toOption := by
  obtain ⟨s, hs, hat, htypes⟩ := typeAt_records rest hb hn hr ha
  exact ⟨s, hs, fun c hc => ⟨fun i hi => (TypeTable.byIndex_sound hc.sound _).1.trans (hat i hi),
    (TypeTable.all_sound hc.sound).1.trans htypes⟩⟩

end Layout

/-- An LF_MODIFIER record: const int. -/
def constIntRecord : TypeRecord := ⟨lfModifier, ModifierRecord.encode ⟨0x74, 1⟩⟩

theorem typeTable_records_constInt :
    0x1000 ≤ 0x1000 ∧ 0x1000 + [constIntRecord].length < 4294967296 ∧
      (∀ r ∈ [constIntRecord], r.data.length + 2 < 65536) ∧
      (encodeRecords [constIntRecord]).length < 4294967296 ∧
      ∃ s, Tpi.parseStream (recordsBytes 0x1000 [constIntRecord] []) = .ok s ∧
        ∀ c, (newTypeTable s).Reachable c →
          (∀ i (hi : i < [constIntRecord].length), ((newTypeTable s).byIndex c (u32 (0x1000 + i))).1 =
            parseTypeRecord (u32 (0x1000 + i)) [constIntRecord][i]) ∧
          ((newTypeTable s).all c).1 = (List.range [constIntRecord].length).filterMap fun i =>
            (parseTypeRecord (u32 (0x1000 + i)) ([constIntRecord].getD i ⟨0, []⟩)).toOption :=
  ⟨by decide, by decide, by decide, by decide,
    typeTable_records [] (by decide) (by decide) (by decide) (by decide)⟩

example : parseTypeRecord 0x1000 constIntRecord = .ok (.modifierType 0x1000 0x74 true false false) :=
  rfl

end PdbGo.Pdb
