import PdbGo.Symbols.Walk

/-! The byte layout of symbol records and their payloads: each decoder reads its payload back, and
the framing walk reads back records written one after another. -/
namespace PdbGo.Symbols
open PdbGo.Stream

/-- A record as ParseSymbolRecord reads it: the length of what follows the length field, the
kind, the payload. -/
def SymbolRecord.frame (rec : SymbolRecord) : Bytes :=
  encU16 (rec.data.length + 2) ++ encU16 rec.kind.val ++ rec.data

/-- Records written one after another. -/
def encodeSymbolRecords (recs : List SymbolRecord) : Bytes :=
  (recs.map SymbolRecord.frame).flatten

def PublicSym32.encode (s : PublicSym32) : Bytes :=
  encU32 s.flags.val ++ encU32 s.offset.val ++ encU16 s.segment.val ++ s.name ++ [0]

def ProcSym.encode (s : ProcSym) : Bytes :=
  encU32 s.ptrParent.val ++ encU32 s.ptrEnd.val ++ encU32 s.ptrNext.val ++ encU32 s.codeSize.val ++
    encU32 s.dbgStart.val ++ encU32 s.dbgEnd.val ++ encU32 s.functionType.val ++
    encU32 s.codeOffset.val ++ encU16 s.segment.val ++ [s.flags] ++ s.name ++ [0]

def DataSym.encode (s : DataSym) : Bytes :=
  encU32 s.type.val ++ encU32 s.offset.val ++ encU16 s.segment.val ++ s.name ++ [0]

def UDTSym.encode (s : UDTSym) : Bytes :=
  encU32 s.type.val ++ s.name ++ [0]

/-- An S_CONSTANT as laid out, its value in the numeric leaf it is written in. -/
structure ConstantLayout where
  type : U32
  value : Numeric
  name : Bytes
  deriving DecidableEq, Repr

def ConstantLayout.encode (l : ConstantLayout) : Bytes :=
  encU32 l.type.val ++ l.value.encode ++ l.name ++ [0]

def ConstantLayout.decoded (l : ConstantLayout) : ConstantSym := ⟨l.type, l.value.value, l.name⟩

def LocalSym.encode (s : LocalSym) : Bytes :=
  encU32 s.type.val ++ encU16 s.flags.val ++ s.name ++ [0]

def LabelSym.encode (s : LabelSym) : Bytes :=
  encU32 s.offset.val ++ encU16 s.segment.val ++ [s.flags] ++ s.name ++ [0]

def BlockSym.encode (s : BlockSym) : Bytes :=
  encU32 s.ptrParent.val ++ encU32 s.ptrEnd.val ++ encU32 s.codeSize.val ++ encU32 s.offset.val ++
    encU16 s.segment.val ++ s.name ++ [0]

def ThunkSym.encode (s : ThunkSym) : Bytes :=
  encU32 s.ptrParent.val ++ encU32 s.ptrEnd.val ++ encU32 s.ptrNext.val ++ encU32 s.offset.val ++
    encU16 s.segment.val ++ encU16 s.length.val ++ [s.ordinal] ++ s.name ++ [0]

section Framing

private theorem parseSymbolRecord_frame (rec : SymbolRecord) (rest : Bytes)
    (hr : rec.data.length + 2 < 65536) :
    parseSymbolRecord (rec.frame ++ rest) = .ok (rec, rec.data.length + 4) := by
  have h0 : leU16 (rec.frame ++ rest) 0 = ⟨rec.data.length + 2, hr⟩ := by
    simpa only [SymbolRecord.frame, List.append_assoc] using
      leU16_encU16 (v := ⟨rec.data.length + 2, hr⟩) (encU16 rec.kind.val ++ rec.data ++ rest)
  have h2 : leU16 (rec.frame ++ rest) 2 = rec.kind := by
    simpa only [SymbolRecord.frame, List.append_assoc, encU16_length] using
      leU16_at_encU16 (encU16 (rec.data.length + 2)) rec.kind (rec.data ++ rest)
  have hlen : (rec.frame ++ rest).length = rec.data.length + 4 + rest.length := by
    simp only [SymbolRecord.frame, List.length_append, encU16_length]
    omega
  have hdata : (rec.frame ++ rest).drop 4 = rec.data ++ rest := by
    rw [show rec.frame ++ rest = (encU16 (rec.data.length + 2) ++ encU16 rec.kind.val) ++
      (rec.data ++ rest) by simp only [SymbolRecord.frame, List.append_assoc]]
    exact List.drop_left' (by simp)
  rw [parseSymbolRecord_eq, if_neg (by omega), h0, if_neg (by simp only; omega),
    if_neg (by simp only; omega), h2, hdata]
  simp only [Nat.add_sub_cancel, List.take_left]

theorem framingWalk_frames (pre : Bytes) (recs : List SymbolRecord)
    (hr : ∀ rec ∈ recs, 0 < rec.data.length ∧ rec.data.length + 2 < 65536) :
    (framingWalk (pre ++ encodeSymbolRecords recs) pre.length).map Prod.snd = recs := by
  induction recs generalizing pre with
  | nil =>
    rw [framingWalk_eq, if_neg (by simp [encodeSymbolRecords])]
    rfl
  | cons rec recs ih =>
    obtain ⟨hpos, hlt⟩ := hr rec (List.mem_cons_self _ _)
    have hframe : (rec.frame).length = rec.data.length + 4 := by
      simp only [SymbolRecord.frame, List.length_append, encU16_length]
      omega
    have hsplit : pre ++ encodeSymbolRecords (rec :: recs) =
        pre ++ (rec.frame ++ encodeSymbolRecords recs) := by
      simp only [encodeSymbolRecords, List.map_cons, List.flatten_cons]
    rw [framingWalk_eq, if_pos (by rw [hsplit]; simp only [List.length_append]; omega), hsplit,
      List.drop_left, parseSymbolRecord_frame _ _ hlt]
    have := ih (pre ++ rec.frame) fun r hr' => hr r (List.mem_cons_of_mem _ hr')
    simp only [List.append_assoc, List.length_append, hframe] at this
    simp only [List.map_cons, this]

end Framing

section Reads
variable (pad : Bytes)

/-! Each decoder over the layout of its payload, whatever bytes follow it. -/

theorem parsePublicSym32_encode (s : PublicSym32) (hs : (0 : U8) ∉ s.name) :
    parsePublicSym32 (s.encode ++ pad) = .ok s := by
  obtain ⟨r1, h1⟩ := readU32_at (D := s.encode ++ pad) (o := 0)
    (by simp only [List.drop_zero, PublicSym32.encode, List.append_assoc, List.cons_append,
      List.nil_append]; rfl)
  obtain ⟨r2, h2⟩ := readU32_at h1
  obtain ⟨r3, h3⟩ := readU16_at h2
  obtain ⟨r4, -⟩ := readCString_at hs h3
  simp only [parsePublicSym32, runParser, newReader, bind_apply, r1, r2, r3, r4, pure_apply]

private theorem takeWhile_zero_split : ∀ l : Bytes, (0 : U8) ∈ l →
    l = l.takeWhile (· != 0) ++ 0 :: l.drop ((l.takeWhile (· != 0)).length + 1)
  | [], h => absurd h (List.not_mem_nil _)
  | x :: t, h => by
    by_cases hx : x = 0
    · subst hx; simp
    · have ht : (0 : U8) ∈ t := (List.mem_cons.mp h).resolve_left (Ne.symm hx)
      have hne : (x != 0) = true := by simpa using hx
      simp only [List.takeWhile_cons, hne, if_true, List.length_cons, List.drop_succ_cons,
        List.cons_append, List.cons.injEq, true_and]
      exact takeWhile_zero_split t ht

theorem parsePublicSym32_layout {d : Bytes} {s : PublicSym32} (h : parsePublicSym32 d = .ok s) :
    (0 : U8) ∉ s.name ∧ ∃ pad, d = s.encode ++ pad := by
  rw [parsePublicSym32_eq] at h
  split_ifs at h with hd
  cases h
  obtain ⟨h10, h0⟩ := hd
  refine ⟨fun hm => by simpa using List.mem_takeWhile_imp hm,
    (d.drop 10).drop (((d.drop 10).takeWhile (· != 0)).length + 1), ?_⟩
  have hs := takeWhile_zero_split _ h0
  have h4 := encU32_leU32 d 0 (by omega)
  have h8 := encU32_leU32 d 4 (by omega)
  have h2 := encU16_leU16 d 8 (by omega)
  simp only [PublicSym32.encode, List.drop_zero] at h4 ⊢
  rw [h4, h8, h2]
  conv_lhs => rw [← List.take_append_drop 4 d, ← List.take_append_drop 4 (d.drop 4),
    ← List.take_append_drop 2 ((d.drop 4).drop 4), List.drop_drop, List.drop_drop, hs]
  simp only [List.drop_drop, List.append_assoc, List.singleton_append]

theorem parseProcSym_encode (s : ProcSym) (hs : (0 : U8) ∉ s.name) :
    parseProcSym (s.encode ++ pad) = .ok s := by
  obtain ⟨r1, h1⟩ := readU32_at (D := s.encode ++ pad) (o := 0)
    (by simp only [List.drop_zero, ProcSym.encode, List.append_assoc, List.cons_append,
      List.nil_append]; rfl)
  obtain ⟨r2, h2⟩ := readU32_at h1
  obtain ⟨r3, h3⟩ := readU32_at h2
  obtain ⟨r4, h4⟩ := readU32_at h3
  obtain ⟨r5, h5⟩ := readU32_at h4
  obtain ⟨r6, h6⟩ := readU32_at h5
  obtain ⟨r7, h7⟩ := readU32_at h6
  obtain ⟨r8, h8⟩ := readU32_at h7
  obtain ⟨r9, h9⟩ := readU16_at h8
  obtain ⟨r10, h10⟩ := readU8_at h9
  obtain ⟨r11, -⟩ := readCString_at hs h10
  simp only [parseProcSym, runParser, newReader, bind_apply, r1, r2, r3, r4, r5, r6, r7, r8, r9,
      r10,
    r11, pure_apply]

theorem parseDataSym_encode (s : DataSym) (hs : (0 : U8) ∉ s.name) :
    parseDataSym (s.encode ++ pad) = .ok s := by
  obtain ⟨r1, h1⟩ := readU32_at (D := s.encode ++ pad) (o := 0)
    (by simp only [List.drop_zero, DataSym.encode, List.append_assoc, List.cons_append,
      List.nil_append]; rfl)
  obtain ⟨r2, h2⟩ := readU32_at h1
  obtain ⟨r3, h3⟩ := readU16_at h2
  obtain ⟨r4, -⟩ := readCString_at hs h3
  simp only [parseDataSym, runParser, newReader, bind_apply, r1, r2, r3, r4, pure_apply]

theorem parseUDTSym_encode (s : UDTSym) (hs : (0 : U8) ∉ s.name) :
    parseUDTSym (s.encode ++ pad) = .ok s := by
  obtain ⟨r1, h1⟩ := readU32_at (D := s.encode ++ pad) (o := 0)
    (by simp only [List.drop_zero, UDTSym.encode, List.append_assoc, List.cons_append,
      List.nil_append]; rfl)
  obtain ⟨r2, -⟩ := readCString_at hs h1
  simp only [parseUDTSym, runParser, newReader, bind_apply, r1, r2, pure_apply]

theorem parseConstantSym_encode (l : ConstantLayout) (hn : l.value.Valid)
    (hs : (0 : U8) ∉ l.name) :
    parseConstantSym (l.encode ++ pad) = .ok l.decoded := by
  obtain ⟨r1, h1⟩ := readU32_at (D := l.encode ++ pad) (o := 0)
    (by simp only [List.drop_zero, ConstantLayout.encode, List.append_assoc, List.cons_append,
      List.nil_append]; rfl)
  obtain ⟨r2, h2⟩ := readNumeric_at hn h1
  obtain ⟨r3, -⟩ := readCString_at hs h2
  simp only [parseConstantSym, runParser, newReader, bind_apply, r1, r2, r3, pure_apply,
    ConstantLayout.decoded]

theorem parseLocalSym_encode (s : LocalSym) (hs : (0 : U8) ∉ s.name) :
    parseLocalSym (s.encode ++ pad) = .ok s := by
  obtain ⟨r1, h1⟩ := readU32_at (D := s.encode ++ pad) (o := 0)
    (by simp only [List.drop_zero, LocalSym.encode, List.append_assoc, List.cons_append,
      List.nil_append]; rfl)
  obtain ⟨r2, h2⟩ := readU16_at h1
  obtain ⟨r3, -⟩ := readCString_at hs h2
  simp only [parseLocalSym, runParser, newReader, bind_apply, r1, r2, r3, pure_apply]

theorem parseLabelSym_encode (s : LabelSym) (hs : (0 : U8) ∉ s.name) :
    parseLabelSym (s.encode ++ pad) = .ok s := by
  obtain ⟨r1, h1⟩ := readU32_at (D := s.encode ++ pad) (o := 0)
    (by simp only [List.drop_zero, LabelSym.encode, List.append_assoc, List.cons_append,
      List.nil_append]; rfl)
  obtain ⟨r2, h2⟩ := readU16_at h1
  obtain ⟨r3, h3⟩ := readU8_at h2
  obtain ⟨r4, -⟩ := readCString_at hs h3
  simp only [parseLabelSym, runParser, newReader, bind_apply, r1, r2, r3, r4, pure_apply]

theorem parseBlockSym_encode (s : BlockSym) (hs : (0 : U8) ∉ s.name) :
    parseBlockSym (s.encode ++ pad) = .ok s := by
  obtain ⟨r1, h1⟩ := readU32_at (D := s.encode ++ pad) (o := 0)
    (by simp only [List.drop_zero, BlockSym.encode, List.append_assoc, List.cons_append,
      List.nil_append]; rfl)
  obtain ⟨r2, h2⟩ := readU32_at h1
  obtain ⟨r3, h3⟩ := readU32_at h2
  obtain ⟨r4, h4⟩ := readU32_at h3
  obtain ⟨r5, h5⟩ := readU16_at h4
  obtain ⟨r6, -⟩ := readCString_at hs h5
  simp only [parseBlockSym, runParser, newReader, bind_apply, r1, r2, r3, r4, r5, r6, pure_apply]

theorem parseThunkSym_encode (s : ThunkSym) (hs : (0 : U8) ∉ s.name) :
    parseThunkSym (s.encode ++ pad) = .ok s := by
  obtain ⟨r1, h1⟩ := readU32_at (D := s.encode ++ pad) (o := 0)
    (by simp only [List.drop_zero, ThunkSym.encode, List.append_assoc, List.cons_append,
      List.nil_append]; rfl)
  obtain ⟨r2, h2⟩ := readU32_at h1
  obtain ⟨r3, h3⟩ := readU32_at h2
  obtain ⟨r4, h4⟩ := readU32_at h3
  obtain ⟨r5, h5⟩ := readU16_at h4
  obtain ⟨r6, h6⟩ := readU16_at h5
  obtain ⟨r7, h7⟩ := readU8_at h6
  obtain ⟨r8, -⟩ := readCString_at hs h7
  simp only [parseThunkSym, runParser, newReader, bind_apply, r1, r2, r3, r4, r5, r6, r7, r8,
    pure_apply]

end Reads

end PdbGo.Symbols
