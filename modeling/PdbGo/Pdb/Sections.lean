import PdbGo.Core.Reader

/-! The PE section headers of the section header stream, and SectionHeaders' conversions between
section:offset pairs and RVAs, in the code's `uint32` and `uint16` arithmetic. -/
namespace PdbGo.Pdb
open PdbGo.Stream

/-- Go's `copy(sec.Name[:], src)` into a zeroed `[8]byte`: the first eight bytes of `src`, the
rest zero. -/
def copyName (src : Bytes) : Bytes := (src ++ List.replicate 8 0).take 8

/-- SectionHeader, IMAGE_SECTION_HEADER; its name is the `[8]byte` array. -/
structure SectionHeader where
  name : Bytes
  virtualSize : U32
  virtualAddress : U32
  sizeOfRawData : U32
  pointerToRawData : U32
  pointerToRelocations : U32
  pointerToLinenumbers : U32
  numberOfRelocations : U16
  numberOfLinenumbers : U16
  characteristics : U32
  name_length : name.length = 8
  deriving DecidableEq

/-- SectionHeaders. -/
structure SectionHeaders where
  sections : List SectionHeader
  deriving DecidableEq

def sectionHeaderSize : Nat := 40

/-- The body of parseSectionHeaders' loop: the header at byte `offset`. -/
def sectionHeaderAt (data : Bytes) (offset : Nat) : SectionHeader where
  name := copyName ((data.drop offset).take 8)
  virtualSize := leU32 data (offset + 8)
  virtualAddress := leU32 data (offset + 12)
  sizeOfRawData := leU32 data (offset + 16)
  pointerToRawData := leU32 data (offset + 20)
  pointerToRelocations := leU32 data (offset + 24)
  pointerToLinenumbers := leU32 data (offset + 28)
  numberOfRelocations := leU16 data (offset + 32)
  numberOfLinenumbers := leU16 data (offset + 34)
  characteristics := leU32 data (offset + 36)
  name_length := by simp [copyName]

/-- parseSectionHeaders: one header per whole 40 bytes, a shorter tail ignored. Its error is
always nil, so the model returns the headers alone. -/
def parseSectionHeaders (data : Bytes) : SectionHeaders :=
  if data.length < sectionHeaderSize then ⟨[]⟩ else
  let numSections := data.length / sectionHeaderSize
  ⟨(List.range numSections).map fun i => sectionHeaderAt data (i * sectionHeaderSize)⟩

/-- ToRVA: the section's address plus the offset, in `uint32`; 0 for section 0 or one past the
last. -/
def SectionHeaders.toRVA (sh : SectionHeaders) (sectionNum : U16) (offset : U32) : U32 :=
  if h : sectionNum.val = 0 ∨ sectionNum.val > sh.sections.length then 0
  else (sh.sections.get ⟨sectionNum.val - 1, by omega⟩).virtualAddress + offset

/-- FindSection's loop from index `i`: the first section with `VirtualAddress ≤ rva <
VirtualAddress + VirtualSize` in `uint32`, as `uint16(i + 1)` and the offset into it. -/
def findSectionFrom (rva : U32) : Nat → List SectionHeader → U16 × U32
  | _, [] => (0, 0)
  | i, sec :: rest =>
    if rva ≥ sec.virtualAddress ∧ rva < sec.virtualAddress + sec.virtualSize then
      (Fin.ofNat (i + 1), rva - sec.virtualAddress)
    else findSectionFrom rva (i + 1) rest

def SectionHeaders.findSection (sh : SectionHeaders) (rva : U32) : U16 × U32 :=
  findSectionFrom rva 0 sh.sections

/-! What the lookup should mean, and the encoding of a header. -/

/-- The section covers `rva` over unbounded integers. -/
def SectionHeader.Contains (s : SectionHeader) (rva : U32) : Prop :=
  s.virtualAddress.val ≤ rva.val ∧ rva.val < s.virtualAddress.val + s.virtualSize.val

instance (s : SectionHeader) (rva : U32) : Decidable (s.Contains rva) :=
  inferInstanceAs (Decidable (_ ∧ _))

/-- FindSection's test: the same bounds with the end taken in `uint32`. -/
def SectionHeader.Holds (s : SectionHeader) (rva : U32) : Prop :=
  rva ≥ s.virtualAddress ∧ rva < s.virtualAddress + s.virtualSize

instance (s : SectionHeader) (rva : U32) : Decidable (s.Holds rva) :=
  inferInstanceAs (Decidable (_ ∧ _))

/-- The section ends at or below 2^32, so its end needs no wrap. -/
def SectionHeader.NoWrap (s : SectionHeader) : Prop :=
  s.virtualAddress.val + s.virtualSize.val < 4294967296

instance (s : SectionHeader) : Decidable s.NoWrap := inferInstanceAs (Decidable (_ < _))

/-- The 40 bytes of a header, little-endian, as IMAGE_SECTION_HEADER lays them out. -/
def SectionHeader.encode (s : SectionHeader) : Bytes :=
  s.name ++ encU32 s.virtualSize.val ++ encU32 s.virtualAddress.val ++ encU32 s.sizeOfRawData.val ++
    encU32 s.pointerToRawData.val ++ encU32 s.pointerToRelocations.val ++
    encU32 s.pointerToLinenumbers.val ++ encU16 s.numberOfRelocations.val ++
    encU16 s.numberOfLinenumbers.val ++ encU32 s.characteristics.val

/-- The bytes of a section header stream holding `secs`, in order. -/
def encodeSections : List SectionHeader → Bytes
  | [] => []
  | s :: rest => s.encode ++ encodeSections rest

section Lemmas

@[simp] theorem SectionHeader.encode_length (s : SectionHeader) : s.encode.length = 40 := by
  simp [SectionHeader.encode, s.name_length]

private theorem leU32_of_drop {data rest : Bytes} {i : Nat} {v : U32} (h : data.drop i = encU32 v.val ++ rest) :
    leU32 data i = v := by
  rw [← Nat.add_zero i, ← leU32_drop, h, leU32_encU32 v.val v.isLt]

private theorem leU16_of_drop {data rest : Bytes} {i : Nat} {v : U16} (h : data.drop i = encU16 v.val ++ rest) :
    leU16 data i = v := by
  rw [← Nat.add_zero i, ← leU16_drop, h, leU16_encU16]

private theorem sectionHeaderAt_encode {data rest : Bytes} {off : Nat} {s : SectionHeader}
    (h : data.drop off = s.encode ++ rest) : sectionHeaderAt data off = s := by
  simp only [SectionHeader.encode, List.append_assoc] at h
  have h8 := drop_past h
  have h12 := drop_past h8
  have h16 := drop_past h12
  have h20 := drop_past h16
  have h24 := drop_past h20
  have h28 := drop_past h24
  have h32 := drop_past h28
  have h34 := drop_past h32
  have h36 := drop_past h34
  simp only [s.name_length, encU32_length, encU16_length, Nat.add_assoc, Nat.reduceAdd]
    at h8 h12 h16 h20 h24 h28 h32 h34 h36
  have hname : copyName ((data.drop off).take 8) = s.name := by
    rw [h, List.take_left' s.name_length, copyName, List.take_left' s.name_length]
  cases s
  simp only [sectionHeaderAt, SectionHeader.mk.injEq]
  exact ⟨hname, leU32_of_drop h8, leU32_of_drop h12, leU32_of_drop h16, leU32_of_drop h20,
    leU32_of_drop h24, leU32_of_drop h28, leU16_of_drop h32, leU16_of_drop h34,
    leU32_of_drop h36⟩

@[simp] private theorem encodeSections_length (secs : List SectionHeader) :
    (encodeSections secs).length = 40 * secs.length := by
  induction secs with
  | nil => rfl
  | cons s rest ih => simp only [encodeSections, List.length_append, ih, SectionHeader.encode_length,
      List.length_cons]; omega

private theorem drop_encodeSections (secs : List SectionHeader) (tail : Bytes) (i : Nat)
    (hi : i < secs.length) :
    (encodeSections secs ++ tail).drop (i * sectionHeaderSize) =
      (secs.get ⟨i, hi⟩).encode ++ (encodeSections (secs.drop (i + 1)) ++ tail) := by
  induction secs generalizing i with
  | nil => exact absurd hi (Nat.not_lt_zero i)
  | cons s rest ih =>
    cases i with
    | zero => simp [encodeSections]
    | succ i =>
      have hd : (i + 1) * sectionHeaderSize = s.encode.length + i * sectionHeaderSize := by
        rw [SectionHeader.encode_length, sectionHeaderSize]; omega
      rw [hd, encodeSections, List.append_assoc, ← List.drop_drop, List.drop_left]
      exact ih i (Nat.lt_of_succ_lt_succ hi)

private theorem parseSectionHeaders_encode (secs : List SectionHeader) (tail : Bytes)
    (ht : tail.length < sectionHeaderSize) :
    parseSectionHeaders (encodeSections secs ++ tail) = ⟨secs⟩ := by
  have hlen : (encodeSections secs ++ tail).length / sectionHeaderSize = secs.length := by
    simp only [List.length_append, encodeSections_length, sectionHeaderSize] at ht ⊢; omega
  unfold parseSectionHeaders
  split_ifs with hshort
  · have : secs.length = 0 := by
      simp only [List.length_append, encodeSections_length, sectionHeaderSize] at hshort; omega
    rw [List.length_eq_zero.mp this]
  · dsimp only
    rw [hlen]
    congr 1
    apply List.ext_get (by simp)
    intro i _ hi
    simp only [List.get_eq_getElem, List.getElem_map, List.getElem_range]
    exact sectionHeaderAt_encode (drop_encodeSections secs tail i hi)

private theorem holds_iff_contains {s : SectionHeader} (h : s.NoWrap) (rva : U32) :
    s.Holds rva ↔ s.Contains rva := by
  unfold SectionHeader.Holds SectionHeader.Contains SectionHeader.NoWrap at *
  simp only [ge_iff_le, Fin.le_def, Fin.lt_def, Fin.val_add]
  rw [Nat.mod_eq_of_lt h]

private theorem findSectionFrom_cons (rva : U32) (i : Nat) (s : SectionHeader) (rest : List SectionHeader) :
    findSectionFrom rva i (s :: rest) = if s.Holds rva then (Fin.ofNat (i + 1), rva - s.virtualAddress)
      else findSectionFrom rva (i + 1) rest := rfl

private theorem findSectionFrom_append (rva : U32) (i : Nat) (pre rest : List SectionHeader)
    (h : ∀ s ∈ pre, ¬ s.Holds rva) :
    findSectionFrom rva i (pre ++ rest) = findSectionFrom rva (i + pre.length) rest := by
  induction pre generalizing i with
  | nil => rfl
  | cons s pre ih =>
    rw [List.cons_append, findSectionFrom_cons, if_neg (h s (List.mem_cons_self s pre)),
      ih (i + 1) fun s' hs' => h s' (List.mem_cons_of_mem s hs')]
    simp only [List.length_cons, Nat.add_assoc, Nat.add_comm 1]

private theorem findSectionFrom_eq (rva : U32) (i : Nat) (secs : List SectionHeader) :
    (∃ k s, secs[k]? = some s ∧ s.Holds rva ∧ (∀ s' ∈ secs.take k, ¬ s'.Holds rva) ∧
      findSectionFrom rva i secs = (Fin.ofNat (i + k + 1), rva - s.virtualAddress)) ∨
    ((∀ s ∈ secs, ¬ s.Holds rva) ∧ findSectionFrom rva i secs = (0, 0)) := by
  induction secs generalizing i with
  | nil => exact .inr ⟨fun _ h => absurd h (List.not_mem_nil _), rfl⟩
  | cons s rest ih =>
    by_cases hs : s.Holds rva
    · exact .inl ⟨0, s, List.getElem?_cons_zero, hs, by simp, by rw [findSectionFrom_cons, if_pos hs]⟩
    · rw [findSectionFrom_cons, if_neg hs]
      rcases ih (i + 1) with ⟨k, s', hk, hk', hpre, heq⟩ | ⟨hnone, heq⟩
      · refine .inl ⟨k + 1, s', by rw [List.getElem?_cons_succ, hk], hk', ?_, by rw [heq]; simp only [Nat.add_assoc, Nat.add_comm 1]⟩
        intro t ht
        rw [List.take_succ_cons, List.mem_cons] at ht
        rcases ht with rfl | ht
        exacts [hs, hpre t ht]
      · refine .inr ⟨fun t ht => ?_, heq⟩
        rcases List.mem_cons.mp ht with rfl | ht
        exacts [hs, hnone t ht]

private theorem toRVA_of_getElem {sh : SectionHeaders} {k : Nat} {s : SectionHeader}
    (hk : sh.sections[k]? = some s) (hcount : k + 1 < 65536) (rva : U32) :
    sh.toRVA (Fin.ofNat (k + 1)) (rva - s.virtualAddress) = rva := by
  obtain ⟨hlt, hget⟩ := List.getElem?_eq_some_iff.mp hk
  have hval : (Fin.ofNat (k + 1) : U16).val = k + 1 := Nat.mod_eq_of_lt hcount
  unfold SectionHeaders.toRVA
  rw [dif_neg (by rw [hval]; omega)]
  simp only [hval, Nat.add_sub_cancel, List.get_eq_getElem, hget]
  apply Fin.ext
  simp only [Fin.val_add, Fin.sub_def]
  have := rva.isLt; have := s.virtualAddress.isLt
  omega

end Lemmas

/-- A header at `va` of size `0x10`, its name and other fields zero. -/
def smallSection (va : U32) : SectionHeader := ⟨List.replicate 8 0, 0x10, va, 0, 0, 0, 0, 0, 0, 0, rfl⟩

/-- FindSection's law where it holds: when no section's end passes 2^32 and there are at most
65535 sections, FindSection returns the least 1-based number of a section containing the address
over the integers, with the offset into it, or `(0, 0)` when none contains it; and ToRVA turns
every section it finds and that offset back into the address. -/
theorem findSection_law (data : Bytes) (rva : U32)
    (hwrap : ∀ s ∈ (parseSectionHeaders data).sections, s.NoWrap)
    (hcount : (parseSectionHeaders data).sections.length ≤ 65535) :
    ((∃ k s, (parseSectionHeaders data).sections[k]? = some s ∧ s.Contains rva ∧
        (∀ s' ∈ (parseSectionHeaders data).sections.take k, ¬ s'.Contains rva) ∧
        ((parseSectionHeaders data).findSection rva).1.val = k + 1 ∧
        ((parseSectionHeaders data).findSection rva).2 = rva - s.virtualAddress) ∨
      ((∀ s ∈ (parseSectionHeaders data).sections, ¬ s.Contains rva) ∧
        (parseSectionHeaders data).findSection rva = (0, 0))) ∧
    ∀ sn o, (parseSectionHeaders data).findSection rva = (sn, o) → sn ≠ 0 →
      (parseSectionHeaders data).toRVA sn o = rva := by
  generalize parseSectionHeaders data = sh at hwrap hcount ⊢
  have hiff : ∀ s ∈ sh.sections, (s.Holds rva ↔ s.Contains rva) :=
    fun s hs => holds_iff_contains (hwrap s hs) rva
  rcases findSectionFrom_eq rva 0 sh.sections with ⟨k, s, hk, hholds, hpre, heq⟩ | ⟨hnone, heq⟩
  · have hmem : s ∈ sh.sections := List.getElem?_mem hk
    have hlt : k < sh.sections.length := (List.getElem?_eq_some_iff.mp hk).1
    have hnum : (Fin.ofNat (0 + k + 1) : U16).val = k + 1 := by
      show (0 + k + 1) % 65536 = k + 1; omega
    refine ⟨.inl ⟨k, s, hk, (hiff s hmem).mp hholds, fun s' hs' => ?_, ?_, ?_⟩, fun sn o h _ => ?_⟩
    · exact fun hc => hpre s' hs' ((hiff s' (List.mem_of_mem_take hs')).mpr hc)
    · rw [SectionHeaders.findSection, heq, hnum]
    · rw [SectionHeaders.findSection, heq]
    · rw [SectionHeaders.findSection, heq, Nat.zero_add, Prod.mk.injEq] at h
      rw [← h.1, ← h.2]
      exact toRVA_of_getElem hk (by omega) rva
  · refine ⟨.inr ⟨fun s hs hc => hnone s hs ((hiff s hs).mpr hc), heq⟩, fun sn o h hsn => ?_⟩
    rw [SectionHeaders.findSection, heq, Prod.mk.injEq] at h
    exact absurd h.1.symm hsn

/-- The stream of one section at `0x1000`. -/
def oneSectionStream : Bytes := encodeSections [smallSection 0x1000]

theorem findSection_law_oneSection :
    (∀ s ∈ (parseSectionHeaders oneSectionStream).sections, s.NoWrap) ∧
    (parseSectionHeaders oneSectionStream).sections.length ≤ 65535 ∧
    (((∃ k s, (parseSectionHeaders oneSectionStream).sections[k]? = some s ∧ s.Contains 0x1008 ∧
        (∀ s' ∈ (parseSectionHeaders oneSectionStream).sections.take k, ¬ s'.Contains 0x1008) ∧
        ((parseSectionHeaders oneSectionStream).findSection 0x1008).1.val = k + 1 ∧
        ((parseSectionHeaders oneSectionStream).findSection 0x1008).2 = 0x1008 - s.virtualAddress) ∨
      ((∀ s ∈ (parseSectionHeaders oneSectionStream).sections, ¬ s.Contains 0x1008) ∧
        (parseSectionHeaders oneSectionStream).findSection 0x1008 = (0, 0))) ∧
    ∀ sn o, (parseSectionHeaders oneSectionStream).findSection 0x1008 = (sn, o) → sn ≠ 0 →
      (parseSectionHeaders oneSectionStream).toRVA sn o = 0x1008) :=
  ⟨by decide, by decide, findSection_law oneSectionStream 0x1008 (by decide) (by decide)⟩

/-- A stream of one section at `0xFFFFF000` of size `0x1000`, which ends exactly at 2^32. -/
def topSectionStream : Bytes :=
  List.replicate 8 0 ++ [0, 0x10, 0, 0] ++ [0, 0xF0, 0xFF, 0xFF] ++ List.replicate 24 0

/-- 65536 sections at address 0, then one at `0x1000`. -/
def manySections : List SectionHeader :=
  List.replicate 65536 (smallSection 0) ++ [smallSection 0x1000]

/-- FindSection misses a section whose end wraps to 0, and numbers section 65537 as 1, so that
ToRVA of what it returns is not the address. -/
theorem findSection_wraps :
    (∃ s, (parseSectionHeaders topSectionStream).sections = [s] ∧ s.Contains 0xFFFFF800 ∧
      (parseSectionHeaders topSectionStream).findSection 0xFFFFF800 = (0, 0)) ∧
    ((∀ s ∈ manySections.take 65536, ¬ s.Contains 0x1000) ∧ (smallSection 0x1000).Contains 0x1000 ∧
      (parseSectionHeaders (encodeSections manySections)).findSection 0x1000 = (1, 0) ∧
      (parseSectionHeaders (encodeSections manySections)).toRVA 1 0 = 0) := by
  have htake : manySections.take 65536 = List.replicate 65536 (smallSection 0) :=
    List.take_left' (List.length_replicate _ _)
  have hparse : parseSectionHeaders (encodeSections manySections) = ⟨manySections⟩ := by
    simpa using parseSectionHeaders_encode manySections [] (by decide)
  refine ⟨⟨_, rfl, by decide, rfl⟩, fun s hs => ?_, by decide, ?_, ?_⟩
  · rw [htake] at hs; rw [List.eq_of_mem_replicate hs]; decide
  · rw [hparse, SectionHeaders.findSection, manySections, findSectionFrom_append]
    · simp only [List.length_replicate]; rfl
    · intro s hs; rw [List.eq_of_mem_replicate hs]; decide
  · have hlen : manySections.length = 65537 := by
      rw [manySections, List.length_append, List.length_replicate, List.length_singleton]
    have hin : ¬((1 : U16).val = 0 ∨ (1 : U16).val > manySections.length) := by rw [hlen]; decide
    rw [hparse, SectionHeaders.toRVA, dif_neg hin]
    rfl

end PdbGo.Pdb
