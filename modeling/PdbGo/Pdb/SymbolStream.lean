import PdbGo.Pdb.Module
import PdbGo.Symbols.Layout

/-! Module streams written from the symbol records they lay out are read back whole by
Module.Symbols. -/
namespace PdbGo.Pdb
open PdbGo.Symbols PdbGo.Stream

/-- A symbol record of a kind Module.convertSymbol converts. `global` picks an S_G kind over the
S_L one, `ids` the _ID kinds of a procedure, and `st` the older _ST kind. -/
inductive SymbolLeaf where
  | proc (global ids : Bool) (s : ProcSym)
  | data (global : Bool) (s : DataSym)
  | udt (st : Bool) (s : UDTSym)
  | constant (st : Bool) (l : ConstantLayout)
  | local (s : LocalSym)
  | label (s : LabelSym)
  | block (s : BlockSym)
  | thunk (s : ThunkSym)
  deriving DecidableEq, Repr

namespace SymbolLeaf

/-- The record kind a symbol of this leaf is written with. -/
def kind : SymbolLeaf → U16
  | proc global ids _ =>
    if ids then (if global then sGProc32Id else sLProc32Id)
    else (if global then sGProc32 else sLProc32)
  | data global _ => if global then sGData32 else sLData32
  | udt st _ => if st then sUdtSt else sUdt
  | constant st _ => if st then sConstantSt else sConstant
  | .local _ => sLocal
  | label _ => sLabel32
  | block _ => sBlock32
  | thunk _ => sThunk32

/-- The payload as its decoder reads it. -/
def encode : SymbolLeaf → Bytes
  | proc _ _ s => s.encode
  | data _ s => s.encode
  | udt _ s => s.encode
  | constant _ l => l.encode
  | .local s => s.encode
  | label s => s.encode
  | block s => s.encode
  | thunk s => s.encode

/-- The symbol record of the leaf, its payload followed by `pad`. -/
def record (leaf : SymbolLeaf) (pad : Bytes) : SymbolRecord := ⟨leaf.kind, leaf.encode ++ pad⟩

/-- What a leaf needs to be read back: a name with no NUL inside, and for a constant a value that
fits the numeric leaf it is written in. -/
def WellFormed : SymbolLeaf → Prop
  | proc _ _ s => (0 : U8) ∉ s.name
  | data _ s => (0 : U8) ∉ s.name
  | udt _ s => (0 : U8) ∉ s.name
  | constant _ l => l.value.Valid ∧ (0 : U8) ∉ l.name
  | .local s => (0 : U8) ∉ s.name
  | label s => (0 : U8) ∉ s.name
  | block s => (0 : U8) ∉ s.name
  | thunk s => (0 : U8) ∉ s.name

instance : DecidablePred WellFormed
  | proc _ _ s | data _ s | udt _ s | .local s | label s | block s | thunk s =>
    inferInstanceAs (Decidable ((0 : U8) ∉ s.name))
  | constant _ l => inferInstanceAs (Decidable (l.value.Valid ∧ _))

/-- The symbol a leaf stands for: a procedure's code offset and size and its function type, a
local's parameter flag, a thunk's length widened to 32 bits. -/
def toSymbol : SymbolLeaf → Symbol
  | proc _ _ s => .function s.name s.segment s.codeOffset s.codeSize s.functionType
  | data _ s => .data s.name s.segment s.offset s.type
  | udt _ s => .udt s.name s.type
  | constant _ l => .constant l.name l.value.value l.type
  | .local s => .local s.name s.type (LocalFlags.isParameter s.flags)
  | label s => .label s.name s.segment s.offset
  | block s => .block s.name s.segment s.offset s.codeSize
  | thunk s => .thunk s.name s.segment s.offset (u32 s.length.val)

private theorem encode_length_pos (leaf : SymbolLeaf) : 0 < leaf.encode.length := by
  cases leaf <;> simp only [encode, ProcSym.encode, DataSym.encode, UDTSym.encode,
    ConstantLayout.encode, LocalSym.encode, LabelSym.encode, BlockSym.encode, ThunkSym.encode,
    List.length_append, List.length_cons, List.length_nil] <;> omega

end SymbolLeaf

private theorem convertSymbol_leaf (pad : Bytes) (leaf : SymbolLeaf) (hw : leaf.WellFormed) :
    convertSymbol (leaf.record pad) = some leaf.toSymbol := by
  cases leaf with
  | proc global ids s =>
    cases global <;> cases ids <;>
      rw [SymbolLeaf.record, convertSymbol, if_pos, SymbolLeaf.encode,
          parseProcSym_encode _ _ hw] <;>
      first | rfl | (simp only [SymbolLeaf.kind]; decide)
  | data global s =>
    cases global <;>
      rw [SymbolLeaf.record, convertSymbol, if_neg, if_pos, SymbolLeaf.encode,
          parseDataSym_encode _ _ hw] <;>
      first | rfl | (simp only [SymbolLeaf.kind]; decide)
  | udt st s =>
    cases st <;>
      rw [SymbolLeaf.record, convertSymbol, if_neg, if_neg, if_pos, SymbolLeaf.encode,
          parseUDTSym_encode _ _ hw] <;>
      first | rfl | (simp only [SymbolLeaf.kind]; decide)
  | constant st l =>
    cases st <;>
      rw [SymbolLeaf.record, convertSymbol, if_neg, if_neg, if_neg, if_pos, SymbolLeaf.encode,
          parseConstantSym_encode _ _ hw.1 hw.2] <;>
      first | rfl | (simp only [SymbolLeaf.kind]; decide)
  | «local» s =>
    rw [SymbolLeaf.record, convertSymbol, if_neg, if_neg, if_neg, if_neg, if_pos,
        SymbolLeaf.encode, parseLocalSym_encode _ _ hw] <;>
      first | rfl | (simp only [SymbolLeaf.kind]; decide)
  | label s =>
    rw [SymbolLeaf.record, convertSymbol, if_neg, if_neg, if_neg, if_neg, if_neg, if_pos,
        SymbolLeaf.encode, parseLabelSym_encode _ _ hw] <;>
      first | rfl | (simp only [SymbolLeaf.kind]; decide)
  | block s =>
    rw [SymbolLeaf.record, convertSymbol, if_neg, if_neg, if_neg, if_neg, if_neg, if_neg, if_pos,
        SymbolLeaf.encode, parseBlockSym_encode _ _ hw] <;>
      first | rfl | (simp only [SymbolLeaf.kind]; decide)
  | thunk s =>
    rw [SymbolLeaf.record, convertSymbol, if_neg, if_neg, if_neg, if_neg, if_neg, if_neg, if_neg,
        if_pos, SymbolLeaf.encode, parseThunkSym_encode _ _ hw] <;>
      first | rfl | (simp only [SymbolLeaf.kind]; decide)

/-- The records of leaves, each followed by its padding. -/
def symbolRecords (leaves : List (SymbolLeaf × Bytes)) : List SymbolRecord :=
  leaves.map fun p => p.1.record p.2

/-- A module stream written from leaves: the four-byte signature, then the records. -/
def moduleStream (sig : Bytes) (leaves : List (SymbolLeaf × Bytes)) : Bytes :=
  sig ++ encodeSymbolRecords (symbolRecords leaves)

section Stream
variable {leaves : List (SymbolLeaf × Bytes)} (hw : ∀ p ∈ leaves, p.1.WellFormed)

include hw in
private theorem symbolRecords_convert :
    (symbolRecords leaves).filterMap convertSymbol = leaves.map fun p => p.1.toSymbol := by
  rw [symbolRecords, List.filterMap_map, ← List.filterMap_eq_map]
  exact List.filterMap_congr fun p hp => convertSymbol_leaf p.2 p.1 (hw p hp)

private theorem symbolRecords_data_pos {r : SymbolRecord} (hr : r ∈ symbolRecords leaves) :
    0 < r.data.length := by
  obtain ⟨p, -, rfl⟩ := List.mem_map.mp hr
  simpa [SymbolLeaf.record] using Nat.lt_add_right _ (SymbolLeaf.encode_length_pos p.1)

variable (sig : Bytes) (hsig : sig.length = 4)
  (hr : ∀ r ∈ symbolRecords leaves, r.data.length + 2 < 65536)
  (hm : (moduleStream sig leaves).length < 4294967296)

include hw hsig hr hm in
/-- A module stream written from leaves is read back whole: whenever the module's symbol stream
holds it and its SymByteSize is between 4 and the stream's size, Module.Symbols yields the symbols
the leaves stand for, in order. -/
theorem symbols_leaves :
    ∀ (f : Msf.File) (info : ModuleInfo), 4 ≤ info.symByteSize.val →
      info.symByteSize.val ≤ (moduleStream sig leaves).length →
      (readModuleSymbols f info.moduleSymStreamIndex).1.1 =
        .ret (.ok (some (moduleStream sig leaves))) →
      (Module.symbols f info).1 = .ret (leaves.map fun p => p.1.toSymbol) := by
  intro f info h1 h2 hread
  have hdrop :
      (moduleStream sig leaves).drop 4 = [] ++ encodeSymbolRecords (symbolRecords leaves) := by
    rw [moduleStream, ← hsig, List.drop_left, List.nil_append]
  have hwalk := congrArg (List.filterMap convertSymbol)
    (framingWalk_frames [] (symbolRecords leaves) fun r hr' => ⟨symbolRecords_data_pos hr', hr r hr'⟩)
  rw [List.filterMap_map] at hwalk
  rw [symbols_of_read hread, parseSymbolSlice_eq _ _ _ (by simp [moduleStream, hsig]) hm
    (f.readStreamCap_lt _), if_pos ⟨h1, h2⟩, hdrop, ← symbolRecords_convert hw, ← hwalk]
  rfl

end Stream

/-- A module stream of a global procedure f and its parameter x, padded to four bytes with zeros. -/
def procAndParam : List (SymbolLeaf × Bytes) :=
  [(.proc true false ⟨0, 0, 0, 16, 0, 0, 0x1001, 0x10, 1, 0, [102]⟩, [0, 0, 0]),
    (.local ⟨0x74, 1, [120]⟩, [])]

theorem symbols_leaves_procAndParam :
    (∀ p ∈ procAndParam, p.1.WellFormed) ∧ [4, 0, 0, 0].length = 4 ∧
      (∀ r ∈ symbolRecords procAndParam, r.data.length + 2 < 65536) ∧
      (moduleStream [4, 0, 0, 0] procAndParam).length < 4294967296 ∧
      ∀ (f : Msf.File) (info : ModuleInfo), 4 ≤ info.symByteSize.val →
        info.symByteSize.val ≤ (moduleStream [4, 0, 0, 0] procAndParam).length →
        (readModuleSymbols f info.moduleSymStreamIndex).1.1 =
          .ret (.ok (some (moduleStream [4, 0, 0, 0] procAndParam))) →
        (Module.symbols f info).1 = .ret (procAndParam.map fun p => p.1.toSymbol) :=
  ⟨by decide, rfl, by decide, by decide,
    symbols_leaves (by decide) [4, 0, 0, 0] rfl (by decide) (by decide)⟩

example : procAndParam.map (fun p => p.1.toSymbol) =
    [.function [102] 1 0x10 16 0x1001, .local [120] 0x74 true] := by
  decide

end PdbGo.Pdb
