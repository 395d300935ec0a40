import PdbGo.Core.Reader

/-! CodeView symbol records: the length-prefixed framing shared by every walker, and the
payloads of the record kinds that the symbol table converts. -/
namespace PdbGo.Symbols
open PdbGo.Stream

def errInvalidSymbolRecord : GoError := .new "symbols: invalid symbol record"
def errUnexpectedEnd : GoError := .new "symbols: unexpected end of data"

def sConstantSt : U16 := 0x1002
def sUdtSt : U16 := 0x1003
def sThunk32 : U16 := 0x1102
def sBlock32 : U16 := 0x1103
def sLabel32 : U16 := 0x1105
def sConstant : U16 := 0x1107
def sUdt : U16 := 0x1108
def sLData32 : U16 := 0x110c
def sGData32 : U16 := 0x110d
def sPub32 : U16 := 0x110e
def sLProc32 : U16 := 0x110f
def sGProc32 : U16 := 0x1110
def sLProc32Id : U16 := 0x1146
def sGProc32Id : U16 := 0x1147
def sLocal : U16 := 0x113e

structure SymbolRecord where
  kind : U16
  data : Bytes
  deriving DecidableEq, Repr

/-- ParseSymbolRecord: the record at the start of `data` and its size, `length + 2`. -/
def parseSymbolRecord (data : Bytes) : Except GoError (SymbolRecord × Nat) :=
  if data.length < 4 then .error errUnexpectedEnd else
  let header : ReadM (U16 × U16) := do
    let length ← readU16
    let kind ← readU16
    pure (length, kind)
  match header (newReader data) with
  | .error e _ => .error e
  | .ok (length, kind) _ =>
    let totalSize := length.val + 2
    if totalSize > data.length then .error errUnexpectedEnd
    else if (length.val : Int) - 2 < 0 then .error errInvalidSymbolRecord
    else .ok (⟨kind, (data.drop 4).take (length.val - 2)⟩, totalSize)

structure PublicSym32 where
  flags : U32
  offset : U32
  segment : U16
  name : Bytes
  deriving DecidableEq, Repr

structure ProcSym where
  ptrParent : U32
  ptrEnd : U32
  ptrNext : U32
  codeSize : U32
  dbgStart : U32
  dbgEnd : U32
  functionType : U32
  codeOffset : U32
  segment : U16
  flags : U8
  name : Bytes
  deriving DecidableEq, Repr

structure DataSym where
  type : U32
  offset : U32
  segment : U16
  name : Bytes
  deriving DecidableEq, Repr

structure UDTSym where
  type : U32
  name : Bytes
  deriving DecidableEq, Repr

structure ConstantSym where
  type : U32
  value : U64
  name : Bytes
  deriving DecidableEq, Repr

structure LocalSym where
  type : U32
  flags : U16
  name : Bytes
  deriving DecidableEq, Repr

structure LabelSym where
  offset : U32
  segment : U16
  flags : U8
  name : Bytes
  deriving DecidableEq, Repr

structure BlockSym where
  ptrParent : U32
  ptrEnd : U32
  codeSize : U32
  offset : U32
  segment : U16
  name : Bytes
  deriving DecidableEq, Repr

structure ThunkSym where
  ptrParent : U32
  ptrEnd : U32
  ptrNext : U32
  offset : U32
  segment : U16
  length : U16
  ordinal : U8
  name : Bytes
  deriving DecidableEq, Repr

def LocalFlags.isParameter (flags : U16) : Bool := (flags &&& 0x0001) != 0

def parsePublicSym32 : Bytes → Except GoError PublicSym32 := runParser do
  let flags ← readU32
  let offset ← readU32
  let segment ← readU16
  let name ← readCString
  pure ⟨flags, offset, segment, name⟩

def parseProcSym : Bytes → Except GoError ProcSym := runParser do
  let ptrParent ← readU32
  let ptrEnd ← readU32
  let ptrNext ← readU32
  let codeSize ← readU32
  let dbgStart ← readU32
  let dbgEnd ← readU32
  let funcType ← readU32
  let codeOffset ← readU32
  let segment ← readU16
  let flags ← readU8
  let name ← readCString
  pure ⟨ptrParent, ptrEnd, ptrNext, codeSize, dbgStart, dbgEnd, funcType, codeOffset, segment,
    flags, name⟩

def parseDataSym : Bytes → Except GoError DataSym := runParser do
  let typeIndex ← readU32
  let offset ← readU32
  let segment ← readU16
  let name ← readCString
  pure ⟨typeIndex, offset, segment, name⟩

def parseUDTSym : Bytes → Except GoError UDTSym := runParser do
  let typeIndex ← readU32
  let name ← readCString
  pure ⟨typeIndex, name⟩

def parseConstantSym : Bytes → Except GoError ConstantSym := runParser do
  let typeIndex ← readU32
  let value ← readNumeric
  let name ← readCString
  pure ⟨typeIndex, value, name⟩

def parseLocalSym : Bytes → Except GoError LocalSym := runParser do
  let typeIndex ← readU32
  let flags ← readU16
  let name ← readCString
  pure ⟨typeIndex, flags, name⟩

def parseLabelSym : Bytes → Except GoError LabelSym := runParser do
  let offset ← readU32
  let segment ← readU16
  let flags ← readU8
  let name ← readCString
  pure ⟨offset, segment, flags, name⟩

def parseBlockSym : Bytes → Except GoError BlockSym := runParser do
  let ptrParent ← readU32
  let ptrEnd ← readU32
  let codeSize ← readU32
  let offset ← readU32
  let segment ← readU16
  let name ← readCString
  pure ⟨ptrParent, ptrEnd, codeSize, offset, segment, name⟩

def parseThunkSym : Bytes → Except GoError ThunkSym := runParser do
  let ptrParent ← readU32
  let ptrEnd ← readU32
  let ptrNext ← readU32
  let offset ← readU32
  let segment ← readU16
  let length ← readU16
  let ordinal ← readU8
  let name ← readCString
  pure ⟨ptrParent, ptrEnd, ptrNext, offset, segment, length, ordinal, name⟩

section Lemmas

theorem parseSymbolRecord_eq (data : Bytes) :
    parseSymbolRecord data =
      if data.length < 4 then .error errUnexpectedEnd
      else if (leU16 data 0).val + 2 > data.length then .error errUnexpectedEnd
      else if (leU16 data 0).val < 2 then .error errInvalidSymbolRecord
      else .ok (⟨leU16 data 2, (data.drop 4).take ((leU16 data 0).val - 2)⟩, (leU16 data 0).val + 2) := by
  unfold parseSymbolRecord
  by_cases h4 : data.length < 4
  · rw [if_pos h4, if_pos h4]
  rw [if_neg h4, if_neg h4]
  simp only [bind_apply, newReader, readU16_of_le ⟨data, 0⟩ (show 0 + 2 ≤ data.length by omega),
    readU16_of_le ⟨data, 0 + 2⟩ (show 0 + 2 + 2 ≤ data.length by omega), pure_apply, Nat.zero_add,
    show ((leU16 data 0).val : Int) - 2 < 0 ↔ (leU16 data 0).val < 2 by omega]

theorem parseSymbolRecord_ok {data : Bytes} {rec : SymbolRecord} {size : Nat}
    (h : parseSymbolRecord data = .ok (rec, size)) :
    size = (leU16 data 0).val + 2 ∧ 4 ≤ size ∧ size ≤ data.length ∧
      rec = ⟨leU16 data 2, (data.drop 4).take (size - 4)⟩ := by
  rw [parseSymbolRecord_eq] at h
  split_ifs at h with h1 h2 h3
  cases h
  exact ⟨rfl, by omega, by omega, by congr 2⟩

theorem parsePublicSym32_eq (d : Bytes) :
    parsePublicSym32 d =
      if 10 ≤ d.length ∧ (0 : U8) ∈ d.drop 10 then
        .ok ⟨leU32 d 0, leU32 d 4, leU16 d 8, (d.drop 10).takeWhile (· != 0)⟩
      else .error errUnexpectedEOF := by
  simp only [parsePublicSym32, runParser, bind_apply, newReader]
  by_cases h10 : 10 ≤ d.length
  · rw [readU32_of_le _ (by simp; omega)]
    simp only [readU32_of_le ⟨d, 0 + 4⟩ (by simp; omega), readU16_of_le ⟨d, 0 + 4 + 4⟩ (by simp; omega)]
    simp only [readCString_eq, pure_apply]
    split_ifs <;> simp_all
  · rw [if_neg (by omega)]
    by_cases h4 : 4 ≤ d.length
    · rw [readU32_of_le _ (by simp; omega)]
      by_cases h8 : 8 ≤ d.length
      · simp only [readU32_of_le ⟨d, 0 + 4⟩ (by simp; omega), readU16_of_gt ⟨d, 0 + 4 + 4⟩ (by simp; omega)]
      · simp only [readU32_of_gt ⟨d, 0 + 4⟩ (by simp; omega)]
    · simp only [readU32_of_gt ⟨d, 0⟩ (by simp; omega)]

end Lemmas

end PdbGo.Symbols
