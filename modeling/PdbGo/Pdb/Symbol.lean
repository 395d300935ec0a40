import PdbGo.Symbols.Record
import PdbGo.Demangle.Parse

/-! The symbols a PDB file hands out, public symbols and those of the symbol streams, and their
demangled names. -/
namespace PdbGo.Pdb
open PdbGo.Symbols

structure PublicSymbol where
  name : Bytes
  sectionNum : U16
  offset : U32
  flags : U32
  deriving DecidableEq, Repr

/-- The symbols convertSymbolRecord and Module.convertSymbol build. The name each demangles on
demand is Symbol.demangledName, in Pdb.Demangled. -/
inductive Symbol where
  | public (sym : PublicSymbol)
  | function (name : Bytes) (sectionNum : U16) (offset length typeIndex : U32)
  | data (name : Bytes) (sectionNum : U16) (offset typeIndex : U32)
  | udt (name : Bytes) (typeIndex : U32)
  | constant (name : Bytes) (value : U64) (typeIndex : U32)
  | local (name : Bytes) (typeIndex : U32) (isParameter : Bool)
  | label (name : Bytes) (sectionNum : U16) (offset : U32)
  | block (name : Bytes) (sectionNum : U16) (offset length : U32)
  | thunk (name : Bytes) (sectionNum : U16) (offset length : U32)
  deriving DecidableEq, Repr

def Symbol.name : Symbol → Bytes
  | .public sym => sym.name
  | .function name .. => name
  | .data name .. => name
  | .udt name _ => name
  | .constant name .. => name
  | .local name .. => name
  | .label name .. => name
  | .block name .. => name
  | .thunk name .. => name

/-- Section(): UDT, constant and local symbols have none, and answer 0. -/
def Symbol.sectionNum : Symbol → U16
  | .public sym => sym.sectionNum
  | .function _ sectionNum .. => sectionNum
  | .data _ sectionNum .. => sectionNum
  | .udt .. => 0
  | .constant .. => 0
  | .local .. => 0
  | .label _ sectionNum _ => sectionNum
  | .block _ sectionNum .. => sectionNum
  | .thunk _ sectionNum .. => sectionNum

def Symbol.offset : Symbol → U32
  | .public sym => sym.offset
  | .function _ _ offset .. => offset
  | .data _ _ offset _ => offset
  | .udt .. => 0
  | .constant .. => 0
  | .local .. => 0
  | .label _ _ offset => offset
  | .block _ _ offset _ => offset
  | .thunk _ _ offset _ => offset

/-- The PublicSymbol of a decoded `S_PUB32` payload. -/
def publicSymbolOf (sym : PublicSym32) : PublicSymbol := ⟨sym.name, sym.segment, sym.offset, sym.flags⟩

section Demangled
open PdbGo.Demangle

/-! baseSymbol.DemangledName demangles the symbol's name with DemangleSimple, once; the sync.Once
only keeps the result. -/

def Symbol.demangledName (sym : Symbol) : Demangle.Outcome Text := demangleSimple (textOfBytes sym.name)

/-- The `S_PUB32` payload of a public symbol named `??0`: flags, offset, section 1, the name. -/
def ctorWithoutNamePayload : Bytes := [0, 0, 0, 0, 0, 0, 0, 0, 1, 0, 0x3f, 0x3f, 0x30, 0]

/-- parseCtorDtor overwrites the last component of the name it read, and the code `??0` of a
constructor with no name gives it none: Go's `name.Components[len(name.Components)-1]` is out of
range. Demangle, DemangleToNode and DemangleSimple all panic on `??0`, and so does
DemangledName of a public symbol read from a PDB under that name. -/
theorem demangledName_ctor_without_name_panics :
    demangle "??0".toList = .panic "runtime error: index out of range [-1]" ∧
    demangleToNode "??0".toList = .panic "runtime error: index out of range [-1]" ∧
    demangleSimple "??0".toList = .panic "runtime error: index out of range [-1]" ∧
    ∃ sym, parsePublicSym32 ctorWithoutNamePayload = .ok sym ∧
      (Symbol.public (publicSymbolOf sym)).demangledName = .panic "runtime error: index out of range [-1]" :=
  ⟨rfl, rfl, rfl, ⟨0, 0, 1, [0x3f, 0x3f, 0x30]⟩, by decide, rfl⟩

end Demangled

end PdbGo.Pdb
