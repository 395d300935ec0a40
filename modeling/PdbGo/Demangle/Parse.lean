import PdbGo.Demangle.Ast

/-! The recursive-descent parser of package demangle, as steps of `EStateM` over the demangler
record; each call of the descent spends one unit of fuel. -/
namespace PdbGo.Demangle

def errEmptyInput : GoError := .new "demangle: empty input"
def errInvalidMangled : GoError := .new "demangle: invalid mangled name"
def errUnexpectedEnd : GoError := .new "demangle: unexpected end of input"
def errInvalidBackref : GoError := .new "demangle: invalid back-reference"
def errUnknownOperator : GoError := .new "demangle: unknown operator"
def errUnknownType : GoError := .new "demangle: unknown type"

/-- The demangler's state. A back-reference table is the list of its first `count` entries;
a saved scope is the name table it saved. -/
structure Demangler where
  input : Text
  pos : Nat
  nameBackrefs : List Text
  typeBackrefs : List Node
  templateDepth : Int
  savedNameBackrefs : List (List Text)

def newDemangler (input : Text) : Demangler := ⟨input, 0, [], [], 0, []⟩

/-- How a parse function stops short of returning a value. -/
inductive Fault where
  | goError (e : GoError)
  | panic (msg : String)
  | outOfFuel

abbrev DemM := EStateM Fault Demangler

/-- The byte peek and consume give at the end of the input. -/
def nul : Char := Char.ofNat 0

/-- Go's `return nil, err`. -/
def fail {α : Type} (e : GoError) : DemM α := throw (.goError e)

/-- A Go run-time panic. -/
def goPanic {α : Type} (msg : String) : DemM α := throw (.panic msg)

/-- Go's `v, err := f()`: the error `f` returns becomes a value; a panic goes on up. -/
def attempt {α : Type} (x : DemM α) : DemM (Except GoError α) := fun d =>
  match x d with
  | .ok a d' => .ok (.ok a) d'
  | .error (.goError e) d' => .ok (.error e) d'
  | .error f d' => .error f d'

def atEnd : DemM Bool := fun d => .ok (d.pos ≥ d.input.length) d

def peek : DemM Char := fun d =>
  .ok (if d.pos ≥ d.input.length then nul else d.input.getD d.pos nul) d

def consume : DemM Char := fun d =>
  if d.pos ≥ d.input.length then .ok nul d
  else .ok (d.input.getD d.pos nul) { d with pos := d.pos + 1 }

def advance : DemM Unit := fun d => .ok () { d with pos := d.pos + 1 }

def retreat : DemM Unit := fun d => .ok () { d with pos := d.pos - 1 }

/-- `if d.pos < len(d.input) && d.input[d.pos] == c { d.pos++ }`. -/
def skipIf (c : Char) : DemM Unit := fun d =>
  if d.pos < d.input.length ∧ d.input.getD d.pos nul = c then .ok () { d with pos := d.pos + 1 }
  else .ok () d

def Demangler.containsBackref (d : Demangler) (s : Text) : Bool := d.nameBackrefs.contains s

def memorizeString (s : Text) : DemM Unit := fun d =>
  if d.nameBackrefs.length < 10 ∧ !d.containsBackref s then
    .ok () { d with nameBackrefs := d.nameBackrefs ++ [s] }
  else .ok () d

def memorizeType (t : Node) : DemM Unit := fun d =>
  if d.typeBackrefs.length < 10 then .ok () { d with typeBackrefs := d.typeBackrefs ++ [t] }
  else .ok () d

def pushBackrefScope : DemM Unit := fun d =>
  .ok () { d with
    savedNameBackrefs := d.savedNameBackrefs ++ [d.nameBackrefs]
    nameBackrefs := []
    templateDepth := d.templateDepth + 1 }

def popBackrefScope : DemM Unit := fun d =>
  let d := { d with templateDepth := d.templateDepth - 1 }
  match d.savedNameBackrefs.getLast? with
  | some refs => .ok () { d with nameBackrefs := refs, savedNameBackrefs := d.savedNameBackrefs.dropLast }
  | none => .ok () d

/-! The switches that map a code letter to an operator, a type or an access; `none` is the
switch's default. -/

/-- parseSpecialName's switch, for the codes that name an operator. -/
def specialNameOp : Char → Option OperatorKind
  | '2' => some .opNew | '3' => some .opDelete | '4' => some .opAssign | '5' => some .opRightShift
  | '6' => some .opLeftShift | '7' => some .opLogicalNot | '8' => some .opEqual
  | '9' => some .opNotEqual | 'A' => some .opSubscript | 'C' => some .opArrow
  | 'D' => some .opDereference | 'E' => some .opIncrement | 'F' => some .opDecrement
  | 'G' => some .opMinus | 'H' => some .opPlus | 'I' => some .opAddressOf
  | 'J' => some .opArrowDeref | 'K' => some .opDivide | 'L' => some .opModulo
  | 'M' => some .opLess | 'N' => some .opLessEqual | 'O' => some .opGreater
  | 'P' => some .opGreaterEqual | 'Q' => some .opComma | 'R' => some .opCall
  | 'S' => some .opComplement | 'T' => some .opXor | 'U' => some .opBitwiseOr
  | 'V' => some .opLogicalAnd | 'W' => some .opLogicalOr | 'X' => some .opMultiplyAssign
  | 'Y' => some .opPlusAssign | 'Z' => some .opMinusAssign
  | _ => none

def extendedOperatorOp : Char → Option OperatorKind
  | '0' => some .opDivideAssign | '1' => some .opModuloAssign | '2' => some .opRightShiftAssign
  | '3' => some .opLeftShiftAssign | '4' => some .opAndAssign | '5' => some .opOrAssign
  | '6' => some .opXorAssign | 'U' => some .opNewArray | 'V' => some .opDeleteArray
  | _ => none

/-- parseExtendedSpecial's switch, for the codes that name an operator. -/
def extendedSpecialOp : Char → Option OperatorKind
  | '7' => some .opVFTable | '8' => some .opVBTable | 'A' => some .opTypeof
  | 'B' => some .opLocalStaticGuard | 'D' => some .opVBaseDtor | 'E' => some .opVectorDeletingDtor
  | 'F' => some .opDefaultCtorClosure | 'G' => some .opScalarDeletingDtor
  | 'H' => some .opVectorCtorIterator | 'I' => some .opVectorDtorIterator
  | 'J' => some .opVectorVbaseCtorIterator | 'K' => some .opVirtualDisplacementMap
  | 'L' => some .opEHVectorCtorIterator | 'M' => some .opEHVectorDtorIterator
  | 'N' => some .opEHVectorVbaseCtorIterator | 'O' => some .opCopyCtorClosure
  | 'S' => some .opLocalVFTable | 'T' => some .opLocalVFTableCtorClosure
  | _ => none

def rttiOp : Char → Option OperatorKind
  | '0' => some .opRTTITypeDescriptor | '1' => some .opRTTIBaseClassDescriptor
  | '2' => some .opRTTIBaseClassArray | '3' => some .opRTTIClassHierarchyDescriptor
  | '4' => some .opRTTICompleteObjectLocator
  | _ => none

/-- parseType's switch, for the one-letter primitive types. -/
def primitiveCode : Char → Option PrimitiveKind
  | 'X' => some .primVoid | 'C' => some .primSignedChar | 'D' => some .primChar
  | 'E' => some .primUnsignedChar | 'F' => some .primShort | 'G' => some .primUnsignedShort
  | 'H' => some .primInt | 'I' => some .primUnsignedInt | 'J' => some .primLong
  | 'K' => some .primUnsignedLong | 'M' => some .primFloat | 'N' => some .primDouble
  | 'O' => some .primLongDouble
  | _ => none

def extendedCode : Char → Option PrimitiveKind
  | 'N' => some .primBool | 'J' => some .primInt64 | 'K' => some .primUnsignedInt64
  | 'W' => some .primWChar | 'S' => some .primChar16 | 'U' => some .primChar32
  | _ => none

/-- parseCallingConvention's switch; the default backs up and gives `__cdecl`. -/
def callingConvCode : Char → Option CallingConvention
  | 'A' | 'B' => some .callingConvCdecl | 'C' | 'D' => some .callingConvPascal
  | 'E' | 'F' => some .callingConvThiscall | 'G' | 'H' => some .callingConvStdcall
  | 'I' | 'J' => some .callingConvFastcall | 'M' | 'N' => some .callingConvClrcall
  | 'O' | 'P' => some .callingConvEabi | 'Q' => some .callingConvVectorcall
  | 'S' => some .callingConvSwift | 'W' => some .callingConvSwiftAsync
  | _ => none

/-- parseFunctionEncoding's switch: access, static, virtual. An unlisted code is a global. -/
def functionAccess : Char → AccessSpecifier × Bool × Bool
  | 'A' | 'B' | 'G' | 'H' => (.accessPrivate, false, false)
  | 'C' | 'D' => (.accessPrivate, true, false)
  | 'E' | 'F' => (.accessPrivate, false, true)
  | 'I' | 'J' | 'O' | 'P' => (.accessProtected, false, false)
  | 'K' | 'L' => (.accessProtected, true, false)
  | 'M' | 'N' => (.accessProtected, false, true)
  | 'Q' | 'R' | 'W' | 'X' => (.accessPublic, false, false)
  | 'S' | 'T' => (.accessPublic, true, false)
  | 'U' | 'V' => (.accessPublic, false, true)
  | _ => (.accessNone, false, false)

/-! The functions that do not call back into the recursive descent. -/

def parseExtendedOperator : DemM Node := do
  if ← atEnd then fail errUnexpectedEnd
  let c ← consume
  match extendedOperatorOp c with
  | some op => pure (.operator op)
  | none => do retreat; fail errUnknownOperator

def parseExtendedType : DemM Node := do
  if ← atEnd then fail errUnexpectedEnd
  let c ← consume
  match extendedCode c with
  | some t => pure (.primitiveType t)
  | none => do retreat; fail errUnknownType

def parseQualifiers : DemM Qualifiers := do
  if ← atEnd then return {}
  match ← peek with
  | 'A' => do advance; pure {}
  | 'B' => do advance; pure { isConst := true }
  | 'C' => do advance; pure { isVolatile := true }
  | 'D' => do advance; pure { isConst := true, isVolatile := true }
  | _ => pure {}

/-- parseCallingConvention; it never returns an error. -/
def parseCallingConvention : DemM CallingConvention := do
  if ← atEnd then return .callingConvCdecl
  let c ← consume
  match callingConvCode c with
  | some cc => pure cc
  | none => do retreat; pure .callingConvCdecl

/-- The name parseSimpleName scans: the bytes up to the next `@` or the end. -/
def parseSimpleName : DemM Node := do
  let d ← get
  let name := (d.input.drop d.pos).takeWhile (· ≠ '@')
  if name.length = 0 then fail errInvalidMangled
  set { d with pos := d.pos + name.length }
  memorizeString name
  pure (.identifier name)

/-- parseNumber's hex loop over the bytes from the position: the value and the bytes it
consumes. A terminating `@` is consumed; any byte outside `A`..`P` stops it. -/
def hexDigits : Text → Int → Int × Nat
  | [], val => (val, 0)
  | c :: cs, val =>
    if c = '@' then (val, 1)
    else if c < 'A' ∨ c > 'P' then (val, 0)
    else
      let r := hexDigits cs (i64 (val * 16 + (c.toNat - 'A'.toNat)))
      (r.1, r.2 + 1)

/-- parseNumber, in int64; it never returns an error. -/
def parseNumber : DemM Int := do
  let negative ← (do if (← peek) = '?' then do advance; pure true else pure false)
  let c ← peek
  if '1' ≤ c ∧ c ≤ '9' then
    advance
    let val : Int := c.toNat - '0'.toNat
    return if negative then -val else val
  if c = '0' then
    advance
    return 0
  let d ← get
  let r := hexDigits (d.input.drop d.pos) 0
  set { d with pos := d.pos + r.2 }
  return if negative then i64 (-r.1) else r.1

/-- parsePointerType: qualifiers, then the `E` of a 64-bit pointer, then the pointee, read
by `parseType`. -/
def parsePointerType (parseType : DemM Node) (affinity : PointerAffinity) : DemM Node := do
  let quals ← parseQualifiers
  let is64Bit ← (do if (← peek) = 'E' then do advance; pure true else pure false)
  let pointee ← parseType
  pure (.pointerType pointee affinity quals is64Bit)

/-- The pointer parsers that force qualifiers on: qualifiers, with `setConst` and
`setVolatile` set, then the pointee. They never read an `E`. -/
def parseForcedPointer (parseType : DemM Node) (affinity : PointerAffinity)
    (setConst setVolatile : Bool) : DemM Node := do
  let quals ← parseQualifiers
  let quals := { quals with isConst := quals.isConst || setConst,
                            isVolatile := quals.isVolatile || setVolatile }
  let pointee ← parseType
  pure (.pointerType pointee affinity quals false)

def parseConstPointerType (parseType : DemM Node) : DemM Node :=
  parseForcedPointer parseType .affinityPointer true false

def parseVolatilePointerType (parseType : DemM Node) : DemM Node :=
  parseForcedPointer parseType .affinityPointer false true

def parseConstVolatilePointerType (parseType : DemM Node) : DemM Node :=
  parseForcedPointer parseType .affinityPointer true true

def parseVolatileReferenceType (parseType : DemM Node) : DemM Node :=
  parseForcedPointer parseType .affinityReference false true

/-- The functions of the descent that call one another, at one depth. A body below calls the
next depth's functions through this record, so that a call spends one unit of fuel. -/
structure Descent where
  parseFullyQualifiedName : DemM (List Node)
  parseNameComponents : List Node → DemM (List Node)
  parseNameFragment : DemM Node
  parseSpecialName : DemM Node
  parseConversionOperator : DemM Node
  parseTemplateInstantiation : DemM Node
  parseTemplateArgs : List Node → DemM (List Node)
  parseTemplateArg : DemM Node
  parseTemplateNonTypeArg : DemM Node
  parseType : DemM Node
  parseDollarType : DemM Node
  parseFunctionPointerType : DemM Node
  parseFunctionType : DemM FunctionType
  parseParameters : DemM (List Node × Bool)
  parseParameterList : List Node → DemM (List Node × Bool)
  parseTagType : TagKind → DemM Node
  parseEnumType : DemM Node
  parseArrayType : DemM Node
  parseDimensions : List U64 → DemM (List U64)

/-! The bodies of the descent's functions, each calling the others through `next`. -/
namespace Step
variable (next : Descent)

def parseFullyQualifiedName : DemM (List Node) := do
  let components ← next.parseNameComponents []
  pure components.reverse

/-- parseFullyQualifiedName's loop: fragments up to `@@` or the end, innermost first. -/
def parseNameComponents (components : List Node) : DemM (List Node) := do
  if ← atEnd then return components
  if (← peek) = '@' then
    advance
    if (← peek) = '@' then
      advance
      return components
    next.parseNameComponents components
  else
    let part ← next.parseNameFragment
    next.parseNameComponents (components ++ [part])

def parseNameFragment : DemM Node := do
  if ← atEnd then fail errUnexpectedEnd
  let c ← peek
  if '0' ≤ c ∧ c ≤ '9' then
    advance
    let d ← get
    match d.nameBackrefs[c.toNat - '0'.toNat]? with
    | some name => return .identifier name
    | none => fail errInvalidBackref
  let d ← get
  if c = '?' ∧ d.pos + 1 < d.input.length ∧ d.input.getD (d.pos + 1) nul = '$' then
    return ← next.parseTemplateInstantiation
  if c = '?' then
    advance
    return ← next.parseSpecialName
  parseSimpleName

def parseSpecialName : DemM Node := do
  if ← atEnd then fail errUnexpectedEnd
  let c ← consume
  match c with
  | 'B' => next.parseConversionOperator
  | '_' => parseExtendedOperator
  | _ =>
    match specialNameOp c with
    | some op => pure (.operator op)
    | none => do retreat; fail errUnknownOperator

def parseConversionOperator : DemM Node := do
  let targetType ← next.parseType
  pure (.conversionOperator targetType)

def parseTemplateInstantiation : DemM Node := do
  modify fun d => { d with pos := d.pos + 2 }
  pushBackrefScope
  let r ← attempt (do
    let nameNode ← parseSimpleName
    skipIf '@'
    let args ← next.parseTemplateArgs []
    skipIf '@'
    pure (Node.templateInstantiation nameNode args))
  popBackrefScope
  match r with
  | .ok node => pure node
  | .error e => fail e

/-- parseTemplateInstantiation's loop over the arguments; an argument that fails ends it. -/
def parseTemplateArgs (args : List Node) : DemM (List Node) := do
  if ← atEnd then return args
  if (← peek) = '@' then return args
  match ← attempt next.parseTemplateArg with
  | .error _ => pure args
  | .ok arg => next.parseTemplateArgs (args ++ [arg])

def parseTemplateArg : DemM Node := do
  if (← peek) = '$' then
    advance
    next.parseTemplateNonTypeArg
  else next.parseType

def parseTemplateNonTypeArg : DemM Node := do
  if ← atEnd then fail errUnexpectedEnd
  match ← consume with
  | '0' => do
    let val ← parseNumber
    pure (.integerLiteral val false)
  | '1' | '2' | 'D' | 'E' | 'F' | 'G' | 'H' | 'I' | 'Q' | 'S' => pure (.identifier ['?'])
  | _ => do
    retreat
    next.parseType

def parseType : DemM Node := do
  if ← atEnd then fail errUnexpectedEnd
  let c ← peek
  if '0' ≤ c ∧ c ≤ '9' then
    advance
    let d ← get
    match d.typeBackrefs[c.toNat - '0'.toNat]? with
    | some t => return t
    | none => fail errInvalidBackref
  let node ← (match primitiveCode c with
    | some t => do advance; pure (Node.primitiveType t)
    | none =>
      match c with
      | '_' => do advance; parseExtendedType
      | 'P' => do advance; parsePointerType next.parseType .affinityPointer
      | 'Q' => do advance; parseConstPointerType next.parseType
      | 'R' => do advance; parseVolatilePointerType next.parseType
      | 'S' => do advance; parseConstVolatilePointerType next.parseType
      | 'A' => do advance; parsePointerType next.parseType .affinityReference
      | 'B' => do advance; parseVolatileReferenceType next.parseType
      | '$' => do advance; next.parseDollarType
      | 'T' => do advance; next.parseTagType .tagUnion
      | 'U' => do advance; next.parseTagType .tagStruct
      | 'V' => do advance; next.parseTagType .tagClass
      | 'W' => do advance; next.parseEnumType
      | 'Y' => do advance; next.parseArrayType
      | _ => fail errUnknownType)
  if node.kind ≠ .nodeKindPrimitiveType then memorizeType node
  pure node

/-- parseDollarType; `$$R` is parseVolatileReferenceType's code with an rvalue reference. -/
def parseDollarType : DemM Node := do
  if ← atEnd then fail errUnexpectedEnd
  match ← consume with
  | '$' =>
    if ← atEnd then do retreat; fail errUnknownType
    else
      match ← consume with
      | 'Q' => parsePointerType next.parseType .affinityRValueReference
      | 'R' => parseForcedPointer next.parseType .affinityRValueReference false true
      | 'A' => next.parseFunctionPointerType
      | 'C' => next.parseType
      | _ => do retreat; fail errUnknownType
  | 'A' => next.parseFunctionPointerType
  | 'Q' => parsePointerType next.parseType .affinityRValueReference
  | _ => do retreat; fail errUnknownType

def parseFunctionPointerType : DemM Node := do
  let ft ← next.parseFunctionType
  pure (.functionType ft)

/-- parseFunctionType; a return type or parameter list that fails to parse is left unset. -/
def parseFunctionType : DemM FunctionType := do
  let cc ← parseCallingConvention
  let returnType ← (if (← peek) ≠ '@' then do
      match ← attempt next.parseType with
      | .ok r => pure (some r)
      | .error _ => pure none
    else do
      advance
      pure none)
  let (params, isVariadic) ← next.parseParameters
  pure (.mk cc returnType params {} isVariadic .refQualifierNone)

/-- parseParameters; it never returns an error. -/
def parseParameters : DemM (List Node × Bool) := do
  if (← peek) = 'X' then
    advance
    return ([], false)
  next.parseParameterList []

/-- parseParameters' loop: types up to `@`, or `Z` for a variadic list; a type that fails
ends it. -/
def parseParameterList (params : List Node) : DemM (List Node × Bool) := do
  if ← atEnd then return (params, false)
  let c ← peek
  if c = '@' then
    advance
    return (params, false)
  if c = 'Z' then
    advance
    return (params, true)
  match ← attempt next.parseType with
  | .error _ => pure (params, false)
  | .ok param => next.parseParameterList (params ++ [param])

def parseTagType (tag : TagKind) : DemM Node := do
  let name ← next.parseFullyQualifiedName
  pure (.tagType tag name)

def parseEnumType : DemM Node := do
  if !(← atEnd) then advance
  next.parseTagType .tagEnum

def parseArrayType : DemM Node := do
  let dims ← next.parseDimensions []
  let elemType ← next.parseType
  pure (.arrayType elemType dims)

/-- parseArrayType's loop over the dimensions: a number, then `_` to go on. -/
def parseDimensions (dims : List U64) : DemM (List U64) := do
  if ← atEnd then return dims
  let dim ← parseNumber
  let dims := dims ++ [u64OfInt dim]
  if (← peek) ≠ '_' then return dims
  advance
  next.parseDimensions dims

end Step

/-- The descent with `fuel` levels of calls left; with none, every call runs out of fuel. -/
def descent : Nat → Descent
  | 0 => ⟨throw .outOfFuel, fun _ => throw .outOfFuel, throw .outOfFuel, throw .outOfFuel,
      throw .outOfFuel, throw .outOfFuel, fun _ => throw .outOfFuel, throw .outOfFuel,
      throw .outOfFuel, throw .outOfFuel, throw .outOfFuel, throw .outOfFuel, throw .outOfFuel,
      throw .outOfFuel, fun _ => throw .outOfFuel, fun _ => throw .outOfFuel, throw .outOfFuel,
      throw .outOfFuel, fun _ => throw .outOfFuel⟩
  | n + 1 =>
    let next := descent n
    ⟨Step.parseFullyQualifiedName next, Step.parseNameComponents next, Step.parseNameFragment next,
      Step.parseSpecialName next, Step.parseConversionOperator next,
      Step.parseTemplateInstantiation next, Step.parseTemplateArgs next, Step.parseTemplateArg next,
      Step.parseTemplateNonTypeArg next, Step.parseType next, Step.parseDollarType next,
      Step.parseFunctionPointerType next, Step.parseFunctionType next, Step.parseParameters next,
      Step.parseParameterList next, Step.parseTagType next, Step.parseEnumType next,
      Step.parseArrayType next, Step.parseDimensions next⟩

/-! The entry points of the descent, called once each; they pass the fuel on. -/

def parseRTTI (fuel : Nat) : DemM Node := do
  if ← atEnd then fail errUnexpectedEnd
  let c ← consume
  match rttiOp c with
  | none => do retreat; fail errUnknownOperator
  | some op => do
    let name ← (descent fuel).parseFullyQualifiedName
    pure (.qualifiedName (name ++ [.operator op]))

def parseExtendedSpecial (fuel : Nat) : DemM Node := do
  if ← atEnd then fail errUnexpectedEnd
  let c ← consume
  match c with
  | 'R' => parseRTTI fuel
  | _ =>
    match extendedSpecialOp c with
    | none => do retreat; fail errUnknownOperator
    | some op => do
      let name ← (descent fuel).parseFullyQualifiedName
      pure (.qualifiedName (name ++ [.operator op]))

def parseFunctionEncoding (fuel : Nat) (name : List Node) : DemM Node := do
  if ← atEnd then fail errUnexpectedEnd
  let c ← consume
  let (access, isStatic, isVirtual) := functionAccess c
  match ← attempt (descent fuel).parseFunctionType with
  | .error _ => pure (.functionSymbol name none access isStatic isVirtual)
  | .ok funcType => pure (.functionSymbol name (some funcType) access isStatic isVirtual)

def parseVariableEncoding (fuel : Nat) (name : List Node) : DemM Node := do
  if ← atEnd then fail errUnexpectedEnd
  let c ← consume
  let (access, isStatic) ← (match c with
    | '0' => pure (AccessSpecifier.accessPrivate, true)
    | '1' => pure (.accessProtected, true)
    | '2' => pure (.accessPublic, true)
    | '3' | '4' => pure (.accessNone, false)
    | _ => do retreat; pure (.accessNone, false))
  let varType ← attempt (descent fuel).parseType
  pure (.variableSymbol name varType.toOption access isStatic)

/-- parseEncoding: a function for a code `A`..`Y`, a variable for a digit, else the name. -/
def parseEncoding (fuel : Nat) (name : List Node) : DemM Node := do
  if ← atEnd then return .qualifiedName name
  let c ← peek
  if 'A' ≤ c ∧ c ≤ 'Y' then parseFunctionEncoding fuel name
  else if '0' ≤ c ∧ c ≤ '9' then parseVariableEncoding fuel name
  else pure (.qualifiedName name)

/-- parseCtorDtor: the last component of the name becomes the constructor's or destructor's
name. With no component, Go's `name.Components[len(name.Components)-1]` is out of range. -/
def parseCtorDtor (fuel : Nat) (op : OperatorKind) : DemM Node := do
  let name ← (descent fuel).parseFullyQualifiedName
  let className := match name.getLast? with
    | some c => c.toText
    | none => []
  let opNode := if op = .opDestructor then Node.identifier ('~' :: className) else .identifier className
  if name.length = 0 then goPanic "runtime error: index out of range [-1]"
  parseEncoding fuel (name.set (name.length - 1) opNode)

def parseSpecialIntrinsic (fuel : Nat) : DemM Node := do
  advance
  if ← atEnd then fail errUnexpectedEnd
  let c ← consume
  match c with
  | '0' => parseCtorDtor fuel .opConstructor
  | '1' => parseCtorDtor fuel .opDestructor
  | '_' => parseExtendedSpecial fuel
  | _ => do
    retreat
    (descent fuel).parseSpecialName

def parse (fuel : Nat) : DemM Node := do
  skipIf '?'
  if (← peek) = '?' then parseSpecialIntrinsic fuel
  else
    let name ← (descent fuel).parseFullyQualifiedName
    parseEncoding fuel name

/-- The fuel the entry points give the descent: enough for every input. -/
def fuelFor (input : Text) : Nat := 8 * (input.length + 1)

/-- What a call of an entry point does: return, or panic. `outOfFuel` is the model's. -/
inductive Outcome (α : Type) where
  | ret (a : α)
  | panic (msg : String)
  | outOfFuel

/-- `newDemangler(decorated).parse()` with the given fuel. -/
def runParse (fuel : Nat) (decorated : Text) : Outcome (Except GoError Node) :=
  match parse fuel (newDemangler decorated) with
  | .ok node _ => .ret (.ok node)
  | .error (.goError e) _ => .ret (.error e)
  | .error (.panic msg) _ => .panic msg
  | .error .outOfFuel _ => .outOfFuel

/-- Demangle: the readable name and the error; on an error, the input itself. -/
def demangle (decorated : Text) : Outcome (Text × Option GoError) :=
  match decorated with
  | [] => .ret ([], some errEmptyInput)
  | c :: rest =>
    if c ≠ '?' then (if c = '_' then .ret (rest, none) else .ret (decorated, none))
    else
      match runParse (fuelFor decorated) decorated with
      | .ret (.ok node) => .ret (node.toText, none)
      | .ret (.error e) => .ret (decorated, some e)
      | .panic msg => .panic msg
      | .outOfFuel => .outOfFuel

def demangleToNode (decorated : Text) : Outcome (Except GoError Node) :=
  match decorated with
  | [] => .ret (.error errEmptyInput)
  | c :: _ => if c ≠ '?' then .ret (.ok (.identifier decorated)) else runParse (fuelFor decorated) decorated

/-- parsePointerType reads the qualifier letter before the `E` of a 64-bit pointer, while a
mangled name writes the `E` first. In `void f(int *)` as `PAH`, the pointer parses as one; as
`PEAH`, the `E` is taken for no qualifier and then for the 64-bit marker, and the `A` that
follows for a reference: a 64-bit pointer to a reference to `int`. -/
theorem demangleToNode_reads_quals_before_ptr64 :
    demangleToNode "?f@@YAXPEAH@Z".toList = .ret (.ok (.functionSymbol [.identifier ['f']]
      (some (.mk .callingConvCdecl (some (.primitiveType .primVoid))
        [.pointerType (.pointerType (.primitiveType .primInt) .affinityReference {} false)
          .affinityPointer {} true] {} false .refQualifierNone)) .accessNone false false)) ∧
    demangleToNode "?f@@YAXPAH@Z".toList = .ret (.ok (.functionSymbol [.identifier ['f']]
      (some (.mk .callingConvCdecl (some (.primitiveType .primVoid))
        [.pointerType (.primitiveType .primInt) .affinityPointer {} false] {} false .refQualifierNone))
      .accessNone false false)) :=
  ⟨rfl, rfl⟩

def demangleSimple (decorated : Text) : Outcome Text :=
  match demangle decorated with
  | .ret (_, some _) => .ret decorated
  | .ret (result, none) => .ret result
  | .panic msg => .panic msg
  | .outOfFuel => .outOfFuel

end PdbGo.Demangle
