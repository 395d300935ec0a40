import PdbGo.Core.Bytes

/-! The syntax tree of package demangle and its String methods. A Go string is a list of
`Char`s, one per byte: the demangler reads and writes bytes, never runes. -/
namespace PdbGo.Demangle

/-- A Go string, one `Char` per byte. -/
abbrev Text := List Char

/-- A Go byte string as Text. -/
def textOfBytes (bs : Bytes) : Text := bs.map fun b => Char.ofNat b.toNat

/-- NodeKind, for the kinds the nodes below report. -/
inductive NodeKind where
  | nodeKindIdentifier | nodeKindOperator | nodeKindConversionOperator
  | nodeKindTemplateInstantiation | nodeKindPrimitiveType | nodeKindPointerType
  | nodeKindReferenceType | nodeKindRValueReferenceType | nodeKindArrayType
  | nodeKindFunctionType | nodeKindTagType | nodeKindFunctionSymbol | nodeKindVariableSymbol
  | nodeKindQualifiedName | nodeKindIntegerLiteral
  deriving DecidableEq, Repr

inductive OperatorKind where
  | opUnknown | opConstructor | opDestructor | opNew | opDelete | opAssign | opRightShift
  | opLeftShift | opLogicalNot | opEqual | opNotEqual | opSubscript | opConversion | opArrow
  | opDereference | opIncrement | opDecrement | opMinus | opPlus | opAddressOf | opArrowDeref
  | opDivide | opModulo | opLess | opLessEqual | opGreater | opGreaterEqual | opComma | opCall
  | opComplement | opXor | opBitwiseOr | opLogicalAnd | opLogicalOr | opMultiplyAssign
  | opPlusAssign | opMinusAssign | opDivideAssign | opModuloAssign | opRightShiftAssign
  | opLeftShiftAssign | opAndAssign | opOrAssign | opXorAssign | opNewArray | opDeleteArray
  | opVFTable | opVBTable | opVCall | opTypeof | opLocalStaticGuard | opStringLiteral
  | opVBaseDtor | opVectorDeletingDtor | opDefaultCtorClosure | opScalarDeletingDtor
  | opVectorCtorIterator | opVectorDtorIterator | opVectorVbaseCtorIterator
  | opVirtualDisplacementMap | opEHVectorCtorIterator | opEHVectorDtorIterator
  | opEHVectorVbaseCtorIterator | opCopyCtorClosure | opLocalVFTable | opLocalVFTableCtorClosure
  | opRTTITypeDescriptor | opRTTIBaseClassArray | opRTTIBaseClassDescriptor
  | opRTTIClassHierarchyDescriptor | opRTTICompleteObjectLocator | opSpaceship | opCoAwait
  deriving DecidableEq, Repr

/-- The operatorNames map; the kinds it has no entry for print as `operator?`. -/
def operatorNames : OperatorKind → Option String
  | .opNew => "operator new" | .opDelete => "operator delete" | .opAssign => "operator="
  | .opRightShift => "operator>>" | .opLeftShift => "operator<<" | .opLogicalNot => "operator!"
  | .opEqual => "operator==" | .opNotEqual => "operator!=" | .opSubscript => "operator[]"
  | .opArrow => "operator->" | .opDereference => "operator*" | .opIncrement => "operator++"
  | .opDecrement => "operator--" | .opMinus => "operator-" | .opPlus => "operator+"
  | .opAddressOf => "operator&" | .opArrowDeref => "operator->*" | .opDivide => "operator/"
  | .opModulo => "operator%" | .opLess => "operator<" | .opLessEqual => "operator<="
  | .opGreater => "operator>" | .opGreaterEqual => "operator>=" | .opComma => "operator,"
  | .opCall => "operator()" | .opComplement => "operator~" | .opXor => "operator^"
  | .opBitwiseOr => "operator|" | .opLogicalAnd => "operator&&" | .opLogicalOr => "operator||"
  | .opMultiplyAssign => "operator*=" | .opPlusAssign => "operator+="
  | .opMinusAssign => "operator-=" | .opDivideAssign => "operator/="
  | .opModuloAssign => "operator%=" | .opRightShiftAssign => "operator>>="
  | .opLeftShiftAssign => "operator<<=" | .opAndAssign => "operator&="
  | .opOrAssign => "operator|=" | .opXorAssign => "operator^=" | .opNewArray => "operator new[]"
  | .opDeleteArray => "operator delete[]" | .opSpaceship => "operator<=>"
  | .opCoAwait => "operator co_await" | .opVFTable => "\x60vftable\x27"
  | .opVBTable => "\x60vbtable\x27" | .opVCall => "\x60vcall\x27" | .opTypeof => "\x60typeof\x27"
  | .opLocalStaticGuard => "\x60local static guard\x27" | .opStringLiteral => "\x60string\x27"
  | .opVBaseDtor => "\x60vbase destructor\x27"
  | .opVectorDeletingDtor => "\x60vector deleting destructor\x27"
  | .opDefaultCtorClosure => "\x60default constructor closure\x27"
  | .opScalarDeletingDtor => "\x60scalar deleting destructor\x27"
  | .opVectorCtorIterator => "\x60vector constructor iterator\x27"
  | .opVectorDtorIterator => "\x60vector destructor iterator\x27"
  | .opVectorVbaseCtorIterator => "\x60vector vbase constructor iterator\x27"
  | .opVirtualDisplacementMap => "\x60virtual displacement map\x27"
  | .opEHVectorCtorIterator => "\x60eh vector constructor iterator\x27"
  | .opEHVectorDtorIterator => "\x60eh vector destructor iterator\x27"
  | .opEHVectorVbaseCtorIterator => "\x60eh vector vbase constructor iterator\x27"
  | .opCopyCtorClosure => "\x60copy constructor closure\x27"
  | .opLocalVFTable => "\x60local vftable\x27"
  | .opLocalVFTableCtorClosure => "\x60local vftable constructor closure\x27"
  | .opRTTITypeDescriptor => "\x60RTTI Type Descriptor\x27"
  | .opRTTIBaseClassArray => "\x60RTTI Base Class Array\x27"
  | .opRTTIBaseClassDescriptor => "\x60RTTI Base Class Descriptor\x27"
  | .opRTTIClassHierarchyDescriptor => "\x60RTTI Class Hierarchy Descriptor\x27"
  | .opRTTICompleteObjectLocator => "\x60RTTI Complete Object Locator\x27"
  | _ => none

inductive PrimitiveKind where
  | primVoid | primBool | primChar | primSignedChar | primUnsignedChar | primShort
  | primUnsignedShort | primInt | primUnsignedInt | primLong | primUnsignedLong | primInt64
  | primUnsignedInt64 | primInt128 | primUnsignedInt128 | primFloat | primDouble | primLongDouble
  | primWChar | primChar8 | primChar16 | primChar32 | primNullptr | primAuto | primDecltypeAuto
  deriving DecidableEq, Repr

/-- The primitiveNames map, which names every kind. -/
def primitiveNames : PrimitiveKind → String
  | .primVoid => "void" | .primBool => "bool" | .primChar => "char"
  | .primSignedChar => "signed char" | .primUnsignedChar => "unsigned char"
  | .primShort => "short" | .primUnsignedShort => "unsigned short" | .primInt => "int"
  | .primUnsignedInt => "unsigned int" | .primLong => "long" | .primUnsignedLong => "unsigned long"
  | .primInt64 => "__int64" | .primUnsignedInt64 => "unsigned __int64" | .primInt128 => "__int128"
  | .primUnsignedInt128 => "unsigned __int128" | .primFloat => "float" | .primDouble => "double"
  | .primLongDouble => "long double" | .primWChar => "wchar_t" | .primChar8 => "char8_t"
  | .primChar16 => "char16_t" | .primChar32 => "char32_t" | .primNullptr => "std::nullptr_t"
  | .primAuto => "auto" | .primDecltypeAuto => "decltype(auto)"

structure Qualifiers where
  isConst : Bool := false
  isVolatile : Bool := false
  isRestrict : Bool := false
  isUnaligned : Bool := false
  deriving DecidableEq, Repr

/-- Qualifiers.String: the set qualifiers, space-separated. -/
def Qualifiers.toText (q : Qualifiers) : Text :=
  " ".toList.intercalate
    ((if q.isConst then ["const".toList] else []) ++ (if q.isVolatile then ["volatile".toList] else []) ++
      (if q.isRestrict then ["__restrict".toList] else []) ++
      (if q.isUnaligned then ["__unaligned".toList] else []))

def Qualifiers.isEmpty (q : Qualifiers) : Bool :=
  !q.isConst && !q.isVolatile && !q.isRestrict && !q.isUnaligned

inductive PointerAffinity where
  | affinityPointer | affinityReference | affinityRValueReference
  deriving DecidableEq, Repr

inductive CallingConvention where
  | callingConvCdecl | callingConvPascal | callingConvThiscall | callingConvStdcall
  | callingConvFastcall | callingConvVectorcall | callingConvClrcall | callingConvEabi
  | callingConvSwift | callingConvSwiftAsync
  deriving DecidableEq, Repr

def callingConvNames : CallingConvention → String
  | .callingConvCdecl => "__cdecl" | .callingConvPascal => "__pascal"
  | .callingConvThiscall => "__thiscall" | .callingConvStdcall => "__stdcall"
  | .callingConvFastcall => "__fastcall" | .callingConvVectorcall => "__vectorcall"
  | .callingConvClrcall => "__clrcall" | .callingConvEabi => "__eabi"
  | .callingConvSwift => "__swiftcall" | .callingConvSwiftAsync => "__swiftasynccall"

inductive RefQualifier where
  | refQualifierNone | refQualifierLValue | refQualifierRValue
  deriving DecidableEq, Repr

inductive TagKind where
  | tagUnion | tagStruct | tagClass | tagEnum
  deriving DecidableEq, Repr

def tagNames : TagKind → String
  | .tagUnion => "union" | .tagStruct => "struct" | .tagClass => "class" | .tagEnum => "enum"

inductive AccessSpecifier where
  | accessNone | accessPrivate | accessProtected | accessPublic
  deriving DecidableEq, Repr

/-- The accessNames map; AccessNone has no entry and prints as the empty string. -/
def accessNames : AccessSpecifier → String
  | .accessNone => "" | .accessPrivate => "private" | .accessProtected => "protected"
  | .accessPublic => "public"

mutual
/-- The nodes the parser builds. A `*QualifiedName` field is the list of its components; a
field Go leaves nil when absent is an `Option`. -/
inductive Node where
  | qualifiedName (components : List Node)
  | identifier (name : Text)
  | operator (op : OperatorKind)
  | conversionOperator (targetType : Node)
  | templateInstantiation (name : Node) (arguments : List Node)
  | primitiveType (type : PrimitiveKind)
  | pointerType (pointee : Node) (affinity : PointerAffinity) (quals : Qualifiers) (is64Bit : Bool)
  | arrayType (elementType : Node) (dimensions : List U64)
  | functionType (ft : FunctionType)
  | tagType (tag : TagKind) (name : List Node)
  | functionSymbol (name : List Node) (signature : Option FunctionType) (accessSpec : AccessSpecifier)
      (isStatic isVirtual : Bool)
  | variableSymbol (name : List Node) (type : Option Node) (accessSpec : AccessSpecifier)
      (isStatic : Bool)
  | integerLiteral (value : Int) (negative : Bool)

inductive FunctionType where
  | mk (callingConv : CallingConvention) (returnType : Option Node) (parameters : List Node)
      (quals : Qualifiers) (isVariadic : Bool) (refQualifier : RefQualifier)
end

def Node.kind : Node → NodeKind
  | .qualifiedName _ => .nodeKindQualifiedName
  | .identifier _ => .nodeKindIdentifier
  | .operator _ => .nodeKindOperator
  | .conversionOperator _ => .nodeKindConversionOperator
  | .templateInstantiation .. => .nodeKindTemplateInstantiation
  | .primitiveType _ => .nodeKindPrimitiveType
  | .pointerType _ .affinityReference .. => .nodeKindReferenceType
  | .pointerType _ .affinityRValueReference .. => .nodeKindRValueReferenceType
  | .pointerType _ .affinityPointer .. => .nodeKindPointerType
  | .arrayType .. => .nodeKindArrayType
  | .functionType _ => .nodeKindFunctionType
  | .tagType .. => .nodeKindTagType
  | .functionSymbol .. => .nodeKindFunctionSymbol
  | .variableSymbol .. => .nodeKindVariableSymbol
  | .integerLiteral .. => .nodeKindIntegerLiteral

/-- `fmt.Sprintf("%d", v)`. -/
def decimal (v : Int) : Text := (toString v).toList

/-- `strings.Join(parts, sep)`. -/
def join (parts : List Text) (sep : String) : Text := sep.toList.intercalate parts

/-- A qualifier list as the String methods append it: a space, then the qualifiers, when any
is set. -/
def qualsSuffix (quals : Qualifiers) : Text := if !quals.isEmpty then [' '] ++ quals.toText else []

/-- A calling convention as the String methods write it, with `__cdecl` left unwritten. -/
def callingConvPrefix (callingConv : CallingConvention) : Text :=
  if callingConv ≠ .callingConvCdecl then (callingConvNames callingConv).toList ++ [' '] else []

/-- The parenthesised parameter list, with `...` for a variadic function. -/
def parameterList (parameters : List Text) (isVariadic : Bool) : Text :=
  ['('] ++ join parameters ", " ++
    (if isVariadic then (if parameters.length > 0 then ", ".toList else []) ++ "...".toList else []) ++
    [')']

/-- An access specifier as the symbols' String methods write it. -/
def accessPrefix (accessSpec : AccessSpecifier) : Text :=
  if accessSpec ≠ .accessNone then (accessNames accessSpec).toList ++ ": ".toList else []

mutual
/-- The String methods of the nodes. -/
def Node.toText : Node → Text
  | .qualifiedName components => join (Node.listText components) "::"
  | .identifier name => name
  | .operator op => ((operatorNames op).getD "operator?").toList
  | .conversionOperator targetType => "operator ".toList ++ targetType.toText
  | .templateInstantiation name arguments =>
    name.toText ++ ['<'] ++ join (Node.listText arguments) ", " ++ ['>']
  | .primitiveType type => (primitiveNames type).toList
  | .pointerType pointee affinity quals _ =>
    let suffix := match affinity with
      | .affinityPointer => " *".toList
      | .affinityReference => " &".toList
      | .affinityRValueReference => " &&".toList
    pointee.toText ++ suffix ++ qualsSuffix quals
  | .arrayType elementType dimensions =>
    elementType.toText ++ (dimensions.map fun dim => ['['] ++ decimal dim.val ++ [']']).flatten
  | .functionType ft => ft.toText
  | .tagType tag name => (tagNames tag).toList ++ [' '] ++ join (Node.listText name) "::"
  | .functionSymbol name signature accessSpec isStatic isVirtual =>
    let parts := FunctionType.symbolParts signature
    accessPrefix accessSpec ++ (if isStatic then "static ".toList else []) ++
      (if isVirtual then "virtual ".toList else []) ++ parts.1 ++
      join (Node.listText name) "::" ++ parts.2
  | .variableSymbol name type accessSpec isStatic =>
    accessPrefix accessSpec ++ (if isStatic then "static ".toList else []) ++ Node.spaced type ++
      join (Node.listText name) "::"
  | .integerLiteral value _ => decimal value

def Node.listText : List Node → List Text
  | [] => []
  | n :: ns => n.toText :: Node.listText ns

/-- A node that may be nil, followed by a space when present. -/
def Node.spaced : Option Node → Text
  | none => []
  | some n => n.toText ++ [' ']

def FunctionType.toText : FunctionType → Text
  | .mk callingConv returnType parameters quals isVariadic refQualifier =>
    Node.spaced returnType ++ callingConvPrefix callingConv ++
      parameterList (Node.listText parameters) isVariadic ++ qualsSuffix quals ++
      (match refQualifier with
        | .refQualifierLValue => " &".toList
        | .refQualifierRValue => " &&".toList
        | .refQualifierNone => [])

/-- What FunctionSymbol.String writes of its signature before the name and after it; nothing
when the signature is nil. -/
def FunctionType.symbolParts : Option FunctionType → Text × Text
  | none => ([], [])
  | some (.mk callingConv returnType parameters quals isVariadic _) =>
    (Node.spaced returnType ++ callingConvPrefix callingConv,
      parameterList (Node.listText parameters) isVariadic ++ qualsSuffix quals)
end

end PdbGo.Demangle
