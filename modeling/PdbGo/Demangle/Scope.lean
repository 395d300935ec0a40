import PdbGo.Demangle.Parse

/-! Template back-reference scopes: a template instantiation returns with its caller's tables as
they were, and what it parses depends only on names memorised inside it. -/
namespace PdbGo.Demangle

/-- `d` as a caller sees it that had pushed the scopes `saved` and the depth `depth` first. -/
def Demangler.under (d : Demangler) (saved : List (List Text)) (depth : Int) : Demangler :=
  { d with savedNameBackrefs := saved ++ d.savedNameBackrefs, templateDepth := depth + d.templateDepth }

/-- A result with its state seen under `saved` and `depth`. -/
def underResult {α : Type} (saved : List (List Text)) (depth : Int) :
    EStateM.Result Fault Demangler α → EStateM.Result Fault Demangler α
  | .ok a d => .ok a (d.under saved depth)
  | .error f d => .error f (d.under saved depth)

/-- The saved scopes and the template depth of `d'` are those of `d`. -/
def SameScope (d d' : Demangler) : Prop :=
  d'.savedNameBackrefs = d.savedNameBackrefs ∧ d'.templateDepth = d.templateDepth

/-- `P` holds of the state a result returns with, a value or a Go error; a panic or running out
of fuel returns nothing. -/
def Returns {α : Type} (r : EStateM.Result Fault Demangler α) (P : Demangler → Prop) : Prop :=
  match r with
  | .ok _ d' => P d'
  | .error (.goError _) d' => P d'
  | .error _ _ => True

/-- A parse function that keeps to its own template scopes: under any saved scopes and depth it
runs as without them, keeping them underneath, and when it returns, the saved scopes and the
depth are as they were. -/
structure Scoped {α : Type} (x : DemM α) : Prop where
  under : ∀ d saved depth, x (d.under saved depth) = underResult saved depth (x d)
  keeps : ∀ d, Returns (x d) (SameScope d)

section Rules
variable {α β : Type} (d : Demangler) (saved : List (List Text)) (depth : Int)

@[simp] private theorem Demangler.under_input : (d.under saved depth).input = d.input := rfl
@[simp] private theorem Demangler.under_pos : (d.under saved depth).pos = d.pos := rfl
@[simp] private theorem Demangler.under_nameBackrefs : (d.under saved depth).nameBackrefs = d.nameBackrefs := rfl
@[simp] private theorem Demangler.under_typeBackrefs : (d.under saved depth).typeBackrefs = d.typeBackrefs := rfl

theorem SameScope.refl : SameScope d d := ⟨rfl, rfl⟩

theorem Returns.imp {r : EStateM.Result Fault Demangler α} {P Q : Demangler → Prop}
    (h : Returns r P) (hpq : ∀ d', P d' → Q d') : Returns r Q := by
  revert h
  unfold Returns
  rcases r with ⟨a, d1⟩ | ⟨_ | _ | _, d1⟩
  exacts [hpq d1, hpq d1, id, id]

theorem SameScope.trans {d d' d'' : Demangler} (h1 : SameScope d d') (h2 : SameScope d' d'') :
    SameScope d d'' :=
  ⟨h2.1.trans h1.1, h2.2.trans h1.2⟩

private theorem dem_bind_apply (x : DemM α) (f : α → DemM β) :
    (x >>= f) d = match x d with
      | .ok a d' => f a d'
      | .error e d' => .error e d' := by
  show EStateM.bind x f d = _
  unfold EStateM.bind
  cases x d <;> rfl

@[simp] private theorem dem_get_apply : (get : DemM Demangler) d = .ok d d := rfl
@[simp] private theorem dem_set_apply (d' : Demangler) : (set d' : DemM PUnit) d = .ok ⟨⟩ d' := rfl
@[simp] private theorem dem_pure_apply (a : α) : (pure a : DemM α) d = .ok a d := rfl
@[simp] private theorem dem_modify_apply (f : Demangler → Demangler) :
    (modify f : DemM PUnit) d = .ok ⟨⟩ (f d) := rfl

theorem Scoped.bind {x : DemM α} {f : α → DemM β} (hx : Scoped x) (hf : ∀ a, Scoped (f a)) :
    Scoped (x >>= f) := by
  refine ⟨fun d s k => ?_, fun d => ?_⟩
  · rw [dem_bind_apply, dem_bind_apply, hx.under]
    cases x d with
    | ok a d1 => exact (hf a).under d1 s k
    | error e d1 => rfl
  · have hk := hx.keeps d
    rw [dem_bind_apply]
    cases hxd : x d with
    | ok a d1 =>
      rw [hxd] at hk
      exact ((hf a).keeps d1).imp fun _ h => hk.trans h
    | error e d1 => rw [hxd] at hk; cases e <;> exact hk

theorem Scoped.pure (a : α) : Scoped (pure a : DemM α) := ⟨fun _ _ _ => rfl, SameScope.refl⟩

theorem Scoped.throw (f : Fault) : Scoped (throw f : DemM α) :=
  ⟨fun _ _ _ => rfl, fun d => by cases f <;> first | exact SameScope.refl d | trivial⟩

theorem Scoped.fail (e : GoError) : Scoped (fail e : DemM α) := .throw _

theorem Scoped.goPanic (msg : String) : Scoped (goPanic msg : DemM α) := .throw _

private theorem Scoped.fail_bind (e : GoError) (f : α → DemM β) : Scoped (Demangle.fail e >>= f) :=
  ⟨fun _ _ _ => rfl, SameScope.refl⟩

theorem Scoped.ite {c : Prop} [Decidable c] {x y : DemM α} (hx : Scoped x) (hy : Scoped y) :
    Scoped (if c then x else y) := by
  split <;> assumption

theorem Scoped.attempt {x : DemM α} (hx : Scoped x) : Scoped (attempt x) := by
  refine ⟨fun d s k => ?_, fun d => ?_⟩
  · unfold Demangle.attempt
    rw [hx.under]
    rcases x d with ⟨a, d1⟩ | ⟨_ | _ | _, d1⟩ <;> rfl
  · have hk := hx.keeps d
    unfold Demangle.attempt
    revert hk
    rcases x d with ⟨a, d1⟩ | ⟨_ | _ | _, d1⟩ <;> exact id

private theorem Scoped.get_bind {f : Demangler → DemM α} (hf : ∀ d, Scoped (f d))
    (hind : ∀ d saved depth, f (d.under saved depth) = f d) : Scoped (get >>= f) :=
  ⟨fun d s k => by
    show f (d.under s k) (d.under s k) = underResult s k (f d d)
    rw [hind, (hf d).under],
   fun d => (hf d).keeps d⟩

private theorem atEnd_scoped : Scoped atEnd := ⟨fun _ _ _ => rfl, SameScope.refl⟩

private theorem peek_scoped : Scoped peek := ⟨fun _ _ _ => rfl, SameScope.refl⟩

private theorem advance_scoped : Scoped advance := ⟨fun _ _ _ => rfl, SameScope.refl⟩

private theorem retreat_scoped : Scoped retreat := ⟨fun _ _ _ => rfl, SameScope.refl⟩

private theorem consume_scoped : Scoped consume := by
  refine ⟨fun d s k => ?_, fun d => ?_⟩ <;> unfold consume
  · simp only [Demangler.under_pos, Demangler.under_input]
    split_ifs <;> rfl
  · split_ifs <;> exact SameScope.refl d

private theorem skipIf_scoped (c : Char) : Scoped (skipIf c) := by
  refine ⟨fun d s k => ?_, fun d => ?_⟩ <;> unfold skipIf
  · simp only [Demangler.under_pos, Demangler.under_input]
    split_ifs <;> rfl
  · split_ifs <;> exact SameScope.refl d

private theorem memorizeString_scoped (name : Text) : Scoped (memorizeString name) := by
  refine ⟨fun d s k => ?_, fun d => ?_⟩ <;> unfold memorizeString Demangler.containsBackref
  · simp only [Demangler.under_nameBackrefs]
    split_ifs <;> rfl
  · split_ifs <;> exact SameScope.refl d

private theorem memorizeType_scoped (t : Node) : Scoped (memorizeType t) := by
  refine ⟨fun d s k => ?_, fun d => ?_⟩ <;> unfold memorizeType
  · simp only [Demangler.under_typeBackrefs]
    split_ifs <;> rfl
  · split_ifs <;> exact SameScope.refl d

end Rules

/-! The functions that do not call back into the descent. -/

private theorem parseExtendedOperator_scoped : Scoped parseExtendedOperator := by
  unfold parseExtendedOperator
  with_reducible repeat' first
    | exact atEnd_scoped | exact consume_scoped | exact retreat_scoped
    | apply Scoped.fail_bind | apply Scoped.bind | apply Scoped.ite | apply Scoped.pure
    | apply Scoped.fail | intro _ | split

private theorem parseExtendedType_scoped : Scoped parseExtendedType := by
  unfold parseExtendedType
  with_reducible repeat' first
    | exact atEnd_scoped | exact consume_scoped | exact retreat_scoped
    | apply Scoped.fail_bind | apply Scoped.bind | apply Scoped.ite | apply Scoped.pure
    | apply Scoped.fail | intro _ | split

private theorem parseQualifiers_scoped : Scoped parseQualifiers := by
  unfold parseQualifiers
  with_reducible repeat' first
    | exact atEnd_scoped | exact peek_scoped | exact advance_scoped
    | apply Scoped.bind | apply Scoped.ite | apply Scoped.pure | intro _ | split

private theorem parseCallingConvention_scoped : Scoped parseCallingConvention := by
  unfold parseCallingConvention
  with_reducible repeat' first
    | exact atEnd_scoped | exact consume_scoped | exact retreat_scoped
    | apply Scoped.bind | apply Scoped.ite | apply Scoped.pure | intro _ | split

private theorem parseSimpleName_scoped : Scoped parseSimpleName := by
  have hm (name : Text) : Scoped (memorizeString name >>= fun _ => pure (Node.identifier name)) :=
    (memorizeString_scoped name).bind fun _ => .pure _
  refine ⟨fun d s k => ?_, fun d => ?_⟩ <;>
    simp only [parseSimpleName, dem_bind_apply, dem_get_apply, dem_set_apply, dem_pure_apply,
      Demangler.under_input, Demangler.under_pos]
  all_goals generalize List.takeWhile _ (d.input.drop d.pos) = name
  · split_ifs
    · rfl
    · exact (hm name).under { d with pos := d.pos + name.length } s k
  · split_ifs
    · exact SameScope.refl d
    · exact (hm name).keeps { d with pos := d.pos + name.length }

private theorem Scoped.get_setPos {p : Demangler → Nat} {v : Demangler → α}
    (hp : ∀ d saved depth, p (d.under saved depth) = p d)
    (hv : ∀ d saved depth, v (d.under saved depth) = v d) :
    Scoped (get >>= fun d => set { d with pos := p d } >>= fun _ => Pure.pure (v d)) :=
  ⟨fun d s k => by simp only [dem_bind_apply, dem_get_apply, dem_set_apply, dem_pure_apply, hp, hv]; rfl,
   SameScope.refl⟩

private theorem parseNumber_scoped : Scoped parseNumber := by
  unfold parseNumber
  with_reducible repeat' first
    | exact peek_scoped | exact advance_scoped
    | refine Scoped.get_setPos (fun _ _ _ => by dsimp only [Demangler.under])
        fun _ _ _ => by dsimp only [Demangler.under]
    | apply Scoped.bind | apply Scoped.ite | apply Scoped.pure | intro _

private theorem parsePointerType_scoped {p : DemM Node} (hp : Scoped p) (aff : PointerAffinity) :
    Scoped (parsePointerType p aff) := by
  unfold parsePointerType
  with_reducible repeat' first
    | exact parseQualifiers_scoped | exact peek_scoped | exact advance_scoped | exact hp
    | apply Scoped.bind | apply Scoped.ite | apply Scoped.pure | intro _

private theorem parseForcedPointer_scoped {p : DemM Node} (hp : Scoped p) (aff : PointerAffinity) (c v : Bool) :
    Scoped (parseForcedPointer p aff c v) :=
  parseQualifiers_scoped.bind fun _ => hp.bind fun _ => .pure _

/-- Every function of the descent `D` keeps to its own template scopes. -/
structure Descent.Scoped (D : Descent) : Prop where
  parseFullyQualifiedName : Demangle.Scoped D.parseFullyQualifiedName
  parseNameComponents : ∀ cs, Demangle.Scoped (D.parseNameComponents cs)
  parseNameFragment : Demangle.Scoped D.parseNameFragment
  parseSpecialName : Demangle.Scoped D.parseSpecialName
  parseConversionOperator : Demangle.Scoped D.parseConversionOperator
  parseTemplateInstantiation : Demangle.Scoped D.parseTemplateInstantiation
  parseTemplateArgs : ∀ args, Demangle.Scoped (D.parseTemplateArgs args)
  parseTemplateArg : Demangle.Scoped D.parseTemplateArg
  parseTemplateNonTypeArg : Demangle.Scoped D.parseTemplateNonTypeArg
  parseType : Demangle.Scoped D.parseType
  parseDollarType : Demangle.Scoped D.parseDollarType
  parseFunctionPointerType : Demangle.Scoped D.parseFunctionPointerType
  parseFunctionType : Demangle.Scoped D.parseFunctionType
  parseParameters : Demangle.Scoped D.parseParameters
  parseParameterList : ∀ params, Demangle.Scoped (D.parseParameterList params)
  parseTagType : ∀ tag, Demangle.Scoped (D.parseTagType tag)
  parseEnumType : Demangle.Scoped D.parseEnumType
  parseArrayType : Demangle.Scoped D.parseArrayType
  parseDimensions : ∀ dims, Demangle.Scoped (D.parseDimensions dims)

/-! The scope a template instantiation opens. -/

/-- Where a template instantiation's body starts, seen without the scopes under it: past the
`?$`, with an empty name table. -/
def Demangler.enter (d : Demangler) : Demangler :=
  { d with pos := d.pos + 2, nameBackrefs := [], savedNameBackrefs := [], templateDepth := 0 }

/-- `e` back in the scope of `d`: with its name table, saved scopes and depth. -/
def Demangler.restore (e d : Demangler) : Demangler :=
  { e with nameBackrefs := d.nameBackrefs, savedNameBackrefs := d.savedNameBackrefs,
           templateDepth := d.templateDepth }

/-- How a template instantiation started from `d` ends, given how its body ended: a value or a
Go error comes back in `d`'s scope; a panic or running out of fuel leaves the body's state with
the scope pushed on entry still on it. -/
def leaveTemplate (d : Demangler) :
    EStateM.Result Fault Demangler Node → EStateM.Result Fault Demangler Node
  | .ok node e => .ok node (e.restore d)
  | .error (.goError err) e => .error (.goError err) (e.restore d)
  | .error (.panic msg) e =>
    .error (.panic msg) (e.under (d.savedNameBackrefs ++ [d.nameBackrefs]) (d.templateDepth + 1))
  | .error .outOfFuel e =>
    .error .outOfFuel (e.under (d.savedNameBackrefs ++ [d.nameBackrefs]) (d.templateDepth + 1))

section Template
variable (d : Demangler)

private theorem pushBackrefScope_enter :
    pushBackrefScope { d with pos := d.pos + 2 } =
      .ok () (d.enter.under (d.savedNameBackrefs ++ [d.nameBackrefs]) (d.templateDepth + 1)) := by
  simp only [pushBackrefScope, Demangler.enter, Demangler.under, List.append_nil, Int.add_zero]

private theorem popBackrefScope_leave {e : Demangler} (he : SameScope d.enter e) :
    popBackrefScope (e.under (d.savedNameBackrefs ++ [d.nameBackrefs]) (d.templateDepth + 1)) =
      .ok () (e.restore d) := by
  obtain ⟨hs, hd⟩ := he
  simp only [Demangler.enter] at hs hd
  simp only [popBackrefScope, Demangler.under, Demangler.restore, hs, hd, List.append_nil,
    List.getLast?_concat, List.dropLast_concat, Int.add_zero, Int.add_sub_cancel]

@[simp] private theorem Demangler.enter_under (saved : List (List Text)) (depth : Int) :
    (d.under saved depth).enter = d.enter := rfl

private theorem leaveTemplate_restores (r : EStateM.Result Fault Demangler Node) :
    Returns (leaveTemplate d r) fun d' => d'.nameBackrefs = d.nameBackrefs ∧ SameScope d d' := by
  rcases r with ⟨_, e⟩ | ⟨_ | _ | _, e⟩ <;> first | exact ⟨rfl, rfl, rfl⟩ | trivial

private theorem leaveTemplate_under (saved : List (List Text)) (depth : Int)
    (r : EStateM.Result Fault Demangler Node) :
    leaveTemplate (d.under saved depth) r = underResult saved depth (leaveTemplate d r) := by
  rcases r with ⟨_, e⟩ | ⟨_ | _ | _, e⟩ <;>
    simp only [leaveTemplate, underResult, Demangler.restore, Demangler.under, List.append_assoc,
      Int.add_assoc]

private theorem templateScope_run {x : DemM Node} (hx : Scoped x) :
    (do
      modify fun d => { d with pos := d.pos + 2 }
      pushBackrefScope
      let r ← attempt x
      popBackrefScope
      match r with
      | .ok node => pure node
      | .error e => fail e : DemM Node) d = leaveTemplate d (x d.enter) := by
  unfold attempt
  simp only [dem_bind_apply, dem_modify_apply, pushBackrefScope_enter, hx.under]
  have hk := hx.keeps d.enter
  revert hk
  generalize x d.enter = r
  rcases r with ⟨_, e⟩ | ⟨_ | _ | _, e⟩ <;> intro hk
  · simp only [underResult, popBackrefScope_leave d hk, leaveTemplate, dem_pure_apply]
  · simp only [underResult, popBackrefScope_leave d hk, leaveTemplate]; rfl
  all_goals rfl

end Template

namespace Step
variable {next : Descent}

private theorem parseNameComponents_scoped (h : next.Scoped) (cs : List Node) :
    Scoped (parseNameComponents next cs) := by
  unfold parseNameComponents
  with_reducible repeat' first
    | exact atEnd_scoped | exact peek_scoped | exact advance_scoped
    | exact h.parseNameComponents _ | exact h.parseNameFragment
    | apply Scoped.bind | apply Scoped.ite | apply Scoped.pure | intro _

private theorem parseNameFragment_scoped (h : next.Scoped) : Scoped (parseNameFragment next) := by
  unfold parseNameFragment
  with_reducible repeat' first
    | exact atEnd_scoped | exact peek_scoped | exact advance_scoped | exact parseSimpleName_scoped
    | exact h.parseTemplateInstantiation | exact h.parseSpecialName
    | refine Scoped.get_bind (fun _ => ?_) fun _ _ _ => by dsimp only [Demangler.under]
    | apply Scoped.fail_bind | apply Scoped.bind | apply Scoped.ite | apply Scoped.pure
    | apply Scoped.fail | intro _ | split

private theorem parseFullyQualifiedName_scoped (h : next.Scoped) : Scoped (parseFullyQualifiedName next) :=
  (h.parseNameComponents []).bind fun _ => .pure _

private theorem parseSpecialName_scoped (h : next.Scoped) : Scoped (parseSpecialName next) := by
  unfold parseSpecialName
  with_reducible repeat' first
    | exact atEnd_scoped | exact consume_scoped | exact retreat_scoped
    | exact parseExtendedOperator_scoped | exact h.parseConversionOperator
    | apply Scoped.fail_bind | apply Scoped.bind | apply Scoped.ite | apply Scoped.pure
    | apply Scoped.fail | intro _ | split

private theorem parseConversionOperator_scoped (h : next.Scoped) : Scoped (parseConversionOperator next) :=
  h.parseType.bind fun _ => .pure _

private theorem parseTemplateArgs_scoped (h : next.Scoped) (args : List Node) :
    Scoped (parseTemplateArgs next args) := by
  unfold parseTemplateArgs
  with_reducible repeat' first
    | exact atEnd_scoped | exact peek_scoped | exact h.parseTemplateArgs _
    | exact h.parseTemplateArg.attempt
    | apply Scoped.bind | apply Scoped.ite | apply Scoped.pure | intro _ | split

private theorem parseTemplateArg_scoped (h : next.Scoped) : Scoped (parseTemplateArg next) := by
  unfold parseTemplateArg
  with_reducible repeat' first
    | exact peek_scoped | exact advance_scoped | exact h.parseTemplateNonTypeArg | exact h.parseType
    | apply Scoped.bind | apply Scoped.ite | intro _

private theorem parseTemplateNonTypeArg_scoped (h : next.Scoped) : Scoped (parseTemplateNonTypeArg next) := by
  unfold parseTemplateNonTypeArg
  with_reducible repeat' first
    | exact atEnd_scoped | exact consume_scoped | exact retreat_scoped | exact parseNumber_scoped
    | exact h.parseType
    | apply Scoped.fail_bind | apply Scoped.bind | apply Scoped.ite | apply Scoped.pure
    | intro _ | split

private theorem parseType_scoped (h : next.Scoped) : Scoped (parseType next) := by
  unfold parseType parseConstPointerType parseVolatilePointerType parseConstVolatilePointerType
    parseVolatileReferenceType
  with_reducible repeat' first
    | exact atEnd_scoped | exact peek_scoped | exact advance_scoped | exact memorizeType_scoped _
    | exact parseExtendedType_scoped | exact parsePointerType_scoped h.parseType _
    | exact parseForcedPointer_scoped h.parseType _ _ _ | exact h.parseDollarType
    | exact h.parseTagType _ | exact h.parseEnumType | exact h.parseArrayType
    | refine Scoped.get_bind (fun _ => ?_) fun _ _ _ => by dsimp only [Demangler.under]
    | apply Scoped.fail_bind | apply Scoped.bind | apply Scoped.ite | apply Scoped.pure
    | apply Scoped.fail | intro _ | split

private theorem parseDollarType_scoped (h : next.Scoped) : Scoped (parseDollarType next) := by
  unfold parseDollarType
  with_reducible repeat' first
    | exact atEnd_scoped | exact consume_scoped | exact retreat_scoped
    | exact parsePointerType_scoped h.parseType _ | exact parseForcedPointer_scoped h.parseType _ _ _
    | exact h.parseFunctionPointerType | exact h.parseType
    | apply Scoped.fail_bind | apply Scoped.bind | apply Scoped.ite | apply Scoped.pure
    | apply Scoped.fail | intro _ | split

private theorem parseFunctionPointerType_scoped (h : next.Scoped) : Scoped (parseFunctionPointerType next) :=
  h.parseFunctionType.bind fun _ => .pure _

private theorem parseFunctionType_scoped (h : next.Scoped) : Scoped (parseFunctionType next) := by
  unfold parseFunctionType
  with_reducible repeat' first
    | exact parseCallingConvention_scoped | exact peek_scoped | exact advance_scoped
    | exact h.parseType.attempt | exact h.parseParameters
    | apply Scoped.bind | apply Scoped.ite | apply Scoped.pure | intro _ | split

private theorem parseParameters_scoped (h : next.Scoped) : Scoped (parseParameters next) := by
  unfold parseParameters
  with_reducible repeat' first
    | exact peek_scoped | exact advance_scoped | exact h.parseParameterList _
    | apply Scoped.bind | apply Scoped.ite | apply Scoped.pure | intro _

private theorem parseParameterList_scoped (h : next.Scoped) (params : List Node) :
    Scoped (parseParameterList next params) := by
  unfold parseParameterList
  with_reducible repeat' first
    | exact atEnd_scoped | exact peek_scoped | exact advance_scoped | exact h.parseType.attempt
    | exact h.parseParameterList _
    | apply Scoped.bind | apply Scoped.ite | apply Scoped.pure | intro _ | split

private theorem parseTagType_scoped (h : next.Scoped) (tag : TagKind) : Scoped (parseTagType next tag) :=
  h.parseFullyQualifiedName.bind fun _ => .pure _

private theorem parseEnumType_scoped (h : next.Scoped) : Scoped (parseEnumType next) := by
  unfold parseEnumType
  with_reducible repeat' first
    | exact atEnd_scoped | exact advance_scoped | exact h.parseTagType _
    | apply Scoped.bind | apply Scoped.ite | apply Scoped.pure | intro _

private theorem parseArrayType_scoped (h : next.Scoped) : Scoped (parseArrayType next) :=
  (h.parseDimensions []).bind fun _ => h.parseType.bind fun _ => .pure _

private theorem parseDimensions_scoped (h : next.Scoped) (dims : List U64) :
    Scoped (parseDimensions next dims) := by
  unfold parseDimensions
  with_reducible repeat' first
    | exact atEnd_scoped | exact peek_scoped | exact advance_scoped | exact parseNumber_scoped
    | exact h.parseDimensions _
    | apply Scoped.bind | apply Scoped.ite | apply Scoped.pure | intro _

private theorem parseTemplateInstantiation_run (h : next.Scoped) (d : Demangler) :
    parseTemplateInstantiation next d = leaveTemplate d ((do
      let nameNode ← parseSimpleName
      skipIf '@'
      let args ← next.parseTemplateArgs []
      skipIf '@'
      pure (Node.templateInstantiation nameNode args)) d.enter) := by
  refine templateScope_run d ?_
  with_reducible repeat' first
    | exact parseSimpleName_scoped | exact skipIf_scoped _ | exact h.parseTemplateArgs _
    | apply Scoped.bind | apply Scoped.pure | intro _

private theorem parseTemplateInstantiation_scoped (h : next.Scoped) : Scoped (parseTemplateInstantiation next) :=
  ⟨fun d s k => by
    rw [parseTemplateInstantiation_run h, parseTemplateInstantiation_run h, Demangler.enter_under,
      leaveTemplate_under],
   fun d => by
    rw [parseTemplateInstantiation_run h]
    exact (leaveTemplate_restores d _).imp fun _ h => h.2⟩

end Step

private theorem descent_scoped : ∀ n, (descent n).Scoped
  | 0 => by constructor <;> intros <;> exact .throw _
  | n + 1 =>
    have h := descent_scoped n
    ⟨Step.parseFullyQualifiedName_scoped h, Step.parseNameComponents_scoped h,
      Step.parseNameFragment_scoped h, Step.parseSpecialName_scoped h,
      Step.parseConversionOperator_scoped h, Step.parseTemplateInstantiation_scoped h,
      Step.parseTemplateArgs_scoped h, Step.parseTemplateArg_scoped h,
      Step.parseTemplateNonTypeArg_scoped h, Step.parseType_scoped h, Step.parseDollarType_scoped h,
      Step.parseFunctionPointerType_scoped h, Step.parseFunctionType_scoped h,
      Step.parseParameters_scoped h, Step.parseParameterList_scoped h, Step.parseTagType_scoped h,
      Step.parseEnumType_scoped h, Step.parseArrayType_scoped h, Step.parseDimensions_scoped h⟩

/-- What a run shows beside the name tables and the depth: how it ended, where it left the
position, and the type back-references. -/
def observe {α : Type} : EStateM.Result Fault Demangler α → Except Fault α × Nat × List Node
  | .ok a d => (.ok a, d.pos, d.typeBackrefs)
  | .error f d => (.error f, d.pos, d.typeBackrefs)

private theorem observe_leaveTemplate (d : Demangler) (r : EStateM.Result Fault Demangler Node) :
    observe (leaveTemplate d r) = observe r := by
  rcases r with ⟨_, e⟩ | ⟨_ | _ | _, e⟩ <;> rfl

/-- Every call of parseTemplateInstantiation, at every depth of the descent and from every state,
that returns a node or a Go error returns with the name back-reference table, the saved tables and
the template depth it was called with. What it parses does not depend on the name table, the saved
tables or the depth it was called with: a name back-reference inside resolves only to a name
memorised inside. -/
theorem parseTemplateInstantiation_scopes (n : Nat) (d : Demangler) (names : List Text)
    (saved : List (List Text)) (depth : Int) :
    Returns ((descent n).parseTemplateInstantiation d) (fun d' =>
      d'.nameBackrefs = d.nameBackrefs ∧ d'.savedNameBackrefs = d.savedNameBackrefs ∧
        d'.templateDepth = d.templateDepth) ∧
    observe ((descent n).parseTemplateInstantiation
        { d with nameBackrefs := names, savedNameBackrefs := saved, templateDepth := depth }) =
      observe ((descent n).parseTemplateInstantiation d) := by
  cases n with
  | zero => exact ⟨trivial, rfl⟩
  | succ n =>
    show Returns (Step.parseTemplateInstantiation (descent n) d) _ ∧
      observe (Step.parseTemplateInstantiation (descent n) _) = observe (Step.parseTemplateInstantiation _ d)
    simp only [Step.parseTemplateInstantiation_run (descent_scoped n), observe_leaveTemplate]
    exact ⟨leaveTemplate_restores d _, rfl⟩

end PdbGo.Demangle
