import PdbGo.Demangle.Wp

/-! The demangler terminates: fuel of eight units per byte left plus a rank covers every call of
the descent, so the entry points never run out of fuel. -/
namespace PdbGo.Demangle

/-- The descent `D` with `n` units of fuel: each function, started where the fuel covers eight
units per byte left and the function's rank, runs without running out of fuel. Along a call
made without consuming input the rank drops, so a chain of such calls is short. The functions
whose callers go on only after input was consumed also advance when they return. -/
structure Descent.Sound (D : Descent) (n : Nat) : Prop where
  parseFullyQualifiedName : ∀ d : Demangler, d.pos ≤ d.input.length → 8 * d.left + 4 ≤ n →
    Runs D.parseFullyQualifiedName d
  parseNameComponents : ∀ cs (d : Demangler), d.pos ≤ d.input.length → 8 * d.left + 3 ≤ n →
    Runs (D.parseNameComponents cs) d
  parseNameFragment : ∀ d : Demangler, d.pos ≤ d.input.length → 8 * d.left + 2 ≤ n →
    Advances D.parseNameFragment d
  parseSpecialName : ∀ d : Demangler, d.pos ≤ d.input.length → 8 * d.left + 1 ≤ n →
    Runs D.parseSpecialName d
  parseConversionOperator : ∀ d : Demangler, d.pos ≤ d.input.length → 8 * d.left + 2 ≤ n →
    Runs D.parseConversionOperator d
  parseTemplateInstantiation : ∀ d : Demangler, d.pos + 2 ≤ d.input.length → 8 * d.left + 1 ≤ n →
    Advances D.parseTemplateInstantiation d
  parseTemplateArgs : ∀ args (d : Demangler), d.pos ≤ d.input.length → 8 * d.left + 3 ≤ n →
    Runs (D.parseTemplateArgs args) d
  parseTemplateArg : ∀ d : Demangler, d.pos ≤ d.input.length → 8 * d.left + 2 ≤ n →
    Advances D.parseTemplateArg d
  parseTemplateNonTypeArg : ∀ d : Demangler, d.pos ≤ d.input.length → 8 * d.left + 2 ≤ n →
    Runs D.parseTemplateNonTypeArg d
  parseType : ∀ d : Demangler, d.pos ≤ d.input.length → 8 * d.left + 1 ≤ n → Advances D.parseType d
  parseDollarType : ∀ d : Demangler, d.pos ≤ d.input.length → 8 * d.left + 1 ≤ n →
    Runs D.parseDollarType d
  parseFunctionPointerType : ∀ d : Demangler, d.pos ≤ d.input.length → 8 * d.left + 5 ≤ n →
    Runs D.parseFunctionPointerType d
  parseFunctionType : ∀ d : Demangler, d.pos ≤ d.input.length → 8 * d.left + 4 ≤ n →
    Runs D.parseFunctionType d
  parseParameters : ∀ d : Demangler, d.pos ≤ d.input.length → 8 * d.left + 3 ≤ n →
    Runs D.parseParameters d
  parseParameterList : ∀ params (d : Demangler), d.pos ≤ d.input.length → 8 * d.left + 2 ≤ n →
    Runs (D.parseParameterList params) d
  parseTagType : ∀ tag (d : Demangler), d.pos ≤ d.input.length → 8 * d.left + 5 ≤ n →
    Runs (D.parseTagType tag) d
  parseEnumType : ∀ d : Demangler, d.pos ≤ d.input.length → 8 * d.left + 6 ≤ n →
    Runs D.parseEnumType d
  parseArrayType : ∀ d : Demangler, d.pos ≤ d.input.length → 8 * d.left + 2 ≤ n →
    Runs D.parseArrayType d
  parseDimensions : ∀ dims (d : Demangler), d.pos ≤ d.input.length → 8 * d.left + 1 ≤ n →
    Runs (D.parseDimensions dims) d

namespace Step
variable {next : Descent} {n : Nat} {d : Demangler}

private theorem parseFullyQualifiedName_runs (h : next.Sound n) (hv : d.pos ≤ d.input.length)
    (hc : 8 * d.left + 4 ≤ n + 1) : Runs (parseFullyQualifiedName next) d := by
  unfold Runs parseFullyQualifiedName
  rw [wp_bind]
  exact (h.parseNameComponents [] d hv (by omega)).after (Moved.refl hv)

private theorem parseNameComponents_runs (h : next.Sound n) (cs : List Node) (hv : d.pos ≤ d.input.length)
    (hc : 8 * d.left + 3 ≤ n + 1) : Runs (parseNameComponents next cs) d := by
  unfold Runs parseNameComponents
  refine wp_returnAtEnd _ (fun _ => Moved.refl hv) (fun hlt => ?_)
  have m1 := Moved.next hlt
  have := Demangler.left_next hlt
  simp only [wp_bind, wp_peek, wp_ite, wp_pure, wp_advance]
  split_ifs with h1 h2
  · exact m1.advance (Demangler.lt_of_current_eq h2 (by decide))
  · exact (h.parseNameComponents cs _ m1.le_length (by omega)).after m1
  · refine (h.parseNameFragment d hv (by omega)).wp (fun _ d1 m1 hp => ?_) (fun _ _ m => m)
    have := m1.left_lt hp
    exact (h.parseNameComponents _ d1 m1.le_length (by omega)).after m1

private theorem parseNameFragment_advances (h : next.Sound n) (hv : d.pos ≤ d.input.length)
    (hc : 8 * d.left + 2 ≤ n + 1) : Advances (parseNameFragment next) d := by
  unfold Advances parseNameFragment
  refine wp_failAtEnd _ (fun _ => Moved.refl hv) (fun hlt => ?_)
  have m1 := Moved.next hlt
  have hp := Nat.lt_succ_self d.pos
  rw [wp_bind, wp_peek]
  dsimp only
  by_cases hdig : '0' ≤ d.current ∧ d.current ≤ '9'
  · rw [if_pos hdig, wp_bind, wp_advance, wp_bind, wp_get]
    split
    · exact ⟨m1, hp⟩
    · rw [wp_bind, wp_fail]; exact m1
  rw [if_neg hdig, wp_bind, wp_pure, wp_bind, wp_get]
  by_cases htpl : d.current = '?' ∧ d.pos + 1 < d.input.length ∧ d.input.getD (d.pos + 1) nul = '$'
  · rw [if_pos htpl, wp_bind]; exact h.parseTemplateInstantiation d htpl.2.1 (by omega)
  rw [if_neg htpl, wp_bind, wp_pure]
  by_cases hq : d.current = '?'
  · have := Demangler.left_next hlt
    rw [if_pos hq, wp_bind, wp_advance, wp_bind]
    exact (h.parseSpecialName _ m1.le_length (by omega)).advanced m1 hp
  rw [if_neg hq, wp_bind, wp_pure]
  exact parseSimpleName_advances hv

private theorem parseSpecialName_runs (h : next.Sound n) (hv : d.pos ≤ d.input.length)
    (hc : 8 * d.left + 1 ≤ n + 1) : Runs (parseSpecialName next) d := by
  unfold Runs parseSpecialName
  refine wp_failAtEnd _ (fun _ => Moved.refl hv) (fun hlt => ?_)
  rw [wp_bind, wp_consume, if_neg (Nat.not_le.mpr hlt)]
  have m1 := Moved.next hlt
  have := Demangler.left_next hlt
  split
  · exact (h.parseConversionOperator _ m1.le_length (by omega)).after m1
  · exact (parseExtendedOperator_runs m1.le_length).after m1
  · split
    · exact m1
    · exact Moved.refl hv

private theorem parseConversionOperator_runs (h : next.Sound n) (hv : d.pos ≤ d.input.length)
    (hc : 8 * d.left + 2 ≤ n + 1) : Runs (parseConversionOperator next) d := by
  unfold Runs parseConversionOperator
  rw [wp_bind]
  exact (h.parseType d hv (by omega)).runs.after (Moved.refl hv)

private theorem parseTemplateArgs_runs (h : next.Sound n) (args : List Node) (hv : d.pos ≤ d.input.length)
    (hc : 8 * d.left + 3 ≤ n + 1) : Runs (parseTemplateArgs next args) d := by
  unfold Runs parseTemplateArgs
  refine wp_returnAtEnd _ (fun _ => Moved.refl hv) (fun _ => ?_)
  simp only [wp_bind, wp_peek, wp_ite, wp_pure, wp_attempt]
  split_ifs
  · exact Moved.refl hv
  · refine (h.parseTemplateArg d hv (by omega)).wp (fun _ d1 m1 hp => ?_) (fun _ _ m => m)
    have := m1.left_lt hp
    exact (h.parseTemplateArgs _ d1 m1.le_length (by omega)).after m1

private theorem parseTemplateArg_advances (h : next.Sound n) (hv : d.pos ≤ d.input.length)
    (hc : 8 * d.left + 2 ≤ n + 1) : Advances (parseTemplateArg next) d := by
  unfold Advances parseTemplateArg
  rw [wp_bind, wp_peek, wp_ite]
  split_ifs with hd
  · have hlt := Demangler.lt_of_current_eq hd (by decide)
    have := Demangler.left_next hlt
    rw [wp_bind, wp_advance]
    exact (h.parseTemplateNonTypeArg _ (Moved.next hlt).le_length (by omega)).advanced (Moved.next hlt)
      (Nat.lt_succ_self _)
  · exact h.parseType d hv (by omega)

private theorem parseTemplateNonTypeArg_runs (h : next.Sound n) (hv : d.pos ≤ d.input.length)
    (hc : 8 * d.left + 2 ≤ n + 1) : Runs (parseTemplateNonTypeArg next) d := by
  unfold Runs parseTemplateNonTypeArg
  refine wp_failAtEnd _ (fun _ => Moved.refl hv) (fun hlt => ?_)
  rw [wp_bind, wp_consume, if_neg (Nat.not_le.mpr hlt)]
  have m1 := Moved.next hlt
  split
  · rw [wp_bind]; exact (parseNumber_runs m1.le_length).after m1
  all_goals first
    | exact m1
    | rw [wp_bind, wp_retreat]; exact (h.parseType d hv (by omega)).runs

private theorem parseTemplateInstantiation_advances (h : next.Sound n) (hv : d.pos + 2 ≤ d.input.length)
    (hc : 8 * d.left + 1 ≤ n + 1) : Advances (parseTemplateInstantiation next) d := by
  unfold Advances parseTemplateInstantiation
  simp only [wp_bind, wp_modify, wp_attempt]
  have m1 : Moved d { d with pos := d.pos + 2 } := moved_setPos.mpr ⟨by omega, hv⟩
  have hl1 := m1.left_lt (by dsimp only; omega)
  have pop : ∀ d', Moved { d with pos := d.pos + 2 } d' →
      Wp popBackrefScope (fun _ d'' => Moved d d'' ∧ d.pos < d''.pos) (fun _ => Moved d) d' := fun d' m =>
    (popBackrefScope_runs m.le_length).wp
      (fun _ _ m' => ⟨m1.trans (m.trans m'), by have := (m.trans m').pos_le; dsimp only at this; omega⟩)
      (fun _ _ m' => m1.trans (m.trans m'))
  have popE : ∀ d', Moved { d with pos := d.pos + 2 } d' →
      Wp popBackrefScope (fun _ => Moved d) (fun _ => Moved d) d' := fun d' m =>
    (popBackrefScope_runs m.le_length).after (m1.trans m)
  refine (pushBackrefScope_runs m1.le_length).wp (fun _ d2 m2 => ?_) (fun _ _ m => m1.trans m)
  refine (parseSimpleName_advances m2.le_length).wp (fun _ d3 m3 _ => ?_) (fun _ _ m => popE _ (m2.trans m))
  have m3 := m2.trans m3
  refine (skipIf_runs '@' m3.le_length).wp (fun _ d4 m4 => ?_) (fun _ _ m => popE _ (m3.trans m))
  have m4 := m3.trans m4
  have := m4.left_le
  refine (h.parseTemplateArgs [] d4 m4.le_length (by omega)).wp (fun _ d5 m5 => ?_)
    (fun _ _ m => popE _ (m4.trans m))
  have m5 := m4.trans m5
  exact (skipIf_runs '@' m5.le_length).wp (fun _ _ m => pop _ (m5.trans m)) (fun _ _ m => popE _ (m5.trans m))

private theorem parseType_advances (h : next.Sound n) (hv : d.pos ≤ d.input.length)
    (hc : 8 * d.left + 1 ≤ n + 1) : Advances (parseType next) d := by
  unfold Advances parseType
  refine wp_failAtEnd _ (fun _ => Moved.refl hv) (fun hlt => ?_)
  rw [wp_bind, wp_peek]
  dsimp only
  have m1 := Moved.next hlt
  have hp := Nat.lt_succ_self d.pos
  by_cases hdig : '0' ≤ d.current ∧ d.current ≤ '9'
  · rw [if_pos hdig, wp_bind, wp_advance, wp_bind, wp_get]
    split
    · exact ⟨m1, hp⟩
    · rw [wp_bind, wp_fail]; exact m1
  rw [if_neg hdig, wp_bind, wp_pure, wp_bind]
  have := Demangler.left_next hlt
  have pointee : ∀ d', Moved { d with pos := d.pos + 1 } d' → Runs next.parseType d' := fun d' m =>
    (h.parseType d' m.le_length (by have := m.left_le; omega)).runs
  refine Wp.mono (Q := fun _ d' => Moved d d' ∧ d.pos < d'.pos) ?_ (fun a d' hm => ?_) (fun _ _ m => m)
  · split
    · rw [wp_bind, wp_advance]; exact ⟨m1, hp⟩
    · -- the codes that read on after their letter; any other letter is an unknown type
      split <;> simp only [wp_bind, wp_advance, wp_fail]
      · exact (parseExtendedType_runs m1.le_length).advanced m1 hp
      · exact (parsePointerType_runs _ m1.le_length pointee).advanced m1 hp
      · exact (parseForcedPointer_runs _ _ _ m1.le_length pointee).advanced m1 hp
      · exact (parseForcedPointer_runs _ _ _ m1.le_length pointee).advanced m1 hp
      · exact (parseForcedPointer_runs _ _ _ m1.le_length pointee).advanced m1 hp
      · exact (parsePointerType_runs _ m1.le_length pointee).advanced m1 hp
      · exact (parseForcedPointer_runs _ _ _ m1.le_length pointee).advanced m1 hp
      · exact (h.parseDollarType _ m1.le_length (by omega)).advanced m1 hp
      · exact (h.parseTagType _ _ m1.le_length (by omega)).advanced m1 hp
      · exact (h.parseTagType _ _ m1.le_length (by omega)).advanced m1 hp
      · exact (h.parseTagType _ _ m1.le_length (by omega)).advanced m1 hp
      · exact (h.parseEnumType _ m1.le_length (by omega)).advanced m1 hp
      · exact (h.parseArrayType _ m1.le_length (by omega)).advanced m1 hp
      · exact Moved.refl hv
  · split_ifs
    · rw [wp_bind]; exact (memorizeType_runs a hm.1.le_length).advanced hm.1 hm.2
    · exact hm

private theorem parseDollarType_runs (h : next.Sound n) (hv : d.pos ≤ d.input.length)
    (hc : 8 * d.left + 1 ≤ n + 1) : Runs (parseDollarType next) d := by
  unfold Runs parseDollarType
  refine wp_failAtEnd _ (fun _ => Moved.refl hv) (fun hlt => ?_)
  rw [wp_bind, wp_consume, if_neg (Nat.not_le.mpr hlt)]
  have m1 := Moved.next hlt
  have := Demangler.left_next hlt
  have pointee : ∀ d', Moved { d with pos := d.pos + 1 } d' → Runs next.parseType d' := fun d' m =>
    (h.parseType d' m.le_length (by have := m.left_le; omega)).runs
  split
  · -- `$$`: a second letter, given back if it is none of Q, R, A and C
    rw [wp_bind, wp_atEnd, wp_ite]
    split_ifs with hend
    · exact Moved.refl hv
    have hlt' : d.pos + 1 < d.input.length := by simpa using hend
    have m12 : Moved { d with pos := d.pos + 1 } { d with pos := d.pos + 2 } := Moved.next hlt'
    have m2 := m1.trans m12
    have := m2.left_lt (by dsimp only; omega)
    rw [wp_bind, wp_consume, if_neg (by dsimp only; omega)]
    split
    · exact (parsePointerType_runs _ m2.le_length fun d' m => pointee d' (m12.trans m)).after m2
    · exact (parseForcedPointer_runs _ _ _ m2.le_length fun d' m => pointee d' (m12.trans m)).after m2
    · exact (h.parseFunctionPointerType _ m2.le_length (by omega)).after m2
    · exact (pointee _ m12).after m2
    · exact m1
  · exact (h.parseFunctionPointerType _ m1.le_length (by omega)).after m1
  · exact (parsePointerType_runs _ m1.le_length pointee).after m1
  · exact Moved.refl hv

private theorem parseFunctionPointerType_runs (h : next.Sound n) (hv : d.pos ≤ d.input.length)
    (hc : 8 * d.left + 5 ≤ n + 1) : Runs (parseFunctionPointerType next) d := by
  unfold Runs parseFunctionPointerType
  rw [wp_bind]
  exact (h.parseFunctionType d hv (by omega)).after (Moved.refl hv)

private theorem parseFunctionType_runs (h : next.Sound n) (hv : d.pos ≤ d.input.length)
    (hc : 8 * d.left + 4 ≤ n + 1) : Runs (parseFunctionType next) d := by
  unfold Runs parseFunctionType
  rw [wp_bind]
  refine (parseCallingConvention_runs hv).wp (fun _ d1 m1 => ?_) (fun _ _ m => m)
  have := m1.left_le
  rw [wp_bind, wp_peek, wp_bind]
  refine Wp.mono (Q := fun _ d' => Moved d d') ?_ (fun _ d2 m2 => ?_) (fun _ _ m => m)
  · simp only [wp_bind, wp_ite, wp_attempt, wp_advance, wp_pure]
    split_ifs with hat
    · exact (h.parseType d1 m1.le_length (by omega)).runs.after m1
    · exact m1.advance (Demangler.lt_of_current_eq (not_not.mp hat) (by decide))
  · have := m2.left_le
    rw [wp_bind]
    exact (h.parseParameters d2 m2.le_length (by omega)).wp (fun ⟨_, _⟩ _ m => m2.trans m)
      (fun _ _ m => m2.trans m)

private theorem parseParameters_runs (h : next.Sound n) (hv : d.pos ≤ d.input.length)
    (hc : 8 * d.left + 3 ≤ n + 1) : Runs (parseParameters next) d := by
  unfold Runs parseParameters
  rw [wp_bind, wp_peek, wp_ite]
  split_ifs with hx
  · exact Moved.next (Demangler.lt_of_current_eq hx (by decide))
  · exact h.parseParameterList [] d hv (by omega)

private theorem parseParameterList_runs (h : next.Sound n) (params : List Node) (hv : d.pos ≤ d.input.length)
    (hc : 8 * d.left + 2 ≤ n + 1) : Runs (parseParameterList next params) d := by
  unfold Runs parseParameterList
  refine wp_returnAtEnd _ (fun _ => Moved.refl hv) (fun hlt => ?_)
  simp only [wp_bind, wp_peek, wp_ite, wp_advance, wp_pure, wp_attempt]
  split_ifs
  · exact Moved.next hlt
  · exact Moved.next hlt
  · refine (h.parseType d hv (by omega)).wp (fun _ d1 m1 hp => ?_) (fun _ _ m => m)
    have := m1.left_lt hp
    exact (h.parseParameterList _ d1 m1.le_length (by omega)).after m1

private theorem parseTagType_runs (h : next.Sound n) (tag : TagKind) (hv : d.pos ≤ d.input.length)
    (hc : 8 * d.left + 5 ≤ n + 1) : Runs (parseTagType next tag) d := by
  unfold Runs parseTagType
  rw [wp_bind]
  exact (h.parseFullyQualifiedName d hv (by omega)).after (Moved.refl hv)

private theorem parseEnumType_runs (h : next.Sound n) (hv : d.pos ≤ d.input.length)
    (hc : 8 * d.left + 6 ≤ n + 1) : Runs (parseEnumType next) d := by
  unfold Runs parseEnumType
  simp only [wp_bind, wp_atEnd, wp_ite, wp_advance, wp_pure, Bool.not_eq_true', decide_eq_false_iff_not]
  by_cases hend : d.pos ≥ d.input.length
  · rw [if_neg (not_not.mpr hend)]
    exact h.parseTagType _ d hv (by omega)
  · rw [if_pos hend]
    have m1 := (Moved.refl hv).advance (by omega)
    have := m1.left_le
    exact (h.parseTagType _ _ m1.le_length (by omega)).after m1

private theorem parseArrayType_runs (h : next.Sound n) (hv : d.pos ≤ d.input.length)
    (hc : 8 * d.left + 2 ≤ n + 1) : Runs (parseArrayType next) d := by
  unfold Runs parseArrayType
  rw [wp_bind]
  refine (h.parseDimensions [] d hv (by omega)).wp (fun _ d1 m1 => ?_) (fun _ _ m => m)
  have := m1.left_le
  rw [wp_bind]
  exact (h.parseType d1 m1.le_length (by omega)).runs.after m1

private theorem parseDimensions_runs (h : next.Sound n) (dims : List U64) (hv : d.pos ≤ d.input.length)
    (hc : 8 * d.left + 1 ≤ n + 1) : Runs (parseDimensions next dims) d := by
  unfold Runs parseDimensions
  refine wp_returnAtEnd _ (fun _ => Moved.refl hv) (fun _ => ?_)
  rw [wp_bind]
  refine (parseNumber_runs hv).wp (fun _ d1 m1 => ?_) (fun _ _ m => m)
  simp only [wp_bind, wp_peek, wp_ite, wp_advance, wp_pure]
  split_ifs with hu
  · exact m1
  · have m2 := m1.advance (Demangler.lt_of_current_eq (not_not.mp hu) (by decide))
    have := m2.left_lt (by have := m1.pos_le; dsimp only; omega)
    exact (h.parseDimensions _ _ m2.le_length (by omega)).after m2

end Step

private theorem descent_sound : ∀ n, (descent n).Sound n
  | 0 => by constructor <;> intros <;> omega
  | n + 1 =>
    have h := descent_sound n
    ⟨fun _ => Step.parseFullyQualifiedName_runs h, fun cs _ => Step.parseNameComponents_runs h cs,
      fun _ => Step.parseNameFragment_advances h, fun _ => Step.parseSpecialName_runs h,
      fun _ => Step.parseConversionOperator_runs h, fun _ => Step.parseTemplateInstantiation_advances h,
      fun args _ => Step.parseTemplateArgs_runs h args, fun _ => Step.parseTemplateArg_advances h,
      fun _ => Step.parseTemplateNonTypeArg_runs h, fun _ => Step.parseType_advances h,
      fun _ => Step.parseDollarType_runs h, fun _ => Step.parseFunctionPointerType_runs h,
      fun _ => Step.parseFunctionType_runs h, fun _ => Step.parseParameters_runs h,
      fun params _ => Step.parseParameterList_runs h params, fun tag _ => Step.parseTagType_runs h tag,
      fun _ => Step.parseEnumType_runs h, fun _ => Step.parseArrayType_runs h,
      fun dims _ => Step.parseDimensions_runs h dims⟩

section Entry
variable {fuel : Nat} {d : Demangler}

private theorem parseRTTI_runs (hv : d.pos ≤ d.input.length) (hF : 8 * d.left + 6 ≤ fuel) :
    Runs (parseRTTI fuel) d := by
  unfold Runs parseRTTI
  refine wp_failAtEnd _ (fun _ => Moved.refl hv) (fun hlt => ?_)
  rw [wp_bind, wp_consume, if_neg (Nat.not_le.mpr hlt)]
  have m1 := Moved.next hlt
  have := Demangler.left_next hlt
  split
  · exact Moved.refl hv
  · rw [wp_bind]
    exact ((descent_sound fuel).parseFullyQualifiedName _ m1.le_length (by omega)).after m1

private theorem parseExtendedSpecial_runs (hv : d.pos ≤ d.input.length) (hF : 8 * d.left + 6 ≤ fuel) :
    Runs (parseExtendedSpecial fuel) d := by
  unfold Runs parseExtendedSpecial
  refine wp_failAtEnd _ (fun _ => Moved.refl hv) (fun hlt => ?_)
  rw [wp_bind, wp_consume, if_neg (Nat.not_le.mpr hlt)]
  have m1 := Moved.next hlt
  have := Demangler.left_next hlt
  split
  · exact (parseRTTI_runs m1.le_length (by omega)).after m1
  · split
    · exact Moved.refl hv
    · rw [wp_bind]
      exact ((descent_sound fuel).parseFullyQualifiedName _ m1.le_length (by omega)).after m1

private theorem parseFunctionEncoding_runs (name : List Node) (hv : d.pos ≤ d.input.length)
    (hF : 8 * d.left + 6 ≤ fuel) : Runs (parseFunctionEncoding fuel name) d := by
  unfold Runs parseFunctionEncoding
  refine wp_failAtEnd _ (fun _ => Moved.refl hv) (fun hlt => ?_)
  rw [wp_bind, wp_consume, if_neg (Nat.not_le.mpr hlt), wp_bind, wp_attempt]
  have := Demangler.left_next hlt
  exact ((descent_sound fuel).parseFunctionType _ (Moved.next hlt).le_length (by omega)).after
    (Moved.next hlt)

private theorem parseVariableEncoding_runs (name : List Node) (hv : d.pos ≤ d.input.length)
    (hF : 8 * d.left + 6 ≤ fuel) : Runs (parseVariableEncoding fuel name) d := by
  unfold Runs parseVariableEncoding
  refine wp_failAtEnd _ (fun _ => Moved.refl hv) (fun hlt => ?_)
  rw [wp_bind, wp_consume, if_neg (Nat.not_le.mpr hlt), wp_bind]
  have m1 := Moved.next hlt
  refine Wp.mono (Q := fun _ d' => Moved d d') ?_ (fun _ d2 m2 => ?_) (fun _ _ m => m)
  · split <;> first | exact m1 | exact Moved.refl hv
  · have := m2.left_le
    rw [wp_bind, wp_attempt]
    exact ((descent_sound fuel).parseType _ m2.le_length (by omega)).runs.after m2

private theorem parseEncoding_runs (name : List Node) (hv : d.pos ≤ d.input.length)
    (hF : 8 * d.left + 6 ≤ fuel) : Runs (parseEncoding fuel name) d := by
  unfold Runs parseEncoding
  refine wp_returnAtEnd _ (fun _ => Moved.refl hv) (fun _ => ?_)
  simp only [wp_bind, wp_peek, wp_ite, wp_pure]
  split_ifs
  · exact parseFunctionEncoding_runs name hv hF
  · exact parseVariableEncoding_runs name hv hF
  · exact Moved.refl hv

private theorem parseCtorDtor_runs (op : OperatorKind) (hv : d.pos ≤ d.input.length)
    (hF : 8 * d.left + 6 ≤ fuel) : Runs (parseCtorDtor fuel op) d := by
  unfold Runs parseCtorDtor
  rw [wp_bind]
  refine ((descent_sound fuel).parseFullyQualifiedName d hv (by omega)).wp (fun name d1 m1 => ?_)
    (fun _ _ m => m)
  have := m1.left_le
  simp only [wp_bind, wp_ite, wp_pure]
  by_cases hz : name.length = 0
  · rw [if_pos hz]; exact wp_goPanic _
  · rw [if_neg hz]; exact (parseEncoding_runs _ m1.le_length (by omega)).after m1

private theorem parseSpecialIntrinsic_runs (hlt : d.pos < d.input.length) (hF : 8 * d.left + 6 ≤ fuel) :
    Runs (parseSpecialIntrinsic fuel) d := by
  unfold Runs parseSpecialIntrinsic
  rw [wp_bind, wp_advance]
  have m1 := Moved.next hlt
  have := Demangler.left_next hlt
  refine wp_failAtEnd _ (fun _ => m1) (fun hlt' => ?_)
  rw [wp_bind, wp_consume, if_neg (Nat.not_le.mpr hlt')]
  have m2 := m1.trans (Moved.next hlt')
  have := m2.left_le
  split
  · exact (parseCtorDtor_runs _ m2.le_length (by omega)).after m2
  · exact (parseCtorDtor_runs _ m2.le_length (by omega)).after m2
  · exact (parseExtendedSpecial_runs m2.le_length (by omega)).after m2
  · rw [wp_bind, wp_retreat]
    exact ((descent_sound fuel).parseSpecialName _ m1.le_length (by omega)).after m1

private theorem parse_runs (hv : d.pos ≤ d.input.length) (hF : 8 * d.left + 6 ≤ fuel) :
    Runs (parse fuel) d := by
  unfold Runs parse
  rw [wp_bind]
  refine (skipIf_runs '?' hv).wp (fun _ d1 m1 => ?_) (fun _ _ m => m)
  have := m1.left_le
  simp only [wp_bind, wp_peek, wp_ite]
  split_ifs with hq
  · exact (parseSpecialIntrinsic_runs (Demangler.lt_of_current_eq hq (by decide)) (by omega)).after m1
  · refine ((descent_sound fuel).parseFullyQualifiedName d1 m1.le_length (by omega)).wp
      (fun _ d2 m2 => ?_) (fun _ _ m => m1.trans m)
    have := m2.left_le
    exact (parseEncoding_runs _ m2.le_length (by omega)).after (m1.trans m2)

end Entry

private theorem runParse_ne_outOfFuel {fuel : Nat} (decorated : Text) (hF : fuelFor decorated ≤ fuel) :
    runParse fuel decorated ≠ .outOfFuel := by
  have hr : Runs (parse fuel) (newDemangler decorated) :=
    parse_runs (Nat.zero_le _) (by simp only [Demangler.left, newDemangler, fuelFor] at hF ⊢; omega)
  unfold Runs Wp at hr
  unfold runParse
  split
  · nofun
  · nofun
  · nofun
  · rename_i heq; rw [heq] at hr; exact hr.elim

private theorem demangle_ne_outOfFuel (decorated : Text) : demangle decorated ≠ .outOfFuel := by
  unfold demangle
  split
  · nofun
  · split_ifs
    · nofun
    · nofun
    · split
      · nofun
      · nofun
      · nofun
      · exact absurd ‹_› (runParse_ne_outOfFuel _ (le_refl _))

private theorem demangleToNode_ne_outOfFuel (decorated : Text) : demangleToNode decorated ≠ .outOfFuel := by
  unfold demangleToNode
  split
  · nofun
  · split_ifs
    · nofun
    · exact runParse_ne_outOfFuel _ (le_refl _)

private theorem demangleSimple_ne_outOfFuel (decorated : Text) : demangleSimple decorated ≠ .outOfFuel := by
  unfold demangleSimple
  split
  · nofun
  · nofun
  · nofun
  · exact absurd ‹_› (demangle_ne_outOfFuel decorated)

/-- The demangler terminates on every input: with the fuel the entry points pass, the descent
never runs out, so Demangle, DemangleToNode and DemangleSimple each return or panic. -/
theorem demangle_terminates (decorated : Text) :
    demangle decorated ≠ .outOfFuel ∧ demangleToNode decorated ≠ .outOfFuel ∧
      demangleSimple decorated ≠ .outOfFuel :=
  ⟨demangle_ne_outOfFuel decorated, demangleToNode_ne_outOfFuel decorated,
    demangleSimple_ne_outOfFuel decorated⟩

end PdbGo.Demangle
