import PdbGo.Demangle.Parse

/-! A weakest precondition for the parse functions of package demangle, and how far a run moves
through the input. -/
namespace PdbGo.Demangle

/-- What `x` run from `d` leads to: `Q` of the value and state it returns, `E` of the error and
state of a Go error; a panic satisfies anything, and running out of fuel nothing. -/
def Wp {α : Type} (x : DemM α) (Q : α → Demangler → Prop) (E : GoError → Demangler → Prop)
    (d : Demangler) : Prop :=
  match x d with
  | .ok a d' => Q a d'
  | .error (.goError e) d' => E e d'
  | .error (.panic _) _ => True
  | .error .outOfFuel _ => False

/-- The byte under the position, as peek reads it. -/
def Demangler.current (d : Demangler) : Char :=
  if d.pos ≥ d.input.length then nul else d.input.getD d.pos nul

/-- The bytes left after the position. -/
def Demangler.left (d : Demangler) : Nat := d.input.length - d.pos

section Wp
variable {α β : Type} {Q : α → Demangler → Prop} {E : GoError → Demangler → Prop} {d : Demangler}

theorem wp_bind (x : DemM α) (k : α → DemM β) (R : β → Demangler → Prop) :
    Wp (x >>= k) R E d ↔ Wp x (fun a d' => Wp (k a) R E d') E d := by
  show Wp (EStateM.bind x k) R E d ↔ _
  unfold Wp EStateM.bind
  rcases x d with ⟨a, d'⟩ | ⟨_ | _ | _, d'⟩ <;> rfl

theorem wp_attempt (x : DemM α) (R : Except GoError α → Demangler → Prop) :
    Wp (attempt x) R E d ↔ Wp x (fun a => R (.ok a)) (fun e => R (.error e)) d := by
  unfold Wp attempt
  rcases x d with ⟨a, d'⟩ | ⟨_ | _ | _, d'⟩ <;> rfl

theorem Wp.mono {x : DemM α} {Q' : α → Demangler → Prop} {E' : GoError → Demangler → Prop}
    (h : Wp x Q E d) (hq : ∀ a d', Q a d' → Q' a d') (he : ∀ e d', E e d' → E' e d') :
    Wp x Q' E' d := by
  revert h
  unfold Wp
  rcases x d with ⟨a, d'⟩ | ⟨_ | _ | _, d'⟩
  exacts [hq _ _, he _ _, fun _ => trivial, id]

theorem wp_ite (c : Prop) [Decidable c] (x y : DemM α) :
    Wp (if c then x else y) Q E d ↔ if c then Wp x Q E d else Wp y Q E d := by
  split_ifs <;> rfl

theorem wp_pure (a : α) : Wp (pure a) Q E d ↔ Q a d := Iff.rfl
theorem wp_fail (e : GoError) : Wp (fail e : DemM α) Q E d ↔ E e d := Iff.rfl
theorem wp_goPanic (msg : String) : Wp (goPanic msg : DemM α) Q E d := trivial
theorem wp_atEnd {R : Bool → Demangler → Prop} :
    Wp atEnd R E d ↔ R (decide (d.pos ≥ d.input.length)) d := Iff.rfl
theorem wp_peek {R : Char → Demangler → Prop} : Wp peek R E d ↔ R d.current d := Iff.rfl
theorem wp_advance {R : Unit → Demangler → Prop} :
    Wp advance R E d ↔ R () { d with pos := d.pos + 1 } := Iff.rfl
theorem wp_retreat {R : Unit → Demangler → Prop} :
    Wp retreat R E d ↔ R () { d with pos := d.pos - 1 } := Iff.rfl
theorem wp_get {R : Demangler → Demangler → Prop} : Wp get R E d ↔ R d d := Iff.rfl
private theorem wp_set {R : PUnit → Demangler → Prop} (d' : Demangler) : Wp (set d') R E d ↔ R ⟨⟩ d' := Iff.rfl
theorem wp_modify {R : PUnit → Demangler → Prop} (f : Demangler → Demangler) :
    Wp (modify f) R E d ↔ R ⟨⟩ (f d) := Iff.rfl
theorem wp_consume {R : Char → Demangler → Prop} :
    Wp consume R E d ↔ if d.pos ≥ d.input.length then R nul d
      else R (d.input.getD d.pos nul) { d with pos := d.pos + 1 } := by
  unfold Wp consume; split_ifs <;> rfl

theorem wp_failAtEnd {k : PUnit → DemM α} (e : GoError) (hend : d.pos ≥ d.input.length → E e d)
    (hin : d.pos < d.input.length → Wp (k ⟨⟩) Q E d) :
    Wp (atEnd >>= fun b => if b = true then fail e >>= k else pure ⟨⟩ >>= k) Q E d := by
  rw [wp_bind, wp_atEnd]
  by_cases h : d.pos ≥ d.input.length
  · rw [if_pos (decide_eq_true h)]; exact hend h
  · rw [if_neg (by simpa using h)]; exact hin (by omega)

theorem wp_returnAtEnd {k : PUnit → DemM α} (v : α) (hend : d.pos ≥ d.input.length → Q v d)
    (hin : d.pos < d.input.length → Wp (k ⟨⟩) Q E d) :
    Wp (atEnd >>= fun b => if b = true then pure v else pure ⟨⟩ >>= k) Q E d := by
  rw [wp_bind, wp_atEnd]
  by_cases h : d.pos ≥ d.input.length
  · rw [if_pos (decide_eq_true h)]; exact hend h
  · rw [if_neg (by simpa using h)]; exact hin (by omega)
end Wp

/-- A state a run from `d` may leave: on the same input, at or after `d`'s position and not past
the end. -/
structure Moved (d d' : Demangler) : Prop where
  input_eq : d'.input = d.input
  pos_le : d.pos ≤ d'.pos
  le_length : d'.pos ≤ d'.input.length

section Moved
variable {d d' d'' : Demangler}

theorem Moved.refl (h : d.pos ≤ d.input.length) : Moved d d := ⟨rfl, le_refl _, h⟩

theorem Moved.trans (h1 : Moved d d') (h2 : Moved d' d'') : Moved d d'' :=
  ⟨h2.input_eq.trans h1.input_eq, h1.pos_le.trans h2.pos_le, h2.le_length⟩

theorem Moved.advance (h : Moved d d') (hlt : d'.pos < d'.input.length) :
    Moved d { d' with pos := d'.pos + 1 } :=
  ⟨h.input_eq, Nat.le_succ_of_le h.pos_le, hlt⟩

theorem Moved.left_le (h : Moved d d') : d'.left ≤ d.left := by
  unfold Demangler.left; rw [h.input_eq]; have := h.pos_le; omega

theorem Moved.left_lt (h : Moved d d') (hp : d.pos < d'.pos) : d'.left < d.left := by
  unfold Demangler.left; rw [h.input_eq]; have := h.le_length; rw [h.input_eq] at this; omega

theorem Moved.next (hlt : d.pos < d.input.length) : Moved d { d with pos := d.pos + 1 } :=
  (Moved.refl hlt.le).advance hlt

theorem Demangler.left_next (hlt : d.pos < d.input.length) :
    { d with pos := d.pos + 1 }.left + 1 = d.left := by
  unfold Demangler.left; dsimp only; omega
end Moved

private theorem Demangler.lt_of_current_ne {d : Demangler} (h : d.current ≠ nul) : d.pos < d.input.length := by
  unfold Demangler.current at h
  split_ifs at h with hl
  · exact absurd rfl h
  · omega

theorem Demangler.lt_of_current_eq {d : Demangler} {c : Char} (h : d.current = c) (hc : c ≠ nul) :
    d.pos < d.input.length :=
  Demangler.lt_of_current_ne (h ▸ hc)

private theorem Demangler.lt_of_digit {d : Demangler} {c : Char} (h : c ≤ d.current) (hc : '0' ≤ c) :
    d.pos < d.input.length :=
  Demangler.lt_of_current_ne fun he => absurd (Char.le_trans hc (he ▸ h)) (by decide)

@[simp] theorem moved_setPos {d : Demangler} {p : Nat} :
    Moved d { d with pos := p } ↔ d.pos ≤ p ∧ p ≤ d.input.length :=
  ⟨fun h => ⟨h.pos_le, h.le_length⟩, fun h => ⟨rfl, h.1, h.2⟩⟩

/-- `x` run from `d` does not run out of fuel, and every state it leaves is moved from `d`. -/
def Runs {α : Type} (x : DemM α) (d : Demangler) : Prop :=
  Wp x (fun _ => Moved d) (fun _ => Moved d) d

/-- As Runs, and a value returned has consumed input. -/
def Advances {α : Type} (x : DemM α) (d : Demangler) : Prop :=
  Wp x (fun _ d' => Moved d d' ∧ d.pos < d'.pos) (fun _ => Moved d) d

section Calls
variable {α : Type} {x : DemM α} {d : Demangler} {Q : α → Demangler → Prop}
  {E : GoError → Demangler → Prop}

theorem Runs.wp (h : Runs x d) (hq : ∀ a d', Moved d d' → Q a d') (he : ∀ e d', Moved d d' → E e d') :
    Wp x Q E d :=
  h.mono (fun a d' hm => hq a d' hm) (fun e d' hm => he e d' hm)

theorem Advances.wp (h : Advances x d) (hq : ∀ a d', Moved d d' → d.pos < d'.pos → Q a d')
    (he : ∀ e d', Moved d d' → E e d') : Wp x Q E d :=
  h.mono (fun a d' hm => hq a d' hm.1 hm.2) (fun e d' hm => he e d' hm)

theorem Runs.after {d' : Demangler} (h : Runs x d') (m : Moved d d') :
    Wp x (fun _ => Moved d) (fun _ => Moved d) d' :=
  h.wp (fun _ _ m' => m.trans m') (fun _ _ m' => m.trans m')

theorem Advances.runs (h : Advances x d) : Runs x d := h.mono (fun _ _ hm => hm.1) (fun _ _ hm => hm)

theorem Runs.advanced {d' : Demangler} (h : Runs x d') (m : Moved d d') (hp : d.pos < d'.pos) :
    Wp x (fun _ d'' => Moved d d'' ∧ d.pos < d''.pos) (fun _ => Moved d) d' :=
  h.wp (fun _ _ m' => ⟨m.trans m', Nat.lt_of_lt_of_le hp m'.pos_le⟩) (fun _ _ m' => m.trans m')

end Calls

section Leaves
variable {d : Demangler}

private theorem parseQualifiers_runs (hv : d.pos ≤ d.input.length) : Runs parseQualifiers d := by
  unfold Runs parseQualifiers
  refine wp_returnAtEnd _ (fun _ => Moved.refl hv) (fun hlt => ?_)
  rw [wp_bind, wp_peek]
  split <;> first | exact Moved.next hlt | exact Moved.refl hv

theorem skipIf_runs (c : Char) (hv : d.pos ≤ d.input.length) : Runs (skipIf c) d := by
  unfold Runs Wp skipIf
  split_ifs with h
  · exact (Moved.refl hv).advance h.1
  · exact Moved.refl hv

private theorem memorizeString_runs (s : Text) (hv : d.pos ≤ d.input.length) : Runs (memorizeString s) d := by
  have : Wp (memorizeString s) (fun _ => Moved d) (fun _ => Moved d) d ↔ Moved d (if
      d.nameBackrefs.length < 10 ∧ !d.containsBackref s then { d with nameBackrefs := d.nameBackrefs ++ [s] }
      else d) := by
    unfold Wp memorizeString; split_ifs <;> rfl
  rw [Runs, this]
  split_ifs <;> exact ⟨rfl, le_refl _, hv⟩

theorem memorizeType_runs (t : Node) (hv : d.pos ≤ d.input.length) : Runs (memorizeType t) d := by
  have : Wp (memorizeType t) (fun _ => Moved d) (fun _ => Moved d) d ↔ Moved d (if
      d.typeBackrefs.length < 10 then { d with typeBackrefs := d.typeBackrefs ++ [t] } else d) := by
    unfold Wp memorizeType; split_ifs <;> rfl
  rw [Runs, this]
  split_ifs <;> exact ⟨rfl, le_refl _, hv⟩

theorem pushBackrefScope_runs (hv : d.pos ≤ d.input.length) : Runs pushBackrefScope d :=
  ⟨rfl, le_refl _, hv⟩

theorem popBackrefScope_runs (hv : d.pos ≤ d.input.length) : Runs popBackrefScope d := by
  cases hs : d.savedNameBackrefs.getLast? <;> simp only [Runs, Wp, popBackrefScope, hs] <;>
    exact ⟨rfl, le_refl _, hv⟩

theorem parseCallingConvention_runs (hv : d.pos ≤ d.input.length) : Runs parseCallingConvention d := by
  unfold Runs parseCallingConvention
  refine wp_returnAtEnd _ (fun _ => Moved.refl hv) (fun hlt => ?_)
  rw [wp_bind, wp_consume, if_neg (Nat.not_le.mpr hlt)]
  split
  · exact Moved.next hlt
  · exact Moved.refl hv

theorem parseExtendedOperator_runs (hv : d.pos ≤ d.input.length) : Runs parseExtendedOperator d := by
  unfold Runs parseExtendedOperator
  refine wp_failAtEnd _ (fun _ => Moved.refl hv) (fun hlt => ?_)
  rw [wp_bind, wp_consume, if_neg (Nat.not_le.mpr hlt)]
  split
  · exact Moved.next hlt
  · exact Moved.refl hv

theorem parseExtendedType_runs (hv : d.pos ≤ d.input.length) : Runs parseExtendedType d := by
  unfold Runs parseExtendedType
  refine wp_failAtEnd _ (fun _ => Moved.refl hv) (fun hlt => ?_)
  rw [wp_bind, wp_consume, if_neg (Nat.not_le.mpr hlt)]
  split
  · exact Moved.next hlt
  · exact Moved.refl hv

theorem parseSimpleName_advances (hv : d.pos ≤ d.input.length) : Advances parseSimpleName d := by
  unfold Advances parseSimpleName
  simp only [wp_bind, wp_get, wp_set, wp_pure, wp_ite, wp_fail]
  split_ifs with h0
  · exact Moved.refl hv
  · have hle : ((d.input.drop d.pos).takeWhile (· ≠ '@')).length ≤ d.input.length - d.pos :=
      (List.takeWhile_prefix _).length_le.trans (List.length_drop _ _).le
    have m1 : Moved d { d with pos := d.pos + ((d.input.drop d.pos).takeWhile (· ≠ '@')).length } :=
      ⟨rfl, by dsimp only; omega, by dsimp only; omega⟩
    exact (memorizeString_runs _ m1.le_length).wp
      (fun _ _ hm => ⟨m1.trans hm, by have := hm.pos_le; dsimp only at this; omega⟩)
      (fun _ _ hm => m1.trans hm)

private theorem hexDigits_le (cs : Text) (val : Int) : (hexDigits cs val).2 ≤ cs.length := by
  induction cs generalizing val with
  | nil => simp [hexDigits]
  | cons c cs ih =>
    unfold hexDigits
    split_ifs
    · simp
    · simp
    · simpa using ih _

theorem parseNumber_runs (hv : d.pos ≤ d.input.length) : Runs parseNumber d := by
  unfold Runs parseNumber
  simp only [wp_bind, wp_peek, wp_get, wp_set, wp_pure, wp_ite, wp_advance]
  have hex : ∀ p, (hexDigits (d.input.drop p) 0).2 ≤ d.input.length - p := fun p =>
    (hexDigits_le _ _).trans (List.length_drop _ _).le
  have hq' : d.current = '?' → d.pos < d.input.length := fun h => Demangler.lt_of_current_eq h (by decide)
  split_ifs with hq h19 h0 h19' h0' <;> simp only [moved_setPos]
  · have := Demangler.lt_of_digit h19.1 (by decide); dsimp only at this; omega
  · have := Demangler.lt_of_current_eq h0 (by decide); dsimp only at this; omega
  · have := hq' hq; have := hex (d.pos + 1); omega
  · have := Demangler.lt_of_digit h19'.1 (by decide); omega
  · have := Demangler.lt_of_current_eq h0' (by decide); omega
  · have := hex d.pos; omega

theorem parsePointerType_runs {p : DemM Node} (aff : PointerAffinity) (hv : d.pos ≤ d.input.length)
    (hp : ∀ d', Moved d d' → Runs p d') : Runs (parsePointerType p aff) d := by
  unfold Runs parsePointerType
  simp only [wp_bind]
  refine (parseQualifiers_runs hv).wp (fun _ d1 m1 => ?_) (fun _ _ m => m)
  simp only [wp_bind, wp_peek, wp_ite, wp_advance, wp_pure]
  split_ifs with hE
  · have m2 := m1.advance (Demangler.lt_of_current_eq hE (by decide))
    exact (hp _ m2).after m2
  · exact (hp _ m1).after m1

theorem parseForcedPointer_runs {p : DemM Node} (aff : PointerAffinity) (c v : Bool)
    (hv : d.pos ≤ d.input.length) (hp : ∀ d', Moved d d' → Runs p d') :
    Runs (parseForcedPointer p aff c v) d := by
  unfold Runs parseForcedPointer
  simp only [wp_bind]
  exact (parseQualifiers_runs hv).wp (fun _ d1 m1 => (hp _ m1).after m1) (fun _ _ m => m)

end Leaves

end PdbGo.Demangle
