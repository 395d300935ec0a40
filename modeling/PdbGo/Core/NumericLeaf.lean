import PdbGo.Core.Reader

/-! CodeView numeric leaves as the format describes them, decoded from a table and compared with
ReadNumeric. -/
namespace PdbGo.Stream

/-- The payload a leaf word at or above `0x8000` names: its width in bytes and whether it is
signed; `none` for a leaf that names no numeric type. -/
def leafPayload (leaf : Nat) : Option (Nat × Bool) :=
  if leaf = 0x8000 then some (1, true)
  else if leaf = 0x8001 then some (2, true)
  else if leaf = 0x8002 then some (2, false)
  else if leaf = 0x8003 then some (4, true)
  else if leaf = 0x8004 then some (4, false)
  else if leaf = 0x8009 then some (8, true)
  else if leaf = 0x800a then some (8, false)
  else none

/-- The unsigned little-endian value of the `w` bytes at `off`. -/
def leValue (bs : Bytes) (off : Nat) : Nat → Nat
  | 0 => 0
  | w+1 => (bs.getD off 0).toNat + 256 * leValue bs (off+1) w

/-- A `bits`-wide two's-complement value sign-extended to 64 bits. -/
def signExtend (bits u : Nat) : U64 :=
  Fin.ofNat (if u < Nat.pow 2 (bits - 1) then u else u + (18446744073709551616 - Nat.pow 2 bits))

/-- A numeric leaf at offset `o`, decoded from the table: the leaf word, then a payload of the
width it names, sign- or zero-extended to 64 bits. A cut-off leaf or payload fails as a read past
the end does, an unknown leaf with ErrInvalidNumeric past its leaf word. -/
def numericLeaf (D : Bytes) (o : Nat) : EStateM.Result GoError Reader U64 :=
  if D.length < o + 2 then .error errUnexpectedEOF ⟨D, o⟩ else
  let leaf := leValue D o 2
  if leaf < 0x8000 then .ok (Fin.ofNat leaf) ⟨D, o + 2⟩ else
  match leafPayload leaf with
  | none => .error errInvalidNumeric ⟨D, o + 2⟩
  | some (w, sgn) =>
    if D.length < o + 2 + w then .error errUnexpectedEOF ⟨D, o + 2⟩
    else .ok (if sgn then signExtend (8 * w) (leValue D (o + 2) w) else Fin.ofNat (leValue D (o + 2) w))
      ⟨D, o + 2 + w⟩

section Lemmas
variable (D : Bytes) (p : Nat)

private theorem leValue_one : leValue D p 1 = (D.getD p 0).toNat := by simp [leValue]

private theorem leValue_two : leValue D p 2 = (leU16 D p).val := by simp [leValue, leU16]

private theorem leValue_four : leValue D p 4 = (leU32 D p).val := by
  simp only [leValue, leU32, leU16, Nat.add_assoc, Nat.reduceAdd]; omega

private theorem leValue_eight : leValue D p 8 = (leU64 D p).val := by
  simp only [leValue, leU64, leU32, leU16, Nat.add_assoc, Nat.reduceAdd]; omega

private theorem u64OfInt_signed {bits u : Nat} (hb64 : bits ≤ 64) :
    u64OfInt (signed bits u) = signExtend bits u := by
  have hB : Nat.pow 2 bits ≤ 18446744073709551616 := Nat.pow_le_pow_right (by decide) hb64
  unfold signed signExtend u64OfInt
  apply Fin.ext
  split_ifs with h <;> simp only [Fin.ofNat] <;> omega

private theorem readI8_ite : readI8 ⟨D, p⟩ = if D.length < p + 1 then .error errUnexpectedEOF ⟨D, p⟩
    else .ok (signed (8 * 1) (leValue D p 1)) ⟨D, p + 1⟩ := by
  unfold readI8 readU8
  by_cases h : D.length < p + 1
  · rw [if_pos (show p ≥ D.length by omega), if_pos h]
  · rw [if_neg (show ¬ p ≥ D.length by omega), if_neg h, leValue_one]

private theorem readU16_ite : readU16 ⟨D, p⟩ = if D.length < p + 2 then .error errUnexpectedEOF ⟨D, p⟩
    else .ok (leU16 D p) ⟨D, p + 2⟩ := by
  unfold readU16; split_ifs <;> rfl

private theorem readU32_ite : readU32 ⟨D, p⟩ = if D.length < p + 4 then .error errUnexpectedEOF ⟨D, p⟩
    else .ok (leU32 D p) ⟨D, p + 4⟩ := by
  unfold readU32; split_ifs <;> rfl

private theorem readU64_ite : readU64 ⟨D, p⟩ = if D.length < p + 8 then .error errUnexpectedEOF ⟨D, p⟩
    else .ok (leU64 D p) ⟨D, p + 8⟩ := by
  unfold readU64; split_ifs <;> rfl

private theorem readI16_ite : readI16 ⟨D, p⟩ = if D.length < p + 2 then .error errUnexpectedEOF ⟨D, p⟩
    else .ok (signed (8 * 2) (leValue D p 2)) ⟨D, p + 2⟩ := by
  unfold readI16; rw [readU16_ite, leValue_two]; split_ifs <;> rfl

private theorem readI32_ite : readI32 ⟨D, p⟩ = if D.length < p + 4 then .error errUnexpectedEOF ⟨D, p⟩
    else .ok (signed (8 * 4) (leValue D p 4)) ⟨D, p + 4⟩ := by
  unfold readI32; rw [readU32_ite, leValue_four]; split_ifs <;> rfl

private theorem readI64_ite : readI64 ⟨D, p⟩ = if D.length < p + 8 then .error errUnexpectedEOF ⟨D, p⟩
    else .ok (signed (8 * 8) (leValue D p 8)) ⟨D, p + 8⟩ := by
  unfold readI64; rw [readU64_ite, leValue_eight]; split_ifs <;> rfl

private theorem signed_payload {x : ReadM Int} {w : Nat} (hw8 : w ≤ 8)
    (hx : x ⟨D, p⟩ = if D.length < p + w then .error errUnexpectedEOF ⟨D, p⟩
      else .ok (signed (8 * w) (leValue D p w)) ⟨D, p + w⟩) :
    (x >>= fun v => pure (u64OfInt v)) ⟨D, p⟩ = if D.length < p + w then .error errUnexpectedEOF ⟨D, p⟩
      else .ok (signExtend (8 * w) (leValue D p w)) ⟨D, p + w⟩ := by
  rw [bind_apply, hx]
  split_ifs
  · rfl
  · exact congrArg (fun v => EStateM.Result.ok v _)
      (u64OfInt_signed (by omega))

private theorem unsigned_payload {β : Type} {x : ReadM β} {w : Nat} (g : β → U64) (val : β)
    (hx : x ⟨D, p⟩ = if D.length < p + w then .error errUnexpectedEOF ⟨D, p⟩ else .ok val ⟨D, p + w⟩)
    (hv : (g val).val = leValue D p w) :
    (x >>= fun v => pure (g v)) ⟨D, p⟩ = if D.length < p + w then .error errUnexpectedEOF ⟨D, p⟩
      else .ok (Fin.ofNat (leValue D p w)) ⟨D, p + w⟩ := by
  have := (g val).isLt
  rw [bind_apply, hx]
  split_ifs
  · rfl
  · exact congrArg (fun v => EStateM.Result.ok v _) (Fin.ext (by simp only [Fin.ofNat]; omega))

end Lemmas

private theorem readNumeric_eq_numericLeaf (D : Bytes) (o : Nat) : readNumeric ⟨D, o⟩ = numericLeaf D o := by
  unfold readNumeric numericLeaf
  rw [bind_apply]
  by_cases h2 : D.length < o + 2
  · rw [readU16_of_gt ⟨D, o⟩ h2, if_pos h2]
  rw [readU16_of_le ⟨D, o⟩ (by simp only; omega), if_neg h2, leValue_two]
  dsimp only
  split_ifs with hsmall
  · rw [pure_apply]; congr 1; apply Fin.ext; simp only [Fin.ofNat]; omega
  · rw [bind_apply, pure_apply]
    dsimp only
    generalize (leU16 D o).val = leaf at hsmall ⊢
    cases hp : leafPayload leaf with
    | none => split <;> first | rfl | exact absurd hp (by decide)
    | some ws =>
      dsimp only
      split
      · cases hp; exact signed_payload D _ (by decide) (readI8_ite D _)
      · cases hp; exact signed_payload D _ (by decide) (readI16_ite D _)
      · cases hp; exact unsigned_payload D _ _ _ (readU16_ite D _) (leValue_two D _).symm
      · cases hp; exact signed_payload D _ (by decide) (readI32_ite D _)
      · cases hp; exact unsigned_payload D _ _ _ (readU32_ite D _) (leValue_four D _).symm
      · cases hp; exact signed_payload D _ (by decide) (readI64_ite D _)
      · cases hp
        have hv : (Fin.ofNat (leU64 D (o + 2)).val : U64) = leU64 D (o + 2) :=
          Fin.ext (Nat.mod_eq_of_lt (leU64 D (o + 2)).isLt)
        show readU64 ⟨D, o + 2⟩ = _
        rw [readU64_ite, leValue_eight, hv]
        rfl
      · next h0 h1 h2 h3 h4 h5 h6 =>
        simp only [leafPayload, if_neg h0, if_neg h1, if_neg h2, if_neg h3, if_neg h4, if_neg h5,
          if_neg h6] at hp
        cases hp

/-- ReadNumeric decodes every numeric leaf as the format's table says, at every offset of every
byte string; and from each encoding that can hold a value it reads that value back, widened to 64
bits, leaving what follows unread. -/
theorem readNumeric_decodes (D : Bytes) (o : Nat) :
    readNumeric ⟨D, o⟩ = numericLeaf D o ∧
    ∀ (n : Numeric) (rest : Bytes), n.Valid → D.drop o = n.encode ++ rest →
      readNumeric ⟨D, o⟩ = .ok n.value ⟨D, o + n.encode.length⟩ ∧
        D.drop (o + n.encode.length) = rest :=
  ⟨readNumeric_eq_numericLeaf D o, fun _ _ hn h => readNumeric_at hn h⟩

end PdbGo.Stream
