import PdbGo.Core.Bytes

/-! The bounded little-endian reader of package stream.
A read is a step of `EStateM`, so a failed read still returns the reader it leaves behind. -/
namespace PdbGo.Stream

def errUnexpectedEOF : GoError := .new "stream: unexpected end of data"
def errInvalidNumeric : GoError := .new "stream: invalid numeric encoding"

structure Reader where
  data : Bytes
  offset : Nat
  deriving DecidableEq, Repr

abbrev ReadM := EStateM GoError Reader

def newReader (data : Bytes) : Reader := ⟨data, 0⟩

/-- A parser run over a byte slice from its start, as `stream.NewReader(data)`. -/
def runParser {α : Type} (p : ReadM α) (data : Bytes) : Except GoError α :=
  match p (newReader data) with
  | .ok a _ => .ok a
  | .error e _ => .error e

def Reader.remaining (r : Reader) : Nat :=
  if r.offset ≥ r.data.length then 0 else r.data.length - r.offset

def skip (n : Nat) : ReadM Unit := fun r =>
  if r.offset + n > r.data.length then .error errUnexpectedEOF r
  else .ok () { r with offset := r.offset + n }

def readU8 : ReadM U8 := fun r =>
  if r.offset ≥ r.data.length then .error errUnexpectedEOF r
  else .ok (r.data.getD r.offset 0) { r with offset := r.offset + 1 }

/-- PeekU8: the next byte, without moving the offset. -/
def peekU8 : ReadM U8 := fun r =>
  if r.offset ≥ r.data.length then .error errUnexpectedEOF r
  else .ok (r.data.getD r.offset 0) r

def readU16 : ReadM U16 := fun r =>
  if r.offset + 2 > r.data.length then .error errUnexpectedEOF r
  else .ok (leU16 r.data r.offset) { r with offset := r.offset + 2 }

def readU32 : ReadM U32 := fun r =>
  if r.offset + 4 > r.data.length then .error errUnexpectedEOF r
  else .ok (leU32 r.data r.offset) { r with offset := r.offset + 4 }

def readU64 : ReadM U64 := fun r =>
  if r.offset + 8 > r.data.length then .error errUnexpectedEOF r
  else .ok (leU64 r.data r.offset) { r with offset := r.offset + 8 }

/-- Two's-complement reading of a `bits`-wide unsigned value, Go's `intN(v)`. -/
def signed (bits v : Nat) : Int :=
  if v < Nat.pow 2 (bits - 1) then v else (v : Int) - (Nat.pow 2 bits : Int)

def readI8 : ReadM Int := fun r => match readU8 r with
  | .ok v r' => .ok (signed 8 v.toNat) r'
  | .error e r' => .error e r'

def readI16 : ReadM Int := fun r => match readU16 r with
  | .ok v r' => .ok (signed 16 v.val) r'
  | .error e r' => .error e r'

def readI32 : ReadM Int := fun r => match readU32 r with
  | .ok v r' => .ok (signed 32 v.val) r'
  | .error e r' => .error e r'

def readI64 : ReadM Int := fun r => match readU64 r with
  | .ok v r' => .ok (signed 64 v.val) r'
  | .error e r' => .error e r'

/-- ReadBytes: the next `n` bytes, copied out of the data. -/
def readBytes (n : Nat) : ReadM Bytes := fun r =>
  if r.offset + n > r.data.length then .error errUnexpectedEOF r
  else .ok ((r.data.drop r.offset).take n) { r with offset := r.offset + n }

/-- ReadBytesRef: the next `n` bytes, without copying. -/
def readBytesRef (n : Nat) : ReadM Bytes := fun r =>
  if r.offset + n > r.data.length then .error errUnexpectedEOF r
  else .ok ((r.data.drop r.offset).take n) { r with offset := r.offset + n }

/-- Align: round the offset up to a multiple of `alignment`; it never fails, even past the end. -/
def align (alignment : Nat) : ReadM Unit := fun r =>
  if alignment ≤ 1 then .ok () r
  else if r.offset % alignment ≠ 0 then .ok () { r with offset := r.offset + (alignment - r.offset % alignment) }
  else .ok () r

/-- The loop of ReadCString from `start`: it moves the offset one byte at a time and stops at the
first zero byte, or at the end of the data. `fuel` counts the bytes left to scan. -/
def readCStringLoop (start : Nat) : Nat → Reader → EStateM.Result GoError Reader Bytes
  | 0, r => .error errUnexpectedEOF r
  | fuel + 1, r =>
    if r.offset < r.data.length then
      if r.data.getD r.offset 0 = 0 then
        .ok ((r.data.drop start).take (r.offset - start)) { r with offset := r.offset + 1 }
      else readCStringLoop start fuel { r with offset := r.offset + 1 }
    else .error errUnexpectedEOF r

def readCString : ReadM Bytes := fun r => readCStringLoop r.offset (r.data.length - r.offset) r

/-- ReadNumeric: a CodeView numeric leaf, widened to 64 bits. -/
def readNumeric : ReadM U64 := do
  let leaf ← readU16
  if leaf.val < 0x8000 then return ⟨leaf.val, by omega⟩
  match leaf.val with
  | 0x8000 => return u64OfInt (← readI8)
  | 0x8001 => return u64OfInt (← readI16)
  | 0x8002 => return ⟨(← readU16).val, by omega⟩
  | 0x8003 => return u64OfInt (← readI32)
  | 0x8004 => return ⟨(← readU32).val, by omega⟩
  | 0x8009 => return u64OfInt (← readI64)
  | 0x800a => readU64
  | _ => throw errInvalidNumeric

/-- The bytes a numeric leaf takes up, its 2-byte leaf word included. -/
def numericSize (leaf : U16) : Nat :=
  if leaf.val < 0x8000 then 2 else
  match leaf.val with
  | 0x8000 => 3
  | 0x8001 | 0x8002 => 4
  | 0x8003 | 0x8004 => 6
  | 0x8009 | 0x800a => 10
  | _ => 2

/-- Where a read's result leaves the reader: at `onOk` of the value after a success, and at
`onErr` after a failure. -/
def Leaves {α : Type} (res : EStateM.Result GoError Reader α) (onOk : α → Reader) (onErr : Reader) :
    Prop :=
  match res with
  | .ok a r' => r' = onOk a
  | .error _ r' => r' = onErr

/-- A read is atomic when a failure leaves the reader as it was and a success moves the offset
forward by `size` of the reader and the value read, over the same data. -/
def Atomic {α : Type} (p : ReadM α) (size : Reader → α → Nat) : Prop :=
  ∀ r, Leaves (p r) (fun a => { r with offset := r.offset + size r a }) r

/-- A read that, when it succeeds, keeps the data and never moves the offset back. Every read
above is one, and so is every sequence of them; the parsers' loops terminate by it. -/
def Forward {α : Type} (p : ReadM α) : Prop :=
  ∀ r a r', p r = .ok a r' → r'.data = r.data ∧ r.offset ≤ r'.offset

/-- The reader a read leaves behind, whether it succeeded or failed. -/
def resultReader {α : Type} : EStateM.Result GoError Reader α → Reader
  | .ok _ r' => r'
  | .error _ r' => r'

/-- A read that keeps the data and never moves the offset back, even when it fails: the loop of
ParseFieldListRecord carries on from wherever a failed member left the reader. -/
def NoRewind {α : Type} (p : ReadM α) : Prop :=
  ∀ r, (resultReader (p r)).data = r.data ∧ r.offset ≤ (resultReader (p r)).offset

section Lemmas
variable {α β : Type} (r : Reader)

@[simp] theorem bind_apply (x : ReadM α) (f : α → ReadM β) :
    (x >>= f) r = match x r with
      | .ok a s => f a s
      | .error e s => .error e s := by
  show EStateM.bind x f r = _
  unfold EStateM.bind
  cases x r <;> rfl

@[simp] theorem pure_apply (a : α) : (pure a : ReadM α) r = .ok a r := rfl

@[simp] theorem map_apply (g : α → β) (x : ReadM α) :
    (g <$> x) r = match x r with
      | .ok a s => .ok (g a) s
      | .error e s => .error e s := by
  show EStateM.map g x r = _
  unfold EStateM.map
  cases x r <;> rfl

private theorem readCStringLoop_eq (start : Nat) : ∀ fuel (r : Reader), start ≤ r.offset →
    r.data.length - r.offset = fuel →
    readCStringLoop start fuel r =
      let s := (r.data.drop r.offset).takeWhile (· != 0)
      if (0 : U8) ∈ r.data.drop r.offset then
        .ok ((r.data.drop start).take (r.offset - start + s.length))
          { r with offset := r.offset + s.length + 1 }
      else .error errUnexpectedEOF { r with offset := max r.offset r.data.length }
  | 0, r, _, hf => by
    have hd : r.data.drop r.offset = [] := List.drop_eq_nil_of_le (by omega)
    simp only [readCStringLoop, hd, List.not_mem_nil, if_false,
      max_eq_left (by omega : r.data.length ≤ r.offset)]
  | fuel + 1, r, hs, hf => by
    have hlt : r.offset < r.data.length := by omega
    have hd : r.data.drop r.offset = r.data.getD r.offset 0 :: r.data.drop (r.offset + 1) := by
      rw [List.drop_eq_getElem_cons hlt, getD_of_lt _ _ hlt]
    rw [readCStringLoop, if_pos hlt]
    dsimp only
    rw [hd]
    generalize r.data.getD r.offset 0 = b
    by_cases h0 : b = 0
    · subst h0; simp
    · rw [if_neg h0, readCStringLoop_eq start fuel _ (by dsimp only; omega) (by dsimp only; omega)]
      have hne : (b != 0) = true := by simpa using h0
      simp only [List.takeWhile_cons, hne, if_true, List.mem_cons, List.length_cons, Ne.symm h0,
        false_or]
      split_ifs
      · congr 2 <;> omega
      · congr 2; omega

theorem readCString_eq : readCString r =
    let rest := r.data.drop r.offset
    if (0 : U8) ∈ rest then
      let s := rest.takeWhile (· != 0)
      .ok s { r with offset := r.offset + s.length + 1 }
    else .error errUnexpectedEOF { r with offset := max r.offset r.data.length } := by
  rw [readCString, readCStringLoop_eq _ _ _ (Nat.le_refl _) rfl]
  dsimp only
  split_ifs
  · rw [Nat.sub_self, Nat.zero_add, ← List.prefix_iff_eq_take.mp (List.takeWhile_prefix _)]
  · rfl

theorem remaining_pos : r.remaining > 0 ↔ r.offset < r.data.length := by
  unfold Reader.remaining; split <;> omega

theorem readU8_ok {v : U8} {r' : Reader} (h : readU8 r = .ok v r') :
    r.offset < r.data.length ∧ v = r.data.getD r.offset 0 ∧ r' = { r with offset := r.offset + 1 } := by
  unfold readU8 at h
  split at h
  · cases h
  · cases h; exact ⟨by omega, rfl, rfl⟩

theorem readU16_ok {v : U16} {r' : Reader} (h : readU16 r = .ok v r') :
    r.offset + 2 ≤ r.data.length ∧ v = leU16 r.data r.offset ∧ r' = { r with offset := r.offset + 2 } := by
  unfold readU16 at h
  split at h
  · cases h
  · cases h; exact ⟨by omega, rfl, rfl⟩

theorem readU32_ok {v : U32} {r' : Reader} (h : readU32 r = .ok v r') :
    r.offset + 4 ≤ r.data.length ∧ v = leU32 r.data r.offset ∧ r' = { r with offset := r.offset + 4 } := by
  unfold readU32 at h
  split at h
  · cases h
  · cases h; exact ⟨by omega, rfl, rfl⟩

theorem readU32_of_le (h : r.offset + 4 ≤ r.data.length) :
    readU32 r = .ok (leU32 r.data r.offset) { r with offset := r.offset + 4 } := by
  simp [readU32, show ¬ r.offset + 4 > r.data.length by omega]

theorem readU16_of_le (h : r.offset + 2 ≤ r.data.length) :
    readU16 r = .ok (leU16 r.data r.offset) { r with offset := r.offset + 2 } := by
  simp [readU16, show ¬ r.offset + 2 > r.data.length by omega]

theorem readU32_of_gt (h : r.data.length < r.offset + 4) : readU32 r = .error errUnexpectedEOF r := by
  simp [readU32, h]

theorem readU16_of_gt (h : r.data.length < r.offset + 2) : readU16 r = .error errUnexpectedEOF r := by
  simp [readU16, h]

/-! Where each read leaves the offset. -/

private theorem readU8_atomic : Atomic readU8 fun _ _ => 1 := by
  intro r; unfold readU8; split_ifs <;> rfl

theorem readU16_atomic : Atomic readU16 fun _ _ => 2 := by
  intro r; unfold readU16; split_ifs <;> rfl

theorem readU32_atomic : Atomic readU32 fun _ _ => 4 := by
  intro r; unfold readU32; split_ifs <;> rfl

private theorem readU64_atomic : Atomic readU64 fun _ _ => 8 := by
  intro r; unfold readU64; split_ifs <;> rfl

private theorem readI8_atomic : Atomic readI8 fun _ _ => 1 := by
  intro r; have h := readU8_atomic r; unfold readI8; revert h; cases readU8 r <;> exact id

private theorem readI16_atomic : Atomic readI16 fun _ _ => 2 := by
  intro r; have h := readU16_atomic r; unfold readI16; revert h; cases readU16 r <;> exact id

theorem readI32_atomic : Atomic readI32 fun _ _ => 4 := by
  intro r; have h := readU32_atomic r; unfold readI32; revert h; cases readU32 r <;> exact id

private theorem readI64_atomic : Atomic readI64 fun _ _ => 8 := by
  intro r; have h := readU64_atomic r; unfold readI64; revert h; cases readU64 r <;> exact id

private theorem readCString_offset : Leaves (readCString r) (fun s => { r with offset := r.offset + s.length + 1 })
    { r with offset := max r.offset r.data.length } := by
  rw [readCString_eq]; dsimp only; split_ifs <;> rfl

private theorem Atomic.bind_pure {p : ReadM α} {n : Nat} (hp : Atomic p fun _ _ => n)
    (g : α → β) : Atomic (p >>= fun a => pure (g a)) fun _ _ => n := by
  intro r; have h := hp r; rw [bind_apply]; revert h; cases p r <;> exact id

private theorem Atomic.after {p : ReadM α} {n : Nat} (hp : Atomic p fun _ _ => n) (k : Nat) :
    Leaves (p { r with offset := r.offset + k })
      (fun _ => { r with offset := r.offset + (k + n) }) { r with offset := r.offset + k } := by
  rw [← Nat.add_assoc]; exact hp _

theorem Atomic.forward {p : ReadM α} {size : Reader → α → Nat} (hp : Atomic p size) :
    Forward p := by
  intro r a r' h
  have hr : r' = { r with offset := r.offset + size r a } := by have := hp r; rwa [h] at this
  rw [hr]
  exact ⟨rfl, Nat.le_add_right _ _⟩

theorem Forward.bind {x : ReadM α} {f : α → ReadM β} (hx : Forward x) (hf : ∀ a, Forward (f a)) :
    Forward (x >>= f) := by
  intro r b r' h
  rw [bind_apply] at h
  split at h
  next a r1 hx1 =>
    obtain ⟨hd1, ho1⟩ := hx r a r1 hx1
    obtain ⟨hd2, ho2⟩ := hf a r1 b r' h
    exact ⟨hd2.trans hd1, ho1.trans ho2⟩
  next => cases h

theorem Forward.pure (a : α) : Forward (pure a : ReadM α) := by
  intro r b r' h
  rw [pure_apply] at h
  cases h
  exact ⟨rfl, Nat.le_refl _⟩

theorem Forward.throw (e : GoError) : Forward (throw e : ReadM α) := by
  intro r b r' h
  cases h

theorem Forward.ite {c : Prop} [Decidable c] {x y : ReadM α} (hx : Forward x) (hy : Forward y) :
    Forward (if c then x else y) := by
  split <;> assumption

theorem readCString_forward : Forward readCString := by
  intro r s r' h
  have hr : r' = { r with offset := r.offset + s.length + 1 } := by
    have := readCString_offset r; rwa [h] at this
  rw [hr]
  exact ⟨rfl, by dsimp only; omega⟩

theorem align_forward (alignment : Nat) : Forward (align alignment) := by
  intro r u r' h
  unfold align at h
  split_ifs at h <;> cases h <;> exact ⟨rfl, by simp⟩

private theorem readNumeric_offset : Leaves (readNumeric r)
    (fun _ => { r with offset := r.offset + numericSize (leU16 r.data r.offset) })
    (if r.offset + 2 ≤ r.data.length then { r with offset := r.offset + 2 } else r) := by
  by_cases hlen : r.offset + 2 ≤ r.data.length
  · rw [if_pos hlen]
    generalize hres : readNumeric r = res
    unfold readNumeric at hres
    rw [bind_apply, readU16_of_le r hlen] at hres
    dsimp only at hres
    unfold numericSize
    generalize leU16 r.data r.offset = leaf at hres ⊢
    split at hres
    next hsmall => subst hres; rw [if_pos hsmall]; rfl
    next hlarge =>
      rw [if_neg hlarge]
      rw [bind_apply, pure_apply] at hres
      dsimp only at hres
      split at hres <;> rw [← hres] <;> try rw [‹leaf.val = _›]
      · exact (readI8_atomic.bind_pure u64OfInt).after r 2
      · exact (readI16_atomic.bind_pure u64OfInt).after r 2
      · exact (readU16_atomic.bind_pure _).after r 2
      · exact (readI32_atomic.bind_pure u64OfInt).after r 2
      · exact (readU32_atomic.bind_pure _).after r 2
      · exact (readI64_atomic.bind_pure u64OfInt).after r 2
      · exact readU64_atomic.after r 2
      · rfl
  · rw [if_neg hlen]; unfold readNumeric; rw [bind_apply, readU16_of_gt r (by omega)]; rfl

private theorem Leaves.noRewind {p : ReadM α} {onOk : Reader → α → Reader} {onErr : Reader → Reader}
    (h : ∀ r, Leaves (p r) (onOk r) (onErr r))
    (hok : ∀ r a, (onOk r a).data = r.data ∧ r.offset ≤ (onOk r a).offset)
    (herr : ∀ r, (onErr r).data = r.data ∧ r.offset ≤ (onErr r).offset) : NoRewind p := by
  intro r
  have hr := h r
  revert hr
  cases p r with
  | ok a r' => intro hr; rw [resultReader, hr]; exact hok r a
  | error e r' => intro hr; rw [resultReader, hr]; exact herr r

theorem Atomic.noRewind {p : ReadM α} {size : Reader → α → Nat} (hp : Atomic p size) : NoRewind p :=
  Leaves.noRewind hp (fun _ _ => ⟨rfl, Nat.le_add_right _ _⟩) fun _ => ⟨rfl, Nat.le_refl _⟩

theorem readCString_noRewind : NoRewind readCString :=
  Leaves.noRewind readCString_offset (fun r _ => ⟨rfl, by dsimp only; omega⟩)
    fun r => ⟨rfl, Nat.le_max_left _ _⟩

theorem readNumeric_noRewind : NoRewind readNumeric :=
  Leaves.noRewind readNumeric_offset (fun _ _ => ⟨rfl, Nat.le_add_right _ _⟩)
    fun r => by split; exacts [⟨rfl, Nat.le_add_right _ _⟩, ⟨rfl, Nat.le_refl _⟩]

theorem NoRewind.bind {x : ReadM α} {f : α → ReadM β} (hx : NoRewind x) (hf : ∀ a, NoRewind (f a)) :
    NoRewind (x >>= f) := by
  intro r
  have h1 := hx r
  rw [bind_apply]
  revert h1
  cases x r with
  | ok a r1 => intro h1; have h2 := hf a r1; exact ⟨h2.1.trans h1.1, h1.2.trans h2.2⟩
  | error e r1 => exact id

theorem NoRewind.pure (a : α) : NoRewind (pure a : ReadM α) := fun _ => ⟨rfl, Nat.le_refl _⟩

theorem NoRewind.map {p : ReadM α} (hp : NoRewind p) (g : α → β) : NoRewind (g <$> p) :=
  hp.bind fun a => .pure (g a)

theorem NoRewind.ite {c : Prop} [Decidable c] {x y : ReadM α} (hx : NoRewind x) (hy : NoRewind y) :
    NoRewind (if c then x else y) := by
  split <;> assumption

end Lemmas

/-! Reads over the encoding of a value: each returns the value and leaves the bytes after it. -/

/-- A CodeView numeric leaf in one of the encodings ReadNumeric reads: a value below `0x8000`
is its own leaf word; any other follows a leaf word that names its type. -/
inductive Numeric where
  | direct (v : Nat)
  | char (v : Int)
  | short (v : Int)
  | ushort (v : Nat)
  | long (v : Int)
  | ulong (v : Nat)
  | quadword (v : Int)
  | uquadword (v : Nat)
  deriving DecidableEq, Repr

namespace Numeric

/-- The value fits the type its leaf names. -/
def Valid : Numeric → Prop
  | direct v => v < 0x8000
  | char v => -128 ≤ v ∧ v < 128
  | short v => -32768 ≤ v ∧ v < 32768
  | ushort v => v < 65536
  | long v => -2147483648 ≤ v ∧ v < 2147483648
  | ulong v => v < 4294967296
  | quadword v => -9223372036854775808 ≤ v ∧ v < 9223372036854775808
  | uquadword v => v < 18446744073709551616

instance : DecidablePred Valid
  | direct v => inferInstanceAs (Decidable (v < 0x8000))
  | char v => inferInstanceAs (Decidable (-128 ≤ v ∧ v < 128))
  | short v => inferInstanceAs (Decidable (-32768 ≤ v ∧ v < 32768))
  | ushort v => inferInstanceAs (Decidable (v < 65536))
  | long v => inferInstanceAs (Decidable (-2147483648 ≤ v ∧ v < 2147483648))
  | ulong v => inferInstanceAs (Decidable (v < 4294967296))
  | quadword v => inferInstanceAs (Decidable (-9223372036854775808 ≤ v ∧ v < 9223372036854775808))
  | uquadword v => inferInstanceAs (Decidable (v < 18446744073709551616))

/-- The value ReadNumeric widens the leaf to. -/
def value : Numeric → U64
  | direct v | ushort v | ulong v | uquadword v => Fin.ofNat v
  | char v | short v | long v | quadword v => u64OfInt v

def encode : Numeric → Bytes
  | direct v => encU16 v
  | char v => encU16 0x8000 ++ [UInt8.ofNat (v % 256).toNat]
  | short v => encU16 0x8001 ++ encU16 (v % 65536).toNat
  | ushort v => encU16 0x8002 ++ encU16 v
  | long v => encU16 0x8003 ++ encU32 (u32OfInt v).val
  | ulong v => encU16 0x8004 ++ encU32 v
  | quadword v => encU16 0x8009 ++ encU64 (v % 18446744073709551616).toNat
  | uquadword v => encU16 0x800a ++ encU64 v

end Numeric


section Encodings
variable {D rest : Bytes} {o : Nat}

theorem drop_past {x : Bytes} (h : D.drop o = x ++ rest) : D.drop (o + x.length) = rest := by
  rw [← List.drop_drop, h, List.drop_left]

private theorem le_of_drop {x : Bytes} (hx : 0 < x.length) (h : D.drop o = x ++ rest) :
    o + x.length ≤ D.length := by
  have := congrArg List.length h
  simp only [List.length_drop, List.length_append] at this
  omega

theorem readU16_at {v : U16} (h : D.drop o = encU16 v.val ++ rest) :
    readU16 ⟨D, o⟩ = .ok v ⟨D, o + 2⟩ ∧ D.drop (o + 2) = rest := by
  have hle := le_of_drop (by simp) h
  refine ⟨?_, drop_past h⟩
  rw [readU16_of_le ⟨D, o⟩ hle]
  dsimp only
  rw [← Nat.add_zero o, ← leU16_drop, h, leU16_encU16]

theorem readU32_at {v : U32} (h : D.drop o = encU32 v.val ++ rest) :
    readU32 ⟨D, o⟩ = .ok v ⟨D, o + 4⟩ ∧ D.drop (o + 4) = rest := by
  have hle := le_of_drop (by simp) h
  refine ⟨?_, drop_past h⟩
  rw [readU32_of_le ⟨D, o⟩ hle]
  dsimp only
  rw [← Nat.add_zero o, ← leU32_drop, h, leU32_encU32 v.val v.isLt]

private theorem signed_u32OfInt (v : Int) (h1 : -2147483648 ≤ v) (h2 : v < 2147483648) :
    signed 32 (u32OfInt v).val = v := by
  have hv : (u32OfInt v).val = (v % 4294967296).toNat % 4294967296 := rfl
  have hp : Nat.pow 2 (32 - 1) = 2147483648 := rfl
  have hq : Nat.pow 2 32 = 4294967296 := rfl
  unfold signed
  rw [hv, hp, hq]
  split_ifs <;> omega

theorem readI32_at {v : Int} (h1 : -2147483648 ≤ v) (h2 : v < 2147483648)
    (h : D.drop o = encU32 (u32OfInt v).val ++ rest) :
    readI32 ⟨D, o⟩ = .ok v ⟨D, o + 4⟩ ∧ D.drop (o + 4) = rest := by
  obtain ⟨hr, hd⟩ := readU32_at h
  refine ⟨?_, hd⟩
  unfold readI32
  rw [hr]
  dsimp only
  rw [signed_u32OfInt v h1 h2]

theorem readU8_at {b : U8} (h : D.drop o = b :: rest) :
    readU8 ⟨D, o⟩ = .ok b ⟨D, o + 1⟩ ∧ D.drop (o + 1) = rest := by
  have hle := le_of_drop (x := [b]) (by simp) h
  rw [List.length_singleton] at hle
  refine ⟨?_, drop_past (x := [b]) h⟩
  have hb : D.getD o 0 = b := by rw [← Nat.add_zero o, ← getD_drop, h]; rfl
  rw [readU8, if_neg (by simp only; omega), hb]

private theorem readU64_at {v : U64} (h : D.drop o = encU64 v.val ++ rest) :
    readU64 ⟨D, o⟩ = .ok v ⟨D, o + 8⟩ ∧ D.drop (o + 8) = rest := by
  have hle := le_of_drop (by simp) h
  rw [encU64_length] at hle
  refine ⟨?_, drop_past h⟩
  rw [readU64, if_neg (by simp only; omega)]
  dsimp only
  rw [← Nat.add_zero o, ← leU64_drop, h, leU64_encU64]

private theorem signed_eight (v : Int) (h1 : -128 ≤ v) (h2 : v < 128) : signed 8 (v % 256).toNat = v := by
  have hp : Nat.pow 2 (8 - 1) = 128 := rfl
  have hq : Nat.pow 2 8 = 256 := rfl
  unfold signed
  rw [hp, hq]
  split_ifs <;> omega

private theorem signed_sixteen (v : Int) (h1 : -32768 ≤ v) (h2 : v < 32768) :
    signed 16 (v % 65536).toNat = v := by
  have hp : Nat.pow 2 (16 - 1) = 32768 := rfl
  have hq : Nat.pow 2 16 = 65536 := rfl
  unfold signed
  rw [hp, hq]
  split_ifs <;> omega

private theorem signed_sixtyFour (v : Int) (h1 : -9223372036854775808 ≤ v) (h2 : v < 9223372036854775808) :
    signed 64 (v % 18446744073709551616).toNat = v := by
  have hp : Nat.pow 2 (64 - 1) = 9223372036854775808 := rfl
  have hq : Nat.pow 2 64 = 18446744073709551616 := rfl
  unfold signed
  rw [hp, hq]
  split_ifs <;> omega

private theorem readI8_at {v : Int} (h1 : -128 ≤ v) (h2 : v < 128)
    (h : D.drop o = UInt8.ofNat (v % 256).toNat :: rest) :
    readI8 ⟨D, o⟩ = .ok v ⟨D, o + 1⟩ ∧ D.drop (o + 1) = rest := by
  obtain ⟨hr, hd⟩ := readU8_at h
  refine ⟨?_, hd⟩
  unfold readI8
  rw [hr]
  dsimp only
  rw [UInt8.toNat_ofNat_of_lt (show (v % 256).toNat < 256 by omega), signed_eight v h1 h2]

private theorem readI16_at {v : Int} (h1 : -32768 ≤ v) (h2 : v < 32768)
    (h : D.drop o = encU16 (v % 65536).toNat ++ rest) :
    readI16 ⟨D, o⟩ = .ok v ⟨D, o + 2⟩ ∧ D.drop (o + 2) = rest := by
  obtain ⟨hr, hd⟩ := readU16_at (v := ⟨(v % 65536).toNat, by omega⟩) h
  refine ⟨?_, hd⟩
  unfold readI16
  rw [hr]
  dsimp only
  rw [signed_sixteen v h1 h2]

private theorem readI64_at {v : Int} (h1 : -9223372036854775808 ≤ v) (h2 : v < 9223372036854775808)
    (h : D.drop o = encU64 (v % 18446744073709551616).toNat ++ rest) :
    readI64 ⟨D, o⟩ = .ok v ⟨D, o + 8⟩ ∧ D.drop (o + 8) = rest := by
  obtain ⟨hr, hd⟩ := readU64_at (v := ⟨(v % 18446744073709551616).toNat, by omega⟩) h
  refine ⟨?_, hd⟩
  unfold readI64
  rw [hr]
  dsimp only
  rw [signed_sixtyFour v h1 h2]

theorem readCString_at {s : Bytes} (hs : (0 : U8) ∉ s) (h : D.drop o = s ++ 0 :: rest) :
    readCString ⟨D, o⟩ = .ok s ⟨D, o + s.length + 1⟩ ∧ D.drop (o + s.length + 1) = rest := by
  have hd := drop_past (x := s ++ [0]) (by rw [List.append_assoc]; exact h)
  simp only [List.length_append, List.length_singleton, ← Nat.add_assoc] at hd
  refine ⟨?_, hd⟩
  have hw : (s ++ 0 :: rest).takeWhile (· != 0) = s := by
    rw [List.takeWhile_append_of_pos (fun a ha => by
      have : a ≠ 0 := fun e => hs (e ▸ ha)
      simpa using this)]
    simp
  rw [readCString_eq]
  dsimp only
  rw [h, if_pos (by simp), hw]

theorem readNumeric_at {n : Numeric} (hn : n.Valid) (h : D.drop o = n.encode ++ rest) :
    readNumeric ⟨D, o⟩ = .ok n.value ⟨D, o + n.encode.length⟩ ∧ D.drop (o + n.encode.length) = rest := by
  have leaf (k : Nat) (hk : k < 65536) {p : Bytes} (hp : n.encode = encU16 k ++ p) :=
    readU16_at (v := ⟨k, hk⟩) (by rw [h, hp, List.append_assoc])
  cases n
  case direct v =>
    have hv : v < 32768 := hn
    obtain ⟨r1, hd⟩ := readU16_at (v := ⟨v, by omega⟩) h
    refine ⟨?_, hd⟩
    simp only [readNumeric, bind_apply, r1, if_pos hv, pure_apply, Numeric.value, Fin.ofNat,
      Nat.mod_eq_of_lt (show v < 18446744073709551616 by omega)]
    rfl
  -- the leaf word picks the payload read, which reads the value back
  all_goals
    obtain ⟨r1, hd1⟩ := leaf _ (by decide) rfl
    obtain ⟨r2, hd2⟩ : _ ∧ _ := by
      first
        | exact readI8_at hn.1 hn.2 hd1 | exact readI16_at hn.1 hn.2 hd1
        | exact readI32_at hn.1 hn.2 hd1 | exact readI64_at hn.1 hn.2 hd1
        | exact readU16_at (v := ⟨_, hn⟩) hd1 | exact readU32_at (v := ⟨_, hn⟩) hd1
        | exact readU64_at (v := ⟨_, hn⟩) hd1
    refine ⟨?_, hd2⟩
    simp only [readNumeric, bind_apply, r1]
    rw [if_neg (by decide)]
    simp only [bind_apply, pure_apply, r2]
    first
      | rfl
      | exact congrArg (EStateM.Result.ok · _) (Fin.ext (Nat.mod_eq_of_lt (by
          unfold Numeric.Valid at hn; omega)).symm)

theorem align_four (r : Reader) :
    align 4 r = .ok () { r with offset := r.offset + (4 - r.offset % 4) % 4 } := by
  unfold align
  by_cases h : r.offset % 4 = 0
  · rw [if_neg (by decide), if_neg (by omega), h]; rfl
  · rw [if_neg (by decide), if_pos h, Nat.mod_eq_of_lt (by omega : 4 - r.offset % 4 < 4)]

end Encodings

/-- Failed reads that still move the offset: a string with no terminator, a numeric leaf whose
payload is cut off, and an unknown numeric leaf. -/
theorem failed_reads_move_offset :
    readCString ⟨[0x41], 0⟩ = .error errUnexpectedEOF ⟨[0x41], 1⟩ ∧
    readNumeric ⟨[0x02, 0x80], 0⟩ = .error errUnexpectedEOF ⟨[0x02, 0x80], 2⟩ ∧
    readNumeric ⟨[0x05, 0x80], 0⟩ = .error errInvalidNumeric ⟨[0x05, 0x80], 2⟩ :=
  ⟨rfl, rfl, rfl⟩

end PdbGo.Stream
