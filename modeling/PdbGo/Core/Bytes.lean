import Mathlib.Data.List.Basic

/-! Byte strings, Go's fixed-width unsigned words and Go's error values.
A `uint32` is `Fin 4294967296`, so `+`, `-` and `*` wrap exactly as Go's do. -/
namespace PdbGo

abbrev U8 := UInt8
abbrev U16 := Fin 65536
abbrev U32 := Fin 4294967296
abbrev U64 := Fin 18446744073709551616

/-- A Go byte slice, read by value. -/
abbrev Bytes := List U8

/-- Go's conversion `uint32(n)` of a non-negative count. -/
def u32 (n : Nat) : U32 := Fin.ofNat n

/-- Go's conversion `uint32(n)` of a signed value (two's complement wrap). -/
def u32OfInt (n : Int) : U32 := Fin.ofNat (n % 4294967296).toNat

/-- Go's `int64` arithmetic, wrapping to two's complement. -/
def i64 (v : Int) : Int := (v + 9223372036854775808) % 18446744073709551616 - 9223372036854775808

/-- Go's `uint64(v)` of a signed value. -/
def u64OfInt (v : Int) : U64 := Fin.ofNat (v % 18446744073709551616).toNat

/-- `binary.LittleEndian.Uint16(data[off:])`; callers check the bounds first. -/
def leU16 (bs : Bytes) (off : Nat) : U16 :=
  ⟨(bs.getD off 0).toNat + 256 * (bs.getD (off+1) 0).toNat, by
    have := (bs.getD off 0).toNat_lt_size; have := (bs.getD (off+1) 0).toNat_lt_size
    simp only [UInt8.size] at *; omega⟩

/-- `binary.LittleEndian.Uint32(data[off:])`. -/
def leU32 (bs : Bytes) (off : Nat) : U32 :=
  ⟨(leU16 bs off).val + 65536 * (leU16 bs (off+2)).val, by
    have := (leU16 bs off).isLt; have := (leU16 bs (off+2)).isLt; omega⟩

/-- `binary.LittleEndian.Uint64(data[off:])`. -/
def leU64 (bs : Bytes) (off : Nat) : U64 :=
  ⟨(leU32 bs off).val + 4294967296 * (leU32 bs (off+4)).val, by
    have := (leU32 bs off).isLt; have := (leU32 bs (off+4)).isLt; omega⟩

/-- Little-endian bytes of a `uint16`, the inverse of `leU16`. -/
def encU16 (v : Nat) : Bytes := [UInt8.ofNat (v % 256), UInt8.ofNat (v / 256 % 256)]

/-- Little-endian bytes of a `uint32`, the inverse of `leU32`. -/
def encU32 (v : Nat) : Bytes :=
  [UInt8.ofNat (v % 256), UInt8.ofNat (v / 256 % 256), UInt8.ofNat (v / 65536 % 256),
    UInt8.ofNat (v / 16777216 % 256)]

/-- Little-endian bytes of a `uint64`, the inverse of `leU64`. -/
def encU64 (v : Nat) : Bytes := encU32 (v % 4294967296) ++ encU32 (v / 4294967296 % 4294967296)

/-- The `k` consecutive little-endian words of `bs` starting at byte `off`. -/
def words (bs : Bytes) (off : Nat) : Nat → List U32
  | 0 => []
  | k+1 => leU32 bs off :: words bs (off+4) k

/-- Go error values: a sentinel made by `errors.New`, or one formatted by `fmt.Errorf`,
with or without a wrapped error. -/
inductive GoError where
  | new (text : String)
  | wrapf (format : String) (wrapped : GoError) (args : List Int)
  | errorf (format : String) (args : List Int)
  deriving DecidableEq, Repr

/-- How a Go call ends: it returns, it panics with a runtime error, or it hangs in a loop
whose iteration changes nothing and so repeats forever. -/
inductive Outcome (α : Type) where
  | ret (a : α)
  | panic (msg : String)
  | hang
  deriving DecidableEq, Repr

instance exceptDecidableEq {ε α : Type} [DecidableEq ε] [DecidableEq α] : DecidableEq (Except ε α)
  | .ok a, .ok b => if h : a = b then .isTrue (h ▸ rfl) else .isFalse fun e => by cases e; exact h rfl
  | .error a, .error b =>
    if h : a = b then .isTrue (h ▸ rfl) else .isFalse fun e => by cases e; exact h rfl
  | .ok _, .error _ => .isFalse fun e => by cases e
  | .error _, .ok _ => .isFalse fun e => by cases e

def ioEOF : GoError := .new "EOF"

section Lemmas

@[simp] theorem getD_append_left {l₁ l₂ : Bytes} {i : Nat} (h : i < l₁.length) :
    (l₁ ++ l₂).getD i 0 = l₁.getD i 0 := by
  simp [List.getD_eq_getElem?_getD, List.getElem?_append_left h]

@[simp] theorem getD_replicate_zero (n i : Nat) : (List.replicate n (0 : U8)).getD i 0 = 0 := by
  simp only [List.getD_eq_getElem?_getD, List.getElem?_replicate]
  split <;> rfl

theorem getD_of_lt {α : Type} (l : List α) (d : α) {k : Nat} (h : k < l.length) :
    l.getD k d = l[k] := by
  rw [List.getD_eq_getElem?_getD, List.getElem?_eq_getElem h, Option.getD_some]

theorem getD_drop (bs : Bytes) (i j : Nat) : (bs.drop i).getD j 0 = bs.getD (i+j) 0 := by
  simp [List.getD_eq_getElem?_getD, List.getElem?_drop]

theorem leU16_drop (bs : Bytes) (i j : Nat) : leU16 (bs.drop i) j = leU16 bs (i+j) := by
  simp only [leU16, getD_drop, Nat.add_assoc]

theorem leU32_drop (bs : Bytes) (i j : Nat) : leU32 (bs.drop i) j = leU32 bs (i+j) := by
  simp only [leU32, leU16, getD_drop, Nat.add_assoc]

theorem leU64_drop (bs : Bytes) (i j : Nat) : leU64 (bs.drop i) j = leU64 bs (i+j) := by
  simp only [leU64, leU32, leU16, getD_drop, Nat.add_assoc]

theorem leU32_append_left {l₁ l₂ : Bytes} {i : Nat} (h : i + 4 ≤ l₁.length) :
    leU32 (l₁ ++ l₂) i = leU32 l₁ i := by
  simp only [leU32, leU16, Nat.add_assoc, Fin.mk.injEq]
  rw [getD_append_left (by omega), getD_append_left (by omega), getD_append_left (by omega),
    getD_append_left (by omega)]

theorem leU32_encU32 (v : Nat) (hv : v < 4294967296) (rest : Bytes) :
    leU32 (encU32 v ++ rest) 0 = ⟨v, hv⟩ := by
  have byte (n : Nat) : (UInt8.ofNat (n % 256)).toNat = n % 256 :=
    UInt8.toNat_ofNat_of_lt (Nat.mod_lt _ (by decide))
  simp only [leU32, leU16, encU32, Fin.mk.injEq]
  simp [byte]
  omega

@[simp] theorem encU32_length (v : Nat) : (encU32 v).length = 4 := rfl

@[simp] theorem encU16_length (v : Nat) : (encU16 v).length = 2 := rfl

theorem leU16_encU16 (v : U16) (rest : Bytes) : leU16 (encU16 v.val ++ rest) 0 = v := by
  have byte (n : Nat) : (UInt8.ofNat (n % 256)).toNat = n % 256 :=
    UInt8.toNat_ofNat_of_lt (Nat.mod_lt _ (by decide))
  have hv := v.isLt
  ext
  simp only [leU16, encU16, List.cons_append, List.getD_cons_zero, List.getD_cons_succ, byte]
  omega

theorem leU32_at_encU32 (pre : Bytes) (v : U32) (rest : Bytes) :
    leU32 (pre ++ (encU32 v.val ++ rest)) pre.length = v := by
  have hd := leU32_drop (pre ++ (encU32 v.val ++ rest)) pre.length 0
  rw [Nat.add_zero, List.drop_left] at hd
  rw [← hd, leU32_encU32 v.val v.isLt]

theorem leU16_at_encU16 (pre : Bytes) (v : U16) (rest : Bytes) :
    leU16 (pre ++ (encU16 v.val ++ rest)) pre.length = v := by
  have hd := leU16_drop (pre ++ (encU16 v.val ++ rest)) pre.length 0
  rw [Nat.add_zero, List.drop_left] at hd
  rw [← hd, leU16_encU16]

@[simp] theorem encU64_length (v : Nat) : (encU64 v).length = 8 := rfl

theorem leU64_encU64 (v : U64) (rest : Bytes) : leU64 (encU64 v.val ++ rest) 0 = v := by
  have hv := v.isLt
  have hlo := leU32_encU32 (v.val % 4294967296) (Nat.mod_lt _ (by decide))
    (encU32 (v.val / 4294967296 % 4294967296) ++ rest)
  have hhi : leU32 (encU32 (v.val % 4294967296) ++ (encU32 (v.val / 4294967296 % 4294967296) ++ rest))
      4 = ⟨v.val / 4294967296 % 4294967296, Nat.mod_lt _ (by decide)⟩ :=
    leU32_at_encU32 (encU32 (v.val % 4294967296)) ⟨_, Nat.mod_lt _ (by decide)⟩ rest
  ext
  simp only [leU64, encU64, List.append_assoc, hlo, Nat.zero_add, hhi]
  omega

private theorem byte_of_mod {x : U8} {n : Nat} (h : n % 256 = x.toNat) : UInt8.ofNat n = x :=
  UInt8.toNat.inj (by rw [← h]; rfl)

theorem encU32_leU32 (data : Bytes) (i : Nat) (h : i + 4 ≤ data.length) :
    encU32 (leU32 data i).val = (data.drop i).take 4 := by
  have hd := leU32_drop data i 0
  rw [Nat.add_zero] at hd
  rw [← hd]
  obtain ⟨a, b, c, d, rest, hr⟩ : ∃ a b c d rest, data.drop i = a :: b :: c :: d :: rest := by
    match data.drop i, (show 4 ≤ (data.drop i).length by rw [List.length_drop]; omega) with
    | a :: b :: c :: d :: rest, _ => exact ⟨a, b, c, d, rest, rfl⟩
  rw [hr]
  have ha := a.toNat_lt_size; have hb := b.toNat_lt_size
  have hc := c.toNat_lt_size; have hd := d.toNat_lt_size
  simp only [UInt8.size] at ha hb hc hd
  simp only [encU32, leU32, leU16, List.getD_cons_zero, List.getD_cons_succ, List.take_succ_cons,
    List.take_zero, List.cons.injEq, and_true]
  exact ⟨byte_of_mod (by omega), byte_of_mod (by omega), byte_of_mod (by omega), byte_of_mod (by omega)⟩

theorem encU16_leU16 (data : Bytes) (i : Nat) (h : i + 2 ≤ data.length) :
    encU16 (leU16 data i).val = (data.drop i).take 2 := by
  have hd := leU16_drop data i 0
  rw [Nat.add_zero] at hd
  rw [← hd]
  obtain ⟨a, b, rest, hr⟩ : ∃ a b rest, data.drop i = a :: b :: rest := by
    match data.drop i, (show 2 ≤ (data.drop i).length by rw [List.length_drop]; omega) with
    | a :: b :: rest, _ => exact ⟨a, b, rest, rfl⟩
  rw [hr]
  have ha := a.toNat_lt_size; have hb := b.toNat_lt_size
  simp only [UInt8.size] at ha hb
  simp only [encU16, leU16, List.getD_cons_zero, List.getD_cons_succ, List.take_succ_cons,
    List.take_zero, List.cons.injEq, and_true]
  exact ⟨byte_of_mod (by omega), byte_of_mod (by omega)⟩

@[simp] private theorem words_length (bs : Bytes) (off k : Nat) : (words bs off k).length = k := by
  induction k generalizing off <;> simp [words, *]

end Lemmas

end PdbGo
