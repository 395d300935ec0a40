import PdbGo.Core.Bytes

/-! The random-access byte source behind an MSF file, and the log of reads made on it.
The source is a byte string read as `bytes.Reader.ReadAt` reads one. -/
namespace PdbGo

/-- One call of the source's `ReadAt`: where it started and how many bytes it asked for. -/
structure Access where
  off : Nat
  len : Nat
  deriving DecidableEq, Repr

/-- `ReadAt(p[:len], off)` on the source: at most `len` bytes, with `io.EOF` when fewer. -/
def sourceReadAt (src : Bytes) (len off : Nat) : Bytes × Option GoError :=
  if off ≥ src.length then ([], some ioEOF)
  else
    let got := (src.drop off).take len
    (got, if got.length < len then some ioEOF else none)

/-- Every byte a log of reads asked for lies below `limit`. -/
def Access.below (limit : Nat) (a : Access) : Prop := a.off + a.len ≤ limit

instance (limit : Nat) (a : Access) : Decidable (a.below limit) :=
  inferInstanceAs (Decidable (a.off + a.len ≤ limit))

section Lemmas
variable {src : Bytes} {len off : Nat}

theorem sourceReadAt_of_le (h : off + len ≤ src.length) (hlen : 0 < len) :
    sourceReadAt src len off = ((src.drop off).take len, none) := by
  simp only [sourceReadAt, show ¬ off ≥ src.length by omega, if_false, List.length_take,
    List.length_drop, Prod.mk.injEq, true_and]
  simp only [ite_eq_right_iff]
  omega

theorem sourceReadAt_fst : (sourceReadAt src len off).1 = (src.drop off).take len := by
  unfold sourceReadAt
  split
  · simp [List.drop_of_length_le (by omega : src.length ≤ off)]
  · rfl

theorem sourceReadAt_none_length (h : (sourceReadAt src len off).2 = none) :
    (sourceReadAt src len off).1.length = len := by
  unfold sourceReadAt at h ⊢
  by_cases h0 : off ≥ src.length
  · simp [h0] at h
  · simp only [h0, if_false, List.length_take, List.length_drop] at h ⊢
    by_cases h1 : min len (src.length - off) < len
    · simp [h1] at h
    · omega

theorem sourceReadAt_length_le : (sourceReadAt src len off).1.length ≤ len := by
  unfold sourceReadAt
  split <;> simp [Nat.min_le_left]

end Lemmas

end PdbGo
