/-! Natural numbers as octets, the high one first. -/

namespace BackendRegistrar.Octets

/-- The last octets of a number, as many as `size`. -/
def ofNat : Nat → Nat → List UInt8
  | 0, _ => []
  | size + 1, n => ofNat size (n / 256) ++ [UInt8.ofNat n]

def toNat (bs : List UInt8) : Nat := bs.foldl (fun n b => n * 256 + b.toNat) 0

@[simp] theorem length_ofNat (size n : Nat) : (ofNat size n).length = size := by
  induction size generalizing n with
  | zero => rfl
  | succ size ih => simp [ofNat, ih]

theorem foldl_lt (bs : List UInt8) (n : Nat) :
    bs.foldl (fun n b => n * 256 + b.toNat) n < (n + 1) * Nat.pow 256 bs.length := by
  induction bs generalizing n with
  | nil => simp
  | cons b rest ih =>
    have small : b.toNat < 256 := b.toNat_lt
    have step : n * 256 + b.toNat + 1 ≤ (n + 1) * 256 := by omega
    calc rest.foldl (fun n b => n * 256 + b.toNat) (n * 256 + b.toNat)
        < (n * 256 + b.toNat + 1) * Nat.pow 256 rest.length := ih _
      _ ≤ (n + 1) * 256 * Nat.pow 256 rest.length := Nat.mul_le_mul_right _ step
      _ = (n + 1) * (Nat.pow 256 rest.length * 256) := by rw [Nat.mul_assoc, Nat.mul_comm 256]

theorem toNat_lt (bs : List UInt8) : toNat bs < Nat.pow 256 bs.length := by
  simpa [toNat] using foldl_lt bs 0

end BackendRegistrar.Octets
