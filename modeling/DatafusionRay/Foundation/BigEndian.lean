import Mathlib

/-! Fixed-width big-endian byte strings. -/

namespace DatafusionRay.Foundation.BigEndian

/-- The last `width` base-256 digits of a number, most significant first. -/
def encode : Nat → Nat → List UInt8
  | 0, _ => []
  | width + 1, value => encode width (value / 256) ++ [UInt8.ofNat value]

def decode (bytes : List UInt8) : Nat := bytes.foldl (fun value byte => value * 256 + byte.toNat) 0

@[simp] theorem length_encode (width value : Nat) : (encode width value).length = width := by
  induction width generalizing value with
  | zero => rfl
  | succ width ih => simp [encode, ih]

theorem decode_encode (width value : Nat) : decode (encode width value) = value % 256 ^ width := by
  induction width generalizing value with
  | zero => simp [encode, decode, Nat.mod_one]
  | succ width ih =>
    have last : decode (encode width (value / 256) ++ [UInt8.ofNat value]) =
        decode (encode width (value / 256)) * 256 + value % 256 := by
      simp [decode, List.foldl_append]
    rw [encode, last, ih, Nat.pow_succ', Nat.mod_mul]
    omega

end DatafusionRay.Foundation.BigEndian
