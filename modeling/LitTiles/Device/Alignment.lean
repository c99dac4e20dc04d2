/-!
# Alignment

Devices want data at multiples of some number. `roundUp n a` is the least multiple of `a` that is
not less than `n`.
-/

namespace LitTiles

/-- The least multiple of `a` from `n` on. -/
def roundUp (n a : Nat) : Nat := (n + a - 1) / a * a

theorem dvd_roundUp (n a : Nat) : a ∣ roundUp n a := Nat.dvd_mul_left a _

theorem le_roundUp (n : Nat) {a : Nat} (h : 0 < a) : n ≤ roundUp n a := by
  have := Nat.div_add_mod (n + a - 1) a
  have := Nat.mod_lt (n + a - 1) h
  rw [roundUp, Nat.mul_comm]
  omega

theorem roundUp_lt (n : Nat) {a : Nat} (h : 0 < a) : roundUp n a < n + a := by
  have := Nat.div_mul_le_self (n + a - 1) a
  rw [roundUp]
  omega

end LitTiles
