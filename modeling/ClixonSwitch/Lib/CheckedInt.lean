import Mathlib.Algebra.Order.Group.Unbundled.Int
import Mathlib.Tactic.NormNum

/-!
Arithmetic of a signed 64-bit type as Rust checks it: an operation has a value only if
the result is in range. Division truncates; `divEuclid` rounds down for a positive
divisor.
-/
namespace ClixonSwitch.Lib.CheckedInt

def checked (x : Int) : Option Int :=
  if -2 ^ 63 ≤ x ∧ x < 2 ^ 63 then some x else none

def add (x y : Int) : Option Int := checked (x + y)

def sub (x y : Int) : Option Int := checked (x - y)

def mul (x y : Int) : Option Int := checked (x * y)

def div (x y : Int) : Option Int := if y = 0 then none else checked (x.tdiv y)

def divEuclid (x y : Int) : Option Int := if y = 0 then none else checked (x / y)

section InRange
variable {x y : Int}

theorem checked_of_range (low : -2 ^ 63 ≤ x) (high : x < 2 ^ 63) : checked x = some x :=
  if_pos ⟨low, high⟩

theorem divEuclid_of_range (hx : 0 ≤ x) (high : x < 2 ^ 63) (hy : 0 < y) :
    divEuclid x y = some (x / y) := by
  have hlow : 0 ≤ x / y := Int.ediv_nonneg hx hy.le
  have hhigh : x / y ≤ x := Int.ediv_le_self y hx
  rw [divEuclid, if_neg hy.ne']
  exact checked_of_range (by omega) (by omega)

/-- On numbers that are not negative both divisions are the same. -/
theorem div_of_range (hx : 0 ≤ x) (high : x < 2 ^ 63) (hy : 0 < y) : div x y = some (x / y) := by
  rw [← divEuclid_of_range hx high hy, div, divEuclid, Int.tdiv_eq_ediv_of_nonneg hx]

end InRange

/-! Operations on natural numbers, where one of them may be a numeral. -/
section NatCast
variable {a b : Nat}

theorem add_natCast (h : a + b < 2 ^ 63) : add a b = some ((a + b : Nat) : Int) :=
  checked_of_range (by omega) (by omega)

theorem sub_natCast (hle : b ≤ a) (h : a < 2 ^ 63) : sub a b = some ((a - b : Nat) : Int) := by
  rw [Int.ofNat_sub hle]
  exact checked_of_range (by omega) (by omega)

theorem mul_natCast (h : a * b < 2 ^ 63) : mul a b = some ((a * b : Nat) : Int) :=
  checked_of_range (x := ((a * b : Nat) : Int)) (by omega) (by omega)

variable {n : Nat} [n.AtLeastTwo]

theorem add_ofNat (h : a + ofNat(n) < 2 ^ 63) :
    add a ofNat(n) = some ((a + ofNat(n) : Nat) : Int) := by
  rw [← add_natCast h, Nat.cast_ofNat]

theorem sub_ofNat (hle : ofNat(n) ≤ a) (h : a < 2 ^ 63) :
    sub a ofNat(n) = some ((a - ofNat(n) : Nat) : Int) := by
  rw [← sub_natCast hle h, Nat.cast_ofNat]

theorem mul_ofNat (h : a * ofNat(n) < 2 ^ 63) :
    mul a ofNat(n) = some ((a * ofNat(n) : Nat) : Int) := by
  rw [← mul_natCast h, Nat.cast_ofNat]

theorem ofNat_mul (h : ofNat(n) * a < 2 ^ 63) :
    mul ofNat(n) a = some ((ofNat(n) * a : Nat) : Int) := by
  rw [← mul_natCast h, Nat.cast_ofNat]

theorem divEuclid_ofNat (h : a < 2 ^ 63) :
    divEuclid a ofNat(n) = some ((a / ofNat(n) : Nat) : Int) := by
  rw [Int.natCast_ediv, Nat.cast_ofNat]
  exact divEuclid_of_range (Int.natCast_nonneg a) (by omega) (Nat.ofNat_pos)

theorem div_ofNat (h : a < 2 ^ 63) : div a ofNat(n) = some ((a / ofNat(n) : Nat) : Int) := by
  rw [Int.natCast_ediv, Nat.cast_ofNat]
  exact div_of_range (Int.natCast_nonneg a) (by omega) (Nat.ofNat_pos)

end NatCast
end ClixonSwitch.Lib.CheckedInt
