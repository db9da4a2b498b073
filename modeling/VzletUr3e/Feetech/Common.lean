import Mathlib

/-!
# The conversions and codecs of the Feetech driver

The functions of `common.hpp`. A servo counts its position in ticks of a 4096-tick turn, and says
signed quantities in sign-magnitude, low byte first. The gripper's own unit is the metre, tied to
the servo's angle by a linear map.

Machine integers are `ℤ`: every value the driver passes here is far from the ends of a 32-bit
`int`. Doubles are an arbitrary type with the operations the conversions use, so that one model
serves the exact reading over `ℝ` and any machine arithmetic.
-/

namespace VzletUr3e.Feetech

/-! ## Exceptions and doubles -/

/-- The C++ exceptions the modelled functions can let out. -/
inductive Exception
  /-- `std::out_of_range`. -/
  | outOfRange (what : String)
  /-- `std::runtime_error`, as the serial library raises it when the device itself fails. -/
  | runtimeError (what : String)
  /-- `LibSerial::NotOpen`. -/
  | notOpen
deriving DecidableEq, Repr

/-- The operations on doubles that the conversions are written in. `toInt` is `static_cast<int>`,
which truncates where the result is an `int` and is unspecified elsewhere. -/
class CppDouble (K : Type) where
  add : K → K → K
  sub : K → K → K
  mul : K → K → K
  div : K → K → K
  /-- A literal, or an `int` promoted to `double`. -/
  lit : ℚ → K
  /-- `std::numbers::pi`. -/
  pi : K
  /-- `static_cast<int>`. -/
  toInt : K → ℤ

section Operators

-- The priority is low, so that `ℝ` keeps its own operations.
variable {K : Type} [CppDouble K]

instance (priority := low) instCppAdd : Add K := ⟨CppDouble.add⟩

instance (priority := low) instCppSub : Sub K := ⟨CppDouble.sub⟩

instance (priority := low) instCppMul : Mul K := ⟨CppDouble.mul⟩

instance (priority := low) instCppDiv : Div K := ⟨CppDouble.div⟩

end Operators

/-- Exact real arithmetic, with truncation towards zero. -/
noncomputable instance : CppDouble ℝ where
  add x y := x + y
  sub x y := x - y
  mul x y := x * y
  div x y := x / y
  lit q := (q : ℝ)
  pi := Real.pi
  toInt x := if 0 ≤ x then ⌊x⌋ else ⌈x⌉

/-! ## Unit conversions -/

section Conversions

variable {K : Type} [CppDouble K]

open CppDouble

def kStsResolution : ℚ := 4096

def kStsMidpoint : ℤ := 2048

def toRadians (data : ℤ) : K := lit data * lit 2 * pi / lit kStsResolution

def fromRadians (angle : K) : ℤ := toInt (angle * lit kStsResolution / (lit 2 * pi))

def toMeters (radians : K) : K := lit 0.012794 * (lit 2.670354 - radians)

def fromMeters (meters : K) : K := lit 2.670354 - meters / lit 0.012794

end Conversions

/-! Over the reals the two pairs of conversions undo each other. -/

theorem fromMeters_toMeters (radians : ℝ) : fromMeters (toMeters radians) = radians := by
  have h : ((0.012794 : ℚ) : ℝ) ≠ 0 := by norm_num
  change ((2.670354 : ℚ) : ℝ)
    - ((0.012794 : ℚ) : ℝ) * (((2.670354 : ℚ) : ℝ) - radians) / ((0.012794 : ℚ) : ℝ) = radians
  rw [mul_div_cancel_left₀ _ h]
  ring

theorem toInt_intCast (z : ℤ) : CppDouble.toInt (z : ℝ) = z := by
  change (if (0 : ℝ) ≤ (z : ℝ) then ⌊(z : ℝ)⌋ else ⌈(z : ℝ)⌉) = z
  rw [Int.floor_intCast, Int.ceil_intCast, ite_self]

theorem fromRadians_toRadians (data : ℤ) : fromRadians (toRadians data : ℝ) = data := by
  have hpi : (2 : ℝ) * Real.pi ≠ 0 := by positivity
  have h : (toRadians data : ℝ) * ((kStsResolution : ℚ) : ℝ) / (((2 : ℚ) : ℝ) * Real.pi)
      = (data : ℝ) := by
    change (((data : ℚ) : ℝ) * ((2 : ℚ) : ℝ) * Real.pi / ((kStsResolution : ℚ) : ℝ))
      * ((kStsResolution : ℚ) : ℝ) / (((2 : ℚ) : ℝ) * Real.pi) = (data : ℝ)
    rw [kStsResolution]
    push_cast
    field_simp
  change CppDouble.toInt ((toRadians data : ℝ) * ((kStsResolution : ℚ) : ℝ)
    / (((2 : ℚ) : ℝ) * Real.pi)) = data
  rw [h, toInt_intCast]

/-! ## Sign-magnitude -/

def encodeSignMagnitude (value : ℤ) (signBit : ℕ) : Except Exception ℤ :=
  let maxMagnitude : ℤ := (1 <<< signBit : ℕ) - 1
  let magnitude : ℕ := value.natAbs
  if maxMagnitude < magnitude then .error (.outOfRange "Magnitude exceeds max for sign bit")
  else .ok (if value < 0 then ((magnitude ||| 1 <<< signBit : ℕ) : ℤ) else value)

/-- On an `int`, `& 1` is the remainder by two and masking the low bits is the remainder by the
power of two, for negative values as well. -/
def decodeSignMagnitude (encoded : ℤ) (signBit : ℕ) : ℤ :=
  let isNegative : Bool := (encoded >>> signBit) % 2 = 1
  let magnitude : ℤ := encoded % (1 <<< signBit : ℕ)
  if isNegative then -magnitude else magnitude

theorem encodeSignMagnitude_eq (value : ℤ) (signBit : ℕ) :
    encodeSignMagnitude value signBit
      = if value.natAbs < 2 ^ signBit then
          .ok (if value < 0 then 2 ^ signBit + (value.natAbs : ℤ) else value)
        else .error (.outOfRange "Magnitude exceeds max for sign bit") := by
  have hpos : 0 < 2 ^ signBit := Nat.two_pow_pos signBit
  have hcast : ((1 <<< signBit : ℕ) : ℤ) = ((2 ^ signBit : ℕ) : ℤ) := by
    rw [Nat.one_shiftLeft]
  unfold encodeSignMagnitude
  by_cases h : value.natAbs < 2 ^ signBit
  · -- below the sign bit, or-ing it in is adding it
    have hor : value.natAbs ||| 1 <<< signBit = 2 ^ signBit + value.natAbs := by
      have := Nat.two_pow_add_eq_or_of_lt h 1
      rw [mul_one] at this
      rw [Nat.one_shiftLeft, Nat.or_comm, this]
    rw [if_pos h, if_neg (by rw [hcast]; omega), hor]
    push_cast
    rfl
  · rw [if_neg h, if_pos (by rw [hcast]; omega)]

/-- The encoder accepts exactly the magnitudes below the sign bit. -/
theorem encodeSignMagnitude_eq_ok_iff {value encoded : ℤ} {signBit : ℕ} :
    encodeSignMagnitude value signBit = .ok encoded ↔ value.natAbs < 2 ^ signBit ∧
      encoded = if value < 0 then 2 ^ signBit + (value.natAbs : ℤ) else value := by
  rw [encodeSignMagnitude_eq]
  by_cases h : value.natAbs < 2 ^ signBit
  · rw [if_pos h]
    simp only [Except.ok.injEq, h, true_and]
    exact eq_comm
  · rw [if_neg h]
    simp [h]

theorem encodeSignMagnitude_of_le {value : ℤ} {signBit : ℕ} (h : 2 ^ signBit ≤ value.natAbs) :
    encodeSignMagnitude value signBit
      = .error (.outOfRange "Magnitude exceeds max for sign bit") := by
  rw [encodeSignMagnitude_eq, if_neg (by omega)]

/-- An encoded word has the sign bit as its highest bit. -/
theorem encodeSignMagnitude_bounds {value encoded : ℤ} {signBit : ℕ}
    (h : encodeSignMagnitude value signBit = .ok encoded) :
    0 ≤ encoded ∧ encoded < 2 ^ (signBit + 1) := by
  obtain ⟨hlt, rfl⟩ := encodeSignMagnitude_eq_ok_iff.mp h
  have hlt' : (value.natAbs : ℤ) < 2 ^ signBit := by exact_mod_cast hlt
  rw [pow_succ]
  split <;> omega

theorem decodeSignMagnitude_of_lt {w : ℤ} {signBit : ℕ} (h0 : 0 ≤ w) (h : w < 2 ^ signBit) :
    decodeSignMagnitude w signBit = w := by
  have hz : w >>> signBit = 0 := by
    rw [Int.shiftRight_eq_div_pow]
    exact Int.ediv_eq_zero_of_lt h0 (by exact_mod_cast h)
  unfold decodeSignMagnitude
  rw [hz, Nat.one_shiftLeft]
  simpa using Int.emod_eq_of_lt h0 (by exact_mod_cast h)

theorem decodeSignMagnitude_add {m : ℤ} {signBit : ℕ} (h0 : 0 ≤ m) (h : m < 2 ^ signBit) :
    decodeSignMagnitude (2 ^ signBit + m) signBit = -m := by
  have hpos : (0 : ℤ) < 2 ^ signBit := by positivity
  have hdiv : (2 ^ signBit + m) >>> signBit = 1 := by
    rw [Int.shiftRight_eq_div_pow]
    push_cast
    rw [Int.add_ediv_of_dvd_left (dvd_refl _), Int.ediv_self hpos.ne',
      Int.ediv_eq_zero_of_lt h0 h, add_zero]
  have hmod : (2 ^ signBit + m) % ((2 ^ signBit : ℕ) : ℤ) = m := by
    push_cast
    rw [Int.add_emod_left, Int.emod_eq_of_lt h0 h]
  unfold decodeSignMagnitude
  rw [hdiv, Nat.one_shiftLeft, hmod]
  simp

/-- Decoding undoes encoding. -/
theorem decode_of_encode {value encoded : ℤ} {signBit : ℕ}
    (h : encodeSignMagnitude value signBit = .ok encoded) :
    decodeSignMagnitude encoded signBit = value := by
  obtain ⟨hlt, rfl⟩ := encodeSignMagnitude_eq_ok_iff.mp h
  have hlt' : (value.natAbs : ℤ) < 2 ^ signBit := by exact_mod_cast hlt
  by_cases hneg : value < 0
  · rw [if_pos hneg, decodeSignMagnitude_add (by omega) hlt']
    omega
  · rw [if_neg hneg, decodeSignMagnitude_of_lt (by omega) (by omega)]

/-! ## Words as two bytes -/

structure WordBytes where
  low : UInt8
  high : UInt8
deriving DecidableEq, Repr

def toSts (data : ℤ) : WordBytes where
  high := UInt8.ofInt (data >>> (8 : ℕ))
  low := UInt8.ofInt (data % 256)

def fromSts (word : WordBytes) : ℤ := (word.high.toNat <<< 8 : ℕ) + (word.low.toNat : ℤ)

theorem fromSts_eq (word : WordBytes) :
    fromSts word = 256 * (word.high.toNat : ℤ) + (word.low.toNat : ℤ) := by
  rw [fromSts, Nat.shiftLeft_eq]
  push_cast
  ring

theorem fromSts_nonneg (word : WordBytes) : 0 ≤ fromSts word := by
  rw [fromSts_eq]
  omega

theorem fromSts_lt (word : WordBytes) : fromSts word < 2 ^ 16 := by
  have hl := word.low.toNat_lt
  have hh := word.high.toNat_lt
  rw [fromSts_eq]
  omega

theorem toNat_ofInt (z : ℤ) : ((UInt8.ofInt z).toNat : ℤ) = z % 256 := by
  have h0 : 0 ≤ z % 256 := Int.emod_nonneg z (by norm_num)
  have h1 : z % 256 < 256 := Int.emod_lt_of_pos z (by norm_num)
  rw [UInt8.ofInt, UInt8.toNat_ofNat']
  omega

/-- A word of sixteen bits survives the split. -/
theorem fromSts_toSts {data : ℤ} (h0 : 0 ≤ data) (h : data < 2 ^ 16) :
    fromSts (toSts data) = data := by
  rw [fromSts_eq, toSts, toNat_ofInt, toNat_ofInt, Int.shiftRight_eq_div_pow]
  omega

end VzletUr3e.Feetech
