import Mathlib

/-!
# Decimals behind each other

What is left of numbers whose digits are written behind each other with nothing between them. A text
of digits is determined by its length and its value, so that two glued texts can be compared as
numbers: where the one is cut off and the other is not, the digits of the one go on in the other.

Nothing here looks at a digit. All that is used of the length of a number is between which powers of
ten the number lies.
-/

namespace Decimal

/-! ## Numbers -/

/-- How many digits a number has. Zero has one. -/
def len (n : ℕ) : ℕ := (Nat.toDigits 10 n).length

/-- The digits of `w` behind those of `s`, or alone if `s` is zero. -/
def glue (s w : ℕ) : ℕ := s * 10 ^ len w + w

theorem len_pos (n : ℕ) : 0 < len n := Nat.length_toDigits_pos

theorem len_le_iff {n k : ℕ} (h : 0 < k) : len n ≤ k ↔ n < 10 ^ k :=
  Nat.length_toDigits_le_iff (by decide) h

theorem lt_pow_len (n : ℕ) : n < 10 ^ len n := (len_le_iff (len_pos n)).mp le_rfl

theorem pow_le_of_lt_len {n k : ℕ} (h : k < len n) (hk : 0 < k) : 10 ^ k ≤ n :=
  not_lt.mp fun hlt ↦ absurd ((len_le_iff hk).mpr hlt) (by omega)

theorem len_eq_one {n : ℕ} (h : n < 10) : len n = 1 :=
  le_antisymm ((len_le_iff one_pos).mpr (by simpa using h)) (len_pos n)

/-- A number other than zero begins with a digit other than zero. -/
theorem pow_len_le {n : ℕ} (h : 0 < n) : 10 ^ (len n - 1) ≤ n := by
  rcases Nat.eq_zero_or_pos (len n - 1) with hzero | hpos
  · rwa [hzero]
  · exact pow_le_of_lt_len (by omega) hpos

/-- The powers of ten around a number tell how many digits it has. -/
theorem len_eq_of_pow {n k : ℕ} (hle : 10 ^ k ≤ n) (hlt : n < 10 ^ (k + 1)) : len n = k + 1 := by
  refine le_antisymm ((len_le_iff k.succ_pos).mpr hlt) ?_
  by_contra h
  have hshort : n < 10 ^ k := (lt_pow_len n).trans_le (Nat.pow_le_pow_right (by decide) (by omega))
  omega

/-- Zeros behind a number. -/
theorem len_mul_pow {w : ℕ} (hw : 0 < w) (k : ℕ) : len (w * 10 ^ k) = len w + k := by
  obtain ⟨m, hm⟩ : ∃ m, len w = m + 1 := ⟨len w - 1, by have := len_pos w; omega⟩
  have hlow := pow_len_le hw
  have hhigh := lt_pow_len w
  rw [hm, Nat.add_sub_cancel] at hlow
  rw [hm] at hhigh ⊢
  rw [Nat.add_right_comm]
  apply len_eq_of_pow
  · rw [pow_add]
    exact Nat.mul_le_mul_right _ hlow
  · rw [Nat.add_right_comm, pow_add]
    exact Nat.mul_lt_mul_of_pos_right hhigh (by positivity)

/-- A number without its last digits. -/
theorem len_div_pow {n k : ℕ} (hk : 0 < k) (h : k < len n) : len (n / 10 ^ k) = len n - k := by
  have hpos : 0 < n := (Nat.pow_pos (by decide)).trans_le (pow_le_of_lt_len h hk)
  have hsplit : len n = len n - k - 1 + 1 + k := by omega
  have hcut : len n - k = len n - k - 1 + 1 := by omega
  rw [hcut]
  apply len_eq_of_pow
  · rw [Nat.le_div_iff_mul_le (by positivity), ← pow_add]
    calc 10 ^ (len n - k - 1 + k) = 10 ^ (len n - 1) := by congr 1; omega
      _ ≤ n := pow_len_le hpos
  · rw [Nat.div_lt_iff_lt_mul (by positivity), ← pow_add, ← hsplit]
    exact lt_pow_len n

theorem div_pow_pos {n k : ℕ} (hk : 0 < k) (h : k < len n) : 0 < n / 10 ^ k :=
  Nat.div_pos (pow_le_of_lt_len h hk) (by positivity)

/-! ## Two texts behind two numbers

A text of `L` digits with the value `v` behind the number `s` gives `s * 10 ^ L + v`. -/

variable {s s' L L' v v' : ℕ}

/-- Quotient and remainder are known from what they make up. -/
theorem eq_of_mul_add_eq {p a b q r : ℕ} (hq : q < p) (hr : r < p) (h : a * p + q = b * p + r) :
    a = b ∧ q = r := by
  have hpos : 0 < p := Nat.zero_lt_of_lt hq
  obtain ⟨hdiv, hmod⟩ := (Nat.div_mod_unique hpos).mpr
    ⟨show q + p * a = b * p + r by rw [← h]; ring, hq⟩
  obtain ⟨hdiv', hmod'⟩ := (Nat.div_mod_unique hpos).mpr
    ⟨show r + p * b = b * p + r by ring, hr⟩
  exact ⟨hdiv.symm.trans hdiv', hmod.symm.trans hmod'⟩

/-- The last `L'` digits cut off. -/
theorem shift_eq_cut (h : L' ≤ L) :
    s * 10 ^ L + v = (s * 10 ^ (L - L') + v / 10 ^ L') * 10 ^ L' + v % 10 ^ L' := by
  have hpow : 10 ^ L = 10 ^ (L - L') * 10 ^ L' := by rw [← pow_add, Nat.sub_add_cancel h]
  calc s * 10 ^ L + v
      = s * 10 ^ L + (10 ^ L' * (v / 10 ^ L') + v % 10 ^ L') := by rw [Nat.div_add_mod]
    _ = (s * 10 ^ (L - L') + v / 10 ^ L') * 10 ^ L' + v % 10 ^ L' := by
      rw [hpow]
      ring

/-- Behind the same number, which is not zero. -/
theorem shift_inj (hs : 0 < s) (hv : v < 10 ^ L) (hv' : v' < 10 ^ L')
    (h : s * 10 ^ L + v = s * 10 ^ L' + v') : L = L' ∧ v = v' := by
  have hlength : ∀ {L L' v v' : ℕ}, v < 10 ^ L → s * 10 ^ L + v = s * 10 ^ L' + v' → L' ≤ L := by
    intro L L' v v' hv h
    by_contra hlt
    have hpow : 10 * 10 ^ L ≤ 10 ^ L' := by
      rw [← pow_succ']
      exact Nat.pow_le_pow_right (by decide) (by omega)
    have hmul : s * (10 * 10 ^ L) ≤ s * 10 ^ L' := Nat.mul_le_mul_left s hpow
    have hten : 10 ^ L ≤ s * 10 ^ L := Nat.le_mul_of_pos_left _ hs
    nlinarith
  obtain rfl := le_antisymm (hlength hv' h.symm) (hlength hv h)
  exact ⟨rfl, by omega⟩

/-- **Behind two numbers.** They give the same when the greater number goes on with the first digits
of the text behind the smaller one, and the text behind it is the rest. -/
theorem shift_eq_shift_iff (hv : v < 10 ^ L) (hv' : v' < 10 ^ L') (hlt : s < s') :
    s * 10 ^ L + v = s' * 10 ^ L' + v' ↔
      L' < L ∧ s' = s * 10 ^ (L - L') + v / 10 ^ L' ∧ v' = v % 10 ^ L' := by
  constructor
  · intro h
    have hlen : L' < L := by
      by_contra hle
      have hmono : 10 ^ L ≤ 10 ^ L' := Nat.pow_le_pow_right (by decide) (by omega)
      have hmul : (s + 1) * 10 ^ L ≤ s' * 10 ^ L' := Nat.mul_le_mul hlt hmono
      nlinarith
    rw [shift_eq_cut hlen.le] at h
    obtain ⟨hfront, hrest⟩ := eq_of_mul_add_eq (Nat.mod_lt _ (by positivity)) hv' h
    exact ⟨hlen, hfront.symm, hrest.symm⟩
  · rintro ⟨hlen, rfl, rfl⟩
    exact shift_eq_cut hlen.le

/-! ## Two numbers behind each other -/

variable {x y x' y' : ℕ}

theorem glue_lt_pow (x y : ℕ) : glue x y < 10 ^ (len x + len y) := by
  have hx := lt_pow_len x
  have hy := lt_pow_len y
  have hmul : (x + 1) * 10 ^ len y ≤ 10 ^ len x * 10 ^ len y := Nat.mul_le_mul_right _ hx
  rw [glue, pow_add]
  nlinarith

theorem ten_mul_le_glue (s w : ℕ) : 10 * s ≤ glue s w := by
  have hpow : 10 ^ 1 ≤ 10 ^ len w := Nat.pow_le_pow_right (by decide) (len_pos w)
  have hmul := Nat.mul_le_mul_left s hpow
  rw [glue]
  omega

/-- When the second numbers are equally long, both are known. -/
theorem glue_inj (hlen : len y = len y') (h : glue x y = glue x' y') : x = x' ∧ y = y' := by
  have hy := lt_pow_len y
  rw [hlen] at hy
  rw [glue, glue, hlen] at h
  exact eq_of_mul_add_eq hy (lt_pow_len y') h

/-- When the second number of the one is shorter, the first digits of the longer one have gone to
the first number. -/
theorem glue_of_len_lt (hlen : len y < len y') (h : glue x y = glue x' y') :
    x = x' * 10 ^ (len y' - len y) + y' / 10 ^ len y ∧ 10 ≤ y' ∧ 0 < y' / 10 ^ len y := by
  have hy : 10 ^ len y ≤ y' := pow_le_of_lt_len hlen (len_pos y)
  have hten : 10 ^ 1 ≤ 10 ^ len y := Nat.pow_le_pow_right (by decide) (len_pos y)
  rw [glue, glue, shift_eq_cut hlen.le] at h
  obtain ⟨hx, -⟩ := eq_of_mul_add_eq (lt_pow_len y) (Nat.mod_lt _ (by positivity)) h
  exact ⟨hx, by omega, div_pow_pos (len_pos y) hlen⟩

/-- **Two pairs with the same text** have the first number at least eleven in the one and the second
at least ten in the other, as in 11 and 0, and 1 and 10. -/
theorem eleven_le_of_glue (hlen : len y < len y') (htext : len x + len y = len x' + len y')
    (h : glue x y = glue x' y') : 11 ≤ x ∧ 10 ≤ y' := by
  obtain ⟨hx, hy', hcut⟩ := glue_of_len_lt hlen h
  refine ⟨?_, hy'⟩
  have hpow : 10 ^ 1 ≤ 10 ^ (len y' - len y) := Nat.pow_le_pow_right (by decide) (by omega)
  have hpos : 0 < x' := by
    -- a zero in front is one digit, and what is cut off `y'` would be too short for `x`
    rw [Nat.pos_iff_ne_zero]
    rintro rfl
    rw [Nat.zero_mul, Nat.zero_add] at hx
    have hcutlen := len_div_pow (len_pos y) hlen
    rw [← hx] at hcutlen
    have hone : len 0 = 1 := len_eq_one (by decide)
    omega
  have hmul : 10 ^ (len y' - len y) ≤ x' * 10 ^ (len y' - len y) := Nat.le_mul_of_pos_left _ hpos
  omega

/-- Where leading zeros are dropped, one and ten are enough, as in 1 and 0, and 0 and 10. -/
theorem one_le_of_glue (hlen : len y < len y') (h : glue x y = glue x' y') : 1 ≤ x ∧ 10 ≤ y' := by
  obtain ⟨hx, hy', hcut⟩ := glue_of_len_lt hlen h
  exact ⟨by omega, hy'⟩

/-- Without its last digits, a pair ends within the second number, between the two, or within the
first one. -/
theorem glue_div_of_lt {k : ℕ} (hk : 0 < k) (h : k < len y) :
    glue x y / 10 ^ k = glue x (y / 10 ^ k) := by
  have hcut : glue x y = (x * 10 ^ (len y - k) + y / 10 ^ k) * 10 ^ k + y % 10 ^ k :=
    shift_eq_cut h.le
  rw [hcut, Nat.mul_comm, Nat.mul_add_div (by positivity), Nat.mod_div_self, Nat.add_zero, glue,
    len_div_pow hk h]

theorem glue_div_len (x y : ℕ) : glue x y / 10 ^ len y = x := by
  rw [glue, Nat.mul_comm, Nat.mul_add_div (by positivity), Nat.div_eq_of_lt (lt_pow_len y),
    Nat.add_zero]

theorem glue_mod_len (x y : ℕ) : glue x y % 10 ^ len y = y := by
  rw [glue, Nat.mul_comm, Nat.mul_add_mod, Nat.mod_eq_of_lt (lt_pow_len y)]

theorem glue_div_of_gt {k : ℕ} (h : len y < k) : glue x y / 10 ^ k = x / 10 ^ (k - len y) := by
  have hpow : 10 ^ k = 10 ^ len y * 10 ^ (k - len y) := by
    rw [← pow_add, Nat.add_sub_cancel' h.le]
  rw [hpow, ← Nat.div_div_eq_div_mul, glue_div_len]

/-- Three numbers behind each other. -/
theorem shift_glue (s x w : ℕ) : s * 10 ^ (len x + len w) + glue x w = glue (glue s x) w := by
  rw [glue, glue, glue, pow_add]
  ring

/-! ## Texts -/

/-- The value of a text of digits. -/
def value (t : List Char) : ℕ := Nat.ofDigitChars 10 t 0

variable {t t' : List Char}

theorem value_append (t t' : List Char) :
    value (t ++ t') = value t * 10 ^ t'.length + value t' := by
  rw [value, Nat.ofDigitChars_append, Nat.ofDigitChars_eq_ofDigitChars_zero, Nat.mul_comm]
  rfl

theorem value_toDigits (n : ℕ) : value (Nat.toDigits 10 n) = n := Nat.ofDigitChars_ten_toDigits

theorem value_cons (c : Char) (t : List Char) :
    value (c :: t) = (c.toNat - 48) * 10 ^ t.length + value t := by
  rw [value, Nat.ofDigitChars_cons, Nat.ofDigitChars_eq_ofDigitChars_zero, Nat.mul_comm,
    Nat.mul_zero, Nat.zero_add]
  rfl

theorem toNat_of_isDigit {c : Char} (h : c.isDigit = true) : 48 ≤ c.toNat ∧ c.toNat ≤ 57 :=
  Char.isDigit_iff_toNat.mp h

theorem value_lt_pow (h : ∀ c ∈ t, c.isDigit = true) : value t < 10 ^ t.length := by
  induction t with
  | nil => exact Nat.one_pos
  | cons c t ih =>
    obtain ⟨hc, ht⟩ := List.forall_mem_cons.mp h
    have hrange := toNat_of_isDigit hc
    have hdigit : c.toNat - 48 + 1 ≤ 10 := by omega
    have hmul := Nat.mul_le_mul_right (10 ^ t.length) hdigit
    have htail := ih ht
    rw [value_cons, List.length_cons, pow_succ']
    nlinarith

/-- **A text of digits** is known by its length and its value. -/
theorem eq_of_value_eq (h : ∀ c ∈ t, c.isDigit = true) (h' : ∀ c ∈ t', c.isDigit = true)
    (hlen : t.length = t'.length) (hvalue : value t = value t') : t = t' := by
  induction t generalizing t' with
  | nil => exact (List.length_eq_zero_iff.mp hlen.symm).symm
  | cons c t ih =>
    obtain ⟨c', t', rfl⟩ := List.exists_cons_of_length_eq_add_one hlen.symm
    obtain ⟨hc, ht⟩ := List.forall_mem_cons.mp h
    obtain ⟨hc', ht'⟩ := List.forall_mem_cons.mp h'
    have hlen' : t.length = t'.length := Nat.succ.inj hlen
    have hlt := value_lt_pow ht
    rw [value_cons, value_cons, hlen'] at hvalue
    rw [hlen'] at hlt
    obtain ⟨hfirst, hrest⟩ := eq_of_mul_add_eq hlt (value_lt_pow ht') hvalue
    have hrange := toNat_of_isDigit hc
    have hrange' := toNat_of_isDigit hc'
    have hchar : c = c' := Char.toNat_inj.mp (by omega)
    rw [hchar, ih ht ht' hlen' hrest]

/-- Zeros in front do not count. -/
theorem value_leftpad (k : ℕ) (t : List Char) : value (t.leftpad k '0') = value t := by
  have hzeros : ∀ n, value (List.replicate n '0') = 0 := by
    intro n
    induction n with
    | zero => rfl
    | succ n ih =>
      rw [List.replicate_succ, value_cons, ih]
      exact Nat.zero_mul _
  rw [List.leftpad, value_append, hzeros, Nat.zero_mul, Nat.zero_add]

/-- **Padded numbers** are told apart. -/
theorem leftpad_toDigits_injective (k : ℕ) :
    Function.Injective fun n ↦ (Nat.toDigits 10 n).leftpad k '0' := by
  intro n n' h
  have hvalue := congrArg value h
  rwa [value_leftpad, value_leftpad, value_toDigits, value_toDigits] at hvalue

end Decimal
