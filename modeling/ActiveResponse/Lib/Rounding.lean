import Mathlib.Data.Int.Log
import Mathlib.Data.Rat.Floor
import Mathlib.Tactic.Linarith

/-! Rounding of rational numbers, to an integer and to a binary floating-point format. -/

/-- The integer next to `q`; a tie goes to the even neighbour. -/
def round_half_even (q : ℚ) : ℤ :=
  if q - ⌊q⌋ < 1 / 2 then ⌊q⌋
  else if 1 / 2 < q - ⌊q⌋ then ⌊q⌋ + 1
  else if ⌊q⌋ % 2 = 0 then ⌊q⌋ else ⌊q⌋ + 1

theorem round_half_even_near (q : ℚ) : q - 1 / 2 ≤ round_half_even q ∧ (round_half_even q : ℚ) ≤ q + 1 / 2 := by
  have hfloor := Int.floor_le q
  have hnext := Int.lt_floor_add_one q
  unfold round_half_even
  split
  · constructor <;> linarith
  · split
    · push_cast
      constructor <;> linarith
    · split
      · constructor <;> linarith
      · push_cast
        constructor <;> linarith

theorem round_half_even_intCast (n : ℤ) : round_half_even n = n := by
  unfold round_half_even
  rw [Int.floor_intCast, sub_self, if_pos one_half_pos]

/-- Between two integers the rounding goes to one of them, and never back. -/
theorem round_half_even_mono {p q : ℚ} (h : p ≤ q) : round_half_even p ≤ round_half_even q := by
  have hfloor : ⌊p⌋ ≤ ⌊q⌋ := Int.floor_mono h
  rcases hfloor.lt_or_eq with hlt | heq
  · have hp : round_half_even p ≤ ⌊p⌋ + 1 := by unfold round_half_even; split_ifs <;> omega
    have hq : ⌊q⌋ ≤ round_half_even q := by unfold round_half_even; split_ifs <;> omega
    omega
  · unfold round_half_even
    rw [heq]
    split_ifs <;> first | omega | linarith

theorem round_half_even_nonneg {q : ℚ} (h : 0 ≤ q) : 0 ≤ round_half_even q := by
  rw [← round_half_even_intCast 0]
  exact round_half_even_mono (by rwa [Int.cast_zero])

/-- A binary floating-point format with gradual underflow: numbers of `fraction + 1` bits, of which the last stands
for no less than `2 ^ min_exponent`. There is no greatest number. -/
structure FloatFormat where
  fraction : ℕ
  min_exponent : ℤ

namespace FloatFormat

/-- The last bit of the numbers that are as large as `x` stands for 2 to this power. -/
def exponent (self : FloatFormat) (x : ℚ) : ℤ := max self.min_exponent (Int.log 2 |x| - self.fraction)

/-- The number of the format next to `x`. -/
def round (self : FloatFormat) (x : ℚ) : ℚ :=
  round_half_even (x / 2 ^ self.exponent x) * 2 ^ self.exponent x

/-- The number has a place in the format. -/
def Represents (self : FloatFormat) (x : ℚ) : Prop :=
  ∃ mantissa exponent : ℤ, self.min_exponent ≤ exponent ∧ |mantissa| ≤ 2 ^ (self.fraction + 1) ∧
    x = mantissa * 2 ^ exponent

variable {self : FloatFormat} {x y : ℚ}

private theorem two_zpow_pos (e : ℤ) : (0 : ℚ) < 2 ^ e := zpow_pos two_pos e

/-! ## The exponent -/

theorem exponent_mono (hpos : 0 < x) (h : x ≤ y) : self.exponent x ≤ self.exponent y := by
  have hlog : Int.log 2 |x| ≤ Int.log 2 |y| := by
    rw [abs_of_pos hpos, abs_of_pos (hpos.trans_le h)]
    exact Int.log_mono_right hpos h
  exact max_le_max le_rfl (by omega)

/-- A number has no more bits than the format, from its exponent on. -/
theorem lt_two_zpow (x : ℚ) : |x| < 2 ^ (self.fraction + 1 + self.exponent x) := by
  have hlog : |x| < (2 : ℚ) ^ (Int.log 2 |x| + 1) := by
    exact_mod_cast Int.lt_zpow_succ_log_self Nat.one_lt_two |x|
  refine hlog.trans_le (zpow_le_zpow_right₀ one_le_two ?_)
  have hexponent : Int.log 2 |x| - self.fraction ≤ self.exponent x := le_max_right _ _
  omega

/-- It has as many bits, unless it is too small for that. -/
theorem two_zpow_le (hpos : 0 < x) (h : self.min_exponent < self.exponent x) :
    2 ^ (self.fraction + self.exponent x) ≤ x := by
  have hlog : ((2 : ℕ) : ℚ) ^ Int.log 2 x ≤ x := Int.zpow_log_le_self Nat.one_lt_two hpos
  have hexponent : self.exponent x = Int.log 2 x - self.fraction := by
    rw [exponent, abs_of_pos hpos] at h ⊢
    omega
  rw [hexponent, add_sub_cancel]
  exact_mod_cast hlog

/-- The numbers of the format that are as large as `x` are multiples of its last bit. -/
theorem exponent_le {mantissa e : ℤ} (he : self.min_exponent ≤ e) (hmantissa : |mantissa| < 2 ^ (self.fraction + 1))
    (hzero : mantissa ≠ 0) : self.exponent (mantissa * 2 ^ e) ≤ e := by
  refine max_le he ?_
  have hpos : 0 < |(mantissa : ℚ) * 2 ^ e| := by
    rw [abs_pos]
    exact mul_ne_zero (Int.cast_ne_zero.mpr hzero) (two_zpow_pos e).ne'
  have hlt : |(mantissa : ℚ) * 2 ^ e| < 2 ^ (self.fraction + 1 + e : ℤ) := by
    rw [abs_mul, abs_of_pos (two_zpow_pos e), zpow_add₀ two_ne_zero]
    refine mul_lt_mul_of_pos_right ?_ (two_zpow_pos e)
    exact_mod_cast hmantissa
  have hlog : Int.log 2 |(mantissa : ℚ) * 2 ^ e| < self.fraction + 1 + e :=
    (Int.lt_zpow_iff_log_lt Nat.one_lt_two hpos).mp (by exact_mod_cast hlt)
  omega

/-! ## The numbers of the format -/

theorem represents_intCast {n : ℤ} (hmin : self.min_exponent ≤ 0) (hn : |n| ≤ 2 ^ (self.fraction + 1)) :
    self.Represents n := ⟨n, 0, hmin, hn, by simp⟩

theorem Represents.two_pow_mul (h : self.Represents x) (k : ℕ) : self.Represents (2 ^ k * x) := by
  obtain ⟨mantissa, e, hmin, hmantissa, rfl⟩ := h
  refine ⟨mantissa, e + k, by omega, hmantissa, ?_⟩
  rw [zpow_add₀ two_ne_zero, zpow_natCast]
  ring

/-- A multiple of the last bit of `x` stays as it is. -/
theorem round_of_multiple {n : ℤ} (h : x = n * 2 ^ self.exponent x) : self.round x = x := by
  have hdiv : x / 2 ^ self.exponent x = n := by
    rw [div_eq_iff (two_zpow_pos _).ne']
    exact h
  rw [round, hdiv, round_half_even_intCast, ← h]

@[simp] theorem round_zero : self.round 0 = 0 := by
  simp [round, round_half_even]

/-- The numbers of the format stay as they are. -/
theorem Represents.round_eq (h : self.Represents x) : self.round x = x := by
  obtain ⟨mantissa, e, hmin, hmantissa, hx⟩ := h
  by_cases hzero : mantissa = 0
  · rw [hx, hzero, Int.cast_zero, zero_mul, round_zero]
  · -- a mantissa of one bit too many is a power of 2, and stands for the next exponent
    obtain ⟨n, e', hmin', hn, hn_zero, hx'⟩ : ∃ n e' : ℤ, self.min_exponent ≤ e' ∧ |n| < 2 ^ (self.fraction + 1) ∧
        n ≠ 0 ∧ x = n * 2 ^ e' := by
      rcases hmantissa.lt_or_eq with hlt | heq
      · exact ⟨mantissa, e, hmin, hlt, hzero, hx⟩
      · obtain ⟨sign, hsign, hsplit⟩ : ∃ sign : ℤ, |sign| = 1 ∧ mantissa = sign * 2 ^ (self.fraction + 1) := by
          rcases abs_choice mantissa with habs | habs
          · exact ⟨1, by simp, by omega⟩
          · exact ⟨-1, by simp, by omega⟩
        refine ⟨sign * 2 ^ self.fraction, e + 1, by omega, ?_, ?_, ?_⟩
        · rw [abs_mul, hsign, one_mul, abs_of_pos (by positivity)]
          exact pow_lt_pow_right₀ one_lt_two (Nat.lt_succ_self _)
        · exact mul_ne_zero (by rintro rfl; simp at hsign) (by positivity)
        · rw [hx, hsplit, zpow_add_one₀ two_ne_zero]
          push_cast
          ring
    have hle : self.exponent x ≤ e' := by
      rw [hx']
      exact exponent_le hmin' hn hn_zero
    obtain ⟨k, hk⟩ := Int.eq_ofNat_of_zero_le (sub_nonneg.mpr hle)
    refine round_of_multiple (n := n * 2 ^ k) ?_
    rw [show e' = k + self.exponent x by omega, zpow_add₀ two_ne_zero, zpow_natCast] at hx'
    rw [Int.cast_mul, Int.cast_pow, mul_assoc]
    exact_mod_cast hx'

/-- Below a number of the format there is none within its last bit. -/
theorem Represents.le_pred (h : self.Represents x) {n e : ℤ} (hn : 2 ^ self.fraction < n) (hlt : x < n * 2 ^ e) :
    x ≤ (n - 1) * 2 ^ e := by
  obtain ⟨mantissa, e', -, hmantissa, rfl⟩ := h
  rcases le_or_gt e e' with hle | hgt
  · obtain ⟨k, hk⟩ := Int.eq_ofNat_of_zero_le (sub_nonneg.mpr hle)
    obtain rfl : e' = k + e := by omega
    rw [zpow_add₀ two_ne_zero, zpow_natCast, ← mul_assoc] at hlt ⊢
    have hmultiple : mantissa * 2 ^ k < n := by
      exact_mod_cast lt_of_mul_lt_mul_right hlt (two_zpow_pos e).le
    refine mul_le_mul_of_nonneg_right ?_ (two_zpow_pos e).le
    exact_mod_cast Int.le_sub_one_of_lt hmultiple
  · have hbits : (mantissa : ℚ) ≤ 2 ^ (self.fraction + 1) := by
      exact_mod_cast (le_abs_self mantissa).trans hmantissa
    have hhalf : (2 : ℚ) ^ e' ≤ 2 ^ (e - 1) := zpow_le_zpow_right₀ one_le_two (by omega)
    calc (mantissa : ℚ) * 2 ^ e' ≤ 2 ^ (self.fraction + 1) * 2 ^ e' :=
          mul_le_mul_of_nonneg_right hbits (two_zpow_pos e').le
      _ ≤ 2 ^ (self.fraction + 1) * 2 ^ (e - 1) := mul_le_mul_of_nonneg_left hhalf (by positivity)
      _ = 2 ^ self.fraction * 2 ^ e := by rw [zpow_sub_one₀ two_ne_zero]; ring
      _ ≤ (n - 1) * 2 ^ e := mul_le_mul_of_nonneg_right (by exact_mod_cast Int.le_sub_one_of_lt hn)
          (two_zpow_pos e).le

/-! ## Order -/

theorem round_nonneg (h : 0 ≤ x) : 0 ≤ self.round x := by
  refine mul_nonneg ?_ (two_zpow_pos _).le
  exact_mod_cast round_half_even_nonneg (div_nonneg h (two_zpow_pos _).le)

/-- A number is rounded to one that has its bits, or to the next power of 2. -/
theorem round_le_two_zpow (h : 0 ≤ x) : self.round x ≤ 2 ^ (self.fraction + 1 + self.exponent x) := by
  have hbits : x / 2 ^ self.exponent x ≤ (2 ^ (self.fraction + 1) : ℤ) := by
    rw [div_le_iff₀ (two_zpow_pos _)]
    have hlt : |x| < 2 ^ (self.fraction + 1 + self.exponent x) := lt_two_zpow x
    rw [abs_of_nonneg h, zpow_add₀ two_ne_zero] at hlt
    exact_mod_cast hlt.le
  have hround := round_half_even_mono hbits
  rw [round_half_even_intCast] at hround
  rw [round, zpow_add₀ two_ne_zero]
  exact mul_le_mul_of_nonneg_right (by exact_mod_cast hround) (two_zpow_pos _).le

theorem two_zpow_le_round (hpos : 0 < x) (h : self.min_exponent < self.exponent x) :
    2 ^ (self.fraction + self.exponent x) ≤ self.round x := by
  have hbits : ((2 ^ self.fraction : ℤ) : ℚ) ≤ x / 2 ^ self.exponent x := by
    rw [le_div_iff₀ (two_zpow_pos _)]
    have hle := two_zpow_le hpos h
    rw [zpow_add₀ two_ne_zero] at hle
    exact_mod_cast hle
  have hround := round_half_even_mono hbits
  rw [round_half_even_intCast] at hround
  rw [round, zpow_add₀ two_ne_zero]
  exact mul_le_mul_of_nonneg_right (by exact_mod_cast hround) (two_zpow_pos _).le

/-- Where the exponents differ there is a power of 2 between the two. -/
theorem round_mono (hx : 0 ≤ x) (h : x ≤ y) : self.round x ≤ self.round y := by
  rcases hx.eq_or_lt with rfl | hpos
  · rw [round_zero]
    exact round_nonneg h
  · have hexponent : self.exponent x ≤ self.exponent y := exponent_mono hpos h
    rcases hexponent.lt_or_eq with hlt | heq
    · have hmin : self.min_exponent < self.exponent y := (le_max_left _ _).trans_lt hlt
      calc self.round x ≤ 2 ^ (self.fraction + 1 + self.exponent x) := round_le_two_zpow hx
        _ ≤ 2 ^ (self.fraction + self.exponent y) := zpow_le_zpow_right₀ one_le_two (by omega)
        _ ≤ self.round y := two_zpow_le_round (hpos.trans_le h) hmin
    · rw [round, round, heq]
      have hdiv := div_le_div_of_nonneg_right h (two_zpow_pos (self.exponent y)).le
      exact mul_le_mul_of_nonneg_right (by exact_mod_cast round_half_even_mono hdiv) (two_zpow_pos _).le

/-- No number of the format is passed over. -/
theorem Represents.le_round (h : self.Represents x) (hx : 0 ≤ x) (hle : x ≤ y) : x ≤ self.round y := by
  rw [← h.round_eq]
  exact round_mono hx hle

end FloatFormat
