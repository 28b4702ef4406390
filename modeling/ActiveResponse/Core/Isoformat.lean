import ActiveResponse.Core.Values
import ActiveResponse.Lib.FixedWidth
import Mathlib.Algebra.Order.Group.Int
import Mathlib.Data.String.Basic

namespace larp

/-! ## Texts of numbers -/

theorem toDigits_padded {width n : ℕ} (h : n < 10 ^ (width + 1)) :
    List.replicate (width + 1 - (Nat.toDigits 10 n).length) '0' ++ Nat.toDigits 10 n =
      FixedWidth.digits 10 Nat.digitChar (width + 1) n := by
  induction width generalizing n with
  | zero =>
    rw [zero_add, pow_one] at h
    rw [Nat.toDigits_of_lt_base h, FixedWidth.digits, Nat.mod_eq_of_lt h]
    rfl
  | succ width ih =>
    have hquotient : n / 10 < 10 ^ (width + 1) := Nat.div_lt_of_lt_mul (by rwa [Nat.mul_comm, ← pow_succ])
    rw [FixedWidth.digits, ← ih hquotient]
    by_cases hsmall : n < 10
    · rw [Nat.toDigits_of_lt_base hsmall, Nat.div_eq_of_lt hsmall, Nat.mod_eq_of_lt hsmall, Nat.toDigits_zero]
      simp [List.replicate_succ']
    · rw [Nat.toDigits_of_base_le (by decide) (not_lt.mp hsmall)]
      simp

theorem toList_zero_padded {width : ℕ} {n : ℤ} (h : n.toNat < 10 ^ (width + 1)) :
    (zero_padded (width + 1) n).toList = FixedWidth.digits 10 Nat.digitChar (width + 1) n.toNat := by
  have hdigits : (toString n.toNat).toList = Nat.toDigits 10 n.toNat := Nat.toList_repr
  rw [← toDigits_padded h, ← hdigits, String.length_toList, zero_padded, String.toList_append, String.toList_ofList]

theorem digitChar_lt : ∀ i j, i < j → j < 10 → Nat.digitChar i < Nat.digitChar j := by
  have hbelow : ∀ j < 10, ∀ i < j, Nat.digitChar i < Nat.digitChar j := by decide
  exact fun i j hij hj => hbelow j hj i hij

/-! ## The calendar -/

/-- The days before the first of March of a year. -/
def year_start (year : ℤ) : ℤ := 365 * year + year / 4 - year / 100 + year / 400

theorem year_start_mono {year later : ℤ} (h : year ≤ later) : year_start year ≤ year_start later := by
  unfold year_start
  omega

/-- The days of an era without its leap days. -/
def common_days (doe : ℤ) : ℤ := doe - doe / 1460 + doe / 36524 - doe / 146096

theorem common_days_mono {doe later : ℤ} (h : doe ≤ later) : common_days doe ≤ common_days later := by
  have hcentury (n : ℤ) : n / 146096 = n / 36524 / 4 := by
    rw [Int.ediv_ediv_of_nonneg (by decide)]
    rfl
  have hfours : doe - doe / 1460 ≤ later - later / 1460 := by omega
  have hcenturies : doe / 36524 - doe / 36524 / 4 ≤ later / 36524 - later / 36524 / 4 := by omega
  simp only [common_days, hcentury]
  omega

/-- A year of an era ends where another common year is full. -/
theorem common_days_year : ∀ year : Fin 400, common_days (year_start (year + 1) - 1) < 365 * (year + 1) ∧
    365 * (year + 1 : ℤ) ≤ common_days (year_start (year + 1)) := by
  decide +kernel

/-- The year of a day, counted from March to February. -/
def march_year (day : ℤ) : ℤ := common_days ((day + 719468) % 146097) / 365 + (day + 719468) / 146097 * 400

theorem common_days_bounds (day : ℤ) :
    0 ≤ common_days ((day + 719468) % 146097) ∧ common_days ((day + 719468) % 146097) < 146000 := by
  have hfirst : common_days 0 ≤ common_days ((day + 719468) % 146097) := common_days_mono (by omega)
  have hlast : common_days ((day + 719468) % 146097) ≤ common_days 146096 := common_days_mono (by omega)
  rw [show common_days 0 = 0 from rfl] at hfirst
  rw [show common_days 146096 = 145999 from rfl] at hlast
  omega

/-- The number of days since the first of March. -/
def march_day (day : ℤ) : ℤ := day + 719468 - year_start (march_year day)

theorem march_day_bounds (day : ℤ) :
    0 ≤ march_day day ∧ day + 719468 < year_start (march_year day + 1) := by
  have hdoe : 0 ≤ (day + 719468) % 146097 ∧ (day + 719468) % 146097 < 146097 := by omega
  have hday := Int.emod_add_mul_ediv (day + 719468) 146097
  have hcommon := common_days_bounds day
  unfold march_day march_year
  generalize (day + 719468) % 146097 = doe at *
  generalize (day + 719468) / 146097 = era at *
  have hera (year : ℤ) : year_start (year + era * 400) = year_start year + 146097 * era := by
    unfold year_start
    omega
  generalize hyear : common_days doe / 365 = year
  have hlow : year_start year ≤ doe := by
    by_contra hlt
    have hpositive : 0 < year := by
      by_contra hnot
      rw [show year = 0 by omega] at hlt
      exact hlt hdoe.1
    have hmono : common_days doe ≤ common_days (year_start year - 1) := common_days_mono (by omega)
    have hend := (common_days_year ⟨(year - 1).toNat, by omega⟩).1
    simp only [Int.toNat_of_nonneg (show 0 ≤ year - 1 by omega), Int.sub_add_cancel] at hend
    omega
  have hhigh : doe < year_start (year + 1) := by
    by_contra hle
    have hmono : common_days (year_start (year + 1)) ≤ common_days doe := common_days_mono (not_lt.mp hle)
    have hend := (common_days_year ⟨year.toNat, by omega⟩).2
    simp only [Int.toNat_of_nonneg (show 0 ≤ year by omega)] at hend
    omega
  rw [add_right_comm, hera, hera]
  omega

theorem march_day_le (day : ℤ) : march_day day ≤ 365 := by
  have hend := (march_day_bounds day).2
  unfold march_day
  unfold year_start at hend ⊢
  omega

/-- The months are counted from March; January and February belong to the next year. -/
theorem civil_date_eq (day : ℤ) : ∃ month, 0 ≤ month ∧ month < 12 ∧ 153 * month ≤ 5 * march_day day + 2 ∧
    5 * march_day day + 2 < 153 * (month + 1) ∧
    civil_date day = (march_year day + (if month < 10 then 0 else 1), (if month < 10 then month + 3 else month - 9),
      march_day day - (153 * month + 2) / 5 + 1) := by
  have hday := (march_day_bounds day).1
  have hlast := march_day_le day
  refine ⟨(5 * march_day day + 2) / 153, by omega, by omega, by omega, by omega, ?_⟩
  have hera := common_days_bounds day
  have hyear : march_day day = (day + 719468) % 146097 - (365 * (common_days ((day + 719468) % 146097) / 365) +
      common_days ((day + 719468) % 146097) / 365 / 4 - common_days ((day + 719468) % 146097) / 365 / 100) := by
    unfold march_day march_year year_start
    omega
  have hcommon (doe : ℤ) : doe - doe / 1460 + doe / 36524 - doe / 146096 = common_days doe := rfl
  unfold civil_date
  simp only [hcommon, ← hyear]
  split
  · rw [if_neg (by omega)]
    rfl
  · rw [if_pos (by omega)]
    rfl

/-- The dates of two days are in the order of the days. -/
theorem civil_date_lt {day later : ℤ} (h : day < later) :
    (civil_date day).1 < (civil_date later).1 ∨ ((civil_date day).1 = (civil_date later).1 ∧
      ((civil_date day).2.1 < (civil_date later).2.1 ∨ ((civil_date day).2.1 = (civil_date later).2.1 ∧
        (civil_date day).2.2 < (civil_date later).2.2))) := by
  have hyear : march_year day ≤ march_year later := by
    by_contra hlt
    have hmono := year_start_mono (show march_year later + 1 ≤ march_year day by omega)
    have hend := (march_day_bounds later).2
    have hstart : 0 ≤ day + 719468 - year_start (march_year day) := (march_day_bounds day).1
    omega
  have hdays : march_year day = march_year later → march_day day < march_day later := by
    intro heq
    unfold march_day
    rw [heq]
    omega
  obtain ⟨month, _, _, _, _, hdate⟩ := civil_date_eq day
  obtain ⟨month', _, _, _, _, hdate'⟩ := civil_date_eq later
  rw [hdate, hdate']
  dsimp only
  split <;> split <;> omega

theorem march_year_bounds {day : ℤ} (h : -719162 ≤ day ∧ day ≤ 2932896) :
    0 ≤ march_year day ∧ march_year day ≤ 9999 ∧ (march_year day = 9999 → march_day day ≤ 305) := by
  have hstart : march_day day = day + 719468 - year_start (march_year day) := rfl
  have hfirst := (march_day_bounds day).1
  have hend := (march_day_bounds day).2
  refine ⟨?_, ?_, fun hlast => ?_⟩
  · by_contra hlt
    have hmono := year_start_mono (show march_year day + 1 ≤ 0 by omega)
    rw [show year_start 0 = 0 from rfl] at hmono
    omega
  · by_contra hlt
    have hmono := year_start_mono (show 10000 ≤ march_year day by omega)
    rw [show year_start 10000 = 3652425 from rfl] at hmono
    omega
  · rw [hlast, show year_start 9999 = 3652059 from rfl] at hstart
    omega

/-- The date of an instant has four digits for the year, and two for the month and the day. -/
theorem civil_date_bounds {day : ℤ} (h : -719162 ≤ day ∧ day ≤ 2932896) :
    0 ≤ (civil_date day).1 ∧ (civil_date day).1 < 10000 ∧ 0 ≤ (civil_date day).2.1 ∧ (civil_date day).2.1 < 100 ∧
      0 ≤ (civil_date day).2.2 ∧ (civil_date day).2.2 < 100 := by
  obtain ⟨hfirst, hlast, hend⟩ := march_year_bounds h
  obtain ⟨month, _, _, _, _, hdate⟩ := civil_date_eq day
  rw [hdate]
  dsimp only
  split <;> refine ⟨?_, ?_, ?_, ?_, ?_, ?_⟩ <;> omega

theorem day_bounds {t : ℤ} (h : IsDatetime t) : -719162 ≤ t / 1000000 / 86400 ∧ t / 1000000 / 86400 ≤ 2932896 := by
  have hfirst : (-62135596800000000 : ℤ) ≤ t := h.1
  have hlast : t < (253402300800000000 : ℤ) := h.2
  omega

/-! ## The text of an instant -/

/-- The text of the date. -/
def date_text (day : ℤ) : List Char :=
  (zero_padded 4 (civil_date day).1).toList ++ ('-' :: (zero_padded 2 (civil_date day).2.1).toList ++
    ('-' :: (zero_padded 2 (civil_date day).2.2).toList))

/-- The text of the time of the day. -/
def clock_text (clock : ℤ) : List Char :=
  (zero_padded 2 (clock / 3600)).toList ++ (':' :: (zero_padded 2 (clock / 60 % 60)).toList ++
    (':' :: (zero_padded 2 (clock % 60)).toList))

/-- The text of the microseconds, which are left out if there are none, and of the offset. -/
def fraction_text (micros : ℤ) : List Char :=
  (if micros = 0 then [] else '.' :: (zero_padded 6 micros).toList) ++ "+00:00".toList

theorem toList_isoformat (t : ℤ) : (isoformat t).toList = date_text (t / 1000000 / 86400) ++
    ('T' :: (clock_text (t / 1000000 % 86400) ++ fraction_text (t % 1000000))) := by
  unfold isoformat datetime_format date_text clock_text fraction_text
  by_cases hmicros : t % 1000000 = 0
  · simp [hmicros]
  · simp [hmicros]

/-- Two numbers of one width decide the order of the texts that they begin, unless they are equal. -/
theorem zero_padded_append_lt {width : ℕ} {n m : ℤ} {us vs : List Char} (hn : 0 ≤ n) (hm : m.toNat < 10 ^ (width + 1))
    (h : n < m ∨ (n = m ∧ us < vs)) :
    (zero_padded (width + 1) n).toList ++ us < (zero_padded (width + 1) m).toList ++ vs := by
  have hle : n.toNat ≤ m.toNat := by omega
  rw [toList_zero_padded (hle.trans_lt hm), toList_zero_padded hm]
  refine FixedWidth.append_lt_of_lt_or_eq (by simp) ?_
  obtain hlt | ⟨rfl, htail⟩ := h
  · exact .inl (FixedWidth.digits_lt (by decide) digitChar_lt (by omega) hm)
  · exact .inr ⟨rfl, htail⟩

theorem zero_padded_lt {width : ℕ} {n m : ℤ} (hn : 0 ≤ n) (hm : m.toNat < 10 ^ (width + 1)) (h : n < m) :
    (zero_padded (width + 1) n).toList < (zero_padded (width + 1) m).toList := by
  have hlt : (zero_padded (width + 1) n).toList ++ [] < (zero_padded (width + 1) m).toList ++ [] :=
    zero_padded_append_lt hn hm (.inl h)
  rwa [List.append_nil, List.append_nil] at hlt

theorem length_zero_padded {width : ℕ} {n : ℤ} (h : n.toNat < 10 ^ (width + 1)) :
    (zero_padded (width + 1) n).toList.length = width + 1 := by
  rw [toList_zero_padded h, FixedWidth.length_digits]

theorem length_date_text {day : ℤ} (h : -719162 ≤ day ∧ day ≤ 2932896) : (date_text day).length = 10 := by
  obtain ⟨_, hyear, _, hmonth, _, hday⟩ := civil_date_bounds h
  simp only [date_text, List.length_append, List.length_cons]
  rw [length_zero_padded (by omega), length_zero_padded (by omega), length_zero_padded (by omega)]

theorem date_text_lt {day later : ℤ} (hday : -719162 ≤ day ∧ day ≤ 2932896)
    (hlater : -719162 ≤ later ∧ later ≤ 2932896) (h : day < later) : date_text day < date_text later := by
  obtain ⟨hyear, _, hmonth, _, hdate, _⟩ := civil_date_bounds hday
  obtain ⟨_, hyear', _, hmonth', _, hdate'⟩ := civil_date_bounds hlater
  refine zero_padded_append_lt hyear (by omega) ?_
  obtain hlt | ⟨heq, hrest⟩ := civil_date_lt h
  · exact .inl hlt
  · refine .inr ⟨heq, .cons (zero_padded_append_lt hmonth (by omega) ?_)⟩
    obtain hlt | ⟨heq, hlast⟩ := hrest
    · exact .inl hlt
    · exact .inr ⟨heq, .cons (zero_padded_lt hdate (by omega) hlast)⟩

theorem length_clock_text {clock : ℤ} (h : 0 ≤ clock ∧ clock < 86400) : (clock_text clock).length = 8 := by
  simp only [clock_text, List.length_append, List.length_cons]
  rw [length_zero_padded (by omega), length_zero_padded (by omega), length_zero_padded (by omega)]

theorem clock_text_lt {clock later : ℤ} (hclock : 0 ≤ clock) (hlater : later < 86400) (h : clock < later) :
    clock_text clock < clock_text later := by
  refine zero_padded_append_lt (by omega) (by omega) ?_
  obtain hlt | heq : clock / 3600 < later / 3600 ∨ clock / 3600 = later / 3600 := by omega
  · exact .inl hlt
  · refine .inr ⟨heq, .cons (zero_padded_append_lt (by omega) (by omega) ?_)⟩
    obtain hlt | heq : clock / 60 % 60 < later / 60 % 60 ∨ clock / 60 % 60 = later / 60 % 60 := by omega
    · exact .inl hlt
    · exact .inr ⟨heq, .cons (zero_padded_lt (by omega) (by omega) (by omega))⟩

/-- A time without microseconds goes before the others: the sign of the offset is less than the point. -/
theorem fraction_text_lt {micros later : ℤ} (hmicros : 0 ≤ micros) (hlater : later < 1000000) (h : micros < later) :
    fraction_text micros < fraction_text later := by
  unfold fraction_text
  rw [if_neg (show later ≠ 0 by omega)]
  split
  · exact .rel (by decide)
  · exact .cons (zero_padded_append_lt hmicros (by omega) (.inl h))

/-- The texts of two instants are in the order of the instants. -/
theorem isoformat_lt {s t : ℤ} (hs : IsDatetime s) (ht : IsDatetime t) (h : s < t) : isoformat s < isoformat t := by
  have hsday := day_bounds hs
  have htday := day_bounds ht
  rw [String.lt_iff_toList_lt, toList_isoformat, toList_isoformat]
  refine FixedWidth.append_lt_of_lt_or_eq (by rw [length_date_text hsday, length_date_text htday]) ?_
  obtain hlt | heq : s / 1000000 / 86400 < t / 1000000 / 86400 ∨ s / 1000000 / 86400 = t / 1000000 / 86400 := by omega
  · exact .inl (date_text_lt hsday htday hlt)
  · rw [heq]
    have hlength : (clock_text (s / 1000000 % 86400)).length = (clock_text (t / 1000000 % 86400)).length := by
      rw [length_clock_text (by omega), length_clock_text (by omega)]
    refine .inr ⟨rfl, .cons (FixedWidth.append_lt_of_lt_or_eq hlength ?_)⟩
    obtain hlt | heq : s / 1000000 % 86400 < t / 1000000 % 86400 ∨ s / 1000000 % 86400 = t / 1000000 % 86400 := by
      omega
    · exact .inl (clock_text_lt (by omega) (by omega) hlt)
    · rw [heq]
      exact .inr ⟨rfl, fraction_text_lt (by omega) (by omega) (by omega)⟩

theorem isoformat_le_iff {s t : Time} (hs : IsDatetime s) (ht : IsDatetime t) :
    isoformat s ≤ isoformat t ↔ s ≤ t := by
  constructor
  · intro hle
    by_contra hlt
    exact absurd hle (not_le.mpr (isoformat_lt ht hs (not_le.mp hlt)))
  · intro hle
    obtain hlt | rfl := hle.lt_or_eq
    · exact (isoformat_lt hs ht hlt).le
    · exact le_rfl

end larp
