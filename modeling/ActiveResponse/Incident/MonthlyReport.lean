import Mathlib.Tactic.IntervalCases
import ActiveResponse.Core.Isoformat
import ActiveResponse.Lib.GroupBy
import ActiveResponse.Models.Agent

namespace larp

/-! ## The calendar -/

def is_leap (year : ℤ) : Bool := year % 4 = 0 && (year % 100 ≠ 0 || year % 400 = 0)

/-- The second value of `calendar.monthrange`. -/
def last_day (year month : ℤ) : ℤ :=
  if month = 2 then if is_leap year then 29 else 28
  else if month = 4 ∨ month = 6 ∨ month = 9 ∨ month = 11 then 30
  else 31

/-- The day number of a date, counted from 1970-01-01. -/
def date_day (year month day : ℤ) : ℤ :=
  year_start (if month ≤ 2 then year - 1 else year) + (153 * ((month + 9) % 12) + 2) / 5 + day - 1 - 719468

/-- `datetime(year, month, day, hour, minute, second, tzinfo=timezone.utc)`. -/
def datetime (year month day hour minute second : ℤ) : Time :=
  seconds (86400 * date_day year month day + 3600 * hour + 60 * minute + second)

/-- The year and the month of an instant. -/
def month_of (t : Time) : ℤ × ℤ :=
  ((civil_date (t / 1000000 / 86400)).1, (civil_date (t / 1000000 / 86400)).2.1)

theorem march_year_eq_iff {day year : ℤ} :
    march_year day = year ↔ year_start year ≤ day + 719468 ∧ day + 719468 < year_start (year + 1) := by
  have hstart : 0 ≤ day + 719468 - year_start (march_year day) := (march_day_bounds day).1
  have hend := (march_day_bounds day).2
  constructor
  · rintro rfl
    exact ⟨by omega, hend⟩
  · rintro ⟨hlow, hhigh⟩
    by_contra hne
    obtain hbefore | hafter := lt_or_gt_of_ne hne
    · have hmono := year_start_mono (show march_year day + 1 ≤ year by omega)
      omega
    · have hmono := year_start_mono (show year + 1 ≤ march_year day by omega)
      omega

theorem is_leap_iff {year : ℤ} : is_leap year ↔ year % 4 = 0 ∧ (year % 100 ≠ 0 ∨ year % 400 = 0) := by
  simp [is_leap]

theorem year_length (year : ℤ) : year_start year - year_start (year - 1) = if is_leap year then 366 else 365 := by
  unfold year_start
  split
  · rename_i hleap
    rw [is_leap_iff] at hleap
    omega
  · rename_i hcommon
    rw [is_leap_iff] at hcommon
    omega

/-- A month ends where the next one begins: from March to January within the year that begins with March, February
with that year. -/
theorem last_day_eq {year month : ℤ} (hmonth : 1 ≤ month ∧ month ≤ 12) :
    last_day year month =
      if month = 2 then year_start year - year_start (year - 1) - 337
      else (153 * ((month + 9) % 12 + 1) + 2) / 5 - (153 * ((month + 9) % 12) + 2) / 5 := by
  by_cases htwo : month = 2
  · subst htwo
    rw [if_pos rfl, year_length, last_day, if_pos rfl]
    split <;> rfl
  · obtain ⟨hfirst, hlast⟩ := hmonth
    rw [if_neg htwo, last_day, if_neg htwo]
    interval_cases month <;> simp_all

/-- The year that a month belongs to if the years begin with March, and its place in that year. -/
theorem march_index (year : ℤ) {month : ℤ} (hmonth : 1 ≤ month ∧ month ≤ 12) :
    ∃ march index : ℤ, (if month ≤ 2 then year - 1 else year) = march ∧ (month + 9) % 12 = index ∧ 0 ≤ index ∧
      index < 12 ∧ year = march + (if index < 10 then 0 else 1) ∧
      month = (if index < 10 then index + 3 else index - 9) := by
  refine ⟨_, _, rfl, rfl, by omega, by omega, ?_, ?_⟩
  · split <;> split <;> omega
  · split <;> omega

/-- The days of a month follow its first one. -/
theorem civil_date_month_iff {year month day : ℤ} (hmonth : 1 ≤ month ∧ month ≤ 12) :
    (civil_date day).1 = year ∧ (civil_date day).2.1 = month ↔
      date_day year month 1 ≤ day ∧ day < date_day year month 1 + last_day year month := by
  rw [last_day_eq hmonth, date_day]
  obtain ⟨march, index, hmarch, hindex, hnonneg, hlt, hyear, hmonth_eq⟩ := march_index year hmonth
  rw [hmarch, hindex]
  have hstart : march_day day = day + 719468 - year_start (march_year day) := rfl
  have hend := (march_day_bounds day).2
  have hlength := year_length (march + 1)
  rw [add_sub_cancel_right] at hlength
  have hlast : month = 2 ↔ index = 11 := by
    split at hmonth_eq <;> omega
  have hfebruary : index = 11 →
      year_start year - year_start (year - 1) = year_start (march + 1) - year_start march := by
    intro heleven
    rw [hyear, if_neg (by omega), add_sub_cancel_right]
  obtain ⟨found, hfirst, htwelve, hlow, hhigh, hdate⟩ := civil_date_eq day
  rw [hdate]
  dsimp only
  constructor
  · rintro ⟨hyear', hmonth'⟩
    obtain rfl : found = index := by
      split at hmonth' <;> split at hmonth_eq <;> omega
    obtain rfl : march_year day = march := by
      split at hyear <;> omega
    refine ⟨by omega, ?_⟩
    split
    · have heleven := hfebruary (by omega)
      omega
    · omega
  · rintro ⟨hbegin, hbefore⟩
    have hmarch_year : march_year day = march := by
      refine march_year_eq_iff.mpr ⟨by omega, ?_⟩
      split at hbefore
      · have heleven := hfebruary (by omega)
        omega
      · split at hlength <;> omega
    rw [hmarch_year] at hstart hend ⊢
    obtain rfl : found = index := by
      split at hbefore <;> omega
    exact ⟨hyear.symm, hmonth_eq.symm⟩

theorem month_of_bounds (t : Time) : 1 ≤ (month_of t).2 ∧ (month_of t).2 ≤ 12 := by
  obtain ⟨index, hfirst, hlast, -, -, hdate⟩ := civil_date_eq (t / 1000000 / 86400)
  rw [month_of, hdate]
  dsimp only
  split <;> omega

/-- The instants of a month, in microseconds. -/
theorem month_of_eq_iff {year month : ℤ} (hmonth : 1 ≤ month ∧ month ≤ 12) (t : ℤ) :
    month_of t = (year, month) ↔ 86400000000 * date_day year month 1 ≤ t ∧
      t < 86400000000 * (date_day year month 1 + last_day year month) := by
  rw [month_of, Prod.mk.injEq, civil_date_month_iff hmonth]
  omega

/-! ## ReportService -/

structure ReportGenerateRequest where
  month : Option ℤ := none
  year : Option ℤ := none
  start_date : Option Time := none
  end_date : Option Time := none

structure ReportPeriod where
  period_start : Time
  period_end : Time

def ReportPeriod.covers (self : ReportPeriod) (t : Time) : Bool := self.period_start ≤ t && t ≤ self.period_end

structure ReportedIncident where
  created_at : Time
  status : IncidentStatus

structure ReportedCommand where
  created_at : Time
  action : String

structure ReportedEvent where
  created_at : Time
  severity : IncidentSeverity

/-- The tables that a report counts in. -/
structure ReportTables where
  agents : List Agent
  incidents : List ReportedIncident
  commands : List ReportedCommand
  events : List ReportedEvent

structure MonthlyReport where
  period : ReportPeriod
  agents_total : ℕ
  agents_active : ℕ
  agents_isolated : ℕ
  agents_dead : ℕ
  incidents_total : ℕ
  incidents_resolved : ℕ
  isolate_cmds : ℕ
  block_ip_cmds : ℕ
  high_crit_events : ℕ

/-- `value or default` of an integer. -/
def given_or (value : Option ℤ) (default : ℤ) : ℤ :=
  match value with
  | some n => if n = 0 then default else n
  | none => default

theorem given_or_some {n default : ℤ} (h : n ≠ 0) : given_or (some n) default = n := if_neg h

/-- From midnight on the first day to 23:59:59 on the last one. -/
def month_period (year month : ℤ) : Except AppException ReportPeriod :=
  if ¬(1 ≤ month ∧ month ≤ 12) then .error (.ValueError ("bad month number " ++ toString month ++ "; must be 1-12"))
  else if ¬(1 ≤ year ∧ year ≤ 9999) then .error (.ValueError ("year " ++ toString year ++ " is out of range"))
  else .ok ⟨datetime year month 1 0 0 0, datetime year month (last_day year month) 23 59 59⟩

def report_period (req : ReportGenerateRequest) (now : Time) : Except AppException ReportPeriod :=
  match req.start_date, req.end_date with
  | some period_start, some period_end => .ok ⟨period_start, period_end⟩
  | _, _ => month_period (given_or req.year (month_of now).1) (given_or req.month (month_of now).2)

/-- The numbers of a report. -/
def ReportTables.report (self : ReportTables) (period : ReportPeriod) : MonthlyReport where
  period := period
  agents_total := self.agents.length
  agents_active := self.agents.countP fun agent => agent.status = .ACTIVE
  agents_isolated := self.agents.countP fun agent => agent.is_isolated
  agents_dead := self.agents.countP fun agent => agent.status = .DEAD
  incidents_total := self.incidents.countP fun incident => period.covers incident.created_at
  incidents_resolved := self.incidents.countP fun incident =>
    period.covers incident.created_at && decide (incident.status = .RESOLVED)
  isolate_cmds := self.commands.countP fun cmd => period.covers cmd.created_at && decide (cmd.action = "isolate")
  block_ip_cmds := self.commands.countP fun cmd => period.covers cmd.created_at && decide (cmd.action = "block_ip")
  high_crit_events := self.events.countP fun event =>
    period.covers event.created_at && decide (event.severity = .HIGH ∨ event.severity = .CRITICAL)

def generate_monthly_report (tables : ReportTables) (req : ReportGenerateRequest) (now : Time) :
    Except AppException MonthlyReport := do
  let period ← report_period req now
  return tables.report period

/-! ## What the reports count -/

/-- The last second of a month has begun. -/
def in_last_second (t : Time) : Bool := decide (month_of (t + seconds 1) ≠ month_of t ∧ t % seconds 1 ≠ 0)

/-- A datetime in microseconds. -/
theorem datetime_eq (year month day hour minute second : ℤ) : @Eq ℤ (datetime year month day hour minute second)
    (86400000000 * (date_day year month 1 + day - 1) + 3600000000 * hour + 60000000 * minute + 1000000 * second) := by
  change (1000000 * (86400 * date_day year month day + 3600 * hour + 60 * minute + second) : ℤ) = _
  unfold date_day
  omega

theorem ReportPeriod.covers_iff (self : ReportPeriod) (t : ℤ) :
    self.covers t ↔ @LE.le ℤ _ self.period_start t ∧ @LE.le ℤ _ t self.period_end := by
  rw [covers, Bool.and_eq_true, decide_eq_true_eq, decide_eq_true_eq]

/-- The report of a month covers the month without what follows 23:59:59 on its last day. -/
theorem covers_month {year month : ℤ} (hmonth : 1 ≤ month ∧ month ≤ 12) (t : ℤ) :
    ReportPeriod.covers ⟨datetime year month 1 0 0 0, datetime year month (last_day year month) 23 59 59⟩ t ↔
      month_of t = (year, month) ∧ ¬in_last_second t := by
  have hstart := datetime_eq year month 1 0 0 0
  have hend := datetime_eq year month (last_day year month) 23 59 59
  have hlater : month_of (t + 1000000) = (year, month) ↔ _ := month_of_eq_iff hmonth (t + 1000000)
  rw [ReportPeriod.covers_iff, hstart, hend]
  dsimp only
  by_cases hdated : month_of t = (year, month)
  · have hsecond : in_last_second t ↔ ¬month_of (t + 1000000) = (year, month) ∧ ¬t % 1000000 = 0 := by
      rw [in_last_second, decide_eq_true_eq, ← hdated]
      rfl
    rw [hsecond, hlater, and_iff_right hdated]
    rw [month_of_eq_iff hmonth] at hdated
    omega
  · simp only [hdated, false_and, iff_false]
    rw [month_of_eq_iff hmonth] at hdated
    omega

/-- An instant of a year that the report of its month covers. -/
def reported_in (year : ℤ) (t : Time) : Bool := decide ((month_of t).1 = year) && !in_last_second t

/-- The period of a month, for the months from 0 to 11. -/
def period_of (year : ℤ) (n : ℕ) : ReportPeriod :=
  ⟨datetime year (n + 1) 1 0 0 0, datetime year (n + 1) (last_day year (n + 1)) 23 59 59⟩

theorem month_period_ok {year : ℤ} (hyear : 1 ≤ year ∧ year ≤ 9999) {n : ℕ} (hn : n < 12) :
    month_period year (n + 1) = .ok (period_of year n) := by
  rw [month_period, if_neg (by omega), if_neg (by omega)]
  rfl

theorem period_of_covers {n : ℕ} (hn : n < 12) (year : ℤ) (t : Time) :
    (period_of year n).covers t ↔ month_of t = (year, (n : ℤ) + 1) ∧ ¬in_last_second t :=
  covers_month ⟨by omega, by omega⟩ t

theorem month_of_mem_year {year : ℤ} (t : Time) :
    month_of t ∈ (List.range 12).map (fun n : ℕ => (year, (n : ℤ) + 1)) ↔ (month_of t).1 = year := by
  rw [List.mem_map]
  constructor
  · rintro ⟨n, -, hmonth⟩
    rw [← hmonth]
  · rintro rfl
    obtain ⟨hfirst, hlast⟩ := month_of_bounds t
    refine ⟨((month_of t).2 - 1).toNat, List.mem_range.mpr (by omega), Prod.ext rfl ?_⟩
    dsimp only
    omega

/-- The reports of the months of a year count every row of the year once, but for the last seconds. -/
theorem sum_reported {R : Type} (created_at : R → Time) (p : R → Bool) (rows : List R) (year : ℤ) :
    ((List.range 12).map fun n => rows.countP fun row => (period_of year n).covers (created_at row) && p row).sum =
      rows.countP fun row => reported_in year (created_at row) && p row := by
  have hkeys : ((List.range 12).map fun n : ℕ => (year, (n : ℤ) + 1)).Nodup := by
    refine List.nodup_range.map fun first second hsame => ?_
    have hmonths := (Prod.mk.inj hsame).2
    omega
  have hsum := GroupBy.sum_countP (fun row => month_of (created_at row))
    (fun row => !in_last_second (created_at row) && p row) hkeys rows
  rw [List.map_map] at hsum
  refine Eq.trans ?_ (hsum.trans ?_)
  · refine congrArg List.sum (List.map_congr_left fun n hn => List.countP_congr fun row _ => ?_)
    have hcovers := period_of_covers (List.mem_range.mp hn) year (created_at row)
    simp only [Bool.and_eq_true, hcovers, decide_eq_true_eq, Bool.not_eq_true', and_assoc,
      Bool.not_eq_true]
  · refine List.countP_congr fun row _ => ?_
    simp only [reported_in, Bool.and_eq_true, month_of_mem_year, decide_eq_true_eq, and_assoc]

/-- The reports of the twelve months of a year have no row in common, and what they miss is what comes after 23:59:59
on the last day of a month. -/
theorem reports_add_up (tables : ReportTables) (now : Time) {year : ℤ} (hyear : 1 ≤ year ∧ year ≤ 9999) :
    ∃ reports : ℕ → MonthlyReport,
      (∀ n : ℕ, n < 12 →
        generate_monthly_report tables { month := some (n + 1), year := some year } now = .ok (reports n)) ∧
      (∀ n : ℕ, n < 12 → ∀ t, (reports n).period.covers t ↔ month_of t = (year, (n : ℤ) + 1) ∧ ¬in_last_second t) ∧
      ((List.range 12).map fun n => (reports n).incidents_total).sum =
        tables.incidents.countP (fun incident => reported_in year incident.created_at) ∧
      ((List.range 12).map fun n => (reports n).incidents_resolved).sum =
        tables.incidents.countP (fun incident =>
          reported_in year incident.created_at && decide (incident.status = .RESOLVED)) ∧
      ((List.range 12).map fun n => (reports n).isolate_cmds).sum =
        tables.commands.countP (fun cmd => reported_in year cmd.created_at && decide (cmd.action = "isolate")) ∧
      ((List.range 12).map fun n => (reports n).block_ip_cmds).sum =
        tables.commands.countP (fun cmd => reported_in year cmd.created_at && decide (cmd.action = "block_ip")) ∧
      ((List.range 12).map fun n => (reports n).high_crit_events).sum =
        tables.events.countP (fun event => reported_in year event.created_at &&
          decide (event.severity = .HIGH ∨ event.severity = .CRITICAL)) := by
  refine ⟨fun n => tables.report (period_of year n), fun n hn => ?_, fun n hn t => period_of_covers hn year t, ?_,
    sum_reported _ _ _ year, sum_reported _ _ _ year, sum_reported _ _ _ year, sum_reported _ _ _ year⟩
  · have hgiven : given_or (some year) (month_of now).1 = year := given_or_some (by omega)
    have hmonth : given_or (some ((n : ℤ) + 1)) (month_of now).2 = n + 1 := given_or_some (by omega)
    have hperiod : report_period { month := some (n + 1), year := some year } now = .ok (period_of year n) := by
      change month_period (given_or (some year) _) (given_or (some ((n : ℤ) + 1)) _) = _
      rw [hgiven, hmonth, month_period_ok hyear hn]
    rw [generate_monthly_report, hperiod]
    rfl
  · have hsum := sum_reported ReportedIncident.created_at (fun _ => true) tables.incidents year
    simp only [Bool.and_true] at hsum
    exact hsum

/-- One incident in the last half second of June, and one at the beginning of July. -/
def june_and_july : ReportTables where
  agents := []
  incidents := [⟨1719791999500000, .OPEN⟩, ⟨1719792000000000, .RESOLVED⟩]
  commands := []
  events := []

theorem reports_add_up_june_and_july : ∃ reports : ℕ → MonthlyReport,
    (∀ n : ℕ, n < 12 →
      generate_monthly_report june_and_july { month := some (n + 1), year := some 2024 } 0 = .ok (reports n)) ∧
    ((List.range 12).map fun n => (reports n).incidents_total).sum = 1 := by
  obtain ⟨reports, hreports, -, htotal, -⟩ := reports_add_up june_and_july 0 (show 1 ≤ (2024 : ℤ) ∧ _ by decide)
  exact ⟨reports, hreports, htotal.trans (by decide)⟩

end larp
