import Mathlib.Data.List.Lex
import StoredSql.Calendar.DateTime

/-!
# Day numbers

The days of the calendar are numbered without a gap and in their order: a day with a later year,
month or day has a greater number (`Date.number_lt_iff`), and the next day has the next number, over
the end of a month, of February in a leap year, and of a year (`Date.number_of_next?`). Only the
last day has no day after it, and only the first has none before it.
-/

namespace StoredSql.Calendar

/-! ## Years and months -/

/-- The days of the first `y` years. -/
def daysOfYears (y : Nat) : Nat := 365 * y + y / 4 - y / 100 + y / 400

/-- The days of a year. -/
def daysInYear (year : Nat) : Nat := if isLeapYear year then 366 else 365

theorem isLeapYear_iff {year : Nat} :
    isLeapYear year = true ↔ year % 4 = 0 ∧ (year % 100 ≠ 0 ∨ year % 400 = 0) := by
  simp [isLeapYear]

theorem succ_div_eq (y k : Nat) : (y + 1) / k = y / k + if (y + 1) % k = 0 then 1 else 0 := by
  rw [Nat.succ_div]
  simp only [Nat.dvd_iff_mod_eq_zero]

theorem daysOfYears_succ (y : Nat) :
    daysOfYears (y + 1) = daysOfYears y + daysInYear (y + 1) := by
  have hle : y / 100 ≤ y / 4 := Nat.div_le_div_left (by decide) (by decide)
  have h100 : (y + 1) % 100 = 0 → (y + 1) % 4 = 0 := by omega
  have h400 : (y + 1) % 400 = 0 → (y + 1) % 100 = 0 := by omega
  unfold daysOfYears daysInYear
  simp only [isLeapYear_iff, succ_div_eq]
  -- no more is needed of quotients and remainders
  generalize y / 4 = fourths, y / 100 = centuries, y / 400 = fourCenturies at *
  generalize (y + 1) % 4 = r, (y + 1) % 100 = s, (y + 1) % 400 = t at *
  split <;> split <;> split <;> split <;> omega

theorem daysOfYears_mono {y y' : Nat} (h : y ≤ y') : daysOfYears y ≤ daysOfYears y' := by
  induction h with
  | refl => exact Nat.le_refl _
  | step _ ih => exact Nat.le_trans ih (by rw [daysOfYears_succ]; omega)

namespace Date

theorem daysBefore_succ (year : Nat) {month : Nat} (h : 1 ≤ month) :
    daysBefore year (month + 1) = daysBefore year month + daysInMonth year month := by
  obtain ⟨m, rfl⟩ := Nat.exists_eq_add_of_le' h
  rfl

theorem daysBefore_add_le (year : Nat) {month month' : Nat} (h : 1 ≤ month) (hlt : month < month') :
    daysBefore year month + daysInMonth year month ≤ daysBefore year month' := by
  induction hlt with
  | refl => exact (daysBefore_succ year h).symm.le
  | @step month' hle ih =>
    have hle : month + 1 ≤ month' := hle
    rw [daysBefore_succ year (by omega)]
    omega

/-- The months make up the year. -/
theorem daysBefore_thirteenth (year : Nat) : daysBefore year 13 = daysInYear year := by
  cases hleap : isLeapYear year <;> simp [daysBefore, daysInMonth, daysInYear, hleap]

theorem daysInMonth_december (year : Nat) : daysInMonth year 12 = 31 := by simp [daysInMonth]

theorem daysInMonth_bounds (year month : Nat) :
    1 ≤ daysInMonth year month ∧ daysInMonth year month ≤ 31 := by
  unfold daysInMonth
  split
  · split <;> decide
  · split <;> decide

theorem isDate_iff {year month day : Nat} : isDate year month day = true ↔
    (1 ≤ year ∧ year ≤ 9999) ∧ (1 ≤ month ∧ month ≤ 12) ∧
      1 ≤ day ∧ day ≤ daysInMonth year month := by
  simp [isDate, and_assoc]

theorem year_bounds (d : Date) : 1 ≤ d.year ∧ d.year ≤ 9999 := (isDate_iff.1 d.valid).1

theorem month_bounds (d : Date) : 1 ≤ d.month ∧ d.month ≤ 12 := (isDate_iff.1 d.valid).2.1

theorem day_bounds (d : Date) : 1 ≤ d.day ∧ d.day ≤ daysInMonth d.year d.month :=
  (isDate_iff.1 d.valid).2.2

/-- The number of the day within its year. -/
def ofYear (d : Date) : Nat := daysBefore d.year d.month + d.day

theorem number_eq (d : Date) : d.number = daysOfYears (d.year - 1) + d.ofYear :=
  Nat.add_assoc _ _ _

theorem ofYear_bounds (d : Date) : 1 ≤ d.ofYear ∧ d.ofYear ≤ daysInYear d.year := by
  have hmonth := d.month_bounds
  have hday := d.day_bounds
  have hlt : d.month < 13 := by omega
  have hle := daysBefore_add_le d.year hmonth.1 hlt
  rw [daysBefore_thirteenth] at hle
  unfold ofYear
  omega

/-! ## The order of days -/

/-- Year, month and day. -/
def fields (d : Date) : List Nat := [d.year, d.month, d.day]

variable {d e : Date}

theorem fields_inj : d.fields = e.fields ↔ d = e := by
  obtain ⟨y, m, d, _⟩ := d
  obtain ⟨y', m', d', _⟩ := e
  simp [fields]

theorem fields_lt_iff : d.fields < e.fields ↔
    d.year < e.year ∨
      d.year = e.year ∧ (d.month < e.month ∨ d.month = e.month ∧ d.day < e.day) := by
  simp [fields, List.cons_lt_cons_iff]

/-- A day with a later year, month or day has a greater number. -/
theorem number_lt_of_fields_lt (h : d.fields < e.fields) : d.number < e.number := by
  rw [number_eq, number_eq]
  rcases fields_lt_iff.1 h with hyear | ⟨hyear, hrest⟩
  · have hbefore : d.year ≤ e.year - 1 := by omega
    have hle := daysOfYears_mono hbefore
    have hsucc := daysOfYears_succ (d.year - 1)
    rw [Nat.sub_add_cancel d.year_bounds.1] at hsucc
    have := d.ofYear_bounds
    have := e.ofYear_bounds
    omega
  · rw [hyear]
    unfold ofYear
    rcases hrest with hmonth | ⟨hmonth, hday⟩
    · have hle := daysBefore_add_le d.year d.month_bounds.1 hmonth
      have := d.day_bounds
      have := e.day_bounds
      rw [hyear] at *
      omega
    · rw [hyear, hmonth]
      omega

/-- **Days are numbered in their order.** -/
theorem number_lt_iff : d.number < e.number ↔ d.fields < e.fields := by
  refine ⟨fun h => ?_, number_lt_of_fields_lt⟩
  rcases lt_trichotomy d.fields e.fields with hlt | heq | hgt
  · exact hlt
  · rw [fields_inj.1 heq] at h
    exact absurd h (lt_irrefl _)
  · exact absurd h (number_lt_of_fields_lt hgt).asymm

theorem number_inj : d.number = e.number ↔ d = e := by
  rw [← fields_inj]
  simp only [le_antisymm_iff, ← not_lt, number_lt_iff]

/-! ## The days next to a day -/

/-- The first day of the calendar. -/
def first : Date := ⟨1, 1, 1, by decide⟩

/-- The last day of the calendar. -/
def last : Date := ⟨9999, 12, 31, by decide⟩

theorem number_first : first.number = 1 := rfl

theorem number_last : last.number = 3652059 := rfl

theorem ofNumbers?_eq_some {year month day : Nat} :
    ofNumbers? year month day = some e ↔ year = e.year ∧ month = e.month ∧ day = e.day := by
  obtain ⟨y, m, d, hvalid⟩ := e
  unfold ofNumbers?
  split
  · simp
  · rename_i hnot
    simp only [reduceCtorEq, false_iff]
    rintro ⟨rfl, rfl, rfl⟩
    exact hnot hvalid

theorem ofNumbers?_isSome {year month day : Nat} (h : isDate year month day = true) :
    ∃ e, ofNumbers? year month day = some e := ⟨⟨year, month, day, h⟩, dif_pos h⟩

/-- The next day has the next number. -/
theorem number_of_next? (h : d.next? = some e) : e.number = d.number + 1 := by
  have hmonth := d.month_bounds
  have hday := d.day_bounds
  unfold next? at h
  rw [number_eq, number_eq, ofYear, ofYear]
  split at h
  · obtain ⟨hy, hm, hd⟩ := ofNumbers?_eq_some.1 h
    rw [← hy, ← hm, ← hd]
    omega
  split at h
  · obtain ⟨hy, hm, hd⟩ := ofNumbers?_eq_some.1 h
    rw [← hy, ← hm, ← hd, daysBefore_succ _ hmonth.1]
    omega
  · obtain ⟨hy, hm, hd⟩ := ofNumbers?_eq_some.1 h
    have hdecember : d.month = 12 := by omega
    have hlast : d.day = daysInMonth d.year 12 := by rw [← hdecember]; omega
    have hyears := daysOfYears_succ (d.year - 1)
    rw [Nat.sub_add_cancel d.year_bounds.1, ← daysBefore_thirteenth,
      daysBefore_succ _ (by decide)] at hyears
    have hjanuary : daysBefore (d.year + 1) 1 = 0 := rfl
    rw [← hy, ← hm, ← hd, hjanuary, hdecember, hlast, Nat.add_sub_cancel, hyears]

/-- Every day but the last has a day after it. -/
theorem exists_next? (h : d.number < last.number) : ∃ e, d.next? = some e := by
  have hyear := d.year_bounds
  have hmonth := d.month_bounds
  have hday := d.day_bounds
  unfold next?
  split
  · exact ofNumbers?_isSome (isDate_iff.2 (by omega))
  split
  · have hfirst := daysInMonth_bounds d.year (d.month + 1)
    exact ofNumbers?_isSome (isDate_iff.2 (by omega))
  · have hdecember : d.month = 12 := by omega
    have hlast : d.day = 31 := by rw [← daysInMonth_december d.year, ← hdecember]; omega
    have hyear : d.year ≠ 9999 := by
      intro hyear
      have : d = last := fields_inj.1 (by rw [fields, hyear, hdecember, hlast]; rfl)
      rw [this] at h
      exact lt_irrefl _ h
    have hfirst := daysInMonth_bounds (d.year + 1) 1
    exact ofNumbers?_isSome (isDate_iff.2 (by omega))

/-- The day before is the one that the day is next to. -/
theorem next?_of_prev? (h : d.prev? = some e) : e.next? = some d := by
  have hmonth := d.month_bounds
  have hday := d.day_bounds
  unfold prev? at h
  unfold next?
  split at h
  · obtain ⟨hy, hm, hd⟩ := ofNumbers?_eq_some.1 h
    rw [← hy, ← hm, ← hd, if_pos (by omega)]
    exact ofNumbers?_eq_some.2 (by omega)
  split at h
  · obtain ⟨hy, hm, hd⟩ := ofNumbers?_eq_some.1 h
    rw [← hy, ← hm, ← hd, if_neg (lt_irrefl _), if_pos (by omega)]
    exact ofNumbers?_eq_some.2 (by omega)
  · obtain ⟨hy, hm, hd⟩ := ofNumbers?_eq_some.1 h
    have hyear := d.year_bounds
    rw [← hy, ← hm, ← hd, daysInMonth_december, if_neg (lt_irrefl _), if_neg (lt_irrefl _)]
    exact ofNumbers?_eq_some.2 (by omega)

/-- Every day but the first has a day before it. -/
theorem exists_prev? (h : first.number < d.number) : ∃ e, d.prev? = some e := by
  have hyear := d.year_bounds
  have hmonth := d.month_bounds
  have hday := d.day_bounds
  unfold prev?
  split
  · exact ofNumbers?_isSome (isDate_iff.2 (by omega))
  split
  · have hlast := daysInMonth_bounds d.year (d.month - 1)
    exact ofNumbers?_isSome (isDate_iff.2 (by omega))
  · have hyear : d.year ≠ 1 := by
      intro hyear
      have hmonth : d.month = 1 := by omega
      have hday : d.day = 1 := by omega
      have : d = first := fields_inj.1 (by rw [fields, hyear, hmonth, hday]; rfl)
      rw [this] at h
      exact lt_irrefl _ h
    have hlast := daysInMonth_december (d.year - 1)
    exact ofNumbers?_isSome (isDate_iff.2 (by omega))

/-- The numbers of days lie between those of the first and of the last day. -/
theorem number_bounds (d : Date) : first.number ≤ d.number ∧ d.number ≤ last.number := by
  have hyear := d.year_bounds
  have hmonth := d.month_bounds
  have hday := d.day_bounds
  constructor
  · have hof := d.ofYear_bounds
    rw [number_first, number_eq]
    omega
  · refine Nat.le_of_not_lt fun h => ?_
    have hfields := fields_lt_iff.1 (number_lt_iff.1 h)
    simp only [last] at hfields
    rcases hfields with hlater | ⟨_, hlater | ⟨hdecember, hlater⟩⟩
    · omega
    · omega
    · rw [← hdecember, daysInMonth_december] at hday
      omega

end Date

namespace DateTime

variable {d e : Date} {k : Int}

theorem number_of_shiftDay? (h : shiftDay? d k = some e) : (e.number : Int) = d.number + k := by
  unfold shiftDay? at h
  split at h
  · obtain rfl := Option.some.inj h
    omega
  · have := Date.number_of_next? h
    omega
  · have := Date.number_of_next? (Date.next?_of_prev? h)
    omega
  · cases h

/-- The day before, the day itself and the day after are found unless the calendar ends there. -/
theorem exists_shiftDay? (hk : -1 ≤ k ∧ k ≤ 1)
    (h : (Date.first.number : Int) ≤ d.number + k ∧ d.number + k ≤ Date.last.number) :
    ∃ e, shiftDay? d k = some e := by
  have hcases : k = 0 ∨ k = 1 ∨ k = -1 := by omega
  rcases hcases with rfl | rfl | rfl
  · exact ⟨d, rfl⟩
  · exact Date.exists_next? (by omega)
  · exact Date.exists_prev? (by omega)

end DateTime
end StoredSql.Calendar
