import Mathlib.Algebra.Group.Nat.Defs
import StoredSql.Dialect
import StoredSql.Proofs.DayNumbers

/-!
# Instants

A point in time counts the microseconds of its day and of its time of day, less its offset from
universal time. Universal time is the point without an offset that has the same count, and there is
one unless it is behind an end of the calendar (`DateTime.toUniversal?_eq_some_iff`,
`DateTime.toUniversal?_eq_none_iff`). The literal of a point in time is the text of its universal
time, from which day and time of day are read back: points in time keep their instant
(`instants_kept`).
-/

namespace StoredSql.Calendar

namespace Clock

variable {c c' : Clock}

theorem bounds (c : Clock) : (c.hour < 24 ∧ c.minute < 60) ∧ c.second < 60 ∧ c.micro < 1000000 := by
  have h := c.valid
  simp only [isClock, Bool.and_eq_true, decide_eq_true_eq] at h
  exact ⟨h.1.1, h.1.2, h.2⟩

/-- Hour, minute, second and microsecond. -/
def fields (c : Clock) : List Nat := [c.hour, c.minute, c.second, c.micro]

theorem fields_inj : c.fields = c'.fields ↔ c = c' := by
  obtain ⟨h, m, s, u, _⟩ := c
  obtain ⟨h', m', s', u', _⟩ := c'
  simp [fields]

theorem micros_eq (c : Clock) :
    c.micros = 3600000000 * c.hour + 60000000 * c.minute + 1000000 * c.second + c.micro := by
  unfold micros seconds
  omega

theorem micros_lt_day (c : Clock) : c.micros < 86400000000 := by
  have := c.bounds
  rw [micros_eq]
  omega

/-- **Times of day are counted in their order.** -/
theorem micros_lt_iff : c.micros < c'.micros ↔ c.fields < c'.fields := by
  have := c.bounds
  have := c'.bounds
  simp only [fields, List.cons_lt_cons_iff, micros_eq, List.not_lt_nil, and_false, or_false]
  omega

theorem micros_inj : c.micros = c'.micros ↔ c = c' := by
  rw [← fields_inj]
  simp only [le_antisymm_iff, ← not_lt, micros_lt_iff]

theorem micros_of_ofMicros? {n : Nat} (h : ofMicros? n = some c) : c.micros = n := by
  unfold ofMicros? ofNumbers? at h
  split at h
  · obtain rfl := Option.some.inj h
    simp only [micros_eq]
    omega
  · cases h

theorem exists_ofMicros? {n : Nat} (h : n < 86400000000) : ∃ c, ofMicros? n = some c := by
  have hvalid : isClock (n / 3600000000) (n / 60000000 % 60) (n / 1000000 % 60) (n % 1000000)
      = true := by
    simp only [isClock, Bool.and_eq_true, decide_eq_true_eq]
    omega
  exact ⟨⟨_, _, _, _, hvalid⟩, dif_pos hvalid⟩

end Clock

namespace DateTime

variable {t t' u u' : DateTime}

/-- The numbers of the day and of the time of day, the greatest unit first. -/
def fields (t : DateTime) : List Nat := t.date.fields ++ t.clock.fields

/-- **Points in time are counted in their order**, whatever their offsets. -/
theorem localMicros_lt_iff : t.localMicros < t'.localMicros ↔ t.fields < t'.fields := by
  have := t.clock.micros_lt_day
  have := t'.clock.micros_lt_day
  unfold localMicros
  rcases lt_trichotomy t.date.number t'.date.number with hlt | heq | hgt
  · have hfields := Date.fields_lt_iff.1 (Date.number_lt_iff.1 hlt)
    simp only [fields, Date.fields, List.cons_append, List.nil_append, List.cons_lt_cons_iff]
    omega
  · rw [fields, fields, Date.number_inj.1 heq]
    simp only [Date.fields, List.cons_append, List.nil_append, List.cons_lt_cons_iff, lt_irrefl,
      false_or, true_and]
    rw [← Clock.micros_lt_iff]
    omega
  · have hfields := Date.fields_lt_iff.1 (Date.number_lt_iff.1 hgt)
    simp only [fields, Date.fields, List.cons_append, List.nil_append, List.cons_lt_cons_iff]
    omega

/-- Without offsets, two points in time of one count are the same. -/
theorem eq_of_localMicros (hu : u.offset = none) (hu' : u'.offset = none)
    (h : u.localMicros = u'.localMicros) : u = u' := by
  have := u.clock.micros_lt_day
  have := u'.clock.micros_lt_day
  unfold localMicros at h
  have hdate : u.date = u'.date := Date.number_inj.1 (by omega)
  have hclock : u.clock = u'.clock := Clock.micros_inj.1 (by omega)
  obtain ⟨date, clock, offset⟩ := u
  obtain ⟨date', clock', offset'⟩ := u'
  obtain rfl : offset = none := hu
  obtain rfl : offset' = none := hu'
  obtain rfl : date = date' := hdate
  obtain rfl : clock = clock' := hclock
  rfl

/-! ## Universal time -/

theorem instant_of_naive (h : t.offset = none) : t.instant = t.localMicros := by
  rw [instant, h]
  exact Int.sub_zero _

theorem instant_of_aware {o : Offset} (h : t.offset = some o) :
    t.instant = t.localMicros - o.micros := by
  rw [instant, h]
  rfl

/-- Whether the instant is one of the calendar in universal time: it comes neither before the first
day nor behind the last. -/
def InCalendar (t : DateTime) : Prop :=
  86400000000 * (Date.first.number : Int) ≤ t.instant ∧
    t.instant < 86400000000 * (Date.last.number + 1 : Int)

instance (t : DateTime) : Decidable t.InCalendar := inferInstanceAs (Decidable (_ ∧ _))

theorem inCalendar_of_naive (h : t.offset = none) : t.InCalendar := by
  have := t.date.number_bounds
  have := t.clock.micros_lt_day
  rw [InCalendar, instant_of_naive h, localMicros]
  omega

/-- Universal time has the instant, and no offset. -/
theorem toUniversal?_spec (h : t.toUniversal? = some u) :
    u.offset = none ∧ u.localMicros = t.instant := by
  unfold toUniversal? at h
  split at h
  · rename_i hnaive
    obtain rfl := Option.some.inj h
    exact ⟨hnaive, (instant_of_naive hnaive).symm⟩
  · rename_i o haware
    simp only [Option.bind_eq_bind, Option.bind_eq_some_iff, Option.pure_def,
      Option.some.injEq] at h
    obtain ⟨date, hdate, clock, hclock, rfl⟩ := h
    have hnumber := number_of_shiftDay? hdate
    have hmicros := Clock.micros_of_ofMicros? hclock
    refine ⟨rfl, ?_⟩
    rw [instant_of_aware haware]
    simp only [localMicros]
    omega

/-- There is universal time for all instants of the calendar. -/
theorem exists_toUniversal? (h : t.InCalendar) : ∃ u, t.toUniversal? = some u := by
  unfold toUniversal?
  split
  · exact ⟨t, rfl⟩
  · rename_i o haware
    have hbounded := o.bounded
    have := t.clock.micros_lt_day
    rw [InCalendar, instant_of_aware haware, localMicros] at h
    obtain ⟨date, hdate⟩ := exists_shiftDay? (d := t.date)
      (k := ((t.clock.micros : Int) - o.micros) / 86400000000) (by omega) (by omega)
    obtain ⟨clock, hclock⟩ := Clock.exists_ofMicros?
      (n := (((t.clock.micros : Int) - o.micros) % 86400000000).toNat) (by omega)
    refine ⟨⟨date, clock, none⟩, ?_⟩
    simp only [hdate, hclock]
    rfl

/-- **Universal time** is the point without an offset that has the instant: there is one for the
instants of the calendar and for no others. -/
theorem toUniversal?_eq_some_iff :
    t.toUniversal? = some u ↔ u.offset = none ∧ u.localMicros = t.instant := by
  refine ⟨toUniversal?_spec, fun ⟨hu, hcount⟩ => ?_⟩
  have hcalendar : t.InCalendar := by
    have h := inCalendar_of_naive hu
    rwa [InCalendar, instant_of_naive hu, hcount] at h
  obtain ⟨v, hv⟩ := exists_toUniversal? hcalendar
  have hspec := toUniversal?_spec hv
  rw [hv, eq_of_localMicros hspec.1 hu (hspec.2.trans hcount.symm)]

end DateTime

/-! ## Texts -/

theorem length_padded {width n : Nat} (hw : 0 < width) (h : n < 10 ^ width) :
    (padded width n).length = width := by
  have := (Nat.length_toDigits_le_iff (b := 10) (by decide) hw).2 h
  simp only [padded, Number.digits, List.length_append, List.length_replicate]
  omega

/-- A padded number is read back. -/
theorem ofDigitChars_padded (width n : Nat) : Nat.ofDigitChars 10 (padded width n) 0 = n := by
  simp [padded, Number.digits, Nat.ofDigitChars_append, Nat.ofDigitChars_replicate_zero,
    Nat.ofDigitChars_toDigits]

theorem padded_inj {width m n : Nat} : padded width m = padded width n ↔ m = n := by
  refine ⟨fun h => ?_, congrArg _⟩
  rw [← ofDigitChars_padded width m, h, ofDigitChars_padded]

/-- A number of known width does not run into what follows it. -/
theorem padded_append_inj {width m n : Nat} {cs cs' : List Char} (hm : m < 10 ^ width)
    (hn : n < 10 ^ width) (hw : 0 < width) :
    padded width m ++ cs = padded width n ++ cs' ↔ m = n ∧ cs = cs' := by
  constructor
  · intro h
    have hlength : (padded width m).length = (padded width n).length := by
      rw [length_padded hw hm, length_padded hw hn]
    obtain ⟨hnumbers, hcs⟩ := List.append_inj h hlength
    exact ⟨padded_inj.1 hnumbers, hcs⟩
  · rintro ⟨rfl, rfl⟩
    rfl

theorem Date.chars_append_inj {d e : Date} {cs cs' : List Char} :
    d.chars ++ cs = e.chars ++ cs' ↔ d = e ∧ cs = cs' := by
  have hdays : ∀ d : Date, d.day < 100 := fun d => by
    have := d.day_bounds
    have := daysInMonth_bounds d.year d.month
    omega
  have hmonths : ∀ d : Date, d.month < 100 := fun d => by
    have := d.month_bounds
    omega
  have hyears : ∀ d : Date, d.year < 10000 := fun d => by
    have := d.year_bounds
    omega
  simp only [chars, List.append_assoc, List.cons_append]
  rw [padded_append_inj (hyears d) (hyears e) (by decide), List.cons.injEq,
    padded_append_inj (hmonths d) (hmonths e) (by decide), List.cons.injEq,
    padded_append_inj (hdays d) (hdays e) (by decide), ← fields_inj]
  simp [fields, and_assoc]

theorem Clock.chars_inj {c c' : Clock} : c.chars = c'.chars ↔ c = c' := by
  have hc := c.bounds
  have hc' := c'.bounds
  have hmicros : (if c.micro = 0 then [] else '.' :: padded 6 c.micro)
      = (if c'.micro = 0 then [] else '.' :: padded 6 c'.micro) ↔ c.micro = c'.micro := by
    by_cases h : c.micro = 0
    · by_cases h' : c'.micro = 0
      · simp [h, h']
      · simp [h, h', Ne.symm h']
    · by_cases h' : c'.micro = 0
      · simp [h, h']
      · simp [h, h', padded_inj]
  simp only [chars, List.append_assoc, List.cons_append]
  rw [padded_append_inj (by omega) (by omega) (by decide), List.cons.injEq,
    padded_append_inj (by omega) (by omega) (by decide), List.cons.injEq,
    padded_append_inj (by omega) (by omega) (by decide), hmicros, ← fields_inj]
  simp [fields]

/-- The text tells the day and the time of day. -/
theorem DateTime.chars_inj {t t' : DateTime} :
    t.chars = t'.chars ↔ t.date = t'.date ∧ t.clock = t'.clock := by
  rw [chars, chars, Date.chars_append_inj, List.cons.injEq, Clock.chars_inj]
  simp

/-! ## Literals of points in time -/

namespace DateTime

variable {t t' u u' : DateTime}

theorem literal_of_toUniversal? (h : t.toUniversal? = some u) :
    Dialect.literal (.datetime t) = .ok (Dialect.tagged "TIMESTAMP " u.chars) := by
  rw [Dialect.literal, h]

/-- How a point in time is written: as the calendar time without an offset that is the local time
less the offset. An offset of full seconds leaves the microseconds as they are. -/
structure WrittenAs (t u : DateTime) : Prop where
  naive : u.offset = none
  count : u.localMicros = t.instant
  micro : ∀ o, t.offset = some o → o.micros % 1000000 = 0 → u.clock.micro = t.clock.micro
  text : ∃ text, Dialect.literal (.datetime t) = .ok text ∧ Dialect.literal (.datetime u) = .ok text

theorem writtenAs_of_toUniversal? (h : t.toUniversal? = some u) : t.WrittenAs u := by
  obtain ⟨hnaive, hcount⟩ := toUniversal?_eq_some_iff.1 h
  have hself : u.toUniversal? = some u :=
    toUniversal?_eq_some_iff.2 ⟨hnaive, (instant_of_naive hnaive).symm⟩
  refine ⟨hnaive, hcount, fun o ho hseconds => ?_,
    _, literal_of_toUniversal? h, literal_of_toUniversal? hself⟩
  have := t.clock.bounds
  have := u.clock.bounds
  rw [instant_of_aware ho, localMicros, localMicros, Clock.micros_eq, Clock.micros_eq] at hcount
  omega

/-- Points in time of one text have one instant. -/
theorem literal_eq_iff (hu : t.toUniversal? = some u) (hu' : t'.toUniversal? = some u') :
    Dialect.literal (.datetime t) = Dialect.literal (.datetime t') ↔ t.instant = t'.instant := by
  obtain ⟨hnaive, hcount⟩ := toUniversal?_eq_some_iff.1 hu
  obtain ⟨hnaive', hcount'⟩ := toUniversal?_eq_some_iff.1 hu'
  have htagged : ∀ cs cs', Dialect.tagged "TIMESTAMP " cs = Dialect.tagged "TIMESTAMP " cs' ↔
      cs = cs' := fun cs cs' => by
    rw [Dialect.tagged_eq, Dialect.tagged_eq, ← String.toList_inj]
    simp
  rw [literal_of_toUniversal? hu, literal_of_toUniversal? hu', Except.ok.injEq, htagged, chars_inj,
    ← hcount, ← hcount']
  constructor
  · rintro ⟨hdate, hclock⟩
    rw [localMicros, localMicros, hdate, hclock]
  · intro h
    rw [eq_of_localMicros hnaive hnaive' h]
    exact ⟨rfl, rfl⟩

end DateTime
end StoredSql.Calendar

namespace StoredSql

open Calendar

/-- **Points in time keep their instant.** A point in time whose universal time is in the calendar
is written as its calendar time in universal time. So two of them have one text if and only if they
are the same instant, and a later instant is written as a later calendar time. -/
theorem instants_kept {t t' : DateTime} (h : t.InCalendar) (h' : t'.InCalendar) :
    ∃ u u' : DateTime, t.WrittenAs u ∧ t'.WrittenAs u' ∧
      (Dialect.literal (.datetime t) = Dialect.literal (.datetime t') ↔ t.instant = t'.instant) ∧
      (t.instant < t'.instant ↔ u.fields < u'.fields) := by
  obtain ⟨u, hu⟩ := DateTime.exists_toUniversal? h
  obtain ⟨u', hu'⟩ := DateTime.exists_toUniversal? h'
  refine ⟨u, u', DateTime.writtenAs_of_toUniversal? hu, DateTime.writtenAs_of_toUniversal? hu',
    DateTime.literal_eq_iff hu hu', ?_⟩
  rw [← DateTime.localMicros_lt_iff, (DateTime.toUniversal?_eq_some_iff.1 hu).2,
    (DateTime.toUniversal?_eq_some_iff.1 hu').2]

/-- A point in time two hours ahead of universal time, on the first of March. -/
def earlyMarch : DateTime :=
  ⟨⟨2024, 3, 1, by decide⟩, ⟨0, 30, 5, 120, by decide⟩, Offset.ofSeconds? 7200⟩

/-- A point in time one second behind universal time, on the last day of February. -/
def lateFebruary : DateTime :=
  ⟨⟨2024, 2, 29, by decide⟩, ⟨22, 30, 4, 120, by decide⟩, Offset.ofSeconds? (-1)⟩

/-- Universal time goes back over the end of a month in a leap year. -/
theorem earlyMarch_kept :
    Dialect.literal (.datetime earlyMarch) = .ok "TIMESTAMP '2024-02-29 22:30:05.000120'" ∧
      Dialect.literal (.datetime lateFebruary) = .ok "TIMESTAMP '2024-02-29 22:30:05.000120'" ∧
      earlyMarch.instant = lateFebruary.instant := by
  have hearly : earlyMarch.InCalendar := by decide
  have hlate : lateFebruary.InCalendar := by decide
  obtain ⟨_, _, _, _, hsame, _⟩ := instants_kept hearly hlate
  have h : Dialect.literal (.datetime earlyMarch) =
    .ok "TIMESTAMP '2024-02-29 22:30:05.000120'" := rfl
  have h' : Dialect.literal (.datetime lateFebruary) =
    .ok "TIMESTAMP '2024-02-29 22:30:05.000120'" := rfl
  exact ⟨h, h', hsame.1 (h.trans h'.symm)⟩

end StoredSql
