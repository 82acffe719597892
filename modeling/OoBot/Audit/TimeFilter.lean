import OoBot.Audit.Query
import OoBot.Lib.Positional
import Mathlib.Data.Char

/-!
# Time stamps in `src/audit/mod.rs`

`passes_filter` compares time stamps as strings.  Of the crate `time` it uses how RFC 3339 is written:
fields of a fixed width, a fraction without zeros at its end where there is one, and a `Z`.

* `UtcDateTime.nanos` is the instant of a date and time of day, and orders them field by field
  (`nanos_lt_iff`).
* A longer fraction sorts before the fraction that it goes on from, since a dot and a digit come before
  the `Z`.  So two strings are ordered as the instants are, unless one instant is the other with the
  last digits of its fraction cut off (`time_filters_iff`).
-/

namespace OoBot

open Positional (padded trimmed Cut)

/-! ### Dates -/

/-- The leap years of the Gregorian calendar. -/
def isLeapYear (year : ℤ) : Bool := year % 4 = 0 ∧ (year % 100 ≠ 0 ∨ year % 400 = 0)

/-- The days of a month. -/
def daysInMonth (year : ℤ) (month : ℕ) : ℕ :=
  if month = 2 then if isLeapYear year then 29 else 28
  else if month = 4 ∨ month = 6 ∨ month = 9 ∨ month = 11 then 30
  else 31

/-- The days before a month of a year; months count from 1. -/
def daysBeforeMonth (year : ℤ) : ℕ → ℕ
  | 0 => 0
  | 1 => 0
  | month + 2 => daysBeforeMonth year (month + 1) + daysInMonth year (month + 1)

/-- The days from the start of the year 1 to the start of a year. -/
def daysBeforeYear (year : ℤ) : ℤ :=
  365 * (year - 1) + (year - 1) / 4 - (year - 1) / 100 + (year - 1) / 400

/-- `OffsetDateTime` at the offset of UTC: a date of the Gregorian calendar and a time of day. -/
structure UtcDateTime where
  year : ℤ
  month : ℕ
  day : ℕ
  hour : ℕ
  minute : ℕ
  second : ℕ
  nanosecond : ℕ
  month_valid : 1 ≤ month ∧ month ≤ 12
  day_valid : 1 ≤ day ∧ day ≤ daysInMonth year month
  hour_valid : hour < 24
  minute_valid : minute < 60
  second_valid : second < 60
  nanosecond_valid : nanosecond < 10 ^ 9

namespace UtcDateTime

variable (t a b : UtcDateTime)

/-- The days since the start of the year 1. -/
def days : ℤ := daysBeforeYear t.year + daysBeforeMonth t.year t.month + (t.day - 1 : ℤ)

/-- The seconds since then. -/
def seconds : ℤ := ((t.days * 24 + t.hour) * 60 + t.minute) * 60 + t.second

/-- The instant: the nanoseconds since then. -/
def nanos : ℤ := t.seconds * 10 ^ 9 + t.nanosecond

end UtcDateTime

/-- Months do not overlap. -/
theorem daysBeforeMonth_add_le (year : ℤ) {m m' : ℕ} (hm : 1 ≤ m) (h : m < m') :
    daysBeforeMonth year m + daysInMonth year m ≤ daysBeforeMonth year m' := by
  induction m' with
  | zero => omega
  | succ k ih =>
    obtain ⟨k, rfl⟩ : ∃ j, k = j + 1 := ⟨k - 1, by omega⟩
    rw [daysBeforeMonth]
    rcases Nat.lt_succ_iff_lt_or_eq.1 h with hlt | rfl
    · exact (ih hlt).trans (Nat.le_add_right _ _)
    · exact Nat.le_refl _

/-- Twelve months make a year. -/
theorem daysBeforeMonth_thirteen (year : ℤ) :
    daysBeforeYear year + daysBeforeMonth year 13 = daysBeforeYear (year + 1) := by
  unfold daysBeforeYear
  simp only [daysBeforeMonth, daysInMonth]
  by_cases hleap : isLeapYear year = true
  · have h : year % 4 = 0 ∧ (year % 100 ≠ 0 ∨ year % 400 = 0) := by simpa [isLeapYear] using hleap
    simp [hleap]
    omega
  · have h : ¬ (year % 4 = 0 ∧ (year % 100 ≠ 0 ∨ year % 400 = 0)) := by
      simpa [isLeapYear] using hleap
    simp [hleap]
    omega

/-- Nor do years. -/
theorem daysBeforeYear_mono {y y' : ℤ} (h : y ≤ y') : daysBeforeYear y ≤ daysBeforeYear y' := by
  unfold daysBeforeYear
  omega

namespace UtcDateTime

variable {t a b : UtcDateTime}

theorem day_le_thirteen : daysBeforeMonth t.year t.month + t.day ≤ daysBeforeMonth t.year 13 := by
  have := daysBeforeMonth_add_le t.year t.month_valid.1 (by have := t.month_valid.2; omega : t.month < 13)
  have := t.day_valid.2
  omega

theorem days_lt_of_year (h : a.year < b.year) : a.days < b.days := by
  have hyear := daysBeforeMonth_thirteen a.year
  have hmono := daysBeforeYear_mono h
  have hday := @day_le_thirteen a
  have := b.day_valid.1
  unfold days
  omega

theorem days_lt_of_month (hy : a.year = b.year) (h : a.month < b.month) : a.days < b.days := by
  have hmonth := daysBeforeMonth_add_le a.year a.month_valid.1 h
  have := a.day_valid.2
  have := b.day_valid.1
  unfold days
  rw [← hy]
  omega

/-- Dates are ordered by year, month and day. -/
theorem days_lt_iff : a.days < b.days ↔ a.year < b.year ∨
    a.year = b.year ∧ (a.month < b.month ∨ a.month = b.month ∧ a.day < b.day) := by
  rcases lt_trichotomy a.year b.year with hy | hy | hy
  · simp [days_lt_of_year hy, hy]
  · rcases lt_trichotomy a.month b.month with hm | hm | hm
    · simp [days_lt_of_month hy hm, hy, hm]
    · unfold days
      rw [hy, hm]
      simp
    · have := days_lt_of_month hy.symm hm
      simp only [hy, lt_irrefl, true_and, false_or]
      omega
  · have := days_lt_of_year hy
    omega

theorem days_eq_iff : a.days = b.days ↔ a.year = b.year ∧ a.month = b.month ∧ a.day = b.day := by
  constructor
  · intro h
    have h₁ := mt (@days_lt_iff a b).2 (by omega)
    have h₂ := mt (@days_lt_iff b a).2 (by omega)
    omega
  · rintro ⟨hy, hm, hd⟩
    unfold days
    rw [hy, hm, hd]

/-- Seconds are ordered by day, hour, minute and second. -/
theorem seconds_lt_iff : a.seconds < b.seconds ↔ a.days < b.days ∨
    a.days = b.days ∧ (a.hour < b.hour ∨
      a.hour = b.hour ∧ (a.minute < b.minute ∨ a.minute = b.minute ∧ a.second < b.second)) := by
  have := a.hour_valid
  have := b.hour_valid
  have := a.minute_valid
  have := b.minute_valid
  have := a.second_valid
  have := b.second_valid
  unfold seconds
  omega

theorem seconds_eq_iff : a.seconds = b.seconds ↔
    a.days = b.days ∧ a.hour = b.hour ∧ a.minute = b.minute ∧ a.second = b.second := by
  have := a.hour_valid
  have := b.hour_valid
  have := a.minute_valid
  have := b.minute_valid
  have := a.second_valid
  have := b.second_valid
  unfold seconds
  omega

/-- Instants are ordered by second and nanosecond. -/
theorem nanos_lt_iff : a.nanos < b.nanos ↔
    a.seconds < b.seconds ∨ a.seconds = b.seconds ∧ a.nanosecond < b.nanosecond := by
  have := a.nanosecond_valid
  have := b.nanosecond_valid
  unfold nanos
  omega

end UtcDateTime

/-! ### RFC 3339 -/

/-- A decimal digit. -/
def decimalDigit (d : ℕ) : Char := Char.ofNat (48 + d)

theorem strictMonoOn_decimalDigit : StrictMonoOn decimalDigit (Set.Iio 10) := by
  have hall : ∀ d < 10, ∀ e < 10, d < e → decimalDigit d < decimalDigit e := by decide
  exact fun d hd e he => hall d hd e he

theorem decimalDigit_lt_Z : ∀ d < 10, decimalDigit d < 'Z' := by decide

namespace UtcDateTime

variable (t : UtcDateTime)

/-- The fraction of a second, where there is one. -/
def fraction : Text :=
  if t.nanosecond = 0 then [] else '.' :: trimmed decimalDigit 10 9 t.nanosecond

/-- `format(&Rfc3339)`, for the years that it writes. -/
def rfc3339 : Text :=
  padded decimalDigit 10 4 t.year.toNat ++ '-' :: (padded decimalDigit 10 2 t.month ++
    '-' :: (padded decimalDigit 10 2 t.day ++ 'T' :: (padded decimalDigit 10 2 t.hour ++
      ':' :: (padded decimalDigit 10 2 t.minute ++ ':' :: (padded decimalDigit 10 2 t.second ++
        (t.fraction ++ ['Z']))))))

end UtcDateTime

/-- `now_utc_string`, at an instant. -/
def nowUtcString (now : UtcDateTime) : Except Text Text :=
  if 0 ≤ now.year ∧ now.year < 10000 then .ok now.rfc3339
  else .error "The year component cannot be formatted into the requested format.".toList

theorem nowUtcString_eq_ok_iff {now : UtcDateTime} {s : Text} :
    nowUtcString now = .ok s ↔ (0 ≤ now.year ∧ now.year < 10000) ∧ s = now.rfc3339 := by
  unfold nowUtcString
  split_ifs with h
  · simp [h, eq_comm]
  · simp [h]

example : nowUtcString ⟨2024, 2, 29, 7, 5, 9, 120000000, by decide, by decide, by decide, by decide,
    by decide, by decide⟩ = .ok "2024-02-29T07:05:09.12Z".toList := by decide

/-! ### How the strings are ordered -/

/-- Two instants of one second, of which one is the other with the last digits of its fraction cut
off. -/
def CutShort (a b : UtcDateTime) : Prop :=
  a.seconds = b.seconds ∧ a.nanosecond ≠ b.nanosecond ∧
    (Cut 10 9 a.nanosecond b.nanosecond ∨ Cut 10 9 b.nanosecond a.nanosecond)

instance (a b : UtcDateTime) : Decidable (CutShort a b) := by
  unfold CutShort
  infer_instance

theorem CutShort.symm {a b : UtcDateTime} (h : CutShort a b) : CutShort b a :=
  ⟨h.1.symm, h.2.1.symm, h.2.2.symm⟩

section Order

variable {a b : UtcDateTime}

/-- The full second is every fraction cut off. -/
theorem cut_zero (t : UtcDateTime) : Cut 10 9 0 t.nanosecond :=
  ⟨9, Nat.le_refl 9, by rw [Nat.div_eq_of_lt t.nanosecond_valid, Nat.zero_mul]⟩

/-- The ends of two strings, behind the seconds. -/
theorem fraction_lt_iff (hne : a.nanosecond ≠ b.nanosecond) :
    a.fraction ++ ['Z'] < b.fraction ++ ['Z'] ↔
      if Cut 10 9 a.nanosecond b.nanosecond ∨ Cut 10 9 b.nanosecond a.nanosecond then
        b.nanosecond < a.nanosecond
      else a.nanosecond < b.nanosecond := by
  have hdot : '.' < 'Z' := by decide
  have hdot' : ¬ 'Z' < '.' := by decide
  unfold UtcDateTime.fraction
  by_cases ha : a.nanosecond = 0
  · -- the `Z` against the dot
    have hb : b.nanosecond ≠ 0 := fun hb => hne (ha.trans hb.symm)
    rw [if_pos ha, if_neg hb, ha, if_pos (Or.inl (cut_zero b)), List.nil_append, List.cons_append,
      List.cons_lt_cons_iff]
    simp [hdot']
  · by_cases hb : b.nanosecond = 0
    · rw [if_neg ha, if_pos hb, hb, if_pos (Or.inr (cut_zero a)), List.nil_append, List.cons_append,
        List.cons_lt_cons_iff]
      simp [hdot, Nat.pos_of_ne_zero ha]
    · rw [if_neg ha, if_neg hb, List.cons_append, List.cons_append, List.cons_lt_cons_iff]
      have hlt := Positional.trimmed_lt_iff strictMonoOn_decimalDigit (by decide : 0 < 10)
        decimalDigit_lt_Z a.nanosecond_valid b.nanosecond_valid hne [] []
      rw [← hlt]
      simp

theorem rfc3339_lt_iff (ha : 0 ≤ a.year ∧ a.year < 10000) (hb : 0 ≤ b.year ∧ b.year < 10000) :
    a.rfc3339 < b.rfc3339 ↔ a.seconds < b.seconds ∨
      a.seconds = b.seconds ∧ a.fraction ++ ['Z'] < b.fraction ++ ['Z'] := by
  have hfield : ∀ {w m n : ℕ} (r r' : Text), m < 10 ^ w → n < 10 ^ w →
      (padded decimalDigit 10 w m ++ r < padded decimalDigit 10 w n ++ r' ↔
        m < n ∨ m = n ∧ r < r') :=
    fun r r' hm hn => Positional.padded_append_lt_iff strictMonoOn_decimalDigit hm hn r r'
  have hmark : ∀ (c : Char) (r r' : Text), c :: r < c :: r' ↔ r < r' := by
    intro c r r'
    rw [List.cons_lt_cons_iff]
    simp
  have hbounds : ∀ t : UtcDateTime, t.month < 10 ^ 2 ∧ t.day < 10 ^ 2 ∧ t.hour < 10 ^ 2 ∧
      t.minute < 10 ^ 2 ∧ t.second < 10 ^ 2 := by
    intro t
    have := t.month_valid
    have hday := t.day_valid
    have := t.hour_valid
    have := t.minute_valid
    have := t.second_valid
    have hmonth : daysInMonth t.year t.month ≤ 31 := by
      unfold daysInMonth
      split_ifs <;> omega
    omega
  obtain ⟨hmo, hd, hh, hmi, hs⟩ := hbounds a
  obtain ⟨hmo', hd', hh', hmi', hs'⟩ := hbounds b
  unfold UtcDateTime.rfc3339
  rw [hfield _ _ (by omega) (by omega), hmark, hfield _ _ hmo hmo', hmark, hfield _ _ hd hd', hmark,
    hfield _ _ hh hh', hmark, hfield _ _ hmi hmi', hmark, hfield _ _ hs hs',
    UtcDateTime.seconds_lt_iff, UtcDateTime.seconds_eq_iff, UtcDateTime.days_lt_iff,
    UtcDateTime.days_eq_iff]
  generalize (a.fraction ++ ['Z'] < b.fraction ++ ['Z']) = rest
  have hyear : a.year.toNat < b.year.toNat ↔ a.year < b.year := by omega
  have hyear' : a.year.toNat = b.year.toNat ↔ a.year = b.year := by omega
  -- both sides are the lexicographic order of the fields and the rest
  have hlex : ∀ {p e q r : Prop}, (p ∨ e ∧ q) ∨ e ∧ r ↔ p ∨ e ∧ (q ∨ r) := by
    intro p e q r
    rw [or_assoc, ← and_or_left]
  simp only [hyear, hyear', and_assoc, hlex]

/-- Where neither is cut short, the strings are ordered as the instants are. -/
theorem rfc3339_lt_iff_nanos_lt (ha : 0 ≤ a.year ∧ a.year < 10000)
    (hb : 0 ≤ b.year ∧ b.year < 10000) (h : ¬ CutShort a b) :
    a.rfc3339 < b.rfc3339 ↔ a.nanos < b.nanos := by
  rw [rfc3339_lt_iff ha hb, UtcDateTime.nanos_lt_iff]
  by_cases hs : a.seconds = b.seconds
  · by_cases hn : a.nanosecond = b.nanosecond
    · have hfraction : a.fraction = b.fraction := by
        unfold UtcDateTime.fraction
        rw [hn]
      simp [hs, hn, hfraction]
    · have hcut : ¬ (Cut 10 9 a.nanosecond b.nanosecond ∨ Cut 10 9 b.nanosecond a.nanosecond) :=
        fun hcut => h ⟨hs, hn, hcut⟩
      rw [fraction_lt_iff hn, if_neg hcut]
  · simp [hs]

/-- Where one is, it is the other way round. -/
theorem rfc3339_lt_iff_of_cutShort (ha : 0 ≤ a.year ∧ a.year < 10000)
    (hb : 0 ≤ b.year ∧ b.year < 10000) (h : CutShort a b) :
    a.rfc3339 < b.rfc3339 ↔ b.nanos < a.nanos := by
  obtain ⟨hs, hn, hcut⟩ := h
  rw [rfc3339_lt_iff ha hb, UtcDateTime.nanos_lt_iff, fraction_lt_iff hn, if_pos hcut, hs]

theorem CutShort.nanos_ne (h : CutShort a b) : a.nanos ≠ b.nanos := by
  obtain ⟨hs, hn, -⟩ := h
  unfold UtcDateTime.nanos
  omega

/-- A string is not before another one where the instants are in order, or cut short. -/
theorem not_rfc3339_lt_iff (ha : 0 ≤ a.year ∧ a.year < 10000)
    (hb : 0 ≤ b.year ∧ b.year < 10000) :
    ¬ b.rfc3339 < a.rfc3339 ↔ (a.nanos ≤ b.nanos ↔ ¬ CutShort a b) := by
  by_cases h : CutShort a b
  · have hne := h.nanos_ne
    rw [rfc3339_lt_iff_of_cutShort hb ha h.symm]
    simp only [h, not_true_eq_false, iff_false]
    omega
  · rw [rfc3339_lt_iff_nanos_lt hb ha fun h' => h h'.symm]
    simp only [h, not_false_eq_true, iff_true]
    omega

end Order

/-! ### Time filters -/

/-- A bound of a filter: an instant, and what `now_utc_string` produces for it. -/
structure TimeBound where
  instant : UtcDateTime
  text : Text
  produced : nowUtcString instant = .ok text

/-- The filter with these bounds and no other condition. -/
def timeFilter (start stop : Option TimeBound) : AuditQueryFilter :=
  { startTsUtc := start.map (·.text), endTsUtc := stop.map (·.text) }

section Filters

variable (start stop : Option TimeBound) (row : TimeBound)

/-- The row's instant is not before the start. -/
def AfterStart : Prop := ∀ bound ∈ start, bound.instant.nanos ≤ row.instant.nanos

/-- Nor behind the end. -/
def BeforeStop : Prop := ∀ bound ∈ stop, row.instant.nanos ≤ bound.instant.nanos

/-- A bound and the row's instant are cut short of each other. -/
def CutShortAt (bound : Option TimeBound) : Prop := ∃ b ∈ bound, CutShort b.instant row.instant

/-- No bound misleads about the row: where the row's instant and one bound are cut short of each other,
the row lies beyond the other bound; where this holds of both, it lies beyond one bound and within the
other. -/
def BoundsSound : Prop :=
  (CutShortAt row start → ¬ CutShortAt row stop → ¬ BeforeStop stop row) ∧
    (¬ CutShortAt row start → CutShortAt row stop → ¬ AfterStart start row) ∧
    (CutShortAt row start → CutShortAt row stop → (AfterStart start row ↔ ¬ BeforeStop stop row))

variable {start stop : Option TimeBound} {row : TimeBound}

theorem TimeBound.text_eq (bound : TimeBound) :
    (0 ≤ bound.instant.year ∧ bound.instant.year < 10000) ∧ bound.text = bound.instant.rfc3339 :=
  nowUtcString_eq_ok_iff.1 bound.produced

/-- The comparison with the start. -/
theorem start_passes_iff : ((start.map (·.text)).all fun s => !decide (row.text < s)) = true ↔
    (AfterStart start row ↔ ¬ CutShortAt row start) := by
  cases start with
  | none => simp [AfterStart, CutShortAt]
  | some bound =>
    have hiff := not_rfc3339_lt_iff bound.text_eq.1 row.text_eq.1
    rw [← bound.text_eq.2, ← row.text_eq.2] at hiff
    simpa [AfterStart, CutShortAt] using hiff

/-- The comparison with the end. -/
theorem stop_passes_iff : ((stop.map (·.text)).all fun s => !decide (s < row.text)) = true ↔
    (BeforeStop stop row ↔ ¬ CutShortAt row stop) := by
  cases stop with
  | none => simp [BeforeStop, CutShortAt]
  | some bound =>
    have hiff := not_rfc3339_lt_iff row.text_eq.1 bound.text_eq.1
    rw [← bound.text_eq.2, ← row.text_eq.2] at hiff
    have hsymm : CutShort row.instant bound.instant ↔ CutShort bound.instant row.instant :=
      ⟨CutShort.symm, CutShort.symm⟩
    simpa [BeforeStop, CutShortAt, hsymm] using hiff

theorem passesFilter_timeFilter_iff {columns : AuditColumns} (h : columns.tsUtc = row.text) :
    passesFilter columns (timeFilter start stop) = true ↔
      (AfterStart start row ↔ ¬ CutShortAt row start) ∧
        (BeforeStop stop row ↔ ¬ CutShortAt row stop) := by
  rw [← start_passes_iff, ← stop_passes_iff, ← Bool.and_eq_true, ← h]
  unfold passesFilter timeFilter
  simp only [Option.all_none, Bool.and_true]

end Filters

/-- **When time filters are chronological.**

* The strings that `now_utc_string` produces for two instants are ordered as the instants are exactly
  when neither instant is the other with the last digits of its fraction cut off.
* A filter with such strings as bounds keeps a row exactly when its instant lies in the closed interval,
  provided that no bound misleads about the row, and only then. -/
theorem time_filters_iff (a b : UtcDateTime) (start stop : Option TimeBound) (row : TimeBound) :
    (∀ s s' : Text, nowUtcString a = .ok s → nowUtcString b = .ok s' →
      ((s < s' ↔ a.nanos < b.nanos) ∧ (s' < s ↔ b.nanos < a.nanos) ↔ ¬ CutShort a b)) ∧
    (∀ columns : AuditColumns, columns.tsUtc = row.text →
      ((passesFilter columns (timeFilter start stop) = true ↔
          AfterStart start row ∧ BeforeStop stop row) ↔ BoundsSound start stop row)) := by
  constructor
  · intro s s' hs hs'
    obtain ⟨ha, rfl⟩ := nowUtcString_eq_ok_iff.1 hs
    obtain ⟨hb, rfl⟩ := nowUtcString_eq_ok_iff.1 hs'
    constructor
    · rintro ⟨hlt, -⟩ h
      have hne := h.nanos_ne
      rw [rfc3339_lt_iff_of_cutShort ha hb h] at hlt
      omega
    · intro h
      exact ⟨rfc3339_lt_iff_nanos_lt ha hb h, rfc3339_lt_iff_nanos_lt hb ha fun h' => h h'.symm⟩
  · intro columns h
    rw [passesFilter_timeFilter_iff h]
    unfold BoundsSound
    by_cases h₁ : CutShortAt row start <;> by_cases h₂ : CutShortAt row stop <;>
      by_cases h₃ : AfterStart start row <;> by_cases h₄ : BeforeStop stop row <;>
      simp [h₁, h₂, h₃, h₄]

/-- A moment of the first second of a year. -/
def newYear (nanosecond : ℕ) (h : nanosecond < 10 ^ 9) : UtcDateTime :=
  ⟨2024, 1, 1, 0, 0, 0, nanosecond, by decide, by decide, by decide, by decide, by decide, h⟩

/-- The full second, as a bound. -/
def fullSecond : TimeBound := ⟨newYear 0 (by decide), "2024-01-01T00:00:00Z".toList, by decide⟩

/-- Half a second later. -/
def halfSecond : TimeBound :=
  ⟨newYear 500000000 (by decide), "2024-01-01T00:00:00.5Z".toList, by decide⟩

/-- A quarter and half a second are in order. -/
theorem quarter_before_half :
    ("2024-01-01T00:00:00.25Z".toList < "2024-01-01T00:00:00.5Z".toList ↔
        (newYear 250000000 (by decide)).nanos < (newYear 500000000 (by decide)).nanos) ∧
      ("2024-01-01T00:00:00.5Z".toList < "2024-01-01T00:00:00.25Z".toList ↔
        (newYear 500000000 (by decide)).nanos < (newYear 250000000 (by decide)).nanos) :=
  ((time_filters_iff (newYear 250000000 (by decide)) (newYear 500000000 (by decide)) none none
    fullSecond).1 _ _ (by decide) (by decide)).2 (by decide)

/-- Half a second after the full second is before it as a string, and a filter from the full second on
drops an event of that instant. -/
theorem half_before_full :
    fullSecond.instant.nanos < halfSecond.instant.nanos ∧ halfSecond.text < fullSecond.text ∧
      ∀ columns : AuditColumns, columns.tsUtc = halfSecond.text →
        passesFilter columns (timeFilter (some fullSecond) none) = false := by
  have hlt : halfSecond.text < fullSecond.text := by decide
  refine ⟨by decide, hlt, fun columns h => ?_⟩
  unfold passesFilter timeFilter
  simp [h, hlt]

end OoBot
