import CyberAssess.Support.IsoFormat
import CyberAssess.Support.FloatText
import Mathlib.Data.List.Lex
import Mathlib.Data.String.Basic

/-!
# Support — aware datetimes and their texts

A `datetime` with an offset from UTC: the fields of a proleptic Gregorian calendar, and the offset.

* `reading` counts the microseconds its fields show, `instant` those of UTC.
* `isoformat` is its text; `fromisoformat` reads a text `isoformat` writes, and
  `fromisoformat_isoformat` is the round trip.
* `Ordered`: texts with a number that orders them; `isoChars_lt` is the order of two texts, field by
  field.

`[about ours]`: `fromisoformat` takes other spellings as well, and none is stored.
-/

namespace Python

/-! ### The calendar -/

/-- Every fourth year, not every hundredth, but every four hundredth. -/
def leapYear (year : Nat) : Bool :=
  decide (year % 4 = 0) && (decide (year % 100 ≠ 0) || decide (year % 400 = 0))

/-- The days of a month. -/
def daysInMonth (year : Nat) : Nat → Nat
  | 2 => if leapYear year then 29 else 28
  | 4 | 6 | 9 | 11 => 30
  | _ => 31

/-- The days from the first of January of the year 1 to that of `year`. -/
def daysBeforeYear (year : Nat) : Nat :=
  (year - 1) * 365 + (year - 1) / 4 - (year - 1) / 100 + (year - 1) / 400

/-- The days of the months before `month`. -/
def daysBeforeMonth (year month : Nat) : Nat :=
  ((List.range' 1 (month - 1)).map (daysInMonth year)).sum

theorem daysInMonth_pos (year month : Nat) : 0 < daysInMonth year month := by
  unfold daysInMonth
  split
  · split <;> decide
  · decide
  · decide
  · decide
  · decide
  · decide

theorem daysBeforeMonth_succ (year : Nat) {month : Nat} (h : 1 ≤ month) :
    daysBeforeMonth year (month + 1) = daysBeforeMonth year month + daysInMonth year month := by
  obtain ⟨m, rfl⟩ := Nat.exists_eq_add_of_le' h
  rw [daysBeforeMonth, Nat.add_sub_cancel, List.range'_1_concat, List.map_append, List.sum_append,
    List.map_singleton, List.sum_singleton, daysBeforeMonth, Nat.add_sub_cancel, Nat.add_comm 1 m]

/-- A later month begins after every day of an earlier one. -/
theorem daysBeforeMonth_le (year : Nat) {m n : Nat} (pos : 1 ≤ m) (h : m < n) :
    daysBeforeMonth year m + daysInMonth year m ≤ daysBeforeMonth year n := by
  induction n, h using Nat.le_induction with
  | base => exact (daysBeforeMonth_succ year pos).ge
  | succ n le ih =>
      rw [daysBeforeMonth_succ year (by omega)]
      omega

/-- The days of a year. -/
theorem daysBeforeMonth_end (year : Nat) :
    daysBeforeMonth year 13 = if leapYear year then 366 else 365 := by
  have months : List.range' 1 12 = [1, 2, 3, 4, 5, 6, 7, 8, 9, 10, 11, 12] := by decide
  rw [daysBeforeMonth, months]
  cases leap : leapYear year <;> simp [daysInMonth, leap]

/-- How often `b` has gone into a number goes up where it goes in. -/
theorem succ_div_mod (y b : Nat) : (y + 1) / b = y / b + if (y + 1) % b = 0 then 1 else 0 := by
  rw [Nat.succ_div]
  simp only [Nat.dvd_iff_mod_eq_zero]

theorem daysBeforeYear_succ {year : Nat} (h : 1 ≤ year) :
    daysBeforeYear (year + 1) = daysBeforeYear year + daysBeforeMonth year 13 := by
  obtain ⟨y, rfl⟩ := Nat.exists_eq_add_of_le' h
  rw [daysBeforeMonth_end, daysBeforeYear, daysBeforeYear, Nat.add_sub_cancel, Nat.add_sub_cancel,
    succ_div_mod y 4, succ_div_mod y 100, succ_div_mod y 400]
  have fewer : y / 100 ≤ y / 4 := Nat.div_le_div_left (by decide) (by decide)
  by_cases four : (y + 1) % 4 = 0
  · by_cases hundred : (y + 1) % 100 = 0
    · by_cases fourHundred : (y + 1) % 400 = 0 <;>
        simp only [leapYear, four, hundred, fourHundred, if_true, if_false, ne_eq, not_true_eq_false,
          decide_true, decide_false, Bool.and_true, Bool.or_true, Bool.or_false, Bool.and_false,
          Bool.false_eq_true] <;>
        clear four hundred fourHundred <;> omega
    · have fourHundred : ¬ (y + 1) % 400 = 0 := by
        clear fewer
        omega
      simp only [leapYear, four, hundred, fourHundred, if_true, if_false, ne_eq, not_false_eq_true,
        decide_true, decide_false, Bool.and_true, Bool.or_false]
      clear four hundred fourHundred
      omega
  · have hundred : ¬ (y + 1) % 100 = 0 := by
      clear fewer
      omega
    have fourHundred : ¬ (y + 1) % 400 = 0 := by
      clear fewer hundred
      omega
    simp only [leapYear, four, hundred, fourHundred, if_false, decide_false, Bool.false_and,
      Bool.false_eq_true]
    clear four hundred fourHundred
    omega

/-- A later year begins after every day of an earlier one. -/
theorem daysBeforeYear_le {m n : Nat} (pos : 1 ≤ m) (h : m < n) :
    daysBeforeYear m + daysBeforeMonth m 13 ≤ daysBeforeYear n := by
  induction n, h using Nat.le_induction with
  | base => exact (daysBeforeYear_succ pos).ge
  | succ n le ih =>
      rw [daysBeforeYear_succ (by omega)]
      omega

/-- An aware `datetime`: what it shows, and how far that is from UTC, in microseconds. -/
structure DateTime where
  year : Nat
  month : Nat
  day : Nat
  hour : Nat
  minute : Nat
  second : Nat
  microsecond : Nat
  offset : Int
  yearIn : 1 ≤ year ∧ year ≤ 9999
  monthIn : 1 ≤ month ∧ month ≤ 12
  dayIn : 1 ≤ day ∧ day ≤ daysInMonth year month
  hourIn : hour < 24
  minuteIn : minute < 60
  secondIn : second < 60
  microsecondIn : microsecond < 1000000
  offsetIn : offset.natAbs < 86400000000

namespace DateTime

variable (t : DateTime)

/-- `t.toordinal()`. -/
def toordinal : Nat := daysBeforeYear t.year + daysBeforeMonth t.year t.month + t.day

/-- The seconds it shows. -/
def seconds : Nat := ((t.toordinal * 24 + t.hour) * 60 + t.minute) * 60 + t.second

/-- The microseconds it shows. -/
def reading : Nat := t.seconds * 1000000 + t.microsecond

/-- The microseconds of UTC: how datetimes are compared. -/
def instant : Int := t.reading - t.offset

/-! ### The text -/

/-- `2026-01-31T12:00:00`. -/
def clock : List Char :=
  padded 4 t.year ++ '-' :: padded 2 t.month ++ '-' :: padded 2 t.day ++ 'T' ::
    padded 2 t.hour ++ ':' :: padded 2 t.minute ++ ':' :: padded 2 t.second

/-- `+02:00`, with seconds and microseconds where there are some. -/
def offsetChars (offset : Int) : List Char :=
  let micros := offset.natAbs
  (if offset < 0 then '-' else '+') :: padded 2 (micros / 3600000000) ++ ':' ::
    padded 2 (micros / 60000000 % 60) ++
    if micros % 60000000 = 0 then []
    else ':' :: padded 2 (micros / 1000000 % 60) ++ microseconds (micros % 1000000)

/-- The characters of `t.isoformat()`. -/
def isoChars : List Char := t.clock ++ microseconds t.microsecond ++ offsetChars t.offset

/-- `t.isoformat()`. -/
def isoformat : String := String.ofList t.isoChars

end DateTime

/-! ### The order of texts -/

/-- Texts that a number orders, whatever is written after them. -/
def Ordered {α : Type*} (write : α → List Char) (key : α → Nat) : Prop :=
  ∀ a b x y, write a ++ x < write b ++ y ↔ key a < key b ∨ (key a = key b ∧ x < y)

section Ordered

variable {α : Type*} {write rest : α → List Char} {key last : α → Nat}

/-- A character after each. -/
theorem Ordered.sep (h : Ordered write key) (c : Char) : Ordered (fun a => write a ++ [c]) key := by
  intro a b x y
  rw [List.append_assoc, List.append_assoc, h a b]
  simp only [List.singleton_append, List.cons_lt_cons_iff, Char.lt_irrefl, true_and, false_or]

/-- One text after the other: the second number is the last digit. -/
theorem Ordered.append (h : Ordered write key) (h' : Ordered rest last) {base : Nat}
    (small : ∀ a, last a < base) :
    Ordered (fun a => write a ++ rest a) fun a => key a * base + last a := by
  intro a b x y
  have ha := small a
  have hb := small b
  rw [List.append_assoc, List.append_assoc, h a b, h' a b]
  rcases lt_trichotomy (key a) (key b) with less | same | more
  · have below : key a * base + last a < key b * base + last b := by
      have := Nat.mul_le_mul_right base (Nat.succ_le_of_lt less)
      rw [Nat.succ_mul] at this
      omega
    simp only [less, true_or, below]
  · simp only [same, lt_irrefl, false_or, true_and, Nat.add_lt_add_iff_left, Nat.add_left_cancel_iff]
  · have above : key b * base + last b < key a * base + last a := by
      have := Nat.mul_le_mul_right base (Nat.succ_le_of_lt more)
      rw [Nat.succ_mul] at this
      omega
    have notLess : ¬ key a < key b := by omega
    have notSame : ¬ key a = key b := by omega
    have notBelow : ¬ key a * base + last a < key b * base + last b := by omega
    have notEqual : ¬ key a * base + last a = key b * base + last b := by omega
    simp only [notLess, notSame, notBelow, notEqual, false_and, or_self]

/-- Another number in the same order. -/
theorem Ordered.of_strictMono (h : Ordered write key) {key' : α → Nat}
    (mono : ∀ a b, key a < key b → key' a < key' b) (same : ∀ a b, key a = key b → key' a = key' b) :
    Ordered write key' := by
  intro a b x y
  rw [h a b]
  rcases lt_trichotomy (key a) (key b) with less | equal | more
  · simp only [less, mono a b less, true_or]
  · simp only [equal, same a b equal, lt_irrefl, false_or, true_and]
  · have above := mono b a more
    simp only [more.not_gt, more.ne', above.not_gt, above.ne', false_and, or_self]

/-- Digits, as many as the number needs. -/
theorem ordered_padded (width : Nat) (small : ∀ a, key a < 10 ^ width) :
    Ordered (fun a => padded width (key a)) key := by
  induction width generalizing key with
  | zero =>
      intro a b x y
      have ha := small a
      have hb := small b
      rw [pow_zero, Nat.lt_one_iff] at ha hb
      simp only [padded, List.nil_append, ha, hb, lt_irrefl, false_or, true_and]
  | succ width ih =>
      have tens : ∀ a, key a / 10 < 10 ^ width := fun a =>
        Nat.div_lt_of_lt_mul ((small a).trans_eq (pow_succ' 10 width))
      have unit : Ordered (fun a => [Nat.digitChar (key a % 10)]) fun a => key a % 10 := by
        intro a b x y
        have digits : ∀ i j : Fin 10, (Nat.digitChar i.val < Nat.digitChar j.val ↔ i.val < j.val) ∧
            (Nat.digitChar i.val = Nat.digitChar j.val ↔ i.val = j.val) := by decide
        obtain ⟨less, same⟩ := digits ⟨key a % 10, Nat.mod_lt _ (by decide)⟩
          ⟨key b % 10, Nat.mod_lt _ (by decide)⟩
        rw [List.singleton_append, List.singleton_append, List.cons_lt_cons_iff, less, same]
      refine ((ih tens).append unit fun a => Nat.mod_lt _ (by decide : 0 < 10)).of_strictMono ?_ ?_
      · intro a b
        simp only [Nat.div_add_mod', imp_self]
      · intro a b
        simp only [Nat.div_add_mod', imp_self]

end Ordered

namespace DateTime

variable {a b : DateTime}

theorem day_lt (t : DateTime) : t.day < 10 ^ 2 := by
  refine (t.dayIn.2.trans ?_).trans_lt (by decide : 31 < 10 ^ 2)
  unfold daysInMonth
  split
  · split <;> decide
  all_goals decide

theorem day_le_month (t : DateTime) : daysBeforeMonth t.year t.month + t.day ≤
    daysBeforeMonth t.year (t.month + 1) := by
  rw [daysBeforeMonth_succ t.year t.monthIn.1]
  exact Nat.add_le_add_left t.dayIn.2 _

theorem day_le_year (t : DateTime) : daysBeforeMonth t.year t.month + t.day ≤
    daysBeforeMonth t.year 13 := by
  rcases Nat.lt_or_ge 12 (t.month + 1) with last | before
  · have december : t.month + 1 = 13 := by
      have := t.monthIn.2
      omega
    rw [← december]
    exact t.day_le_month
  · have later := daysBeforeMonth_le t.year (Nat.le_add_left 1 t.month)
      (by omega : t.month + 1 < 13)
    exact t.day_le_month.trans (by omega)

/-- The day counts in the order of year, month and day. -/
theorem toordinal_lt (h : a.year < b.year ∨ a.year = b.year ∧
    (a.month < b.month ∨ a.month = b.month ∧ a.day < b.day)) : a.toordinal < b.toordinal := by
  have ends := a.day_le_year
  have starts := b.dayIn.1
  rcases h with year | ⟨year, month | ⟨month, day⟩⟩
  · have before := daysBeforeYear_le a.yearIn.1 year
    unfold toordinal
    omega
  · have before := daysBeforeMonth_le a.year a.monthIn.1 month
    have inside := a.dayIn.2
    unfold toordinal
    rw [← year]
    omega
  · unfold toordinal
    rw [← year, ← month]
    omega

/-- `2026-01-31`. -/
theorem ordered_date : Ordered (fun t : DateTime => padded 4 t.year ++ ['-'] ++ padded 2 t.month ++
    ['-'] ++ padded 2 t.day) toordinal := by
  have year : Ordered (fun t : DateTime => padded 4 t.year) DateTime.year :=
    ordered_padded 4 fun t => t.yearIn.2.trans_lt (by decide)
  have month : ∀ t : DateTime, t.month < 10 ^ 2 := fun t => t.monthIn.2.trans_lt (by decide)
  have day : ∀ t : DateTime, t.day < 10 ^ 2 := day_lt
  have fields := ((year.sep '-').append (ordered_padded 2 month) month).sep '-' |>.append
    (ordered_padded 2 day) day
  refine fields.of_strictMono (fun a b less => toordinal_lt ?_) fun a b same => ?_
  · have := month a; have := month b; have := day a; have := day b
    omega
  · have := month a; have := month b; have := day a; have := day b
    have years : a.year = b.year := by omega
    have months : a.month = b.month := by omega
    have days : a.day = b.day := by omega
    rw [toordinal, toordinal, years, months, days]

/-- The date and the time of day. -/
theorem ordered_clock : Ordered clock seconds := by
  have two {f : DateTime → Nat} {n : Nat} (small : ∀ t, f t < n) (h : n ≤ 10 ^ 2) :
      Ordered (fun t => padded 2 (f t)) f := ordered_padded 2 fun t => (small t).trans_le h
  have fields := (((ordered_date.sep 'T').append (two hourIn (by decide)) hourIn).sep ':' |>.append
    (two minuteIn (by decide)) minuteIn).sep ':' |>.append (two secondIn (by decide)) secondIn
  intro a b x y
  have h := fields a b x y
  simp only [List.append_assoc, List.singleton_append] at h
  simp only [clock, List.append_assoc, List.cons_append]
  exact h

/-- The microseconds, where there are some: whatever is written after them begins before the point. -/
theorem microseconds_lt {m n : Nat} (hm : m < 1000000) (hn : n < 1000000) {c d : Char}
    (hc : c < '.') (hd : d < '.') (x y : List Char) :
    microseconds m ++ c :: x < microseconds n ++ d :: y ↔ m < n ∨ (m = n ∧ c :: x < d :: y) := by
  have digits : Ordered (fun a : {n : Nat // n < 1000000} => padded 6 a.1) (·.1) :=
    ordered_padded 6 fun a => a.2
  have less := digits ⟨m, hm⟩ ⟨n, hn⟩ (c :: x) (d :: y)
  unfold microseconds
  by_cases m0 : m = 0
  · by_cases n0 : n = 0
    · simp only [m0, n0, if_true, List.nil_append, lt_irrefl, false_or, true_and]
    · rw [if_pos m0, if_neg n0, List.nil_append, List.cons_append, List.cons_lt_cons_iff]
      simp only [hc, true_or, m0, Nat.pos_of_ne_zero n0]
  · by_cases n0 : n = 0
    · rw [if_neg m0, if_pos n0, List.nil_append, List.cons_append, List.cons_lt_cons_iff]
      simp only [hd.not_gt, hd.ne', false_and, or_self, n0, m0, Nat.not_lt_zero]
    · rw [if_neg m0, if_neg n0, List.cons_append, List.cons_append, List.cons_lt_cons_iff]
      simp only [Char.lt_irrefl, false_or, true_and]
      exact less

/-- An offset begins with its sign. -/
theorem offsetChars_head (offset : Int) : ∃ c rest, offsetChars offset = c :: rest ∧ c < '.' := by
  refine ⟨_, _, rfl, ?_⟩
  split <;> decide

/-- Two texts are in the order of what the datetimes show, and then of their offsets. -/
theorem isoChars_lt (a b : DateTime) : a.isoChars < b.isoChars ↔
    a.reading < b.reading ∨ a.reading = b.reading ∧ offsetChars a.offset < offsetChars b.offset := by
  obtain ⟨c, x, hx, hc⟩ := offsetChars_head a.offset
  obtain ⟨d, y, hy, hd⟩ := offsetChars_head b.offset
  have ha := a.microsecondIn
  have hb := b.microsecondIn
  rw [isoChars, isoChars, List.append_assoc, List.append_assoc, ordered_clock, hx, hy,
    microseconds_lt ha hb hc hd, reading, reading]
  rcases lt_trichotomy a.seconds b.seconds with less | same | more
  · have : a.seconds * 1000000 + a.microsecond < b.seconds * 1000000 + b.microsecond := by omega
    simp only [less, this, true_or]
  · simp only [same, lt_irrefl, false_or, true_and, Nat.add_lt_add_iff_left, Nat.add_left_cancel_iff]
  · have less : ¬ a.seconds * 1000000 + a.microsecond < b.seconds * 1000000 + b.microsecond := by omega
    have same : ¬ a.seconds * 1000000 + a.microsecond = b.seconds * 1000000 + b.microsecond := by omega
    simp only [more.not_gt, more.ne', less, same, false_and, or_self]

/-- The whole minutes of an offset. -/
theorem ordered_minutes : Ordered
    (fun micros : {n : Nat // n < 86400000000} => padded 2 (micros.1 / 3600000000) ++ [':'] ++
      padded 2 (micros.1 / 60000000 % 60)) fun micros => micros.1 / 60000000 := by
  have hour : ∀ micros : {n : Nat // n < 86400000000}, micros.1 / 3600000000 < 10 ^ 2 := by
    intro micros
    have := micros.2
    omega
  have minute : ∀ micros : {n : Nat // n < 86400000000}, micros.1 / 60000000 % 60 < 60 :=
    fun _ => Nat.mod_lt _ (by decide)
  have hours := ordered_padded 2 hour
  have minutes := ordered_padded 2 fun micros => (minute micros).trans (by decide : 60 < 10 ^ 2)
  refine ((hours.sep ':').append minutes minute).of_strictMono ?_ ?_ <;>
    intro a b <;> omega

/-- The text of an offset comes after that of UTC, unless it is UTC. -/
theorem utc_lt_offsetChars {offset : Int} (small : offset.natAbs < 86400000000) :
    offsetChars 0 < offsetChars offset ↔ offset ≠ 0 := by
  have split := ordered_minutes ⟨0, by decide⟩ ⟨offset.natAbs, small⟩ []
    (if offset.natAbs % 60000000 = 0 then []
      else ':' :: padded 2 (offset.natAbs / 1000000 % 60) ++ microseconds (offset.natAbs % 1000000))
  rw [List.append_assoc, List.append_assoc, List.append_assoc] at split
  by_cases west : offset < 0
  · have sign : ('+' : Char) < '-' := by decide
    rw [offsetChars, offsetChars, if_pos west]
    simp only [lt_irrefl, if_false, List.cons_append, List.cons_lt_cons_iff, sign, true_or, west.ne,
      ne_eq, not_false_eq_true]
  · rw [offsetChars, offsetChars, if_neg west]
    simp only [lt_irrefl, if_false, List.cons_append, List.cons_lt_cons_iff, false_or, true_and]
    refine split.trans ?_
    by_cases whole : offset.natAbs % 60000000 = 0
    · simp only [whole, if_true, lt_irrefl, and_false, or_false]
      omega
    · simp only [whole, if_false, List.cons_append, List.nil_lt_cons, and_true]
      omega

end DateTime

/-! ### Reading a text -/

/-- A number of so many digits, and what is left. -/
def digits (width : Nat) (cs : List Char) : Option (Nat × List Char) :=
  if (cs.take width).length = width ∧ (cs.take width).all Char.isDigit then
    some (Nat.ofDigitChars 10 (cs.take width) 0, cs.drop width)
  else none

/-- The same before a separator. -/
def digitsThen (width : Nat) (separator : Char) (cs : List Char) : Option (Nat × List Char) := do
  let (n, rest) ← digits width cs
  match rest with
  | c :: rest => if c = separator then some (n, rest) else none
  | [] => none

/-- Microseconds, where there is a point. -/
def readMicroseconds : List Char → Option (Nat × List Char)
  | c :: rest => if c = '.' then digits 6 rest else some (0, c :: rest)
  | [] => some (0, [])

/-- The microseconds an offset has over its whole minutes. -/
def readSeconds : List Char → Option Nat
  | [] => some 0
  | c :: rest => do
      guard (c = ':')
      let (seconds, rest) ← digits 2 rest
      let (micros, rest) ← readMicroseconds rest
      guard rest.isEmpty
      return seconds * 1000000 + micros

/-- An offset, at the end of the text. -/
def readOffset : List Char → Option Int
  | [] => none
  | sign :: rest => do
      guard (sign = '+' ∨ sign = '-')
      let (hours, rest) ← digitsThen 2 ':' rest
      let (minutes, rest) ← digits 2 rest
      let micros ← readSeconds rest
      let magnitude := (hours * 60 + minutes) * 60000000 + micros
      return if sign = '-' then -(magnitude : Int) else magnitude

/-- `datetime.fromisoformat(text)`, of a text with an offset. -/
def fromisoformat (text : String) : Option DateTime := do
  let (year, rest) ← digitsThen 4 '-' text.toList
  let (month, rest) ← digitsThen 2 '-' rest
  let (day, rest) ← digitsThen 2 'T' rest
  let (hour, rest) ← digitsThen 2 ':' rest
  let (minute, rest) ← digitsThen 2 ':' rest
  let (second, rest) ← digits 2 rest
  let (microsecond, rest) ← readMicroseconds rest
  let offset ← readOffset rest
  if h : (1 ≤ year ∧ year ≤ 9999) ∧ (1 ≤ month ∧ month ≤ 12) ∧
      (1 ≤ day ∧ day ≤ daysInMonth year month) ∧ hour < 24 ∧ minute < 60 ∧ second < 60 ∧
      microsecond < 1000000 ∧ offset.natAbs < 86400000000 then
    some ⟨year, month, day, hour, minute, second, microsecond, offset, h.1, h.2.1, h.2.2.1, h.2.2.2.1,
      h.2.2.2.2.1, h.2.2.2.2.2.1, h.2.2.2.2.2.2.1, h.2.2.2.2.2.2.2⟩
  else none

theorem padded_eq_lastDigits (width : Nat) : ∀ n, padded width n = lastDigits width n := by
  induction width with
  | zero => exact fun _ => rfl
  | succ width ih =>
      intro n
      rw [padded, lastDigits, ih]

/-- Digits that were written are read. -/
theorem digits_padded {width n : Nat} (small : n < 10 ^ width) (rest : List Char) :
    digits width (padded width n ++ rest) = some (n, rest) := by
  have length := length_padded width n
  have all : (padded width n).all Char.isDigit = true := by
    rw [padded_eq_lastDigits]
    exact List.all_eq_true.mpr (isDigit_lastDigits width n)
  have number := ofDigitChars_lastDigits [] width n
  rw [List.nil_append, ← padded_eq_lastDigits, Nat.mod_eq_of_lt small] at number
  rw [digits, List.take_left' length, List.drop_left' length, if_pos ⟨length, all⟩, number]
  simp [Nat.ofDigitChars]

theorem digitsThen_padded {width n : Nat} (small : n < 10 ^ width) (separator : Char)
    (rest : List Char) :
    digitsThen width separator (padded width n ++ separator :: rest) = some (n, rest) := by
  rw [digitsThen, digits_padded small]
  simp

theorem readMicroseconds_microseconds {micros : Nat} (small : micros < 1000000) {rest : List Char}
    (stops : ∀ c cs, rest = c :: cs → c ≠ '.') :
    readMicroseconds (microseconds micros ++ rest) = some (micros, rest) := by
  unfold microseconds
  by_cases whole : micros = 0
  · rw [if_pos whole, List.nil_append, whole]
    cases rest with
    | nil => rfl
    | cons c cs => rw [readMicroseconds, if_neg (stops c cs rfl)]
  · rw [if_neg whole, List.cons_append, readMicroseconds, if_pos rfl]
    exact digits_padded small rest

/-- The offset is read. -/
theorem readOffset_offsetChars {offset : Int} (small : offset.natAbs < 86400000000) :
    readOffset (DateTime.offsetChars offset) = some offset := by
  have hours : offset.natAbs / 3600000000 < 10 ^ 2 := by omega
  have minutes : offset.natAbs / 60000000 % 60 < 10 ^ 2 := by omega
  have seconds : offset.natAbs / 1000000 % 60 < 10 ^ 2 := by omega
  have micros : offset.natAbs % 1000000 < 1000000 := by omega
  have tail : readSeconds (if offset.natAbs % 60000000 = 0 then []
      else ':' :: padded 2 (offset.natAbs / 1000000 % 60) ++ microseconds (offset.natAbs % 1000000)) =
      some (offset.natAbs % 60000000) := by
    by_cases whole : offset.natAbs % 60000000 = 0
    · rw [if_pos whole, readSeconds, whole]
    · have read : readMicroseconds (microseconds (offset.natAbs % 1000000) ++ []) =
          some (offset.natAbs % 1000000, []) := readMicroseconds_microseconds micros nofun
      rw [List.append_nil] at read
      rw [if_neg whole, List.cons_append, readSeconds]
      simp [digits_padded seconds, read]
      omega
  have whole : (offset.natAbs / 3600000000 * 60 + offset.natAbs / 60000000 % 60) * 60000000 +
      offset.natAbs % 60000000 = offset.natAbs := by omega
  rw [DateTime.offsetChars]
  generalize (if offset.natAbs % 60000000 = 0 then []
    else ':' :: padded 2 (offset.natAbs / 1000000 % 60) ++ microseconds (offset.natAbs % 1000000)) =
    rest at tail ⊢
  simp only [List.cons_append, List.append_assoc, readOffset, digitsThen_padded hours,
    digits_padded minutes, tail, whole, Option.bind_eq_bind, Option.bind_some]
  by_cases west : offset < 0
  · simp [west, abs_of_neg west]
  · simp [west]
    omega

/-- What is written is read as the datetime it was. -/
theorem fromisoformat_isoformat (t : DateTime) : fromisoformat t.isoformat = some t := by
  have year : t.year < 10 ^ 4 := t.yearIn.2.trans_lt (by decide)
  have month : t.month < 10 ^ 2 := t.monthIn.2.trans_lt (by decide)
  have day : t.day < 10 ^ 2 := t.day_lt
  have hour : t.hour < 10 ^ 2 := t.hourIn.trans (by decide)
  have minute : t.minute < 10 ^ 2 := t.minuteIn.trans (by decide)
  have second : t.second < 10 ^ 2 := t.secondIn.trans (by decide)
  have stops : ∀ c cs, DateTime.offsetChars t.offset = c :: cs → c ≠ '.' := by
    intro c cs h
    obtain ⟨d, ds, h', before⟩ := DateTime.offsetChars_head t.offset
    cases h.symm.trans h'
    exact before.ne
  rw [fromisoformat, DateTime.isoformat, String.toList_ofList, DateTime.isoChars, DateTime.clock]
  simp only [List.append_assoc, List.cons_append]
  simp only [digitsThen_padded year, digitsThen_padded month, digitsThen_padded day,
    digitsThen_padded hour, digitsThen_padded minute, digits_padded second,
    readMicroseconds_microseconds t.microsecondIn stops, readOffset_offsetChars t.offsetIn,
    Option.bind_eq_bind, Option.bind_some]
  rw [dif_pos ⟨t.yearIn, t.monthIn, t.dayIn, t.hourIn, t.minuteIn, t.secondIn, t.microsecondIn,
    t.offsetIn⟩]

end Python
