import CyberAssess.Support.Text

/-!
# Support — an instant as text

`datetime.isoformat()` of an instant in UTC, counted in microseconds from 1970.

* `civil` is the date of a day: years start in March, and four hundred of them are an era.
* `isoformat` writes date and time, and the microseconds where there are some.

`[about ours]`: a `datetime` ends with the year 9999; of a later one the last four digits are written.
-/

namespace Python

/-- Year, month and day of a day after 1970-01-01. -/
def civil (days : Nat) : Nat × Nat × Nat :=
  let z := days + 719468
  let era := z / 146097
  let dayOfEra := z % 146097
  let yearOfEra := (dayOfEra - dayOfEra / 1460 + dayOfEra / 36524 - dayOfEra / 146096) / 365
  let dayOfYear := dayOfEra - (365 * yearOfEra + yearOfEra / 4 - yearOfEra / 100)
  let fromMarch := (5 * dayOfYear + 2) / 153
  let month := if fromMarch < 10 then fromMarch + 3 else fromMarch - 9
  (yearOfEra + era * 400 + (if month ≤ 2 then 1 else 0), month,
    dayOfYear - (153 * fromMarch + 2) / 5 + 1)

/-- The last `width` digits. -/
def padded : Nat → Nat → List Char
  | 0, _ => []
  | width + 1, n => padded width (n / 10) ++ [Nat.digitChar (n % 10)]

@[simp] theorem length_padded : ∀ width n : Nat, (padded width n).length = width
  | 0, _ => rfl
  | width + 1, n => by
      rw [padded, List.length_append, length_padded width, List.length_singleton]

/-- `.ffffff`, where there are microseconds. -/
def microseconds (micros : Nat) : List Char :=
  if micros = 0 then [] else '.' :: padded 6 micros

/-- The characters of `t.isoformat()`. -/
def isoChars (t : Nat) : List Char :=
  let seconds := t / 1000000
  let (year, month, day) := civil (seconds / 86400)
  padded 4 year ++ '-' :: padded 2 month ++ '-' :: padded 2 day ++ 'T' ::
    padded 2 (seconds / 3600 % 24) ++ ':' :: padded 2 (seconds / 60 % 60) ++ ':' ::
    padded 2 (seconds % 60) ++ microseconds (t % 1000000) ++ ['+', '0', '0', ':', '0', '0']

/-- `t.isoformat()`. -/
def isoformat (t : Nat) : String := String.ofList (isoChars t)

theorem length_isoformat (t : Nat) :
    (isoformat t).length = if t % 1000000 = 0 then 25 else 32 := by
  rw [isoformat, String.length_ofList, isoChars]
  by_cases whole : t % 1000000 = 0
  · simp only [List.length_append, List.length_cons, length_padded, microseconds, if_pos whole,
      List.length_nil]
  · simp only [List.length_append, List.length_cons, length_padded, microseconds, if_neg whole,
      List.length_nil]

example : isoformat 1700000000000042 = "2023-11-14T22:13:20.000042+00:00" := by decide

end Python
