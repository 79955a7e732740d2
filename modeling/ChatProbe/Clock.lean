/-!
# Instants

A moment of universal time by calendar date and time of day. Log lines show it in two ways: with
microseconds and offset (`DateTime.isoText`), and with milliseconds behind a comma
(`DateTime.stampText`).
-/

namespace ChatProbe

/-- A moment of universal time. -/
structure DateTime where
  year : Int
  month : Nat
  day : Nat
  hour : Nat
  minute : Nat
  second : Nat
  microsecond : Nat
deriving DecidableEq, Repr, Inhabited

namespace DateTime

/-- Decimal digits, at least `width` of them. -/
def digits (width n : Nat) : String :=
  let ds := Nat.toDigits 10 n
  String.ofList (List.replicate (width - ds.length) '0' ++ ds)

/-- The calendar date of a day counted from 1970-01-01, as year, month and day. The count goes
through eras of 400 years that start on the first of March. -/
def civil (days : Int) : Int × Nat × Nat :=
  let z := days + 719468
  let era := z.fdiv 146097
  let dayOfEra := (z - era * 146097).toNat
  let yearOfEra := (dayOfEra - dayOfEra / 1460 + dayOfEra / 36524 - dayOfEra / 146096) / 365
  let dayOfYear := dayOfEra - (365 * yearOfEra + yearOfEra / 4 - yearOfEra / 100)
  let shifted := (5 * dayOfYear + 2) / 153
  let day := dayOfYear - (153 * shifted + 2) / 5 + 1
  let month := if shifted < 10 then shifted + 3 else shifted - 9
  let year := (yearOfEra : Int) + era * 400
  (if month ≤ 2 then year + 1 else year, month, day)

/-- The moment a number of milliseconds after the start of 1970. -/
def ofMillis (ms : Int) : DateTime :=
  let days := ms.fdiv 86400000
  let inDay := (ms - days * 86400000).toNat
  let (year, month, day) := civil days
  let seconds := inDay / 1000
  ⟨year, month, day, seconds / 3600, seconds / 60 % 60, seconds % 60, inDay % 1000 * 1000⟩

/-- The time of day to the second. -/
def timeText (t : DateTime) : String :=
  digits 2 t.hour ++ ":" ++ digits 2 t.minute ++ ":" ++ digits 2 t.second

/-- The moment with its offset; microseconds are shown unless they are zero. -/
def isoText (t : DateTime) : String :=
  digits 4 t.year.toNat ++ "-" ++ digits 2 t.month ++ "-" ++ digits 2 t.day ++ "T" ++ t.timeText
    ++ (if t.microsecond = 0 then "" else "." ++ digits 6 t.microsecond) ++ "+00:00"

/-- The moment with milliseconds behind a comma. -/
def stampText (t : DateTime) : String :=
  toString t.year ++ "-" ++ digits 2 t.month ++ "-" ++ digits 2 t.day ++ " " ++ t.timeText
    ++ "," ++ digits 3 (t.microsecond / 1000)

end DateTime
end ChatProbe
