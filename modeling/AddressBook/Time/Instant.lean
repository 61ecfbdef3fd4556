import AddressBook.Text.Decimal
import AddressBook.Time.Calendar

/-!
Points in time, and date-times as requests give them: with an offset from UTC,
or without one.
-/
namespace AddressBook

/-- A point in time, in microseconds since the start of 1970 in UTC. -/
abbrev Instant := Int

/-- The instant that is the reading of a calendar and a clock in UTC. -/
def Instant.ofReading (date : Calendar.Date) (hour minute second micro : Nat) : Instant :=
  (date.toDays * 86400 + hour * 3600 + minute * 60 + second) * 1000000 + micro

/-- The first instant of a year. -/
def Instant.ofYear (year : Int) : Instant := .ofReading ⟨year, 1, 1⟩ 0 0 0 0

/-- Whether an instant lies in the years 1 to 9999. -/
def Instant.isDated (t : Instant) : Bool := ofYear 1 ≤ t && t < ofYear 10000

/-- Date and time of day up to the full second, with a mark between them. -/
def Instant.secondText (mark : String) (t : Instant) : String :=
  let seconds := t.fdiv 1000000
  let date := Calendar.Date.ofDays (seconds.fdiv 86400)
  let second := (seconds.fmod 86400).toNat
  Text.padded 4 date.year.toNat ++ "-" ++ Text.padded 2 date.month ++ "-" ++ Text.padded 2 date.day ++ mark
    ++ Text.padded 2 (second / 3600) ++ ":" ++ Text.padded 2 (second / 60 % 60) ++ ":"
    ++ Text.padded 2 (second % 60)

/-- The six places of a second behind the point. -/
def Instant.places (t : Instant) : String := Text.padded 6 (t.fmod 1000000).toNat

/-- Date and time of day, with six places of a second where these are not all zero. -/
def Instant.text (t : Instant) : String :=
  t.secondText "T" ++ if t.fmod 1000000 = 0 then "" else "." ++ t.places

/-- Date and time of day in full, always with six places of a second. -/
def Instant.full (t : Instant) : String := t.secondText " " ++ "." ++ t.places

/-- The form in which answers show an instant. -/
def Instant.written (t : Instant) : String := t.text ++ "Z"

/-- The form in which stored rows show an instant. -/
def Instant.stored (t : Instant) : String := t.text ++ "+00:00"

/-- A calendar and clock reading at some place. -/
structure DateTime where
  /-- The reading, taken as if it were in UTC. -/
  reading : Instant
  /-- How many minutes the place is ahead of UTC, if that is known. -/
  offset : Option Int
deriving DecidableEq

namespace DateTime

/-- The instant of a date-time; without an offset it is in UTC. -/
def instant (d : DateTime) : Instant := d.reading - d.offset.getD 0 * 60000000

/-- The form in which answers show a date-time. -/
def written (d : DateTime) : String :=
  match d.offset with
  | none => d.reading.text
  | some 0 => d.reading.text ++ "Z"
  | some m =>
    d.reading.text ++ (if m < 0 then "-" else "+") ++ Text.padded 2 (m.natAbs / 60) ++ ":"
      ++ Text.padded 2 (m.natAbs % 60)

end DateTime
end AddressBook
