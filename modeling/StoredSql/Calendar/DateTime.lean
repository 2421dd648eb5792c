import StoredSql.Calendar.Date

/-!
# Times of day and points in time

A point in time is a day and a time of day, seen from a place with a known offset from universal
time or from nowhere in particular. `DateTime.toUniversal?` moves it to universal time; an offset
is shorter than a day, so that the day changes by one at most.
-/

namespace StoredSql.Calendar

/-- Whether a day has the time. -/
def isClock (hour minute second micro : Nat) : Bool :=
  hour < 24 && minute < 60 && second < 60 && micro < 1000000

/-- A time of day. -/
structure Clock where
  hour : Nat
  minute : Nat
  second : Nat
  micro : Nat
  valid : isClock hour minute second micro = true
deriving DecidableEq, Repr

namespace Clock

/-- The time with these numbers, if a day has it. -/
def ofNumbers? (hour minute second micro : Nat) : Option Clock :=
  if h : isClock hour minute second micro = true then some ⟨hour, minute, second, micro, h⟩
  else none

/-- The full seconds since midnight. -/
def seconds (c : Clock) : Nat := 3600 * c.hour + 60 * c.minute + c.second

/-- The microseconds since midnight. -/
def micros (c : Clock) : Nat := 1000000 * c.seconds + c.micro

/-- The time so many microseconds after midnight, if the day is that long. -/
def ofMicros? (n : Nat) : Option Clock :=
  ofNumbers? (n / 3600000000) (n / 60000000 % 60) (n / 1000000 % 60) (n % 1000000)

/-- Hours, minutes and seconds with colons between them; microseconds follow if there are any. -/
def chars (c : Clock) : List Char :=
  padded 2 c.hour ++ ':' :: (padded 2 c.minute ++ ':' :: padded 2 c.second)
    ++ (if c.micro = 0 then [] else '.' :: padded 6 c.micro)

end Clock

/-- How many microseconds the local time runs ahead of universal time: less than a day. -/
structure Offset where
  micros : Int
  bounded : -86400000000 < micros ∧ micros < 86400000000
deriving DecidableEq, Repr

/-- The offset of so many full seconds, if it is one. -/
def Offset.ofSeconds? (s : Int) : Option Offset :=
  if h : -86400000000 < 1000000 * s ∧ 1000000 * s < 86400000000 then some ⟨1000000 * s, h⟩ else none

/-- A time of day, with an offset or without. -/
structure Time where
  clock : Clock
  offset : Option Offset := none
deriving DecidableEq, Repr

/-- A point in time, with an offset or without. -/
structure DateTime where
  date : Date
  clock : Clock
  offset : Option Offset := none
deriving DecidableEq, Repr

namespace DateTime

/-- The day that many days after `d`, for `-1`, `0` and `1`. -/
def shiftDay? (d : Date) : Int → Option Date
  | 0 => some d
  | 1 => d.next?
  | -1 => d.prev?
  | _ => none

/-- The same point in universal time: the local time less the offset. There is no answer before
year 1 and after year 9999. -/
def toUniversal? (t : DateTime) : Option DateTime :=
  match t.offset with
  | none => some t
  | some o => do
    let m : Int := t.clock.micros - o.micros
    let date ← shiftDay? t.date (m / 86400000000)
    let clock ← Clock.ofMicros? (m % 86400000000).toNat
    pure ⟨date, clock, none⟩

/-- The day and the time of day with a space between them. -/
def chars (t : DateTime) : List Char := t.date.chars ++ ' ' :: t.clock.chars

/-- The microseconds that the day and the time of day count, on a calendar whose first day has
number 1. -/
def localMicros (t : DateTime) : Int := 86400000000 * t.date.number + t.clock.micros

/-- The same count in universal time: less the offset, if there is one. -/
def instant (t : DateTime) : Int := t.localMicros - (t.offset.map (·.micros)).getD 0

end DateTime
end StoredSql.Calendar
