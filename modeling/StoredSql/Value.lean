import StoredSql.Calendar.DateTime
import StoredSql.Number.Decimal
import StoredSql.Number.Shortest
import StoredSql.Text.Parts
import StoredSql.Text.Quoted
import StoredSql.Uuid

/-!
# Plain values

The plain values that a caller can hand over: what SQL has literals for, and the few more that are
refused there. `kindName` and `shown` are how messages name and show a value; `same` is equality,
under which numbers are compared by what they are worth and not by how they are held.
-/

namespace StoredSql

/-- A default value that is a keyword and no literal. Wherever a text is asked for, it is its
word. -/
inductive DefaultKeyword where
  | null
  | currentTimestamp
deriving DecidableEq, Repr

/-- The word of the keyword. -/
def DefaultKeyword.text : DefaultKeyword → String
  | .null => "NULL"
  | .currentTimestamp => "CURRENT_TIMESTAMP"

/-- A plain value. A `buffer` is a byte string that its owner may still change. -/
inductive Value where
  | null
  | bool (b : Bool)
  | int (n : Int)
  | float (x : Number.Binary64)
  | decimal (d : Number.Decimal)
  | text (s : String)
  | keyword (k : DefaultKeyword)
  | bytes (bs : List UInt8)
  | buffer (bs : List UInt8)
  | date (d : Calendar.Date)
  | datetime (t : Calendar.DateTime)
  | time (t : Calendar.Time)
  | uuid (u : Uuid)
deriving DecidableEq, Repr

namespace Value

/-- How messages name the kind of a value. -/
def kindName : Value → String
  | null => "NoneType"
  | bool _ => "bool"
  | int _ => "int"
  | float _ => "float"
  | decimal _ => "Decimal"
  | text _ => "str"
  | keyword _ => "ColumnDefault"
  | bytes _ => "bytes"
  | buffer _ => "bytearray"
  | date _ => "date"
  | datetime _ => "datetime"
  | time _ => "time"
  | uuid _ => "UUID"

/-- The text of a value that is a text. -/
def text? : Value → Option String
  | text s => some s
  | keyword k => some k.text
  | _ => none

/-- A list of numbers as messages show it. -/
def shownNumbers (ns : List Nat) : String :=
  Text.joinWith ", " (ns.map fun n => String.ofList (Number.digits n))

/-- The numbers of a time of day as messages show it: hours and minutes, and the rest if needed. -/
def clockNumbers (c : Calendar.Clock) : List Nat :=
  if c.micro ≠ 0 then [c.hour, c.minute, c.second, c.micro]
  else if c.second ≠ 0 then [c.hour, c.minute, c.second]
  else [c.hour, c.minute]

/-- A part of a length of time as messages show it. A part that is zero is left out. -/
def shownPart (name : String) (n : Int) : List String :=
  if n = 0 then [] else [name ++ "=" ++ Number.intText n]

/-- An offset as messages show it: a count of full days down, and of seconds and microseconds up
from there. -/
def shownOffset : Option Calendar.Offset → String
  | none => ""
  | some o =>
    ", tzinfo=datetime.timezone" ++
      (if o.micros = 0 then ".utc"
      else "(datetime.timedelta(" ++ Text.joinWith ", " (shownPart "days" (o.micros / 86400000000)
        ++ shownPart "seconds" (o.micros / 1000000 % 86400)
        ++ shownPart "microseconds" (o.micros % 1000000)) ++ "))")

/-- A value as messages show it. -/
def shown : Value → String
  | null => "None"
  | bool b => if b then "True" else "False"
  | int n => Number.intText n
  | float x => x.text
  | decimal d => "Decimal('" ++ d.scientific ++ "')"
  | text s => Text.quoted s
  | keyword k => "<ColumnDefault." ++ k.text ++ ": '" ++ k.text ++ "'>"
  | bytes bs => Text.quotedBytes bs
  | buffer bs => "bytearray(" ++ Text.quotedBuffer bs ++ ")"
  | date d => "datetime.date(" ++ shownNumbers [d.year, d.month, d.day] ++ ")"
  | datetime t =>
    "datetime.datetime(" ++
      shownNumbers ([t.date.year, t.date.month, t.date.day] ++ clockNumbers t.clock)
      ++ shownOffset t.offset ++ ")"
  | time t => "datetime.time(" ++ shownNumbers (clockNumbers t.clock) ++ shownOffset t.offset ++ ")"
  | uuid u => "UUID('" ++ String.ofList u.chars ++ "')"

/-- What a number is worth: a fraction, an infinity, or nothing to compare. -/
inductive Worth where
  | fraction (num : Int) (den : Nat)
  | infinite (negative : Bool)
  | none

/-- A count with a sign. -/
def signedCount (negative : Bool) (n : Nat) : Int := if negative then -(n : Int) else n

/-- What a value is worth as a number. Truth values count as 0 and 1. -/
def worth? : Value → Option Worth
  | bool b => some (.fraction (if b then 1 else 0) 1)
  | int n => some (.fraction n 1)
  | float (.finite negative m e) =>
    some (.fraction (signedCount negative (m * Number.twoTo e.toNat)) (Number.twoTo (-e).toNat))
  | float (.infinite negative) => some (.infinite negative)
  | float .notANumber => some .none
  | decimal (.finite negative c e) =>
    some (.fraction (signedCount negative (c * Number.tenTo e.toNat)) (Number.tenTo (-e).toNat))
  | decimal (.infinite negative) => some (.infinite negative)
  | decimal (.notANumber ..) => some .none
  | _ => Option.none

/-- Whether two numbers are worth the same. -/
def Worth.same : Worth → Worth → Bool
  | .fraction a b, .fraction c d => a * d == c * b
  | .infinite a, .infinite b => a == b
  | _, _ => false

/-- Whether a value is a decimal that no comparison with a number takes. -/
def isSignaling : Value → Bool
  | decimal d => d.isSignaling
  | _ => false

/-- Seconds since midnight in universal time, and microseconds. Of an offset the full seconds count,
rounded down. -/
def timeInstant (t : Calendar.Time) : Int × Nat :=
  ((t.clock.seconds : Int) - (t.offset.map (·.micros / 1000000)).getD 0, t.clock.micro)

/-- Equality of values. Numbers are equal if they are worth the same, times with an offset if they
are the same instant; a time with an offset and one without are never equal. -/
def same (a b : Value) : Bool :=
  match a.worth?, b.worth? with
  | some v, some w => v.same w
  | some _, Option.none => false
  | Option.none, some _ => false
  | Option.none, Option.none =>
    match a, b with
    | datetime s, datetime t =>
      s.offset.isSome == t.offset.isSome && s.instant == t.instant
    | time s, time t => s.offset.isSome == t.offset.isSome && timeInstant s == timeInstant t
    | bytes s, buffer t => s == t
    | buffer s, bytes t => s == t
    | a, b =>
      match a.text?, b.text? with
      | some s, some t => s == t
      | _, _ => a == b

end Value
end StoredSql
