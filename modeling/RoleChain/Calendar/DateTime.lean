import RoleChain.Calendar.Date
import RoleChain.Number.Decimal

/-!
Moments: a date and a time of day to the microsecond, with the offset of a zone or without. The
module holds their order-free identity as instants and their two written forms.
-/
namespace RoleChain

/-- Where the offset of a moment comes from: stated to the microsecond, or read to the second. -/
inductive Zone where
  | stated (microseconds : Int)
  | read (seconds : Int)
  deriving DecidableEq

def Zone.offset : Zone → Int
  | .stated microseconds => microseconds
  | .read seconds => seconds * 1000000

structure DateTime where
  year : Nat
  month : Nat
  day : Nat
  hour : Nat
  minute : Nat
  second : Nat
  microsecond : Nat
  zone : Option Zone
  deriving DecidableEq

namespace DateTime

/-- Microseconds on the local clock since the start of the year zero. -/
def localMicroseconds (t : DateTime) : Int :=
  let days := Calendar.dayNumber t.year t.month t.day
  ((((days * 24 + t.hour) * 60 + t.minute) * 60 + t.second) * 1000000 + t.microsecond : Nat)

/-- Two moments with zones agree as instants, two without by their clocks; one with a zone and
one without never agree. -/
def agrees (s t : DateTime) : Bool :=
  match s.zone, t.zone with
  | none, none => s.localMicroseconds == t.localMicroseconds
  | some y, some z => s.localMicroseconds - y.offset == t.localMicroseconds - z.offset
  | _, _ => false

/-- The offset with its sign; seconds and microseconds only where they are not zero. -/
def offsetText (microseconds : Int) : String :=
  let magnitude := microseconds.natAbs
  let fraction := magnitude % 1000000
  let seconds := magnitude / 1000000
  let two := Decimal.padded 2
  (if microseconds < 0 then "-" else "+") ++ two (seconds / 3600) ++ ":" ++
    two (seconds / 60 % 60) ++
    (if seconds % 60 ≠ 0 ∨ fraction ≠ 0 then ":" ++ two (seconds % 60) else "") ++
    (if fraction ≠ 0 then "." ++ Decimal.padded 6 fraction else "")

/-- The date and time of day, the given separator between them. -/
def separatedText (separator : String) (t : DateTime) : String :=
  let two := Decimal.padded 2
  Decimal.padded 4 t.year ++ "-" ++ two t.month ++ "-" ++ two t.day ++ separator ++
    two t.hour ++ ":" ++ two t.minute ++ ":" ++ two t.second ++
    (if t.microsecond ≠ 0 then "." ++ Decimal.padded 6 t.microsecond else "") ++
    (match t.zone with
    | none => ""
    | some zone => offsetText zone.offset)

def isoText : DateTime → String := separatedText "T"

/-- A stretch of time as its parts that are not zero; only the days are ever negative. -/
def durationText (microseconds : Int) : String :=
  let days := microseconds.fdiv 86400000000
  let rest := (microseconds.fmod 86400000000).toNat
  let parts :=
    (if days ≠ 0 then ["days=" ++ Decimal.intText days] else []) ++
    (if rest / 1000000 ≠ 0 then ["seconds=" ++ Decimal.digitText (rest / 1000000)] else []) ++
    (if rest % 1000000 ≠ 0 then ["microseconds=" ++ Decimal.digitText (rest % 1000000)] else [])
  "datetime.timedelta(" ++ ", ".intercalate parts ++ ")"

def zoneText : Zone → String
  | .stated 0 => "datetime.timezone.utc"
  | .stated microseconds => "datetime.timezone(" ++ durationText microseconds ++ ")"
  | .read seconds => "TzInfo(" ++ Decimal.intText seconds ++ ")"

/-- The form with every part named by its place; trailing zeros of the time are left out. -/
def literal (t : DateTime) : String :=
  let tail :=
    if t.microsecond ≠ 0 then [t.second, t.microsecond]
    else if t.second ≠ 0 then [t.second] else []
  let numbers := [t.year, t.month, t.day, t.hour, t.minute] ++ tail
  "datetime.datetime(" ++ ", ".intercalate (numbers.map Decimal.digitText) ++
    (match t.zone with
    | none => ""
    | some zone => ", tzinfo=" ++ zoneText zone) ++ ")"

end DateTime

end RoleChain
