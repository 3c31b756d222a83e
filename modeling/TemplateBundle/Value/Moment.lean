/-!
Contract: dates of the calendar, with or without a time of day.

Owns: which numbers are a date and a time, when two moments are the same, and their two texts:
the one that people write, and the one that names the parts.

A time with a known distance from universal time is the same as another one at the same instant;
a time without one is compared part by part.
-/

namespace TemplateBundle

/-- A time of day. -/
structure Clock where
  hour : Nat
  minute : Nat
  second : Nat
  micro : Nat
  /-- The distance from universal time in minutes, if it is known. -/
  offset : Option Int
deriving DecidableEq, Repr

/-- The minutes of a day. -/
def dayMinutes : Nat := 1440

/-- The numbers are a time of day, and the distance from universal time is less than a day. -/
def Clock.isTime (clock : Clock) : Bool :=
  clock.hour < 24 && clock.minute < 60 && clock.second < 60 && clock.micro < 1000000 &&
    clock.offset.all (·.natAbs < dayMinutes)

/-- A date, with or without a time of day. -/
structure Moment where
  year : Nat
  month : Nat
  day : Nat
  clock : Option Clock
deriving DecidableEq, Repr

namespace Moment

/-! ## The calendar -/

/-- The year has a leap day. -/
def isLeap (year : Nat) : Bool := year % 4 = 0 && (year % 100 ≠ 0 || year % 400 = 0)

/-- The number of days of a month. -/
def daysOfMonth (year month : Nat) : Nat :=
  if month = 2 then if isLeap year then 29 else 28
  else if [4, 6, 9, 11].contains month then 30
  else 31

/-- The numbers are a date of the calendar and a time of day. -/
def isValid (moment : Moment) : Bool :=
  1 ≤ moment.year && 1 ≤ moment.month && moment.month ≤ 12 && 1 ≤ moment.day &&
    moment.day ≤ daysOfMonth moment.year moment.month && moment.clock.all (·.isTime)

/-- The number of days before a date, from the first day of the year one on. -/
def daysBefore (moment : Moment) : Nat :=
  let years := moment.year - 1
  let months := (List.range (moment.month - 1)).map fun index =>
    daysOfMonth moment.year (index + 1)
  years * 365 + years / 4 - years / 100 + years / 400 + months.foldl (· + ·) 0 + (moment.day - 1)

/-- The instant in universal time, in millionths of a second, if it is known. -/
def instant? (moment : Moment) : Option Int := do
  let clock ← moment.clock
  let offset ← clock.offset
  let minutes : Int := (moment.daysBefore * dayMinutes + clock.hour * 60 + clock.minute : Nat)
  some (((minutes - offset) * 60 + (clock.second : Int)) * 1000000 + (clock.micro : Int))

/-- The two are the same moment. -/
def isSame (left right : Moment) : Bool :=
  match left.instant?, right.instant? with
  | some first, some second => first == second
  | none, none => left == right
  | _, _ => false

/-! ## Texts -/

/-- A number with leading zeros up to a width. -/
def padded (width value : Nat) : String :=
  let digits := Nat.toDigits 10 value
  String.ofList (List.replicate (width - digits.length) '0' ++ digits)

/-- The text of a distance from universal time. -/
def offsetText (offset : Int) : String :=
  (if offset < 0 then "-" else "+") ++ padded 2 (offset.natAbs / 60) ++ ":" ++
    padded 2 (offset.natAbs % 60)

/-- The text of a time of day. Millionths stand in it if there are any. -/
def clockText (clock : Clock) : String :=
  padded 2 clock.hour ++ ":" ++ padded 2 clock.minute ++ ":" ++ padded 2 clock.second ++
    (if clock.micro = 0 then "" else "." ++ padded 6 clock.micro) ++
    (clock.offset.map offsetText).getD ""

/-- The text of a moment. -/
def text (moment : Moment) : String :=
  padded 4 moment.year ++ "-" ++ padded 2 moment.month ++ "-" ++ padded 2 moment.day ++
    match moment.clock with
    | some clock => " " ++ clockText clock
    | none => ""

/-- The named form of a distance from universal time, as whole days and the seconds after them. -/
def quotedOffset (offset : Int) : String :=
  let days := Int.fdiv offset dayMinutes
  let seconds := Int.fmod offset dayMinutes * 60
  if offset = 0 then "datetime.timezone.utc"
  else
    let named := (if days = 0 then [] else ["days=" ++ toString days]) ++
      (if seconds = 0 then [] else ["seconds=" ++ toString seconds])
    "datetime.timezone(datetime.timedelta(" ++ String.intercalate ", " named ++ "))"

/-- The numbers of a time of day. Seconds and millionths are left out as long as nothing but zeros
follows. -/
def clockNumbers (clock : Clock) : List Nat :=
  if clock.micro ≠ 0 then [clock.hour, clock.minute, clock.second, clock.micro]
  else if clock.second ≠ 0 then [clock.hour, clock.minute, clock.second]
  else [clock.hour, clock.minute]

/-- The form of a moment inside a message, with its parts as numbers. -/
def quotedForm (moment : Moment) : String :=
  let date := [moment.year, moment.month, moment.day]
  let listed (numbers : List Nat) : String :=
    String.intercalate ", " (numbers.map fun number => toString number)
  match moment.clock with
  | none => "datetime.date(" ++ listed date ++ ")"
  | some clock =>
      "datetime.datetime(" ++ listed (date ++ clockNumbers clock) ++
        (clock.offset.map fun offset => ", tzinfo=" ++ quotedOffset offset).getD "" ++ ")"

end Moment

end TemplateBundle
