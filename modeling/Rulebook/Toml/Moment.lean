import Rulebook.Toml.Number

/-!
# Points in time

A date, a time of day, or both, and with both possibly the offset from universal time.  Every point
in time has one canonical writing: a time shows its seconds, and a fraction of a second has at most
nine digits and no zeros at its end.
-/

namespace Rulebook
namespace Toml

/-- A day of the calendar. -/
structure Date where
  /-- The year. -/
  year : Nat
  /-- The month of the year, counted from one. -/
  month : Nat
  /-- The day of the month, counted from one. -/
  day : Nat
  deriving DecidableEq, Repr

/-- A time of day. -/
structure TimeOfDay where
  /-- The hour. -/
  hour : Nat
  /-- The minute of the hour. -/
  minute : Nat
  /-- The second of the minute, which is 60 for a leap second. -/
  second : Nat := 0
  /-- The nanosecond of the second. -/
  nanosecond : Nat := 0
  deriving DecidableEq, Repr

/-- How far a clock is from universal time. -/
inductive Offset where
  /-- The clock shows universal time. -/
  | universal
  /-- The clock is ahead by some minutes, or behind by a negative number of them. -/
  | ahead (minutes : Int)
  deriving DecidableEq, Repr

/-- A point in time. -/
structure Moment where
  /-- The day. -/
  date? : Option Date := none
  /-- The time of day. -/
  time? : Option TimeOfDay := none
  /-- The offset of the clock. -/
  offset? : Option Offset := none
  deriving DecidableEq, Repr

/-! ### Reading -/

/-- The number that exactly `count` plain digits denote, and what follows them. -/
def fixed? (count : Nat) (text : List Char) : Option (Nat × List Char) :=
  let taken := text.take count
  if taken.length = count ∧ taken.all Char.isDigit then
    (digits? 10 taken).map fun value => (value, text.drop count)
  else none

/-- What follows a certain character. -/
def after? (character : Char) : List Char → Option (List Char)
  | found :: rest => if found = character then some rest else none
  | [] => none

/-- The number of days of a month. -/
def daysIn (year month : Nat) : Nat :=
  if month = 2 then
    if year % 4 = 0 ∧ (year % 100 ≠ 0 ∨ year % 400 = 0) then 29 else 28
  else if month ∈ [4, 6, 9, 11] then 30
  else 31

/-- The date at the front of a text, and what follows it. -/
def dateAtFront? (text : List Char) : Option (Date × List Char) := do
  let (year, rest) ← fixed? 4 text
  let (month, rest) ← fixed? 2 (← after? '-' rest)
  let (day, rest) ← fixed? 2 (← after? '-' rest)
  if 1 ≤ month ∧ month ≤ 12 ∧ 1 ≤ day ∧ day ≤ daysIn year month then
    some ({ year, month, day }, rest)
  else none

/-- The number of digits that tell nanoseconds. -/
def fractionWidth : Nat :=
  9

/-- The nanoseconds that the digits of a fraction tell; digits after the ninth are ignored. -/
def nanoseconds? (digits : List Char) : Option Nat :=
  let kept := digits.take fractionWidth
  digits? 10 (kept ++ List.replicate (fractionWidth - kept.length) '0')

/-- The fraction of a second at the front of a text, which is zero without its full stop, and what
follows it. -/
def fractionAtFront? : List Char → Option (Nat × List Char)
  | '.' :: rest =>
      let digits := rest.takeWhile Char.isDigit
      if digits.isEmpty then none
      else (nanoseconds? digits).map fun value => (value, rest.drop digits.length)
  | text => some (0, text)

/-- The time of day at the front of a text, where the seconds can be missing, and what follows
it. -/
def timeAtFront? (text : List Char) : Option (TimeOfDay × List Char) := do
  let (hour, rest) ← fixed? 2 text
  let (minute, rest) ← fixed? 2 (← after? ':' rest)
  if 23 < hour ∨ 59 < minute then none
  else
    match after? ':' rest with
    | none => some ({ hour, minute }, rest)
    | some rest =>
        let (second, rest) ← fixed? 2 rest
        let (nanosecond, rest) ← fractionAtFront? rest
        if second ≤ 60 then some ({ hour, minute, second, nanosecond }, rest) else none

/-- The offset in hours and minutes behind its sign. -/
def signedOffset? (isBehind : Bool) (text : List Char) : Option Offset := do
  let (hour, rest) ← fixed? 2 text
  let (minute, rest) ← fixed? 2 (← after? ':' rest)
  let minutes := Int.ofNat (hour * 60 + minute)
  if hour ≤ 23 ∧ minute ≤ 59 ∧ rest.isEmpty then
    some (.ahead (if isBehind then -minutes else minutes))
  else none

/-- The offset that a text tells. -/
def readOffset? : List Char → Option Offset
  | ['Z'] | ['z'] => some .universal
  | '+' :: rest => signedOffset? false rest
  | '-' :: rest => signedOffset? true rest
  | _ => none

/-- The point in time of a date and what follows it. -/
def momentFrom? (date : Date) : List Char → Option Moment
  | [] => some { date? := some date }
  | separator :: rest =>
      if separator = 'T' ∨ separator = 't' ∨ separator = ' ' then
        match timeAtFront? rest with
        | none => none
        | some (time, []) => some { date? := some date, time? := some time }
        | some (time, rest) =>
            (readOffset? rest).map fun offset =>
              { date? := some date, time? := some time, offset? := some offset }
      else none

/-- The point in time that a text tells. -/
def moment? (text : List Char) : Option Moment :=
  match dateAtFront? text with
  | some (date, rest) => momentFrom? date rest
  | none =>
      match timeAtFront? text with
      | some (time, []) => some { time? := some time }
      | _ => none

/-! ### Writing -/

/-- A number with zeros in front up to a width. -/
def padded (width value : Nat) : List Char :=
  let digits := Nat.toDigits 10 value
  List.replicate (width - digits.length) '0' ++ digits

/-- The canonical writing of a date. -/
def Date.written (date : Date) : List Char :=
  padded 4 date.year ++ '-' :: padded 2 date.month ++ '-' :: padded 2 date.day

/-- The canonical writing of a fraction of a second, which is empty for none. -/
def writtenFraction (nanosecond : Nat) : List Char :=
  if nanosecond = 0 then []
  else '.' :: ((padded fractionWidth nanosecond).reverse.dropWhile (· == '0')).reverse

/-- The canonical writing of a time of day. -/
def TimeOfDay.written (time : TimeOfDay) : List Char :=
  padded 2 time.hour ++ ':' :: padded 2 time.minute ++ ':' :: padded 2 time.second ++
    writtenFraction time.nanosecond

/-- The canonical writing of an offset; no minutes at all are written as ahead. -/
def Offset.written : Offset → List Char
  | universal => ['Z']
  | ahead minutes =>
      (if minutes < 0 then '-' else '+') ::
        padded 2 (minutes.natAbs / 60) ++ ':' :: padded 2 (minutes.natAbs % 60)

/-- The canonical writing of a point in time. -/
def Moment.written (moment : Moment) : String :=
  let date := (moment.date?.map Date.written).getD []
  let time := (moment.time?.map TimeOfDay.written).getD []
  let offset := (moment.offset?.map Offset.written).getD []
  let separator := if moment.date?.isSome ∧ moment.time?.isSome then ['T'] else []
  String.ofList (date ++ separator ++ time ++ offset)

end Toml
end Rulebook
