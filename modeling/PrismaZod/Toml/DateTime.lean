import PrismaZod.Text.Digit

/-!
# Dates and times

A date-time is a date, a time of day, or both, and only one with both can have
an offset.  Its text spells every number with its full width and leaves out a
fraction of a second that is zero.  Where a date-time is written in a document
its numbers are held to narrower bounds than where its text is handed on as a
string.
-/

namespace PrismaZod.Toml

structure Date where
  year : Nat
  month : Nat
  day : Nat
deriving DecidableEq, Repr, Inhabited

structure Time where
  hour : Nat
  minute : Nat
  second : Nat
  nanosecond : Nat
deriving DecidableEq, Repr, Inhabited

/-- How far a time is ahead of or behind the universal time. -/
inductive Offset
  | universal
  | minutes (behind : Bool) (count : Nat)
deriving DecidableEq, Repr, Inhabited

inductive DateTime
  | onlyDate (date : Date)
  | onlyTime (time : Time)
  | both (date : Date) (time : Time) (offset : Option Offset)
deriving DecidableEq, Repr, Inhabited

/-- The greatest numbers of a time of day and of an offset. -/
structure Bounds where
  hour : Nat
  offsetHour : Nat
  offsetMinute : Nat
  /-- All the minutes of an offset. -/
  offset : Nat
deriving DecidableEq, Repr, Inhabited

def Bounds.document : Bounds := ⟨23, 23, 59, 1439⟩

/-- The bounds in a text that is handed on: a day may end with hour 24, and of
an offset only its length counts, which is at most a day. -/
def Bounds.handedOn : Bounds := ⟨24, 99, 99, 1440⟩

/-- A number with zeros in front up to a width. -/
def padded (width number : Nat) : List Char :=
  let digits := Nat.toDigits 10 number
  List.replicate (width - digits.length) '0' ++ digits

/-- Take a number of exactly so many digits. -/
def takeNumber (width : Nat) (chars : List Char) : Option (Nat × List Char) :=
  let digits := chars.take width
  if digits.length = width ∧ digits.all Char.isDigit then
    some (Text.digitsValue 10 (digits.map Text.digitValue), chars.drop width)
  else none

/-- Take a number of two digits that is in a range. -/
def takePair (least greatest : Nat) (chars : List Char) : Option (Nat × List Char) := do
  let (number, rest) ← takeNumber 2 chars
  if least ≤ number ∧ number ≤ greatest then some (number, rest) else none

def takeMark (mark : Char) : List Char → Option (List Char)
  | [] => none
  | head :: rest => if head = mark then some rest else none

namespace Date

def isLeap (year : Nat) : Bool :=
  year % 4 == 0 && (year % 100 != 0 || year % 400 == 0)

def daysInMonth (year month : Nat) : Nat :=
  if month = 2 then (if isLeap year then 29 else 28)
  else if month = 4 ∨ month = 6 ∨ month = 9 ∨ month = 11 then 30
  else 31

def chars (date : Date) : List Char :=
  padded 4 date.year ++ '-' :: padded 2 date.month ++ '-' :: padded 2 date.day

def take (chars : List Char) : Option (Date × List Char) := do
  let (year, afterYear) ← takeNumber 4 chars
  let (month, afterMonth) ← takePair 1 12 (← takeMark '-' afterYear)
  let (day, rest) ← takePair 1 (daysInMonth year month) (← takeMark '-' afterMonth)
  some (⟨year, month, day⟩, rest)

end Date

namespace Time

/-- The digits of a fraction of a second, without zeros at the end. -/
def fractionChars (nanosecond : Nat) : List Char :=
  if nanosecond = 0 then []
  else '.' :: ((padded 9 nanosecond).reverse.dropWhile (· == '0')).reverse

def chars (time : Time) : List Char :=
  padded 2 time.hour ++ ':' :: padded 2 time.minute ++ ':' :: padded 2 time.second ++
    fractionChars time.nanosecond

/-- Take a fraction of a second, in nanoseconds. Digits beyond the ninth do not
count. -/
def takeFraction (chars : List Char) : Option (Nat × List Char) :=
  match chars with
  | '.' :: rest =>
      match Text.takeDigits rest with
      | ([], _) => none
      | (digits, after) =>
          let counted := digits.take 9
          let missing := List.replicate (9 - counted.length) 0
          some (Text.digitsValue 10 (counted ++ missing), after)
  | _ => some (0, chars)

/-- Take a time of day; a minute may have a leap second. -/
def take (bounds : Bounds) (chars : List Char) : Option (Time × List Char) := do
  let (hour, afterHour) ← takePair 0 bounds.hour chars
  let (minute, afterMinute) ← takePair 0 59 (← takeMark ':' afterHour)
  let (second, afterSecond) ← takePair 0 60 (← takeMark ':' afterMinute)
  let (nanosecond, rest) ← takeFraction afterSecond
  some (⟨hour, minute, second, nanosecond⟩, rest)

end Time

namespace Offset

def chars : Offset → List Char
  | universal => ['Z']
  | minutes behind count =>
      let sign := if behind && count != 0 then '-' else '+'
      sign :: padded 2 (count / 60) ++ ':' :: padded 2 (count % 60)

def ofSigned? (bounds : Bounds) (behind : Bool) (chars : List Char) : Option Offset := do
  let (hour, afterHour) ← takePair 0 bounds.offsetHour chars
  let (minute, rest) ← takePair 0 bounds.offsetMinute (← takeMark ':' afterHour)
  let count := hour * 60 + minute
  if rest.isEmpty ∧ count ≤ bounds.offset then some (minutes behind count) else none

/-- The offset that is left after a time, if it is one or nothing. -/
def ofChars? (bounds : Bounds) : List Char → Option (Option Offset)
  | [] => some none
  | ['Z'] | ['z'] => some (some universal)
  | '+' :: rest => (ofSigned? bounds false rest).map some
  | '-' :: rest => (ofSigned? bounds true rest).map some
  | _ => none

end Offset

namespace DateTime

/-- A time of day may follow a date after one of these. -/
def isJoint (c : Char) : Bool :=
  c == 'T' || c == 't' || c == ' '

def chars : DateTime → List Char
  | onlyDate date => date.chars
  | onlyTime time => time.chars
  | both date time offset =>
      date.chars ++ 'T' :: time.chars ++ (offset.map Offset.chars).getD []

def text (dateTime : DateTime) : String :=
  String.ofList dateTime.chars

def afterDate? (bounds : Bounds) (date : Date) : List Char → Option DateTime
  | [] => some (onlyDate date)
  | joint :: rest =>
      if isJoint joint then do
        let (time, afterTime) ← Time.take bounds rest
        let offset ← Offset.ofChars? bounds afterTime
        some (both date time offset)
      else none

def ofChars? (bounds : Bounds) (chars : List Char) : Option DateTime :=
  match Date.take chars with
  | some (date, rest) => afterDate? bounds date rest
  | none =>
      match Time.take bounds chars with
      | some (time, []) => some (onlyTime time)
      | _ => none

end DateTime

end PrismaZod.Toml
