import ServiceBinding.Bytes

/-!
Points in time as certificates write them. The short form has a year of two digits, of which those
below fifty belong to the century that began with 2000. The long form has a year of four digits,
may have thousandths of a second, and is in universal time. Both may leave out the seconds.
-/
namespace ServiceBinding.Crypto.Moment

/-- The number of two decimal digits that octets begin with, and what follows it. -/
def twoDigits? : Bytes → Option (Nat × Bytes)
  | tens :: units :: rest =>
    if 0x30 ≤ tens ∧ tens ≤ 0x39 ∧ 0x30 ≤ units ∧ units ≤ 0x39 then
      some ((tens.toNat - 0x30) * 10 + (units.toNat - 0x30), rest)
    else none
  | _ => none

def isLeap (year : Nat) : Bool := year % 4 == 0 && (year % 100 != 0 || year % 400 == 0)

def daysIn (year month : Nat) : Nat :=
  if month = 2 then if isLeap year then 29 else 28
  else if month = 4 ∨ month = 6 ∨ month = 9 ∨ month = 11 then 30
  else 31

/-- What follows a month, a day, an hour and a minute of a year, if there are such. -/
def afterMinute? (year : Nat) (b : Bytes) : Option Bytes := do
  let (month, b) ← twoDigits? b
  let (day, b) ← twoDigits? b
  let (hour, b) ← twoDigits? b
  let (minute, b) ← twoDigits? b
  if 1 ≤ month ∧ month ≤ 12 ∧ 1 ≤ day ∧ day ≤ daysIn year month ∧ hour ≤ 23 ∧ minute ≤ 59 then
    return b
  else none

/-- What follows the seconds of a minute, which are left out where a single octet is left. -/
def afterSecond? (b : Bytes) : Option Bytes :=
  if b.length ≤ 1 then some b
  else do
    let (second, b) ← twoDigits? b
    if second ≤ 59 then return b else none

/-- The letter for universal time. -/
def universal : UInt8 := 0x5A

/-- Whether octets are a time zone: the letter for universal time, or a sign with the hours and
minutes of a distance to it. -/
def isZone : Bytes → Bool
  | [] => false
  | first :: rest =>
    if first = 0x2B ∨ first = 0x2D then
      ((do
        let (hours, rest) ← twoDigits? rest
        let (minutes, rest) ← twoDigits? rest
        return hours ≤ 25 && minutes ≤ 59 && rest.isEmpty) : Option Bool).getD false
    else first == universal && rest.isEmpty

/-- Whether octets are a point in time in short form. -/
def isShort (b : Bytes) : Bool :=
  ((do
    let (year, b) ← twoDigits? b
    let b ← afterMinute? (if year < 50 then 2000 + year else 1900 + year) b
    return isZone (← afterSecond? b)) : Option Bool)
    |>.getD false

/-- Whether octets are a point, at most three decimal digits and the letter for universal time. -/
def isFraction (b : Bytes) : Bool :=
  match b with
  | 0x2E :: rest =>
    let digits := rest.takeWhile fun octet => 0x30 ≤ octet && octet ≤ 0x39
    digits.length ≤ 3 && rest.drop digits.length == [universal]
  | _ => false

/-- Whether octets are a point in time in long form. -/
def isLong (b : Bytes) : Bool :=
  ((do
    let (century, b) ← twoDigits? b
    let (year, b) ← twoDigits? b
    let b ← afterSecond? (← afterMinute? (century * 100 + year) b)
    return b == [universal] || isFraction b) : Option Bool)
    |>.getD false

end ServiceBinding.Crypto.Moment
