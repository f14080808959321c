import PackedAttestation.Bytes

/-! # Times of validity

A time is written as digits and ends with the letter Z.  Its seconds may be
missing, and the long form may have up to three digits of a second after a point.
Only the form is checked, together with the calendar: which of two times is later
plays no role.
-/
namespace PackedAttestation.Certificate.Time

/-- The value of a decimal digit. -/
def digit? (b : UInt8) : Option Nat :=
  if 48 ≤ b ∧ b ≤ 57 then some (b.toNat - 48) else none

/-- Reads two decimal digits. -/
def twoDigits? : Bytes → Option (Nat × Bytes)
  | h :: l :: rest => do
    let high ← digit? h
    let low ← digit? l
    return (high * 10 + low, rest)
  | _ => none

/-- Whether a year is a leap year. -/
def isLeap (year : Nat) : Bool :=
  year % 4 == 0 && (year % 100 != 0 || year % 400 == 0)

/-- The number of days of a month. -/
def daysOf (year : Nat) : (month : Nat) → Nat
  | 1 | 3 | 5 | 7 | 8 | 10 | 12 => 31
  | 4 | 6 | 9 | 11 => 30
  | 2 => if isLeap year then 29 else 28
  | _ => 0

/-- Reads month, day, hour, minute and, where digits follow, second. Says whether they name
a moment of the year, and returns what follows. -/
def moment? (year : Nat) (bs : Bytes) : Option (Bool × Bytes) := do
  let (month, bs) ← twoDigits? bs
  let (day, bs) ← twoDigits? bs
  let (hour, bs) ← twoDigits? bs
  let (minute, bs) ← twoDigits? bs
  let (second, bs) ← if 2 ≤ bs.length then twoDigits? bs else some (0, bs)
  let named := 1 ≤ day && day ≤ daysOf year month && hour ≤ 23 && minute ≤ 59 && second ≤ 59
  return (named, bs)

/-- The letter at the end of a time. -/
def zulu : UInt8 := 90

/-- Whether content is a time whose year has two digits, 50 to 99 for the years from 1950
and 00 to 49 for those from 2000. -/
def isUtc (content : Bytes) : Bool :=
  let time := do
    let (yy, bs) ← twoDigits? content
    moment? (if 50 ≤ yy then 1900 + yy else 2000 + yy) bs
  match time with
  | some (named, rest) => named && rest == [zulu]
  | none => false

/-- Whether content may follow the seconds: the end, or a point, one to three digits and the
end. -/
def isFraction : Bytes → Bool
  | 46 :: rest =>
    let digits := rest.dropLast
    rest.getLast? == some zulu && 1 ≤ digits.length && digits.length ≤ 3 &&
      digits.all fun b => (digit? b).isSome
  | rest => rest == [zulu]

/-- Whether content is a time whose year has four digits. -/
def isGeneralized (content : Bytes) : Bool :=
  let time := do
    let (century, bs) ← twoDigits? content
    let (yy, bs) ← twoDigits? bs
    moment? (century * 100 + yy) bs
  match time with
  | some (named, rest) => named && isFraction rest
  | none => false

end PackedAttestation.Certificate.Time
