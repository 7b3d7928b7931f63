import Automation.Number.Numeral

namespace Automation

structure Instant where
  year : Nat
  month : Nat
  day : Nat
  hour : Nat := 0
  minute : Nat := 0
  second : Nat := 0
  micro : Nat := 0
  /-- Microseconds ahead of universal time. -/
  offset : Option Int := none
  deriving DecidableEq, Repr, Inhabited

namespace Instant

def field (width n : Nat) : String := .ofList (padZeros width (natDigits n))

def perSecond : Nat := 1000000

def perDay : Nat := 86400 * perSecond

def offsetText (o : Int) : String :=
  let n := o.natAbs
  let seconds := n / perSecond
  let parts := if n % perSecond = 0 then "" else "." ++ field 6 (n % perSecond)
  (if o < 0 then "-" else "+") ++ field 2 (seconds / 3600) ++ ":" ++ field 2 (seconds / 60 % 60) ++
    (if seconds % 60 = 0 ∧ n % perSecond = 0 then "" else ":" ++ field 2 (seconds % 60) ++ parts)

def dateText (t : Instant) : String :=
  field 4 t.year ++ "-" ++ field 2 t.month ++ "-" ++ field 2 t.day

def timeText (t : Instant) : String :=
  field 2 t.hour ++ ":" ++ field 2 t.minute ++ ":" ++ field 2 t.second

def text (t : Instant) : String :=
  t.dateText ++ "T" ++ t.timeText ++ (if t.micro = 0 then "" else "." ++ field 6 t.micro) ++
    (t.offset.map offsetText).getD ""

def shortDate (t : Instant) : String :=
  .ofList (natDigits t.month ++ '/' :: natDigits t.day ++ '/' :: natDigits t.year)

def isLeap (year : Nat) : Bool := year % 4 == 0 && (year % 100 != 0 || year % 400 == 0)

def daysIn (year month : Nat) : Nat :=
  if month = 2 then (if isLeap year then 29 else 28)
  else if month = 4 ∨ month = 6 ∨ month = 9 ∨ month = 11 then 30
  else 31

def nextDay (t : Instant) : Instant :=
  if t.day < daysIn t.year t.month then { t with day := t.day + 1 }
  else if t.month < 12 then { t with month := t.month + 1, day := 1 }
  else { t with year := t.year + 1, month := 1, day := 1 }

def dayBefore (t : Instant) : Instant :=
  if 1 < t.day then { t with day := t.day - 1 }
  else if 1 < t.month then { t with month := t.month - 1, day := daysIn t.year (t.month - 1) }
  else { t with year := t.year - 1, month := 12, day := 31 }

def sinceMidnight (t : Instant) : Nat :=
  ((t.hour * 60 + t.minute) * 60 + t.second) * perSecond + t.micro

def atTime (t : Instant) (n : Nat) : Instant :=
  let seconds := n / perSecond
  { t with
    hour := seconds / 3600
    minute := seconds / 60 % 60
    second := seconds % 60
    micro := n % perSecond }

/-- The instant in universal time. One whose distance is unknown is taken to be there already. A
distance is less than a day. -/
def toUniversal (t : Instant) : Instant :=
  let n : Int := t.sinceMidnight - t.offset.getD 0
  let t := { t with offset := some 0 }
  if n < 0 then t.dayBefore.atTime (n + perDay).toNat
  else if perDay ≤ n then t.nextDay.atTime (n - perDay).toNat
  else t.atTime n.toNat

end Instant

end Automation
