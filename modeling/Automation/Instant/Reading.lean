import Automation.Instant
import Automation.Text.Quoted

namespace Automation.Instant

inductive Unreadable where
  | form (text : String)
  | year (n : Nat)
  | month
  | day
  | hour
  | minute
  | second
  | distance (offset : Int)
  deriving DecidableEq, Repr

def spanText (o : Int) : String :=
  let part (name : String) (n : Int) : List String :=
    if n = 0 then [] else [name ++ "=" ++ intText n]
  let parts := part "days" (o.fdiv perDay) ++
    part "seconds" ((o.fmod perDay).fdiv perSecond) ++
    part "microseconds" (o.fmod perSecond)
  "datetime.timedelta(" ++ (if parts = [] then "0" else ", ".intercalate parts) ++ ")"

def Unreadable.message : Unreadable → String
  | form text => "Invalid isoformat string: " ++ Text.quoted text
  | year n => "year " ++ intText n ++ " is out of range"
  | month => "month must be in 1..12"
  | day => "day is out of range for month"
  | hour => "hour must be in 0..23"
  | minute => "minute must be in 0..59"
  | second => "second must be in 0..59"
  | distance offset => "offset must be a timedelta strictly between -timedelta(hours=24) and " ++
      "timedelta(hours=24), not " ++ spanText offset ++ "."

def takeNumber? (width : Nat) (cs : List Char) : Option (Nat × List Char) :=
  let ds := cs.take width
  if ds.length = width then (readDigits? ds).map (·, cs.drop width) else none

def daysBefore (year : Nat) : Nat :=
  let y := year - 1
  y * 365 + y / 4 - y / 100 + y / 400

def firstWeekday (year : Nat) : Nat := daysBefore year % 7

def weeksIn (year : Nat) : Nat :=
  let w := firstWeekday year
  if year ≠ 0 ∧ (w = 3 ∨ (w = 2 ∧ isLeap year)) then 53 else 52

/-- A day by year, week and day of the week. The year zero has weeks, but no days. -/
def ofWeek? (year week weekday : Nat) : Option Instant :=
  if week < 1 ∨ weeksIn year < week ∨ weekday < 1 ∨ 7 < weekday then none
  else if year = 0 then some { year := 1, month := 0, day := 0 }
  else
    let w := firstWeekday year
    let first : Instant := { year, month := 1, day := 1 }
    let count : Int := ((week - 1) * 7 + (weekday - 1) : Nat) - (w : Int) + (if 3 < w then 7 else 0)
    some (Nat.repeat (if count < 0 then dayBefore else nextDay) count.natAbs first)

def readDay? (cs : List Char) : Option Instant := do
  let (year, cs) ← takeNumber? 4 cs
  let hyphens := cs.head? = some '-'
  let cs := if hyphens then cs.drop 1 else cs
  let separated (cs : List Char) : Option (List Char) :=
    if hyphens then (if cs.head? = some '-' then some (cs.drop 1) else none) else some cs
  if cs.head? = some 'W' then
    let (week, cs) ← takeNumber? 2 (cs.drop 1)
    if cs = [] then ofWeek? year week 1
    else ofWeek? year week (← takeNumber? 1 (← separated cs)).1
  else
    let (month, cs) ← takeNumber? 2 cs
    let (day, _) ← takeNumber? 2 (← separated cs)
    return { year, month, day }

def dayWidth (cs : List Char) : Nat :=
  let isDigitAt (i : Nat) : Bool := cs[i]?.any Char.isDigit
  if cs.length = 7 then 7
  else if cs[4]? = some '-' then
    if cs[5]? = some 'W' then
      if cs[8]? = some '-' ∧ !isDigitAt 10 then 10 else 8
    else 10
  else if cs[4]? = some 'W' then
    let stop := 7 + ((cs.drop 7).takeWhile Char.isDigit).length
    if stop < 9 then stop else if stop % 2 = 0 then 7 else 8
  else 8

def goesOn (cs : List Char) : Bool := cs.head?.any (· ≠ '\x00')

/-- Microseconds from digits, of which those behind the first six do not count. Tells also whether
the text goes on behind them. -/
def readParts? (cs : List Char) : Option (Nat × Bool) :=
  let ds := cs.take 6
  if ds.all Char.isDigit then
    some (digitsValue ((ds ++ List.replicate 6 '0').take 6),
      goesOn ((cs.drop 6).dropWhile Char.isDigit))
  else none

/-- A number of two digits and as many more as there may be, then microseconds. Either each number
has a colon before it or none has, as the first of them shows. One more character of ASCII may stand
behind the last number: tells also whether one does. -/
def readNumbers? (colons : Option Bool) : Nat → List Char → Option (List Nat × Nat × Bool)
  | more, cs => do
    let (n, cs) ← takeNumber? 2 cs
    let colons := colons.getD (cs.head? == some ':')
    let rest (cs : List Char) : Option (List Nat × Nat × Bool) :=
      match more with
      | 0 => (readParts? cs).map ([], ·)
      | more + 1 => readNumbers? (some colons) more cs
    let (ns, micro, left) ← match cs with
      | [] => some ([], 0, false)
      | c :: behind =>
        if behind = [] ∧ c.toNat < 0x80 then some ([], 0, goesOn cs)
        else if colons && c == ':' then rest behind
        else if c = '.' ∨ c = ',' then (readParts? behind).map ([], ·)
        else if colons then none
        else rest cs
    return (n :: ns, micro, left)

def readClock? (cs : List Char) : Option (Nat × Nat × Nat × Nat × Bool) :=
  (readNumbers? none 2 cs).map fun (ns, micro, left) ↦
    (ns.headD 0, (ns.drop 1).headD 0, (ns.drop 2).headD 0, micro, left)

/-- A distance to universal time, none if the text has none. A distance of less than a second is
none at all. -/
def readDistance? : List Char → Option (Option Int)
  | [] => some none
  | 'Z' :: cs => if goesOn cs then none else some (some 0)
  | c :: cs => do
    let (hour, minute, second, micro, left) ← readClock? cs
    let seconds := (hour * 60 + minute) * 60 + second
    let n : Nat := if seconds = 0 then 0 else seconds * perSecond + micro
    if left then none else some (some (if c = '-' then -(n : Int) else n))

def withTime? (t : Instant) (cs : List Char) : Option Instant := do
  let isTime (c : Char) : Bool := c != '+' && c != '-' && c != 'Z'
  let (hour, minute, second, micro, left) ← readClock? (cs.takeWhile isTime)
  let offset ← readDistance? (cs.dropWhile isTime)
  if left && offset.isNone then none else some { t with hour, minute, second, micro, offset }

def checked (t : Instant) : Except Unreadable Instant :=
  let offset := t.offset.getD 0
  if perDay ≤ offset.natAbs then .error (.distance offset)
  else if t.year < 1 ∨ 9999 < t.year then .error (.year t.year)
  else if t.month < 1 ∨ 12 < t.month then .error .month
  else if t.day < 1 ∨ daysIn t.year t.month < t.day then .error .day
  else if 23 < t.hour then .error .hour
  else if 59 < t.minute then .error .minute
  else if 59 < t.second then .error .second
  else .ok t

def read? (cs : List Char) : Option Instant := do
  if cs.length < 7 then none
  else
    let width := dayWidth cs
    let t ← readDay? (cs.take width)
    match cs.drop width with
    | [] => some t
    | _ :: time => t.withTime? time

def ofReading (text : String) : Option Instant → Except Unreadable Instant
  | some t => checked t
  | none => .error (.form text)

def read (s : String) : Except Unreadable Instant := ofReading s (read? s.toList)

def readTime (s : String) : Except Unreadable Instant :=
  let cs := match s.toList with
    | 'T' :: cs => cs
    | cs => cs
  ofReading s ({ year := 1, month := 1, day := 1 : Instant }.withTime? cs)

end Automation.Instant
