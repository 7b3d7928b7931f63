import Automation.Instant.Reading
import Automation.Number.Exact
import Automation.Text.Quoted

namespace Automation

inductive Special where
  | decimal (d : ExactDecimal)
  | bytes (bs : List UInt8)
  | identifier (n : Nat)
  | instant (t : Instant)
  | day (t : Instant)
  | hour (t : Instant)
  deriving DecidableEq, Repr

namespace Instant

def preciseTime (t : Instant) : String :=
  t.timeText ++ if t.micro = 0 then "" else "." ++ field 6 t.micro

def shortOffset (t : Instant) : String :=
  match t.offset with
  | none => ""
  | some o =>
    let seconds := (o.natAbs + perSecond / 2) / perSecond
    if seconds = 0 then "Z"
    else
      (if o < 0 then "-" else "+") ++ field 2 (seconds / 3600) ++ ":" ++
        field 2 (seconds / 60 % 60)

def numbers (least : Nat) (ns : List Nat) : String :=
  let needed := (ns.drop least).reverse.dropWhile (· == 0)
  ", ".intercalate ((ns.take least ++ needed.reverse).map fun n : Nat ↦ intText n)

def zoneText (t : Instant) : String :=
  match t.offset with
  | none => ""
  | some 0 => ", tzinfo=datetime.timezone.utc"
  | some o => ", tzinfo=datetime.timezone(" ++ spanText o ++ ")"

end Instant

namespace Special

def truthy : Special → Bool
  | .decimal d => !d.isZero
  | .bytes bs => !bs.isEmpty
  | _ => true

def byteText (quote : Char) (b : UInt8) : List Char :=
  let c := Char.ofNat b.toNat
  if c = quote ∨ c = '\\' then ['\\', c]
  else if c = '\n' then ['\\', 'n']
  else if c = '\r' then ['\\', 'r']
  else if c = '\t' then ['\\', 't']
  else if 0x20 ≤ b.toNat ∧ b.toNat < 0x7F then [c]
  else '\\' :: 'x' :: Text.hexDigits 2 b.toNat

def bytesText (bs : List UInt8) : String :=
  let q := Text.quoteFor (bs.map fun b ↦ .ofNat b.toNat)
  .ofList ('b' :: q :: (bs.flatMap (byteText q) ++ [q]))

def identifierText (n : Nat) : String :=
  let ds := Text.hexDigits 32 n
  let group (start width : Nat) : String := .ofList ((ds.drop start).take width)
  "-".intercalate [group 0 8, group 8 4, group 12 4, group 16 4, group 20 12]

def text : Special → String
  | .decimal d => d.text
  | .bytes bs => bytesText bs
  | .identifier n => identifierText n
  | .instant t => t.dateText ++ " " ++ t.preciseTime ++ (t.offset.map Instant.offsetText).getD ""
  | .day t => t.dateText
  | .hour t => t.preciseTime ++ (t.offset.map Instant.offsetText).getD ""

def inner : Special → String
  | .decimal d => "Decimal('" ++ d.text ++ "')"
  | .bytes bs => bytesText bs
  | .identifier n => "UUID('" ++ identifierText n ++ "')"
  | .instant t => "datetime.datetime(" ++
      Instant.numbers 5 [t.year, t.month, t.day, t.hour, t.minute, t.second, t.micro] ++
      t.zoneText ++ ")"
  | .day t => "datetime.date(" ++ Instant.numbers 3 [t.year, t.month, t.day] ++ ")"
  | .hour t => "datetime.time(" ++ Instant.numbers 2 [t.hour, t.minute, t.second, t.micro] ++
      t.zoneText ++ ")"

/-- The text that stands for a special value where only texts can. There is none for bytes that
spell none. -/
def json? : Special → Option String
  | .decimal d => some d.text
  | .bytes bs => String.fromUTF8? ⟨bs.toArray⟩
  | .identifier n => some (identifierText n)
  | .instant t => some (t.dateText ++ "T" ++ t.preciseTime ++ t.shortOffset)
  | .day t => some t.dateText
  | .hour t => some (t.preciseTime ++ t.shortOffset)

def number? : Special → Option Binary64
  | .decimal d => d.toBinary?
  | .bytes bs =>
    if bs.all (· < 0x80) then Binary64.ofText? (.ofList (bs.map fun b ↦ .ofNat b.toNat)) else none
  | _ => none

/-- The value without what does not count when two are compared: instants and times of day are in
universal time. -/
def core : Special → Special
  | .instant t => .instant (if t.offset.isSome then t.toUniversal else t)
  | .hour t => .hour (if t.offset.isSome then t.toUniversal else t)
  | s => s

end Special

end Automation
