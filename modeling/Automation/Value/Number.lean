import Automation.Value.Basic
import Automation.Number.Numeral

namespace Automation

inductive NumberReading where
  | number (x : Binary64)
  | tooLarge
  | unreadable
  deriving DecidableEq, Repr

namespace Value

/-- Numbers are read as the nearest floating-point number, texts as numerals, `true` as one and
`false` as zero. -/
def asNumber : Value → NumberReading
  | .bool b => .number (if b then .one else .zero)
  | .int n => match Binary64.ofInt? n with
    | some x => .number x
    | none => .tooLarge
  | .float x => .number x
  | .text s => match Binary64.ofText? s with
    | some x => .number x
    | none => .unreadable
  | .special s => match s.number? with
    | some x => .number x
    | none => .unreadable
  | .null | .list _ | .object _ => .unreadable

end Value

end Automation
