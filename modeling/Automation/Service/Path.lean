import Automation.Text.Quoted

namespace Automation.Service

structure Owed where
  count : Nat
  low : Nat
  high : Nat
  value : Nat

def replacement : Char := '\uFFFD'

def beginning (b : Nat) : List Char × Option Owed :=
  if b < 0x80 then ([.ofNat b], none)
  else if 0xC2 ≤ b ∧ b ≤ 0xDF then ([], some ⟨1, 0x80, 0xBF, b - 0xC0⟩)
  else if 0xE0 ≤ b ∧ b ≤ 0xEF then
    ([], some ⟨2, if b = 0xE0 then 0xA0 else 0x80, if b = 0xED then 0x9F else 0xBF, b - 0xE0⟩)
  else if 0xF0 ≤ b ∧ b ≤ 0xF4 then
    ([], some ⟨3, if b = 0xF0 then 0x90 else 0x80, if b = 0xF4 then 0x8F else 0xBF, b - 0xF0⟩)
  else ([replacement], none)

/-- The text of bytes in UTF-8. Bytes that break off a character are replaced. -/
def textOfBytes : Option Owed → List Nat → List Char
  | none, [] => []
  | some _, [] => [replacement]
  | none, b :: bs => (beginning b).1 ++ textOfBytes (beginning b).2 bs
  | some o, b :: bs =>
    if o.low ≤ b ∧ b ≤ o.high then
      let value := o.value * 64 + (b - 0x80)
      if o.count = 1 then .ofNat value :: textOfBytes none bs
      else textOfBytes (some ⟨o.count - 1, 0x80, 0xBF, value⟩) bs
    else replacement :: (beginning b).1 ++ textOfBytes (beginning b).2 bs

def pathBytes : List Char → List Nat
  | '%' :: a :: b :: rest => match Text.hexDigit? a, Text.hexDigit? b with
    | some x, some y => (16 * x + y) :: pathBytes rest
    | _, _ => 0x25 :: pathBytes (a :: b :: rest)
  | c :: rest => (String.utf8EncodeChar c).map UInt8.toNat ++ pathBytes rest
  | [] => []

def unescaped (cs : List Char) : List Char := textOfBytes none (pathBytes cs)

inductive Route where
  | root | health | catalog | review | preview | dispatch
  | task (id : String)
  deriving DecidableEq, Repr

namespace Route

def taskId? (path : List Char) : Option String :=
  let base := "/tasks/".toList
  let id := path.drop base.length
  if base.isPrefixOf path && !id.isEmpty && !id.contains '/' then some (.ofList id) else none

def fixed? : String → Option Route
  | "/" => some root
  | "/health" => some health
  | "/catalog" => some catalog
  | "/automations/validate" => some review
  | "/automations/test-run" => some preview
  | "/automations/dispatch" => some dispatch
  | _ => none

def withoutBreak (path : String) : String :=
  match path.toList.reverse with
  | '\n' :: cs => .ofList cs.reverse
  | _ => path

/-- The route that a path names. A break of the line at its end is part of a task's id, and of no
concern to other routes. -/
def ofPath? (path : String) : Option Route :=
  fixed? (withoutBreak path) <|> (taskId? path.toList).map task

def method : Route → String
  | root | health | catalog | task _ => "GET"
  | review | preview | dispatch => "POST"

def moved? (path : String) : Option String :=
  let shorter := String.ofList (path.toList.reverse.dropWhile (· == '/')).reverse
  if (ofPath? path).isNone && (ofPath? shorter).isSome then some shorter else none

end Route

end Automation.Service
