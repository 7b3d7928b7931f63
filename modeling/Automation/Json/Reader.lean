import Automation.Number.Numeral
import Automation.Text.Quoted
import Automation.Value.Basic

namespace Automation.Json

structure Cursor where
  position : Nat
  rest : List Char

abbrev Reading (α : Type) := Except Nat (α × Cursor)

namespace Cursor

def advance (c : Cursor) (n : Nat) : Cursor := ⟨c.position + n, c.rest.drop n⟩

def isSpace (ch : Char) : Bool := ch == ' ' || ch == '\t' || ch == '\n' || ch == '\r'

def skipSpace (c : Cursor) : Cursor := c.advance (c.rest.takeWhile isSpace).length

end Cursor

def hexQuad? (cs : List Char) : Option Nat :=
  (cs.take 4).foldl (fun n c ↦ n.bind fun n ↦ (Text.hexDigit? c).map (16 * n + ·)) (some 0)

def shortEscape? (c : Char) : Option Char :=
  if c = Text.doubleQuote ∨ c = '\\' ∨ c = '/' then some c
  else if c = 'b' then some '\x08'
  else if c = 'f' then some '\x0c'
  else if c = 'n' then some '\n'
  else if c = 'r' then some '\r'
  else if c = 't' then some '\t'
  else none

/-- The character of a code point escape and the number of characters it takes behind the `u` that
`at` counts to. A high surrogate is joined with a low one that follows it. -/
def codePoint? (position : Nat) (cs : List Char) : Except Nat (Char × Nat) :=
  if cs.length ≤ 4 then .error position
  else match hexQuad? cs with
    | none => .error position
    | some high =>
      let more := cs.drop 4
      if 0xD800 ≤ high ∧ high ≤ 0xDBFF ∧ 6 < more.length ∧ more.take 2 = ['\\', 'u'] then
        match hexQuad? (more.drop 2) with
        | none => .error (position + 6)
        | some low =>
          if 0xDC00 ≤ low ∧ low ≤ 0xDFFF then
            .ok (Char.ofNat (0x10000 + (high - 0xD800) * 0x400 + (low - 0xDC00)), 10)
          else .ok (Char.ofNat 0xFFFD, 4)
      else if 0xD800 ≤ high ∧ high ≤ 0xDFFF then .ok (Char.ofNat 0xFFFD, 4)
      else .ok (Char.ofNat high, 4)

def readString (start : Nat) (read : List Char) (c : Cursor) : Nat → Reading String
  | 0 => .error start
  | fuel + 1 =>
    match c.rest with
    | [] => .error start
    | ch :: more =>
      if ch = Text.doubleQuote then .ok (.ofList read.reverse, c.advance 1)
      else if ch.toNat ≤ 0x1F then .error c.position
      else if ch = '\\' then
        match more with
        | [] => .error start
        | e :: behind =>
          if e = 'u' then
            match codePoint? (c.position + 1) behind with
            | .error p => .error p
            | .ok (x, n) => readString start (x :: read) (c.advance (n + 2)) fuel
          else match shortEscape? e with
            | none => .error c.position
            | some x => readString start (x :: read) (c.advance 2) fuel
      else readString start (ch :: read) (c.advance 1) fuel

def fractionLength : List Char → Nat
  | '.' :: d :: ds => if d.isDigit then 2 + (ds.takeWhile Char.isDigit).length else 0
  | _ => 0

def exponentLength : List Char → Nat
  | c :: cs =>
    if c = 'e' ∨ c = 'E' then
      let sign := if cs.head? = some '-' ∨ cs.head? = some '+' then 1 else 0
      let ds := (cs.drop sign).takeWhile Char.isDigit
      if ds = [] then 0 else 1 + sign + ds.length
    else 0
  | [] => 0

def readNumber (c : Cursor) : Reading Value :=
  let sign := if c.rest.head? = some '-' then 1 else 0
  let body := c.rest.drop sign
  let whole := if body.head? = some '0' then 1 else (body.takeWhile Char.isDigit).length
  if whole = 0 then .error c.position
  else
    let tail := body.drop whole
    let fraction := fractionLength tail
    let exponent := exponentLength (tail.drop fraction)
    let length := sign + whole + fraction + exponent
    let text := c.rest.take length
    let value : Value :=
      if fraction + exponent = 0 then
        let n := digitsValue (body.take whole)
        .int (if sign = 1 then -(n : Int) else n)
      else .float ((Binary64.ofNumeral? text).getD .zero)
    .ok (value, c.advance length)

def words : List (List Char × Value) := [
  ("null".toList, .null), ("true".toList, .bool true), ("false".toList, .bool false),
  ("NaN".toList, .float .nan), ("Infinity".toList, .float (.infinite false)),
  ("-Infinity".toList, .float (.infinite true))]

mutual

def readValue (c : Cursor) : Nat → Reading Value
  | 0 => .error c.position
  | fuel + 1 =>
    match c.rest with
    | [] => .error c.position
    | ch :: _ =>
      if ch = Text.doubleQuote then
        match readString c.position [] (c.advance 1) fuel with
        | .error p => .error p
        | .ok (s, d) => .ok (.text s, d)
      else if ch = '\x7b' then
        let d := (c.advance 1).skipSpace
        if d.rest.head? = some '\x7d' then .ok (.object [], d.advance 1) else readFields [] d fuel
      else if ch = '[' then
        let d := (c.advance 1).skipSpace
        if d.rest.head? = some ']' then .ok (.list [], d.advance 1) else readItems [] d fuel
      else match words.find? fun w ↦ w.1.isPrefixOf c.rest with
        | some (w, v) => .ok (v, c.advance w.length)
        | none => readNumber c

def readItems (read : List Value) (c : Cursor) : Nat → Reading Value
  | 0 => .error c.position
  | fuel + 1 =>
    match readValue c fuel with
    | .error p => .error p
    | .ok (v, d) =>
      let d := d.skipSpace
      if d.rest.head? = some ']' then .ok (.list (v :: read).reverse, d.advance 1)
      else if d.rest.head? = some ',' then readItems (v :: read) (d.advance 1).skipSpace fuel
      else .error d.position

/-- The fields of an object from the cursor on, behind those of `read`. Of two fields of one name
the later value stands in the earlier place. -/
def readFields (read : Fields) (c : Cursor) : Nat → Reading Value
  | 0 => .error c.position
  | fuel + 1 =>
    if c.rest.head? = some Text.doubleQuote then
      match readString c.position [] (c.advance 1) fuel with
      | .error p => .error p
      | .ok (name, d) =>
        let d := d.skipSpace
        if d.rest.head? = some ':' then
          match readValue (d.advance 1).skipSpace fuel with
          | .error p => .error p
          | .ok (v, d) =>
            let d := d.skipSpace
            let fields := read.set name v
            if d.rest.head? = some '\x7d' then .ok (.object fields, d.advance 1)
            else if d.rest.head? = some ',' then readFields fields (d.advance 1).skipSpace fuel
            else .error d.position
        else .error d.position
    else .error c.position

end

/-- The value that a text denotes, or the position where it is no JSON. Each step of the reading
takes a character, or leads to one that does, so twice the length is fuel enough. -/
def readChars (cs : List Char) : Except Nat Value :=
  match readValue (Cursor.skipSpace ⟨0, cs⟩) (2 * cs.length + 2) with
  | .error p => .error p
  | .ok (v, d) =>
    let d := d.skipSpace
    if d.rest = [] then .ok v else .error d.position

def read (s : String) : Except Nat Value := readChars s.toList

end Automation.Json
