import Automation.Fault
import Automation.Number.Word
import Automation.Queue.Directory
import Automation.Value.Identity

namespace Automation

namespace Telling

def row : List Value → String
  | [] => ""
  | [v] => v.shown
  | vs => "(" ++ Value.joinWith ", " (vs.map Value.inner) ++ ")"

def given? (vs : List Value) (i : Nat) : Option Value := (vs[i]?).filter (· ≠ .null)

def word? : Value → Option Int
  | .int n => if isWord n then some n else none
  | .bool b => some b.toInt
  | _ => none

def isNumeric (v : Value) : Bool :=
  [Kind.int, .bool, .float, .decimal, .identifier].contains v.kind

def numberedWords (counts : Bool) (vs : List Value) : Option String :=
  match vs with
  | number :: reason :: _ =>
    let head := "[Errno " ++ number.shown ++ "] " ++ reason.shown
    if 5 < vs.length then some (row vs)
    else match given? vs 2 with
      | none => some head
      | some file =>
        if counts && isNumeric file then (word? file).map fun _ ↦ head
        else
          let second := ((given? vs 4).map (" -> " ++ ·.inner)).getD ""
          some (head ++ ": " ++ file.inner ++ second)
  | _ => some (row vs)

def baseName (s : String) : String := .ofList (s.toList.reverse.takeWhile (· ≠ '/')).reverse

def placedWords (text : String) : List Value → Option String
  | file :: line :: more =>
    let lineText := intText ((word? line).getD (-1))
    if more.length = 2 ∨ more.length = 4 then
      some (match file, line with
        | .text f, .int _ => text ++ " (" ++ baseName f ++ ", line " ++ lineText ++ ")"
        | .text f, _ => text ++ " (" ++ baseName f ++ ")"
        | _, .int _ => text ++ " (line " ++ lineText ++ ")"
        | _, _ => text)
    else none
  | _ => none

def locatedWords : List Value → Option String
  | [] => some Value.null.shown
  | [text, place] => match place.elements with
    | .ok vs => placedWords text.shown vs
    | .error _ => none
  | text :: _ => some text.shown

def numberOf (c : Char) : String :=
  let n := c.toNat
  .ofList (if n < 0x100 then '\\' :: 'x' :: Text.hexDigits 2 n
    else if n < 0x10000 then '\\' :: 'u' :: Text.hexDigits 4 n
    else '\\' :: 'U' :: Text.hexDigits 8 n)

def placesWords (one : Nat → Option String) (others : String) (start stop : Int) (reason : String) :
    String :=
  match if stop = start + 1 ∧ 0 ≤ start then one start.toNat else none with
  | some thing => thing ++ " in position " ++ intText start ++ ": " ++ reason
  | none =>
    others ++ " in position " ++ intText start ++ "-" ++ intText (stop - 1) ++ ": " ++ reason

def charactersWords (front text : String) (start stop : Int) (reason : String) : String :=
  placesWords (fun i ↦ text.toList[i]?.map fun c ↦ front ++ " character '" ++ numberOf c ++ "'")
    (front ++ " characters") start stop reason

def bytesWords (front : String) (bs : List UInt8) (start stop : Int) (reason : String) : String :=
  placesWords (fun i ↦ bs[i]?.map fun b ↦
      front ++ " byte 0x" ++ .ofList (Text.hexDigits 2 b.toNat))
    (front ++ " bytes") start stop reason

/-- What is said of a position in a document, by line and column. A negative position counts from
the end. -/
def positionedWords (reason document : String) (position : Int) : String :=
  let cs := document.toList
  let stop := if position < 0 then position + cs.length else position
  let before := cs.take stop.toNat
  let line := before.count '\n' + 1
  let start : Int :=
    if line = 1 then -1 else before.length - 1 - (before.reverse.takeWhile (· ≠ '\n')).length
  reason ++ ": line " ++ intText line ++ " column " ++ intText (position - start) ++ " (char " ++
    intText position ++ ")"

def retryingWords (vs : List Value) : String :=
  let get (i : Nat) : Value := vs[i]?.getD .null
  if (get 0).truthy then (get 0).shown
  else
    let time := if isNumeric (get 2) then "in " ++ (get 2).shown ++ "s" else "at " ++ (get 2).shown
    let reason := match get 1 with
      | .text s => s
      | v => v.inner
    "Retry " ++ time ++ if reason = "" then "" else ": " ++ reason

def words? (t : Telling) (vs : List Value) : Option String :=
  match t with
  | plain => some (row vs)
  | quoting => some (match vs with
    | [v] => v.inner
    | vs => row vs)
  | numbered counts => numberedWords counts vs
  | located => locatedWords vs
  | positioned => match vs with
    | [reason, .text document, .int n] => some (positionedWords reason.shown document n)
    | [reason, .text document, .bool b] => some (positionedWords reason.shown document b.toInt)
    | _ => none
  | coding => match vs with
    | [.text code, .text s, start, stop, .text reason] => do
      let front := "'" ++ code ++ "' codec can't encode"
      return charactersWords front s (← word? start) (← word? stop) reason
    | _ => none
  | decoding => match vs with
    | [.text code, .special (.bytes bs), start, stop, .text reason] => do
      let front := "'" ++ code ++ "' codec can't decode"
      return bytesWords front bs (← word? start) (← word? stop) reason
    | _ => none
  | mapping => match vs with
    | [.text s, start, stop, .text reason] => do
      return charactersWords "can't translate" s (← word? start) (← word? stop) reason
    | _ => none
  | listed name => some (name ++ match vs with
    | [v] => "(" ++ v.inner ++ ",)"
    | vs => "(" ++ Value.joinWith ", " (vs.map Value.inner) ++ ")")
  | rejecting => match vs with
    | [] => some (row [.null, .bool false])
    | [reason] => some (row [reason, .bool false])
    | [reason, again] => some (row [reason, again])
    | _ => none
  | retrying => if vs.length ≤ 5 then some (retryingWords vs) else none
  | failure kind => match Failure.raise kind vs [] with
    | .ok f => some f.message
    | .error _ => none
  | nothing => none

end Telling

namespace Account

open Directory

def plain (message : String) : Value :=
  .object [("exc_type", .text "Exception"), ("exc_message", .list [.text message])]

/-- The account of a fault. A report of problems cannot be told again. -/
def ofFault : Fault → Value
  | .schema _ => .object [("exc_type", .text "ValidationError"), ("exc_message", .list []),
      ("exc_module", .text "pydantic_core._pydantic_core")]
  | f => plain f.message

def told : Value → List Value
  | .list vs => vs
  | v => [v]

def freshName : Value → Except Fault Unit
  | .text s =>
    if s.contains '\x00' then .error (.foreign .value "type name must not contain null characters")
    else .ok ()
  | v => .error (.argument ("type.__new__() argument 1 must be str, not " ++
      if v = .null then v.shown else v.kind.name))

def classOf (fs : Fields) (type : Value) : Except Fault (Option (String × Meaning)) :=
  match fs.get "exc_module" with
  | .list _ => .error (.unhashable .list)
  | .object _ => .error (.unhashable .object)
  | home =>
    let known := match home, type with
      | .text home, .text name => (find? home name).map fun m ↦ (home ++ "." ++ name, m)
      | _, _ => none
    match known with
    | some m => .ok (some m)
    | none => (freshName type).map fun _ ↦ none

def pair (index : Nat) (v : Value) : Except Fault (Option (String × Value)) :=
  match v.elements with
  | .error f => .error f
  | .ok [.text name, w] => .ok (some (name, w))
  | .ok [k, _] => if k.key?.isNone then .error (.unhashable k.kind) else .ok none
  | .ok vs => .error (.foreign .value ("dictionary update sequence element #" ++ intText index ++
      " has length " ++ intText vs.length ++ "; 2 is required"))

def pairs (written : Fields) (index : Nat) : List Value → Except Fault Fields
  | [] => .ok written
  | v :: vs => match pair index v with
    | .error f => .error f
    | .ok p => pairs ((p.map fun p ↦ written.set p.1 p.2).getD written) (index + 1) vs

def fieldsOf (v : Value) : Except Fault Fields :=
  match v with
  | .object fs => .ok fs
  | v => match v.elements.bind (pairs [] 0) with
    | .ok fs => .ok fs
    | .error (.foreign origin text) => .error (.foreign origin text)
    | .error _ =>
      .error (.argument ("If the stored exception isn't an instance of BaseException, " ++
        "it must be a dictionary.\nInstead got: " ++ v.shown))

def words (v : Value) : Except Fault String := do
  if !v.truthy then return Value.null.shown
  let fs ← fieldsOf v
  match fs.lookup "exc_type" with
  | none => .error (.foreign .value "Exception information must include the exception type")
  | some type =>
    let message := (fs.lookup "exc_message").getD (.text "")
    match ← classOf fs type with
    | none => return Telling.row (told message)
    | some (name, .other) =>
      .error (.foreign .runtime ("Expected an exception class, got " ++ name ++ " with payload " ++
        message.shown))
    | some (_, .faults name t) =>
      return (t.words? (told message)).getD ("<class '" ++ name ++ "'>(" ++ message.shown ++ ")")

end Account

end Automation
