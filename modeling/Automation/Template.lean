import Automation.Context.Basic
import Automation.Instant

namespace Automation.Template

/-- Puts one text in place of each occurrence of another, from the left, without overlaps. -/
def replace (old new : List Char) : List Char → List Char
  | [] => []
  | c :: cs =>
    if old.isPrefixOf (c :: cs) then new ++ replace old new (cs.drop (old.length - 1))
    else c :: replace old new cs
termination_by s => s.length
decreasing_by all_goals simp; try omega

def placeholder (name : String) : List Char :=
  '\x7b' :: '\x7b' :: name.toList ++ ['\x7d', '\x7d']

def mailNames : List String := ["first_name", "company", "lead_email", "current_date"]

def messageNames : List String := ["first_name", "company"]

def value? (context : Context) (now : Instant) : String → Option String
  | "first_name" => some (context.contact.firstName.orElse (.text "there")).shown
  | "company" => some (context.contact.company.orElse (.text "")).shown
  | "lead_email" => some (context.contact.email.orElse (.text "")).shown
  | "current_date" => some now.shortDate
  | _ => none

def source : Value → List Char
  | .null => []
  | v => v.shown.toList

/-- Each name is filled in by a pass of its own over the whole text. -/
def passes (value? : String → Option String) : List String → List Char → Except Fault (List Char)
  | [], s => .ok s
  | name :: names, s => match value? name with
    | some v => passes value? names (replace (placeholder name) v.toList s)
    | none => .error (.missingKey name)

def fill (names : List String) (template : Value) (context : Context) (now : Instant) :
    Except Fault String :=
  (passes (value? context now) names (source template)).map String.ofList

def fillNamed (names template : Value) (context : Context) (now : Instant) :
    Except Fault String := do
  let names ← names.elements
  let known := names.filterMap textOf?
  let filled ← fill (known.take (names.takeWhile (·.kind = .text)).length) template context now
  match names.find? (·.kind ≠ .text) with
  | none => return filled
  | some v => .error (.argument
      ("can only concatenate str (not \"" ++ v.kind.name ++ "\") to str"))
where
  textOf? : Value → Option String
    | .text s => some s
    | _ => none

end Automation.Template
