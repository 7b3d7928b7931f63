import Automation.Value.Text

namespace Automation.Schema

inductive Place where
  | field (name : String)
  | item (index : Nat)
  deriving DecidableEq, Repr

inductive Flaw where
  | missing
  | notText
  | emptyText
  | notObject
  | notList
  | notRecord (model : String)
  | notNumber
  | unreadableNumber
  | notInteger
  | fractional
  | notFinite
  | unreadableInteger
  | longInteger
  | notFlag
  | unreadableFlag
  | below (least : Int)
  | notAmong (choices : List String)
  | tooFew (least given : Nat)
  | frozen
  | noFields
  | notJson
  deriving DecidableEq, Repr

structure Problem where
  path : List Place
  flaw : Flaw
  deriving DecidableEq, Repr

structure Report where
  model : String
  problems : List Problem
  deriving DecidableEq, Repr

def alternatives : List String → String
  | [] => ""
  | [a] => Text.quoted a
  | [a, b] => Text.quoted a ++ " or " ++ Text.quoted b
  | a :: rest => Text.quoted a ++ ", " ++ alternatives rest

namespace Flaw

def code : Flaw → String
  | .missing => "missing"
  | .notText => "string_type"
  | .emptyText => "string_too_short"
  | .notObject => "dict_type"
  | .notList => "list_type"
  | .notRecord _ => "model_type"
  | .notNumber => "float_type"
  | .unreadableNumber => "float_parsing"
  | .notInteger => "int_type"
  | .fractional => "int_from_float"
  | .notFinite => "finite_number"
  | .unreadableInteger => "int_parsing"
  | .longInteger => "int_parsing_size"
  | .notFlag => "bool_type"
  | .unreadableFlag => "bool_parsing"
  | .below _ => "greater_than_equal"
  | .notAmong _ => "literal_error"
  | .tooFew .. => "too_short"
  | .frozen => "frozen_instance"
  | .noFields => "model_attributes_type"
  | .notJson => "json_invalid"

def message : Flaw → String
  | .missing => "Field required"
  | .notText => "Input should be a valid string"
  | .emptyText => "String should have at least 1 character"
  | .notObject => "Input should be a valid dictionary"
  | .notList => "Input should be a valid list"
  | .notRecord model => "Input should be a valid dictionary or instance of " ++ model
  | .notNumber => "Input should be a valid number"
  | .unreadableNumber => "Input should be a valid number, unable to parse string as a number"
  | .notInteger => "Input should be a valid integer"
  | .fractional => "Input should be a valid integer, got a number with a fractional part"
  | .notFinite => "Input should be a finite number"
  | .unreadableInteger => "Input should be a valid integer, unable to parse string as an integer"
  | .longInteger => "Unable to parse input string as an integer, exceeded maximum size"
  | .notFlag => "Input should be a valid boolean"
  | .unreadableFlag => "Input should be a valid boolean, unable to interpret input"
  | .below least => "Input should be greater than or equal to " ++ intText least
  | .notAmong choices => "Input should be " ++ alternatives choices
  | .tooFew least given =>
    "List should have at least " ++ intText least ++ " item" ++ (if least = 1 then "" else "s") ++
      " after validation, not " ++ intText given
  | .frozen => "Instance is frozen"
  | .noFields => "Input should be a valid dictionary or object to extract fields from"
  | .notJson => "JSON decode error"

end Flaw

def Place.text : Place → String
  | .field name => name
  | .item index => intText index

def Problem.text (p : Problem) : String :=
  Value.joinWith "." (p.path.map Place.text) ++ "\n  " ++ p.flaw.message ++
    " [type=" ++ p.flaw.code ++ "]"

namespace Report

def message (r : Report) : String :=
  let n := r.problems.length
  let head := intText n ++ " validation error" ++ (if n = 1 then "" else "s") ++ " for " ++ r.model
  Value.joinWith "\n" (head :: r.problems.map Problem.text)

end Report

end Automation.Schema
