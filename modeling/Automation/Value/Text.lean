import Automation.Value.Basic
import Automation.Number.Layout
import Automation.Text.Quoted

namespace Automation.Value

def joinWith (separator : String) : List String → String
  | [] => ""
  | [s] => s
  | s :: rest => s ++ separator ++ joinWith separator rest

mutual

def inner : Value → String
  | .null => "None"
  | .bool b => if b then "True" else "False"
  | .int n => intText n
  | .float x => x.text
  | .text s => Text.quoted s
  | .list xs => "[" ++ joinWith ", " (innerItems xs) ++ "]"
  | .object fs => "\x7b" ++ joinWith ", " (innerFields fs) ++ "\x7d"
  | .special s => s.inner

def innerItems : List Value → List String
  | [] => []
  | x :: xs => inner x :: innerItems xs

def innerFields : List (String × Value) → List String
  | [] => []
  | (k, v) :: fs => (Text.quoted k ++ ": " ++ inner v) :: innerFields fs

end

def shown : Value → String
  | .text s => s
  | .special s => s.text
  | v => inner v

@[simp] theorem shown_text (s : String) : shown (.text s) = s := rfl

end Automation.Value
