import Automation.Number.Layout
import Automation.Text.Quoted
import Automation.Value.Text

namespace Automation.Json

open Value

def writeNumber : Binary64 → String
  | .nan => "NaN"
  | .infinite s => if s then "-Infinity" else "Infinity"
  | x => x.text

mutual

def write : Value → String
  | .null => "null"
  | .bool b => if b then "true" else "false"
  | .int n => intText n
  | .float x => writeNumber x
  | .text s => Text.escaped s
  | .list xs => "[" ++ joinWith ", " (writeItems xs) ++ "]"
  | .object fs => "\x7b" ++ joinWith ", " (writeFields fs) ++ "\x7d"
  | .special s => Text.escaped (s.json?.getD s.text)

def writeItems : List Value → List String
  | [] => []
  | x :: xs => write x :: writeItems xs

def writeFields : List (String × Value) → List String
  | [] => []
  | (k, v) :: fs => (Text.escaped k ++ ": " ++ write v) :: writeFields fs

end

end Automation.Json
