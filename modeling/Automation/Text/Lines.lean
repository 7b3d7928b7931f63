namespace Automation.Text

def isBreak (c : Char) : Bool :=
  let n := c.toNat
  (0x0A ≤ n && n ≤ 0x0D) || (0x1C ≤ n && n ≤ 0x1E) || n == 0x85 || n == 0x2028 || n == 0x2029

def linesFrom (read : List Char) : List Char → List (List Char)
  | [] => if read = [] then [] else [read.reverse]
  | '\r' :: '\n' :: cs => read.reverse :: linesFrom [] cs
  | c :: cs => if isBreak c then read.reverse :: linesFrom [] cs else linesFrom (c :: read) cs

def lines (s : String) : List String := (linesFrom [] s.toList).map String.ofList

end Automation.Text
