namespace Automation

/-- The number of words below zero, and of those from zero on. -/
def wordBound : Nat := Nat.pow 2 63

def isWord (n : Int) : Bool := -(wordBound : Int) ≤ n && n < wordBound

end Automation
