import Automation.Context.Reading

namespace Automation

/-- A context, and the one of the history in which the worth of its deal was written. -/
structure Made where
  context : Context
  deal : Nat
  deriving DecidableEq, Repr

structure History where
  made : List Made
  /-- The place among the contexts made of each version, the first version first. -/
  versions : List Nat
  deriving DecidableEq, Repr

namespace History

def start (c : Context) : History := ⟨[⟨c, 0⟩], [0]⟩

def place (h : History) (version : Int) : Nat :=
  let n := if version < 0 then version + h.versions.length else version
  h.versions.getD n.toNat h.made.length

def madeAt (h : History) (version : Int) : Made := h.made.getD (h.place version) ⟨{}, 0⟩

def context (h : History) (version : Int) : Context := (h.madeAt version).context

def contexts (h : History) : List Context :=
  h.versions.filterMap fun n ↦ h.made[n]?.map Made.context

def add (h : History) (version : Int) (c : Context) (dealt : Bool) : History :=
  let n := h.made.length
  { made := h.made ++ [⟨c, if dealt then n else (h.madeAt version).deal⟩]
    versions := h.versions ++ [n] }

def again (h : History) (version : Int) : History :=
  { h with versions := h.versions ++ [h.place version] }

def putAside (h : History) (version : Int) (name : String) (v : Value) : History :=
  { h with made := h.made.modify (h.place version) fun m ↦
      { m with context := { m.context with contact := m.context.contact.putAside name v } } }

def same (h : History) (a b : Int) : Bool :=
  let x := h.madeAt a
  let y := h.madeAt b
  x.context.same y.context &&
    (x.context.opportunity.value != .float .nan || x.deal == y.deal)

end History

end Automation
