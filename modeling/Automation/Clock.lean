import Automation.Instant

namespace Automation

structure Clock where
  next : Instant
  later : List Instant := []
  deriving DecidableEq, Repr

namespace Clock

def read (c : Clock) : Instant × Clock :=
  (c.next, match c.later with
    | [] => c
    | t :: ts => ⟨t, ts⟩)

def ofList (default : Instant) : List Instant → Clock
  | [] => ⟨default, []⟩
  | t :: ts => ⟨t, ts⟩

end Clock

end Automation
