import Automation.Fault

namespace Automation

namespace Log

abbrev Level := Int

def debug : Level := 10

def info : Level := 20

def warning : Level := 30

def error : Level := 40

def critical : Level := 50

def levelName (l : Level) : String :=
  if l = 0 then "NOTSET"
  else if l = debug then "DEBUG"
  else if l = info then "INFO"
  else if l = warning then "WARNING"
  else if l = error then "ERROR"
  else if l = critical then "CRITICAL"
  else "Level " ++ intText l

structure Record where
  level : Level
  logger : String
  message : String
  fields : Fields := []
  withFault : Bool := false
  request : Option String := none
  deriving DecidableEq, Repr

def Record.tagged (id : String) (r : Record) : Record := { r with request := some id }

end Log

/-- An outcome, and the records left on the way to it, also if that is a fault. -/
structure Traced (α : Type) where
  records : List Log.Record
  outcome : Except Fault α

namespace Traced

variable {α β : Type}

def bind (x : Traced α) (f : α → Traced β) : Traced β :=
  match x.outcome with
  | .error e => ⟨x.records, .error e⟩
  | .ok a => ⟨x.records ++ (f a).records, (f a).outcome⟩

instance : Monad Traced where
  pure a := ⟨[], .ok a⟩
  bind := bind

def lift (x : Except Fault α) : Traced α := ⟨[], x⟩

def log (r : Log.Record) : Traced Unit := ⟨[r], .ok ()⟩

def tagged (id : String) (x : Traced α) : Traced α :=
  { x with records := x.records.map (Log.Record.tagged id) }

theorem bind_records (x : Traced α) (f : α → Traced β) :
    (x >>= f).records = x.records ++
      match x.outcome with
      | .error _ => []
      | .ok a => (f a).records := by
  show (bind x f).records = _
  unfold bind
  cases x.outcome <;> simp

theorem bind_outcome (x : Traced α) (f : α → Traced β) :
    (x >>= f).outcome = x.outcome.bind fun a ↦ (f a).outcome := by
  show (bind x f).outcome = _
  unfold bind
  cases x.outcome <;> rfl

end Traced

end Automation
