import Automation.Log.Draft
import Automation.Settings
import Automation.Text.Lines

namespace Automation.Log

structure Setup where
  levelName : String
  level : Level
  json : Bool
  file : String
  deriving DecidableEq, Repr

namespace Setup

/-- The level of a name, and information for a name without one. -/
def levelOf (name : String) : Except Fault Level :=
  match name with
  | "CRITICAL" | "FATAL" => .ok critical
  | "ERROR" => .ok error
  | "WARNING" | "WARN" => .ok warning
  | "INFO" => .ok info
  | "DEBUG" => .ok debug
  | "NOTSET" => .ok 0
  | "BASIC_FORMAT" => .error (.unknownLevel "%(levelname)s:%(name)s:%(message)s")
  | _ => .ok info

def fileOf (v : Value) : Except Fault String :=
  match v with
  | .text s => .ok s
  | v =>
    if v.truthy then
      .error (.argument ("expected str, bytes or os.PathLike object, not " ++ v.kind.name))
    else .ok ""

def make (env : Environment) (level : Value) (json : Bool) (file : Value) : Except Fault Setup := do
  let name ← match (env.lookup "LOG_LEVEL").map Value.text |>.getD level with
    | .text s => .ok (Text.upper s)
    | v => .error (.memberless v.kind "upper")
  let number ← levelOf name
  let file ← fileOf ((env.lookup "LOG_FILE").map Value.text |>.getD file)
  return {
    levelName := name
    level := number
    json := match env.lookup "JSON_LOGS" with
      | some s => Text.lower s = "true"
      | none => json
    file }

def choices : List String := ["level", "json_logs", "log_file"]

def ofChoices (env : Environment) (asked : Fields) : Except Fault Setup :=
  match asked.find? fun p ↦ !choices.contains p.1 with
  | some (name, _) => .error (.argument
      ("setup_logging() got an unexpected keyword argument " ++ Text.quoted name))
  | none =>
    make env ((asked.lookup "level").getD (.text "INFO")) (asked.get "json_logs").truthy
      (asked.get "log_file")

def opening (s : Setup) : Record where
  level := info
  logger := "autoflow.core.logging_config"
  message := "Logging configured"
  fields := [("level", .text s.levelName), ("json_logs", .bool s.json),
    ("log_file", .text (if s.file = "" then "none" else s.file))]

def admits (s : Setup) (level : Level) : Bool := 0 < level && s.level ≤ level

def taken : List String := "asctime" :: Entry.reserved.filter (· ≠ "taskName")

def levelOfValue : Value → Except Fault Level
  | .int n => .ok n
  | .bool b => .ok (if b then 1 else 0)
  | _ => .error (.argument "level must be an integer")

def loggerName (v : Value) : Except Fault String :=
  match v with
  | .text s => .ok (if s = "" then "root" else s)
  | v => if v.truthy then .error (.argument "A logger name must be a string") else .ok "root"

def submit (s : Setup) (d : Draft) : Except Fault (Option Draft) := do
  let logger ← loggerName d.logger
  let level ← levelOfValue d.level
  if s.admits level then
    match d.fields.find? fun p ↦ taken.contains p.1 with
    | some (name, _) =>
      .error (.foreign .key ("Attempt to overwrite " ++ Text.quoted name ++ " in LogRecord"))
    | none => return some { d with logger := .text logger }
  else return none

def submitAll (s : Setup) (ds : List Draft) : Except Fault (List Draft) :=
  (ds.mapM s.submit).map (·.filterMap id)

def lines (s : Setup) (now : Instant) (d : Draft) : List String :=
  match if s.json then d.json .null now else d.plain .null now with
  | .ok line => Text.lines (line ++ "\n")
  | .error _ => []

end Setup

end Automation.Log
