import Automation.Fault
import Automation.Schema.Field
import Automation.Text.Blank
import Automation.Text.Case

namespace Automation

open Schema

abbrev Environment := List (String × String)

structure Settings where
  logLevel : String := "INFO"
  jsonLogs : Bool := false
  logFile : Option String := none
  broker : Option String := none
  /-- What becomes of conditions that are not known: `allow` answers yes, all else no. -/
  policy : String := "allow"
  origins : List String := ["http://localhost:3000", "http://localhost:5173"]
  deriving DecidableEq, Repr

namespace Settings

def unknownCondition (s : Settings) : Bool := s.policy = "allow"

def policies : List String := ["allow", "deny"]

def commaList (s : String) : List String :=
  (((s.splitOn ",").map Text.strip).filter (· ≠ ""))

def given (env : Environment) (name : String) : Option String :=
  (env.lookup name).filter (· ≠ "")

def ofEnvironment (env : Environment) : Except Fault Settings :=
  let policy := Text.lower (Text.strip ((env.lookup policySetting).getD "allow"))
  if policies.contains policy then
    .ok {
      logLevel := Text.upper ((env.lookup "LOG_LEVEL").getD "INFO")
      jsonLogs := Text.lower ((env.lookup "JSON_LOGS").getD "false") = "true"
      logFile := given env "LOG_FILE"
      broker := given env brokerSetting
      policy
      origins := match given env "CORS_ORIGINS" with
        | some s => commaList s
        | none => ({} : Settings).origins }
  else .error (.failure (.configuration (.conditionPolicy policy) (.text policySetting)))

def read (fs : Fields) : Checked Settings :=
  mk <$> field "log_level" "INFO" .text fs
    <*> field "json_logs" false .flag fs
    <*> field "log_file" none (.optional .text) fs
    <*> field "redis_url" none (.optional .text) fs
    <*> field "unknown_condition_policy" "allow" .text fs
    <*> field "cors_origins" ({} : Settings).origins (.list .text) fs

def record (s : Settings) : Value := .object [
  ("log_level", .text s.logLevel),
  ("json_logs", .bool s.jsonLogs),
  ("log_file", textOrNull s.logFile),
  ("redis_url", textOrNull s.broker),
  ("unknown_condition_policy", .text s.policy),
  ("cors_origins", .list (s.origins.map .text)),
  ("unknown_condition_result", .bool s.unknownCondition)]

end Settings

end Automation
