import Automation.Catalog
import Automation.Log.Setup
import Automation.Queue.Envelope
import Automation.Queue.Task
import Automation.Service.Path
import Automation.Service.Request

namespace Automation.Service

open Schema

structure Configuration where
  actions : Actions := .standard
  environment : Environment := []
  brokered : Bool := true

structure State where
  rules : Rules := .standard
  clock : Clock
  requests : Nat := 0
  tasks : Nat := 0
  states : TaskStates := []

structure Reply where
  status : Nat
  body : Value
  deriving DecidableEq, Repr

structure Handled where
  state : State
  records : List Log.Record := []
  outcome : Except Fault Reply

def note (level : Log.Level) (message : String) (fields : Fields) (withFault : Bool) : Log.Record :=
  { level, logger := "autoflow.api.main", message, fields, withFault }

def refusal (status : Nat) (reason : String) : Reply :=
  ⟨status, .object [("error", .text reason), ("status_code", .int status)]⟩

def misfit : Misfit → Except Fault Reply
  | .undecodable =>
    .ok ⟨400, .object [("detail", .text "There was an error parsing the body")]⟩
  | .malformed position =>
    .ok ⟨422, .list [problemValue ⟨[.field "body", .item position], .notJson⟩]⟩
  | .flawed data problems =>
    if problems.all fun p ↦ (given data p).finite == given data p then
      .ok ⟨422, .list (problems.map problemValue)⟩
    else .error (.foreign .value "Out of range float values are not JSON compliant")

def unfitAnswer (place : String) (flaw : Flaw) (given : Value) : Fault :=
  .answer ("1 validation errors:\n  \x7b'type': " ++ Text.quoted flaw.code ++ ", 'loc': (" ++
    place ++ "), 'msg': " ++ Text.quoted flaw.message ++ ", 'input': " ++ given.inner ++ "\x7d\n")

def unknownTypes (w : Sent) : Except Fault (List Value) := do
  let type := w.trigger.get "type"
  let ofTrigger ←
    if type.truthy then do
      if ← Catalog.triggers.offers type then .ok [] else .ok [type]
    else .ok []
  let ofNodes := w.nodes.filterMap fun n ↦ match n.get "type" with
    | .text s => if s = "" || Catalog.actions.ids.contains s then none else some (Value.text s)
    | _ => none
  return ofTrigger ++ ofNodes

def textOf? : Value → Option String
  | .text s => some s
  | _ => none

def sortedOnce (ss : List String) : List String :=
  (ss.mergeSort fun a b ↦ decide (a ≤ b)).eraseReps

/-- The types not on offer as an answer lists them: each once, in alphabetical order. They have to
be texts. -/
def listedTypes (types : List Value) : Except Fault Value :=
  match types.find? fun v ↦ (textOf? v).isNone with
  | none => .ok (.list ((sortedOnce (types.filterMap textOf?)).map .text))
  | some v =>
    if types.length = 1 then
      .error (unfitAnswer "'response', 'unknown_types', 0" .notText v)
    else .error (.argument
      ("'<' not supported between instances of 'str' and '" ++ v.kind.name ++ "'"))

def issuesValue (issues : List Issue) : Value := .list (issues.map fun i ↦ .object i.fields)

def review (rules : Rules) (w : Sent) : Traced Value := do
  let issues ← Review.logged rules (.object w.trigger) w.nodeValues
  let edgeIssues := Review.edges w.nodeValues w.edgeValues
  let types ← Traced.lift (unknownTypes w)
  let types ← Traced.lift (listedTypes types)
  return .object [
    ("valid", .bool issues.isEmpty),
    ("issues", issuesValue issues),
    ("edge_issues", issuesValue edgeIssues),
    ("unknown_types", types)]

def preview (c : Configuration) (s : State) (settings : Settings) (w : Sent)
    (payload : Option Fields) : Handled :=
  let e : Engine := ⟨c.actions, settings.unknownCondition⟩
  let r := e.run s.rules s.clock (.object w.trigger) (.list w.nodeValues)
    (.object (payload.getD Catalog.sample)) (.list w.edgeValues)
  { state := { s with rules := r.rules, clock := r.clock }
    records := r.records
    outcome := (r.outcome.bind Result.record).map (⟨200, ·⟩) }

/-- What it takes to reach the broker. Without one the attempt ends with the reason, after the logs
have been set up. -/
def reachBroker (c : Configuration) : Traced Unit := do
  if !c.brokered then
    let settings ← Traced.lift (Settings.ofEnvironment c.environment)
    let logs ← Traced.lift
      (Log.Setup.make c.environment (.text settings.logLevel) true (textOrNull settings.logFile))
    Traced.log logs.opening
    Traced.lift (.error (.failure (.configuration .brokerUnset (.text brokerSetting))))

def queueOne (c : Configuration) (definition : Value) (s : State) (payload : Fields) :
    Except Fault (State × List Log.Record × String) := do
  let definition ← Envelope.opened definition
  let payload ← Envelope.opened (.object payload)
  let id := "task-" ++ intText (s.tasks + 1)
  let t := Task.run c.environment c.actions s.rules s.clock id definition payload
  let s := { s with
    rules := t.rules
    clock := t.clock
    tasks := s.tasks + 1
    states := s.states.put id (.ofOutcome t.outcome) }
  return (s, t.records, id)

def queue (c : Configuration) (definition : Value) :
    State → List Fields → State × List Log.Record × Except Fault (List String)
  | s, [] => (s, [], .ok [])
  | s, payload :: rest => match queueOne c definition s payload with
    | .error f => (s, [], .error f)
    | .ok (s, records, id) =>
      let (s, more, ids) := queue c definition s rest
      (s, records ++ more, ids.map (id :: ·))

def dispatch (c : Configuration) (s : State) (tag : Log.Record → Log.Record) (w : Sent)
    (payloads : List Fields) : Handled :=
  let reviewed := Review.logged s.rules (.object w.trigger) w.nodeValues
  let before := reviewed.records.map tag
  match reviewed.outcome with
  | .error f => ⟨s, before, .error f⟩
  | .ok (first :: _) => ⟨s, before, .ok (refusal 400 first.message)⟩
  | .ok [] =>
    let reached := reachBroker c
    let before := before ++ reached.records.map tag
    match reached.outcome with
    | .error (.failure (.configuration cause _)) =>
      ⟨s, before ++ [tag (note Log.error
        ("Cannot queue automation runs: " ++ cause.message) [] false)],
        .ok (refusal 503 cause.message)⟩
    | .error f => ⟨s, before, .error f⟩
    | .ok () =>
      let (s, records, ids) := queue c w.definition s payloads
      match ids with
      | .error f => ⟨s, before ++ records, .error f⟩
      | .ok ids =>
        { state := s
          records := before ++ records ++
            [note Log.info ("Queued " ++ intText ids.length ++ " automation run(s)") [] false]
          outcome := .ok ⟨202, .object [("status", .text "queued"), ("count", .int ids.length),
            ("task_ids", .list (ids.map .text))]⟩ }

def taskReply (id : String) (t : TaskState) : Except Fault Reply := do
  let told (result error : Value) : Reply := ⟨200, .object [
    ("task_id", .text id), ("status", .text t.name), ("result", result), ("error", error)]⟩
  let result ← Envelope.opened t.result
  if TaskState.troubled.contains t.name then
    let words ← Account.words result
    return told .null (if t.name = "FAILURE" then .text words else .null)
  else if t.name = "SUCCESS" then
    match result with
    | .null => return told .null .null
    | .object fs => return told (.object fs) .null
    | v => .error (unfitAnswer "'response', 'result'" .notObject v)
  else return told .null .null

def taskStatus (c : Configuration) (s : State) (id : String) : Handled :=
  let reached := reachBroker c
  { state := s
    records := reached.records
    outcome := match reached.outcome with
      | .ok () => taskReply id (s.states.find id)
      | .error (.failure (.configuration cause _)) => .ok (refusal 503 cause.message)
      | .error f => .error f }

def catalogReply : Except Fault Reply := do
  let triggers ← Catalog.listed Catalog.triggers.record
  let actions ← Catalog.listed Catalog.actions.record
  return ⟨200, .object [("triggers", triggers), ("actions", actions)]⟩

/-- Answers a request at a route. What is left of records on the way is tagged, but for those of
tasks and what follows them. -/
def answer (c : Configuration) (s : State) (tag : Log.Record → Log.Record) (body : Body) :
    Route → Handled
  | .root => { state := s, outcome := .ok ⟨200, .object [("name", .text "AUTOFLOW API"),
      ("version", .text "1.0.0"), ("docs", .text "/docs")]⟩ }
  | .health => { state := s, outcome := .ok ⟨200, .object [("status", .text "healthy")]⟩ }
  | .catalog => { state := s, outcome := catalogReply }
  | .task id =>
    let h := taskStatus c s id
    { h with records := h.records.map tag }
  | .review =>
    match body.parse.bind (Body.record Sent.read) with
    | .error m => { state := s, outcome := misfit m }
    | .ok w =>
      let t := review s.rules w
      { state := s, records := t.records.map tag, outcome := t.outcome.map (⟨200, ·⟩) }
  | .preview =>
    match body.parse, Settings.ofEnvironment c.environment with
    | .error m, _ => { state := s, outcome := misfit m }
    | .ok _, .error f => { state := s, outcome := .error f }
    | .ok data, .ok settings => match Body.record Sent.readWithPayload data with
      | .error m => { state := s, outcome := misfit m }
      | .ok (w, payload) =>
        let h := preview c s settings w payload
        { h with records := h.records.map tag }
  | .dispatch =>
    match body.parse.bind (Body.record Sent.readWithPayloads) with
    | .error m => { state := s, outcome := misfit m }
    | .ok (w, payloads) => dispatch c s tag w payloads

end Automation.Service
