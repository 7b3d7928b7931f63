import Automation.Service.Endpoint
import Automation.Service.Target
import Automation.Text.Case

namespace Automation.Service

structure Response where
  status : Nat
  body : Value
  id : Option String
  deriving DecidableEq, Repr

inductive Course where
  | replied (reply : Reply)
  | moved (path : String)
  | broken (f : Fault)

def notFound : Reply := ⟨404, .object [("detail", .text "Not Found")]⟩

def wrongMethod : Reply := ⟨405, .object [("detail", .text "Method Not Allowed")]⟩

def course (c : Configuration) (s : State) (tag : Log.Record → Log.Record) (method path : String)
    (body : Body) : State × List Log.Record × Course :=
  match Route.ofPath? path with
  | some route =>
    if route.method = method then
      let h := answer c s tag body route
      (h.state, h.records, match h.outcome with
        | .ok reply => .replied reply
        | .error f => .broken f)
    else (s, [], .replied wrongMethod)
  | none => (s, [], match Route.moved? path with
      | some shorter => .moved shorter
      | none => .replied notFound)

def closing : Course → Log.Record
  | .replied r => responded r.status
  | .moved _ => responded 307
  | .broken f => note Log.error "Unhandled exception in request" [("error", .text f.message)] true
where
  responded (status : Nat) : Log.Record :=
    note Log.info ("Response " ++ intText status) [("status_code", .int status)] false

def visit (c : Configuration) (s : State) (r : Request) (path : String) :
    State × List Log.Record × Course × String :=
  let s := { s with requests := s.requests + 1 }
  let id := r.id.getD ("uuid-" ++ intText s.requests)
  let tag := Log.Record.tagged id
  let shown := Target.shown path
  let opening := note Log.info (r.method ++ " " ++ shown)
    [("method", .text r.method), ("path", .text shown), ("client_ip", .text "testclient")] false
  let (s, records, outcome) := course c s tag r.method path r.body
  (s, tag opening :: records ++ [tag (closing outcome)], outcome, id)

def response (method : String) (outcome : Course) (id : String) : Response :=
  let shown (body : Value) : Value := if method = "HEAD" then .text "" else body.finite
  match outcome with
  | .replied r => ⟨r.status, shown r.body, some id⟩
  | .moved _ => ⟨307, .text "", some id⟩
  | .broken _ => ⟨500, shown (.text "Internal Server Error"), none⟩

def mostMoves : Nat := 20

/-- Answers a request at a path, and at the paths that it moves on to, as long as moves are left. -/
def pursue (c : Configuration) (r : Request) :
    Nat → State → String → State × List Log.Record × Except Undelivered Response
  | moves, s, path =>
    let (s, records, outcome, id) := visit c s r path
    match outcome, moves with
    | .moved path, moves + 1 =>
      let (s, more, x) := pursue c r moves s (Target.moved path)
      (s, records ++ more, x)
    | .moved _, 0 => (s, records, .error .tooManyMoves)
    | outcome, _ => (s, records, .ok (response r.method outcome id))

def exchange (c : Configuration) (s : State) (r : Request) :
    State × List Log.Record × Except Undelivered Response :=
  match Target.destination r.target with
  | .error u => (s, [], .error u)
  | .ok path => pursue c { r with method := Text.upper r.method } mostMoves s path

end Automation.Service
