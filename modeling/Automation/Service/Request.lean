import Automation.Context.Basic
import Automation.Json.Bytes
import Automation.Schema.Field

namespace Automation.Service

open Schema

inductive Body where
  | absent
  | data (v : Value)
  | raw (s : String)
  deriving DecidableEq, Repr

structure Request where
  method : String
  target : String
  body : Body := .absent
  id : Option String := none
  deriving DecidableEq, Repr

inductive Misfit where
  | undecodable
  | malformed (position : Nat)
  | flawed (data : Value) (problems : List Problem)
  deriving DecidableEq, Repr

namespace Body

def parse : Body → Except Misfit (Option Value)
  | .absent | .raw "" | .data .null => .ok none
  | .data v => .ok (some v)
  | .raw s => match Json.charsOfBytes? s.toUTF8.toList with
    | none => .error .undecodable
    | some cs => match Json.readChars cs with
      | .ok v => .ok (some v)
      | .error position => .error (.malformed position)

def record {α : Type} (read : Fields → Checked α) (data : Option Value) : Except Misfit α :=
  let checked : Checked α := match data with
    | none => .flawed .missing
    | some (.object fs) => read fs
    | some _ => .flawed .noFields
  match checked.within (.field "body") with
  | .good a => .ok a
  | .bad problems => .error (.flawed (data.getD .null) problems)

end Body

def follow : List Place → Value → Value
  | .field name :: path, .object fs => follow path (Fields.get fs name)
  | .item index :: path, .list vs => follow path (vs.getD index .null)
  | _, v => v

/-- What a problem is about: the value at its place, or that which lacks a field. -/
def given (data : Value) (p : Problem) : Value :=
  let path := if p.flaw = .missing then p.path.dropLast else p.path
  match path with
  | .field "body" :: path => follow path data
  | _ => .null

def placeValue : Place → Value
  | .field name => .text name
  | .item index => .int index

def problemValue (p : Problem) : Value := .object [
  ("type", .text p.flaw.code),
  ("loc", .list (p.path.map placeValue)),
  ("msg", .text p.flaw.message)]

structure Sent where
  trigger : Fields := []
  nodes : List Fields := []
  edges : List Fields := []
  deriving DecidableEq, Repr

namespace Sent

def read (fs : Fields) : Checked Sent :=
  mk <$> field "trigger" [] .object fs
    <*> field "nodes" [] (.list .object) fs
    <*> field "edges" [] (.list .object) fs

def nodeValues (w : Sent) : List Value := w.nodes.map .object

def edgeValues (w : Sent) : List Value := w.edges.map .object

def definition (w : Sent) : Value := .object [
  ("trigger", .object w.trigger), ("nodes", .list w.nodeValues), ("edges", .list w.edgeValues)]

def readWithPayload (fs : Fields) : Checked (Sent × Option Fields) :=
  Prod.mk <$> read fs <*> field "payload" none (.optional .object) fs

def someObjects : Reader (List Fields) := fun v ↦
  match Reader.list .object v with
  | .good [] => .flawed (.tooFew 1 0)
  | r => r

def readWithPayloads (fs : Fields) : Checked (Sent × List Fields) :=
  Prod.mk <$> read fs <*> required "payloads" someObjects fs

end Sent

end Automation.Service
