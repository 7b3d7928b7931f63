import Automation.Proofs.Run.Finite
import Automation.Proofs.Service.Agreement
import Automation.Service.Exchange

namespace Automation

namespace Value

mutual

def texts : Value → List String
  | .text s => [s]
  | .list vs => textsOfItems vs
  | .object fs => textsOfFields fs
  | _ => []

def textsOfItems : List Value → List String
  | [] => []
  | v :: vs => texts v ++ textsOfItems vs

def textsOfFields : List (String × Value) → List String
  | [] => []
  | (_, v) :: fs => texts v ++ textsOfFields fs

end

end Value

namespace Service

variable {c : Configuration} {rules : Rules} {clock : Clock} {settings : Settings} {w : Sent}
  {p : Fields} {payloads : List Fields} {s : State} {v : Value}

def runFor (c : Configuration) (settings : Settings) (rules : Rules) (clock : Clock) (w : Sent)
    (p : Fields) : Run :=
  Engine.run ⟨c.actions, settings.unknownCondition⟩ rules clock (.object w.trigger)
    (.list w.nodeValues) (.object p) (.list w.edgeValues)

def produced (c : Configuration) (rules : Rules) (clock : Clock) (w : Sent) (p : Fields) :
    Except Fault Value :=
  (Settings.ofEnvironment c.environment).bind fun settings ↦
    (runFor c settings rules clock w p).outcome.bind Task.kept

theorem produced_eq_ok_iff : produced c rules clock w p = .ok v ↔
    ∃ settings, Settings.ofEnvironment c.environment = .ok settings ∧
      ∃ r, (runFor c settings rules clock w p).outcome = .ok r ∧ r.record = .ok v ∧
        Task.firstBytes? v = none := by
  simp only [produced, then_eq_ok_iff, Task.kept_eq_ok_iff]

theorem run_task_eq_produced (id : String) :
    (Task.run c.environment c.actions rules clock id w.definition (.object p)).outcome =
      produced c rules clock w p := by
  have hp : (Value.object p).orElse (.object []) = .object p := by
    cases p <;> rfl
  rw [Task.run_of_sent, hp]
  rfl

structure Bounded (w : Sent) (payloads : List Fields) : Prop where
  events : ∀ p ∈ payloads, (Fields.get p "opportunity_value").Bounded
  deals : ∀ fs ∈ w.nodes, ∀ n, Node.ofValue (.object fs) = .ok n → n.opensDeal = true →
    (Fields.get n.config "value").Bounded

theorem Bounded.contexts (h : Bounded w payloads) (hp : p ∈ payloads) (ha : c.actions = .standard)
    {r : Result} (hr : (runFor c settings rules clock w p).outcome = .ok r) :
    ∀ context ∈ r.contexts, context.Bounded := by
  rw [runFor, ha] at hr
  have he : (Fields.get (Event.mapping (.object p)) "opportunity_value").Bounded := h.events p hp
  refine Engine.run_bounded he (fun ns hns n hn ho ↦ ?_) hr
  simp only [Node.listOfValue, Value.elementsIfGiven_list, then_eq_ok_iff, Except.ok.injEq,
    exists_eq_left'] at hns
  obtain ⟨raw, hraw, hread⟩ := exists_of_mapM hns hn
  obtain ⟨fs, hfs, rfl⟩ := List.mem_map.mp hraw
  exact h.deals fs hfs n hread ho

def Shows (c : Configuration) (rules : Rules) (clock : Clock) (w : Sent) (p : Fields) (v : Value) :
    Prop :=
  ∀ (s : State) (tag : Log.Record → Log.Record) (b : Body) (id : String), s.rules = rules →
    s.clock = clock → b.parse.bind (Body.record Sent.readWithPayload) = .ok (w, some p) →
    ∃ reply, (answer c s tag b .preview).outcome = .ok reply ∧
      response "POST" (.replied reply) id = ⟨200, v, some id⟩

theorem shows_of_produced (h : produced c rules clock w p = .ok v) (hv : v.finite = v) :
    Shows c rules clock w p v := by
  rintro s tag b id rfl rfl hb
  obtain ⟨settings, hs, r, hr, hrecord, -⟩ := produced_eq_ok_iff.mp h
  refine ⟨⟨200, v⟩, ?_, ?_⟩
  · have hpreview : (preview c s settings w (some p)).outcome = .ok ⟨200, v⟩ :=
      map_eq_ok_iff.mpr ⟨v, then_eq_ok_iff.mpr ⟨r, hr, hrecord⟩, rfl⟩
    rw [answer_preview hb, hs]
    exact hpreview
  · simp only [response, hv]
    rfl

/-- What a dispatch has come to if its tasks are as trials show them: there is one for each payload,
and it gives what the run for that payload produces, which a trial shows. -/
def Previewed (c : Configuration) (s : State) (w : Sent) (payloads : List Fields) (h : Handled) :
    Prop :=
  ∃ rans : List Ran, h.outcome = .ok (queuedReply (rans.map Ran.id)) ∧
    rans.length = payloads.length ∧ (s.clock.Still → ∀ r ∈ rans, r.clock = s.clock) ∧
    List.Forall₂ (fun p r ↦
      h.state.states.find r.id = .ofOutcome (produced c s.rules r.clock w p) ∧
        ∀ v, produced c s.rules r.clock w p = .ok v → Shows c s.rules r.clock w p v) payloads rans

/-- The tasks of a valid workflow are as trials of it show them, if the queue delivers what is sent
as it is, and if no deal is worth a number that is not finite. -/
theorem tasks_are_previewed (c : Configuration) (s : State) (tag : Log.Record → Log.Record)
    {b : Body} {w : Sent} {payloads : List Fields} (hactions : c.actions = .standard)
    (hbroker : c.brokered = true) (hfresh : s.Fresh)
    (hb : b.parse.bind (Body.record Sent.readWithPayloads) = .ok (w, payloads))
    (hvalid : issuesOf s.rules w = .ok [])
    (hdelivered : Envelope.opened w.definition = .ok w.definition)
    (hpayloads : ∀ p ∈ payloads, Envelope.opened (.object p) = .ok (.object p))
    (hbounded : Bounded w payloads) :
    Previewed c s w payloads (answer c s tag b .dispatch) := by
  have hleave : c.actions.Leave := hactions ▸ Actions.standard_leave
  obtain ⟨rans, s', hq⟩ := exists_queues c w.definition s hpayloads
  obtain ⟨records, hqueue⟩ := (queue_eq_ok_iff hdelivered).mpr ⟨rans, hq, rfl⟩
  obtain ⟨hreply, hstate⟩ := dispatch_of_queue tag hvalid hbroker hqueue
  rw [answer_dispatch hb]
  refine ⟨rans, hreply, hq.opened.length_eq.symm, hq.clock_eq, ?_⟩
  rw [hstate]
  refine hq.forall₂ fun p hp r hr hopened ↦ ?_
  -- Neither the rules nor what is given to the task come from those that were run before it.
  have hgiven : r.payload = .object p := Except.ok.inj (hopened.symm.trans (hpayloads p hp))
  have hout : r.outcome = produced c s.rules r.clock w p := by
    rw [hq.outcome_eq hleave r hr, hgiven, run_task_eq_produced]
  refine ⟨hout ▸ hq.find hfresh r hr, fun v hv ↦ shows_of_produced hv ?_⟩
  obtain ⟨settings, -, result, hresult, hrecord, -⟩ := produced_eq_ok_iff.mp hv
  exact Result.finite_record (hbounded.contexts hp hactions hresult) hrecord

theorem not_previewed_of_shown {h : Handled} {b : Body} {reply : Reply} (hstill : s.clock.Still)
    (hv : produced c s.rules s.clock w p = .ok v)
    (hb : b.parse.bind (Body.record Sent.readWithPayload) = .ok (w, some p))
    (hreply : (answer c s id b .preview).outcome = .ok reply)
    (hne : (response "POST" (.replied reply) "").body ≠ v) : ¬ Previewed c s w [p] h := by
  rintro ⟨rans, -, -, hclock, hall⟩
  obtain ⟨r, rest, ⟨-, hshows⟩, -, rfl⟩ := List.forall₂_cons_left_iff.mp hall
  rw [hclock hstill r List.mem_cons_self] at hshows
  obtain ⟨shown, hshown, hresponse⟩ := hshows v hv s id b "" rfl rfl hb
  obtain rfl : shown = reply := Except.ok.inj (hshown.symm.trans hreply)
  exact hne (by rw [hresponse])

namespace Sample

def winning (value : Value) : Sent :=
  sent "create_opportunity" [("stage", .text "won"), ("value", value)]

end Sample

theorem Sample.bounded_winning : Bounded (Sample.winning (.text "250")) [Sample.worthless, []] where
  events := by
    have hzero : (Value.float .zero).Bounded := by
      rintro x ⟨⟩
      rfl
    have hnull : Value.null.Bounded := by
      rintro x ⟨⟩
    simp only [List.forall_mem_cons]
    exact ⟨hzero, hnull, by simp⟩
  deals := by
    have htext : (Value.text "250").Bounded := by
      have hn : (Value.text "250").asNumber = .number (.ofRatio false 250 1) := by decide +kernel
      intro x hx
      obtain rfl : Binary64.ofRatio false 250 1 = x := NumberReading.number.inj (hn.symm.trans hx)
      decide +kernel
    refine List.forall_mem_singleton.mpr fun n hn _ ↦ ?_
    cases hn
    exact htext

set_option maxRecDepth 10000 in
theorem tasks_are_previewed_sample :
    issuesOf Sample.state.rules (Sample.winning (.text "250")) = .ok [] ∧
    Bounded (Sample.winning (.text "250")) [Sample.worthless, []] ∧
    Previewed {} Sample.state (Sample.winning (.text "250")) [Sample.worthless, []]
      (answer {} Sample.state id
        (Sample.queueing (Sample.winning (.text "250")) [Sample.worthless, []]) .dispatch) := by
  have hpayloads : ∀ p ∈ [Sample.worthless, []], Envelope.opened (.object p) = .ok (.object p) := by
    simp only [List.forall_mem_cons]
    exact ⟨rfl, rfl, by simp⟩
  exact ⟨rfl, Sample.bounded_winning, tasks_are_previewed {} Sample.state id rfl rfl
    (State.fresh_of_nil rfl) rfl rfl rfl hpayloads Sample.bounded_winning⟩

def PreviewedIfBounded (texts : Sent → List Fields → List String) : Prop :=
  ∀ (c : Configuration) (s : State) (tag : Log.Record → Log.Record) (b : Body) (w : Sent)
    (payloads : List Fields), c.actions = .standard → c.brokered = true → s.Fresh →
    b.parse.bind (Body.record Sent.readWithPayloads) = .ok (w, payloads) →
    issuesOf s.rules w = .ok [] → Envelope.opened w.definition = .ok w.definition →
    (∀ p ∈ payloads, Envelope.opened (.object p) = .ok (.object p)) →
    (∀ t ∈ texts w payloads, (Value.text t).Bounded) →
    Previewed c s w payloads (answer c s tag b .dispatch)

def shownWorth (v : Value) : Value :=
  ((v.field "final_payload").field "opportunity").field "value"

set_option maxRecDepth 10000 in
theorem not_tasks_are_previewed_of_infinite :
    ¬ PreviewedIfBounded (fun _ payloads ↦ (Value.list (payloads.map .object)).texts) ∧
    ¬ PreviewedIfBounded fun w payloads ↦
      w.definition.texts ++ (Value.list (payloads.map .object)).texts := by
  have hpayloads : ∀ p ∈ [Sample.worthless], Envelope.opened (.object p) = .ok (.object p) :=
    List.forall_mem_singleton.mpr rfl
  constructor
  · intro h
    refine absurd (h {} Sample.state id
      (Sample.queueing (Sample.winning (.text "inf")) [Sample.worthless]) _ _ rfl rfl
      (State.fresh_of_nil rfl) rfl rfl rfl hpayloads (by simp [Sample.worthless, Value.texts,
        Value.textsOfItems, Value.textsOfFields])) ?_
    refine not_previewed_of_shown
      (b := Sample.trying (Sample.winning (.text "inf")) Sample.worthless) rfl rfl rfl rfl
      fun he ↦ ?_
    have hw : Value.null = .float (.infinite false) := congrArg shownWorth he
    cases hw
  · intro h
    have hunread : ∀ t ∈ ["manual", "n1", "create_opportunity", "won"],
        Binary64.ofText? t = none := by decide +kernel
    have htexts : ∀ t ∈ ["manual", "n1", "create_opportunity", "won"], (Value.text t).Bounded :=
      fun t ht ↦ Value.bounded_of_unread (hunread t ht)
    refine absurd (h {} Sample.state id
      (Sample.queueing (Sample.winning (.float (.infinite false))) [Sample.worthless]) _ _ rfl rfl
      (State.fresh_of_nil rfl) rfl rfl rfl hpayloads htexts) ?_
    refine not_previewed_of_shown
      (b := Sample.trying (Sample.winning (.float (.infinite false))) Sample.worthless)
      rfl rfl rfl rfl fun he ↦ ?_
    have hw : Value.null = .float (.infinite false) := congrArg shownWorth he
    cases hw

end Service

end Automation
