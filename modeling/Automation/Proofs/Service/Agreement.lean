import Automation.Proofs.Service.Queue

namespace Automation

namespace Value

def field (v : Value) (name : String) : Value :=
  match v with
  | .object fs => Fields.get fs name
  | _ => .null

def FreeOfIssues (v : Value) : Prop :=
  v.field "error" = .null ∨ (v.field "error").field "issues" = .null

end Value

namespace Result

variable {r : Result} {v : Value}

theorem record_fields (h : r.record = .ok v) :
    v.field "success" = .bool r.success ∧
      (∃ steps, r.steps.mapM Step.record = .ok steps ∧ v.field "steps" = .list steps) ∧
      v.field "error" = (r.stop.map fun s ↦ Value.object s.fields).getD .null := by
  simp only [record, bind_eq_ok_iff, pure_eq_ok_iff] at h
  obtain ⟨steps, hs, final, -, rfl⟩ := h
  exact ⟨rfl, ⟨steps, hs, rfl⟩, rfl⟩

theorem freeOfIssues_of_record (h : r.record = .ok v)
    (hr : ∀ stop, r.stop = some stop → stop.issues = none) : v.FreeOfIssues := by
  obtain ⟨-, -, he⟩ := record_fields h
  unfold Value.FreeOfIssues
  rw [he]
  cases hs : r.stop with
  | none => exact .inl rfl
  | some stop =>
    refine .inr ?_
    have hi := hr stop hs
    simp [Value.field, Stop.fields, Fields.get, List.lookup_cons, hi]

end Result

namespace Task

theorem kept_eq_ok_iff {r : Result} {v : Value} :
    kept r = .ok v ↔ r.record = .ok v ∧ firstBytes? v = none := by
  simp only [kept, then_eq_ok_iff]
  constructor
  · rintro ⟨w, hw, h⟩
    split at h
    · cases h
    · next hn =>
      cases h
      exact ⟨hw, hn⟩
  · rintro ⟨hw, hn⟩
    exact ⟨v, hw, by rw [hn]⟩

end Task

namespace Service

variable {c : Configuration} {s s' : State} {tag : Log.Record → Log.Record} {w : Sent} {b : Body}
  {payload : Option Fields} {payloads : List Fields} {reply : Reply} {issues : List Issue}
  {first : Issue} {more : List Issue} {definition : Value} {rans : List Ran}

def issuesOf (rules : Rules) (w : Sent) : Except Fault (List Issue) :=
  Review.workflow rules (.object w.trigger) w.nodeValues

theorem logged_outcome (rules : Rules) (w : Sent) :
    (Review.logged rules (.object w.trigger) w.nodeValues).outcome = issuesOf rules w :=
  Run.review_outcome

theorem answer_review (h : b.parse.bind (Body.record Sent.read) = .ok w) :
    (answer c s tag b .review).outcome = (review s.rules w).outcome.map (⟨200, ·⟩) := by
  simp only [answer, h]

theorem answer_preview (h : b.parse.bind (Body.record Sent.readWithPayload) = .ok (w, payload)) :
    (answer c s tag b .preview).outcome = (Settings.ofEnvironment c.environment).bind fun settings ↦
      (preview c s settings w payload).outcome := by
  obtain ⟨data, hd, hr⟩ := then_eq_ok_iff.mp h
  cases hs : Settings.ofEnvironment c.environment <;> simp only [answer, hd, hs, hr] <;> rfl

theorem answer_dispatch (h : b.parse.bind (Body.record Sent.readWithPayloads) = .ok (w, payloads)) :
    answer c s tag b .dispatch = dispatch c s tag w payloads := by
  simp only [answer, h]

theorem review_fields {rules : Rules} {v : Value} (h : (review rules w).outcome = .ok v) :
    ∃ issues, issuesOf rules w = .ok issues ∧ v.field "valid" = .bool issues.isEmpty ∧
      v.field "issues" = issuesValue issues := by
  simp only [review, Traced.bind_outcome, Traced.lift, then_eq_ok_iff, Run.review_outcome] at h
  obtain ⟨issues, hi, types, -, listed, -, h⟩ := h
  cases h
  exact ⟨issues, hi, rfl, rfl⟩

theorem preview_fields {settings : Settings} (hi : issuesOf s.rules w = .ok issues)
    (h : (preview c s settings w payload).outcome = .ok reply) :
    (∃ first more, issues = first :: more ∧ reply.body.field "success" = .bool false ∧
        reply.body.field "steps" = .list [] ∧
        (reply.body.field "error").field "issues" = issuesValue issues ∧
        (reply.body.field "error").field "message" = .text first.message) ∨
      issues = [] ∧ reply.body.FreeOfIssues := by
  simp only [preview, map_eq_ok_iff, then_eq_ok_iff] at h
  obtain ⟨v, ⟨r, hr, hv⟩, rfl⟩ := h
  rcases Engine.run_stop (Value.elementsIfGiven_list _) hi hr with
    ⟨first, more, rfl, rfl⟩ | ⟨rfl, hn⟩
  · cases hv
    exact .inl ⟨first, more, rfl, rfl, rfl, rfl, rfl⟩
  · exact .inr ⟨rfl, Result.freeOfIssues_of_record hv hn⟩

def queuedReply (ids : List String) : Reply :=
  ⟨202, .object [("status", .text "queued"), ("count", .int ids.length),
    ("task_ids", .list (ids.map .text))]⟩

theorem reachBroker_of_brokered (h : c.brokered = true) : reachBroker c = ⟨[], .ok ()⟩ := by
  unfold reachBroker
  rw [h]
  rfl

theorem not_reached_of_unbrokered (h : c.brokered = false) (u : Unit) :
    (reachBroker c).outcome ≠ .ok u := by
  simp only [reachBroker, h, Bool.not_false, if_true, Traced.bind_outcome, Traced.lift, ne_eq,
    then_eq_ok_iff, reduceCtorEq, and_false, exists_false, not_false_eq_true]

theorem dispatch_of_issues (c : Configuration) (tag : Log.Record → Log.Record)
    (payloads : List Fields) (hi : issuesOf s.rules w = .ok (first :: more)) :
    (dispatch c s tag w payloads).outcome = .ok (refusal 400 first.message) ∧
      (dispatch c s tag w payloads).state = s := by
  have hr := (logged_outcome s.rules w).trans hi
  simp only [dispatch, hr, and_self]

theorem dispatch_of_queue (tag : Log.Record → Log.Record) {records : List Log.Record}
    {ids : List String} (hi : issuesOf s.rules w = .ok []) (hb : c.brokered = true)
    (hq : queue c w.definition s payloads = (s', records, .ok ids)) :
    (dispatch c s tag w payloads).outcome = .ok (queuedReply ids) ∧
      (dispatch c s tag w payloads).state = s' := by
  have hr := (logged_outcome s.rules w).trans hi
  simp only [dispatch, hr, reachBroker_of_brokered hb, hq, queuedReply, and_self]

theorem dispatch_of_unbrokered (hi : issuesOf s.rules w = .ok []) (hb : c.brokered = false)
    (h : (dispatch c s tag w payloads).outcome = .ok reply) :
    ∃ reason, reply = refusal 503 reason := by
  have hr := (logged_outcome s.rules w).trans hi
  simp only [dispatch, hr] at h
  split at h
  · next cause _ _ => exact ⟨cause.message, (Except.ok.inj h).symm⟩
  · cases h
  · next hreached => exact absurd hreached (not_reached_of_unbrokered hb _)

/-- A dispatch refuses a workflow with issues, and any if there is no broker; otherwise it queues.
-/
theorem dispatch_cases (h : (dispatch c s tag w payloads).outcome = .ok reply) :
    (∃ first more, issuesOf s.rules w = .ok (first :: more) ∧ reply = refusal 400 first.message ∧
        (dispatch c s tag w payloads).state = s) ∨
      issuesOf s.rules w = .ok [] ∧
        ((c.brokered = false ∧ ∃ reason, reply = refusal 503 reason) ∨
          ∃ records ids, reply = queuedReply ids ∧
            queue c w.definition s payloads =
              ((dispatch c s tag w payloads).state, records, .ok ids)) := by
  rcases hi : issuesOf s.rules w with f | _ | ⟨first, more⟩
  · simp [dispatch, (logged_outcome s.rules w).trans hi] at h
  · refine .inr ⟨rfl, ?_⟩
    cases hb : c.brokered with
    | false => exact .inl ⟨rfl, dispatch_of_unbrokered hi hb h⟩
    | true =>
      rcases hq : queue c w.definition s payloads with ⟨s', records, f | ids⟩
      · simp [dispatch, (logged_outcome s.rules w).trans hi, reachBroker_of_brokered hb, hq] at h
      · obtain ⟨ho, hs⟩ := dispatch_of_queue tag hi hb hq
        exact .inr ⟨records, ids, Except.ok.inj (h.symm.trans ho), by rw [hs]⟩
  · obtain ⟨ho, hs⟩ := dispatch_of_issues c tag payloads hi
    exact .inl ⟨first, more, rfl, Except.ok.inj (h.symm.trans ho), hs⟩

theorem freeOfIssues_of_task {rules : Rules} {clock : Clock} {id : String} {given v : Value}
    (hi : issuesOf rules w = .ok [])
    (h : (Task.run c.environment c.actions rules clock id w.definition given).outcome = .ok v) :
    v.FreeOfIssues := by
  rw [Task.run_of_sent] at h
  simp only [then_eq_ok_iff, Task.kept_eq_ok_iff] at h
  obtain ⟨settings, -, r, hr, hv, -⟩ := h
  rcases Engine.run_stop (Value.elementsIfGiven_list _) hi hr with ⟨_, _, hn, -⟩ | ⟨-, hn⟩
  · cases hn
  · exact Result.freeOfIssues_of_record hv hn

def TasksFree (queued : Reply) (after : State) : Prop :=
  ∀ ids : List String, queued.body.field "task_ids" = .list (ids.map .text) → ∀ id ∈ ids, ∀ v,
    after.states.find id = { name := "SUCCESS", result := v } → v.FreeOfIssues

theorem tasksFree_refusal (status : Nat) (reason : String) (after : State) :
    TasksFree (refusal status reason) after := by
  intro ids h
  cases h

theorem tasksFree_of_queue {records : List Log.Record} {ids : List String}
    (hactions : c.actions.Leave) (hfresh : s.Fresh) (hi : issuesOf s.rules w = .ok [])
    (hdelivered : Envelope.opened w.definition = .ok w.definition)
    (h : queue c w.definition s payloads = (s', records, .ok ids)) :
    TasksFree (queuedReply ids) s' := by
  obtain ⟨rans, hq, rfl⟩ := (queue_eq_ok_iff hdelivered).mp ⟨records, h⟩
  intro ids hids id hid v hfind
  have he : (rans.map Ran.id).map Value.text = ids.map Value.text := Value.list.inj hids
  obtain rfl : rans.map Ran.id = ids := List.map_injective_iff.mpr (fun _ _ ↦ Value.text.inj) he
  obtain ⟨r, hr, rfl⟩ := List.mem_map.mp hid
  rw [hq.find hfresh r hr] at hfind
  -- The rules are those of the review, whatever was queued in front of this task.
  have hrun := hq.outcome_eq hactions r hr
  cases ho : r.outcome with
  | error f => simp [ho, TaskState.ofOutcome] at hfind
  | ok u =>
    rw [ho] at hfind hrun
    cases hfind
    exact freeOfIssues_of_task hi hrun.symm

/-- What a review of a workflow that was sent, a trial of it and a dispatch of it tell of its
issues. A dispatch takes the service from one state to another. -/
structure Agree (brokered : Bool) (w : Sent) (before after : State)
    (reviewed tried queued : Reply) : Prop where
  told : ∃ valid, reviewed.body.field "valid" = .bool valid
  invalid : reviewed.body.field "valid" = .bool false → ∃ first more,
    reviewed.body.field "issues" = issuesValue (first :: more) ∧
    tried.body.field "success" = .bool false ∧ tried.body.field "steps" = .list [] ∧
    (tried.body.field "error").field "issues" = reviewed.body.field "issues" ∧
    (tried.body.field "error").field "message" = .text first.message ∧
    queued.status = 400 ∧ queued.body.field "error" = .text first.message ∧ after = before
  valid : reviewed.body.field "valid" = .bool true →
    tried.body.FreeOfIssues ∧ (brokered = true → queued.status = 202)
  tasks : Envelope.opened w.definition = .ok w.definition → TasksFree queued after

/-- Wherever a workflow is sent, the same is told of its issues, also by its tasks if the queue
delivers it as it is. -/
theorem entry_points_agree (c : Configuration) {s s' s'' : State}
    (tag tag' tag'' : Log.Record → Log.Record) {w : Sent} {b b' b'' : Body}
    {payload : Option Fields} {payloads : List Fields} {reviewed tried queued : Reply}
    (hactions : c.actions.Leave) (hs' : s'.rules = s.rules) (hs'' : s''.rules = s.rules)
    (hfresh : s''.Fresh)
    (hb : b.parse.bind (Body.record Sent.read) = .ok w)
    (hb' : b'.parse.bind (Body.record Sent.readWithPayload) = .ok (w, payload))
    (hb'' : b''.parse.bind (Body.record Sent.readWithPayloads) = .ok (w, payloads))
    (h : (answer c s tag b .review).outcome = .ok reviewed)
    (h' : (answer c s' tag' b' .preview).outcome = .ok tried)
    (h'' : (answer c s'' tag'' b'' .dispatch).outcome = .ok queued) :
    Agree c.brokered w s'' (answer c s'' tag'' b'' .dispatch).state reviewed tried queued := by
  rw [answer_review hb, map_eq_ok_iff] at h
  obtain ⟨v, hv, rfl⟩ := h
  obtain ⟨issues, hi, hvalid, hissues⟩ := review_fields hv
  rw [answer_preview hb', then_eq_ok_iff] at h'
  obtain ⟨settings, -, h'⟩ := h'
  have htried := preview_fields (hs' ▸ hi) h'
  rw [answer_dispatch hb''] at h'' ⊢
  have hi'' : issuesOf s''.rules w = .ok issues := hs'' ▸ hi
  -- All three have reviewed the same workflow with the same rules, so it is the same case for each.
  rcases dispatch_cases h'' with ⟨first, more, hi', rfl, hstate⟩ | ⟨hi', hqueued⟩
  · obtain rfl : issues = first :: more := Except.ok.inj (hi''.symm.trans hi')
    rcases htried with ⟨_, _, he, hsuccess, hsteps, herror, hmessage⟩ | ⟨hn, -⟩
    · cases he
      exact {
        told := ⟨_, hvalid⟩
        invalid := fun _ ↦ ⟨first, more, hissues, hsuccess, hsteps, herror.trans hissues.symm,
          hmessage, rfl, rfl, hstate⟩
        valid := fun ht ↦ by cases hvalid.symm.trans ht
        tasks := fun _ ↦ tasksFree_refusal _ _ _ }
    · cases hn
  · obtain rfl : issues = [] := Except.ok.inj (hi''.symm.trans hi')
    rcases htried with ⟨_, _, hn, -⟩ | ⟨-, hfree⟩
    · cases hn
    · rcases hqueued with ⟨hb, reason, rfl⟩ | ⟨records, ids, rfl, hq⟩
      · exact {
          told := ⟨_, hvalid⟩
          invalid := fun hf ↦ by cases hvalid.symm.trans hf
          valid := fun _ ↦ ⟨hfree, fun ht ↦ by cases hb.symm.trans ht⟩
          tasks := fun _ ↦ tasksFree_refusal _ _ _ }
      · exact {
          told := ⟨_, hvalid⟩
          invalid := fun hf ↦ by cases hvalid.symm.trans hf
          valid := fun _ ↦ ⟨hfree, fun _ ↦ rfl⟩
          tasks := fun hdelivered ↦ tasksFree_of_queue hactions hfresh hi'' hdelivered hq }

namespace Sample

def sent (type : String) (config : Fields) : Sent where
  trigger := [("type", .text "manual")]
  nodes := [[("id", .text "n1"), ("type", .text type), ("config", .object config)]]

def body (w : Sent) (more : Fields) : Body :=
  .data (.object ([("trigger", .object w.trigger), ("nodes", .list w.nodeValues),
    ("edges", .list w.edgeValues)] ++ more))

def state : State := { clock := ⟨{ year := 2026, month := 3, day := 5 }, []⟩ }

def pinging : Sent := sent "ping" []

def dated : Sent := sent "ping" [("__type__", .text "date"), ("__value__", .text "2026-01-02")]

def worthless : Fields := [("opportunity_value", .float .zero)]

def reviewing (w : Sent) : Body := body w []

def trying (w : Sent) (p : Fields) : Body := body w [("payload", .object p)]

def queueing (w : Sent) (payloads : List Fields) : Body :=
  body w [("payloads", .list (payloads.map .object))]

end Sample

set_option maxRecDepth 10000 in
theorem entry_points_agree_sample : ∃ reviewed tried queued,
    (answer {} Sample.state id (Sample.reviewing Sample.pinging) .review).outcome = .ok reviewed ∧
    (answer {} Sample.state id (Sample.trying Sample.pinging Sample.worthless) .preview).outcome =
      .ok tried ∧
    (answer {} Sample.state id (Sample.queueing Sample.pinging [Sample.worthless])
      .dispatch).outcome = .ok queued ∧
    reviewed.body.field "valid" = .bool true ∧
    Envelope.opened Sample.pinging.definition = .ok Sample.pinging.definition ∧
    Agree true Sample.pinging Sample.state
      (answer {} Sample.state id (Sample.queueing Sample.pinging [Sample.worthless])
        .dispatch).state
      reviewed tried queued := by
  obtain ⟨reviewed, h, hvalid⟩ : ∃ reviewed,
      (answer {} Sample.state id (Sample.reviewing Sample.pinging) .review).outcome = .ok reviewed ∧
        reviewed.body.field "valid" = .bool true := ⟨_, rfl, rfl⟩
  obtain ⟨tried, h'⟩ : ∃ tried,
      (answer {} Sample.state id (Sample.trying Sample.pinging Sample.worthless) .preview).outcome =
        .ok tried :=
    ⟨_, rfl⟩
  obtain ⟨queued, h''⟩ : ∃ queued,
      (answer {} Sample.state id (Sample.queueing Sample.pinging [Sample.worthless])
        .dispatch).outcome = .ok queued :=
    ⟨_, rfl⟩
  exact ⟨reviewed, tried, queued, h, h', h'', hvalid, rfl,
    entry_points_agree {} id id id Actions.standard_leave rfl rfl (State.fresh_of_nil rfl)
      rfl rfl rfl h h' h''⟩

set_option maxRecDepth 10000 in
theorem not_entry_points_agree_of_envelope : ¬ ∀ (c : Configuration) (s s' s'' : State)
    (tag tag' tag'' : Log.Record → Log.Record) (w : Sent) (b b' b'' : Body)
    (payload : Option Fields) (payloads : List Fields) (reviewed tried queued : Reply),
    c.actions.Leave → s'.rules = s.rules → s''.rules = s.rules → s''.Fresh →
    b.parse.bind (Body.record Sent.read) = .ok w →
    b'.parse.bind (Body.record Sent.readWithPayload) = .ok (w, payload) →
    b''.parse.bind (Body.record Sent.readWithPayloads) = .ok (w, payloads) →
    (answer c s tag b .review).outcome = .ok reviewed →
    (answer c s' tag' b' .preview).outcome = .ok tried →
    (answer c s'' tag'' b'' .dispatch).outcome = .ok queued →
    reviewed.body.field "valid" = .bool true →
      TasksFree queued (answer c s'' tag'' b'' .dispatch).state := by
  intro h
  have hfree := h {} Sample.state Sample.state Sample.state id id id Sample.dated
    (Sample.reviewing Sample.dated) (Sample.trying Sample.dated Sample.worthless)
    (Sample.queueing Sample.dated [Sample.worthless]) (some Sample.worthless) [Sample.worthless]
    _ _ _ Actions.standard_leave rfl rfl (State.fresh_of_nil rfl) rfl rfl rfl rfl rfl rfl rfl
  rcases hfree ["task-1"] rfl "task-1" (List.mem_singleton.mpr rfl) _ rfl with he | hi
  · cases he
  · cases hi

end Service

end Automation
