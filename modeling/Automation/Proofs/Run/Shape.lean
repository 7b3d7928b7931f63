import Automation.Proofs.Run.Outcome
import Automation.Proofs.Run.Telling

namespace Automation

/-- Rules that answer at each node in turn, amended on the way as actions amend them. -/
def Rules.Answer (actions : Actions) : Rules → List Node → Prop
  | _, [] => True
  | rules, n :: rest =>
    (∃ ms, rules.check n = .ok ms) ∧ Answer actions ((actions.find n.type).amend rules) rest

inductive Shape where
  | invalid
  | failed (position : Nat)
  | completed
  deriving DecidableEq, Repr

namespace Result

def NodeAt (raw : List Value) (i : Nat) (n : Node) : Prop :=
  ∃ v, raw[i]? = some v ∧ Node.ofValue v = .ok n

structure Invalid (issues : List Issue) (r : Result) : Prop where
  success : r.success = false
  steps : r.steps = []
  stop : ∃ first more, issues = first :: more ∧
    r.stop = some { nodeId := first.nodeId, message := first.message, issues := some issues }
  final : r.final = none
  completedAt : r.completedAt = none

structure FailedAt (raw : List Value) (position : Nat) (r : Result) : Prop where
  success : r.success = false
  steps : ∃ earlier last n m, r.steps = earlier ++ [last] ∧ earlier.length + 1 = position ∧
    (∀ step ∈ earlier, step.status = .success) ∧
    last.status = .error ∧ last.output = .null ∧ last.after = none ∧ last.error = some m ∧
    NodeAt raw earlier.length n ∧ r.stop = some { nodeId := n.id, message := m, issues := none }
  final : r.final = none
  completedAt : r.completedAt = none

structure Completed (raw : List Value) (r : Result) : Prop where
  success : r.success = true
  length : r.steps.length = raw.length
  steps : ∀ step ∈ r.steps, step.status = .success
  stop : r.stop = none
  final : ∃ c, r.final = some c ∧ ∃ last, r.steps.getLast? = some last ∧ last.after = some c
  completedAt : ∃ t, r.completedAt = some t

def Has (raw : List Value) (issues : List Issue) (r : Result) : Shape → Prop
  | .invalid => r.Invalid issues
  | .failed position => r.FailedAt raw position
  | .completed => r.Completed raw

def Numbered (raw : List Value) (r : Result) : Prop :=
  ∀ i step, r.steps[i]? = some step →
    ∃ n, NodeAt raw i n ∧ step.index = i + 1 ∧ step.nodeId = n.id ∧ step.nodeType = n.type

variable {raw : List Value} {issues : List Issue} {r : Result}

theorem nodeAt_of_mapM {ns : List Node} {i : Nat} {n : Node} (h : raw.mapM Node.ofValue = .ok ns)
    (hi : ns[i]? = some n) : NodeAt raw i n := by
  induction mapM_eq_ok_iff.mp h generalizing i with
  | nil => simp at hi
  | @cons v m raw ns hv _ ih =>
    cases i with
    | zero =>
      cases hi
      exact ⟨v, rfl, hv⟩
    | succ i => exact ih (mapM_eq_ok_iff.mpr ‹_›) hi

theorem getElem?_of_nodeAt {ns : List Node} {i : Nat} {n : Node}
    (h : raw.mapM Node.ofValue = .ok ns) (hn : NodeAt raw i n) : ns[i]? = some n := by
  obtain ⟨v, hv, hread⟩ := hn
  have hlength : raw.length = ns.length := (mapM_eq_ok_iff.mp h).length_eq
  have hi : i < ns.length := hlength ▸ (List.getElem?_eq_some_iff.mp hv).1
  have hsome : ns[i]? = some ns[i] := List.getElem?_eq_getElem hi
  obtain ⟨v', hv', hread'⟩ := nodeAt_of_mapM h hsome
  obtain rfl : v = v' := Option.some.inj (hv.symm.trans hv')
  rw [hsome, Except.ok.inj (hread'.symm.trans hread)]

theorem Invalid.not_failedAt {position : Nat} (h : r.Invalid issues) :
    ¬ r.FailedAt raw position := by
  rintro ⟨-, ⟨earlier, last, n, m, hs, -⟩, -, -⟩
  simp [h.steps] at hs

theorem FailedAt.position_unique {k l : Nat} (hk : r.FailedAt raw k) (hl : r.FailedAt raw l) :
    k = l := by
  obtain ⟨-, ⟨earlier, last, n, m, hs, rfl, -⟩, -, -⟩ := hk
  obtain ⟨-, ⟨earlier', last', n', m', hs', rfl, -⟩, -, -⟩ := hl
  have := congrArg List.length (hs.symm.trans hs')
  simpa using this

theorem Has.unique {a b : Shape} (ha : r.Has raw issues a) (hb : r.Has raw issues b) : a = b := by
  cases a with
  | invalid =>
    cases b with
    | invalid => rfl
    | failed l => exact absurd hb (Invalid.not_failedAt ha)
    | completed => cases (Invalid.success ha).symm.trans (Completed.success hb)
  | failed k =>
    cases b with
    | invalid => exact absurd ha (Invalid.not_failedAt hb)
    | failed l => rw [FailedAt.position_unique ha hb]
    | completed => cases (FailedAt.success ha).symm.trans (Completed.success hb)
  | completed =>
    cases b with
    | invalid => cases (Invalid.success hb).symm.trans (Completed.success ha)
    | failed l => cases (FailedAt.success hb).symm.trans (Completed.success ha)
    | completed => rfl

end Result

namespace Run

variable {actions : Actions} {s : Situation} {rules : Rules} {index : Nat} {c d : Context}
  {n : Node} {ns : List Node} {steps : List Step} {ending : Ending} {m : String}

/-- Where nothing is in its way, a run goes on until it fails at a node or has come to all of them.
-/
theorem Goes.exists_of_answer (hb : ∀ type, (actions.find type).Branches)
    (ht : ∀ type, (actions.find type).Tells) (hr : rules.Answer actions ns) :
    ∃ steps ending, Goes actions s rules index c ns steps ending := by
  induction ns generalizing rules index c with
  | nil => exact ⟨[], _, .done rules index c⟩
  | cons n rest ih =>
    obtain ⟨⟨ms, hms⟩, hr⟩ := hr
    cases ms with
    | cons m ms => exact ⟨_, _, .stop rest (.amiss hms)⟩
    | nil =>
      cases ha : (actions.find n.type).act n c s with
      | error f =>
        obtain ⟨m, hm⟩ := (ht n.type n c s f ha).said
        exact ⟨_, _, .stop rest (.action hms ha hm)⟩
      | ok o =>
        obtain ⟨b, hb'⟩ := Step.branchReader_good (hb n.type n c s o ha)
        obtain ⟨steps, ending, hg⟩ := ih hr
        exact ⟨_, _, .next hms ha hb' hg⟩

theorem Goes.numbered (h : Goes actions s rules index c ns steps ending) {i : Nat} {step : Step}
    (hi : steps[i]? = some step) : ∃ n, ns[i]? = some n ∧ step.index = index + i ∧
      step.nodeId = n.id ∧ step.nodeType = n.type := by
  induction h generalizing i with
  | done => simp at hi
  | @stop _ _ _ n =>
    cases i with
    | zero =>
      cases hi
      exact ⟨n, rfl, rfl, rfl, rfl⟩
    | succ i => simp at hi
  | @next _ _ _ n _ _ _ _ _ _ _ _ _ ih =>
    cases i with
    | zero =>
      cases hi
      exact ⟨n, rfl, rfl, rfl, rfl⟩
    | succ i =>
      obtain ⟨n', hn, hs, hid⟩ := ih hi
      exact ⟨n', hn, by omega, hid⟩

theorem Goes.stopped_steps (h : Goes actions s rules index c ns steps (.stopped n m)) :
    ∃ earlier, steps = earlier ++ [.failing n (index + earlier.length) m] ∧
      ns[earlier.length]? = some n ∧ ∀ step ∈ earlier, step.status = .success := by
  generalize he : Ending.stopped n m = ending at h
  induction h with
  | done => cases he
  | stop rest _ =>
    cases he
    exact ⟨[], rfl, rfl, by simp⟩
  | @next _ index _ n' o b _ _ _ _ _ _ _ ih =>
    obtain ⟨earlier, rfl, hn, hs⟩ := ih he
    refine ⟨.answering n' index o.output b o.context :: earlier, ?_, hn,
      List.forall_mem_cons.mpr ⟨rfl, hs⟩⟩
    rw [List.cons_append, List.length_cons, Nat.add_right_comm, Nat.add_assoc]

theorem Goes.completed_steps (h : Goes actions s rules index c ns steps (.completed d)) :
    steps.length = ns.length ∧ ∀ step ∈ steps, step.status = .success := by
  generalize he : Ending.completed d = ending at h
  induction h with
  | done => simp
  | stop => cases he
  | next _ _ _ _ ih =>
    obtain ⟨hl, hs⟩ := ih he
    exact ⟨by simp [hl], List.forall_mem_cons.mpr ⟨rfl, hs⟩⟩

theorem Goes.completed_last (h : Goes actions s rules index c ns steps (.completed d))
    (hns : ns ≠ []) : ∃ last, steps.getLast? = some last ∧ last.after = some d := by
  generalize he : Ending.completed d = ending at h
  induction h with
  | done => exact absurd rfl hns
  | stop => cases he
  | @next _ _ _ _ _ _ rest steps _ _ _ _ hr ih =>
    cases hr with
    | done =>
      cases he
      exact ⟨_, rfl, rfl⟩
    | stop => cases he
    | next =>
      obtain ⟨last, hl, ha⟩ := ih (List.cons_ne_nil _ _) he
      exact ⟨last, by rw [List.getLast?_cons_cons, hl], ha⟩

theorem result_has_shape {raw : List Value} {issues : List Issue} {type : Option String}
    {startedAt completedAt : String} (hns : raw.mapM Node.ofValue = .ok ns) (hne : ns ≠ [])
    (hg : Goes actions s rules 1 c ns steps ending) :
    (∃ shape, (ending.result type startedAt completedAt steps).Has raw issues shape) ∧
      (ending.result type startedAt completedAt steps).Numbered raw := by
  constructor
  · cases ending with
    | stopped n m =>
      obtain ⟨earlier, hs, hn, hall⟩ := hg.stopped_steps
      exact ⟨.failed (earlier.length + 1), rfl,
        ⟨earlier, _, n, m, hs, rfl, hall, rfl, rfl, rfl, rfl,
        Result.nodeAt_of_mapM hns hn, rfl⟩, rfl, rfl⟩
    | completed d =>
      obtain ⟨hl, hall⟩ := hg.completed_steps
      have hlen := (mapM_eq_ok_iff.mp hns).length_eq
      exact ⟨.completed, rfl, hl.trans hlen.symm, hall, rfl, ⟨d, rfl, hg.completed_last hne⟩, _,
        rfl⟩
  · intro i step hi
    have hi : steps[i]? = some step := by
      cases ending <;> exact hi
    obtain ⟨n, hn, hs, hid⟩ := hg.numbered hi
    exact ⟨n, Result.nodeAt_of_mapM hns hn, by omega, hid⟩

/-- A run has a result of exactly one shape, whatever actions it has, as long as the review, the
event and the rules give an answer, branches are branches, and each fault can be told. -/
theorem run_has_one_shape (e : Engine) (rules : Rules) (clock : Clock)
    (trigger nodes payload edges : Value) {raw : List Value} {edgeCount : Nat} {issues : List Issue}
    (hraw : nodes.elementsIfGiven = .ok raw) (hedges : edges.countIfGiven = .ok edgeCount)
    (hreview : Review.workflow rules trigger raw = .ok issues)
    (hevent : ∀ t, Trigger.ofValue trigger = .ok t →
      ∃ c, Event.toContext t payload clock.read.1 = .ok c)
    (hrules : ∀ ns, raw.mapM Node.ofValue = .ok ns → rules.Answer e.actions ns)
    (hbranches : ∀ type, (e.actions.find type).Branches)
    (htells : ∀ type, (e.actions.find type).Tells) :
    ∃ r, (e.run rules clock trigger nodes payload edges).outcome = .ok r ∧
      (∃! shape, r.Has raw issues shape) ∧ r.Numbered raw := by
  suffices h : ∃ r, (e.run rules clock trigger nodes payload edges).outcome = .ok r ∧
      (∃ shape, r.Has raw issues shape) ∧ r.Numbered raw by
    obtain ⟨r, hr, ⟨shape, hs⟩, hn⟩ := h
    exact ⟨r, hr, ⟨shape, hs, fun _ hs' ↦ hs'.unique hs⟩, hn⟩
  cases issues with
  | cons first more =>
    have hp : (prepare rules clock.read.1 trigger nodes payload edges).outcome =
        .ok (.invalid first more) :=
      prepare_eq_ok_iff.mpr ⟨raw, hraw, ⟨_, hedges⟩, .inl ⟨first, more, hreview, rfl⟩⟩
    refine ⟨_, Engine.run_of_invalid hp,
      ⟨.invalid, rfl, rfl, ⟨first, more, rfl, rfl⟩, rfl, rfl⟩, ?_⟩
    intro i step hi
    simp [invalid] at hi
  | nil =>
    obtain ⟨⟨t, type, ht, -, -⟩, hne, ns, hns⟩ := Review.workflow_eq_nil hreview
    obtain ⟨c, hc⟩ := hevent t ht
    have hp : (prepare rules clock.read.1 trigger nodes payload edges).outcome =
        .ok (.ready ns c) :=
      prepare_eq_ok_iff.mpr ⟨raw, hraw, ⟨_, hedges⟩, .inr ⟨hreview, t, ns, c, ht, hns, hc, rfl⟩⟩
    obtain ⟨steps, ending, hg⟩ : ∃ steps ending,
        Goes e.actions ⟨clock.read.1, e.unknownCondition⟩ rules 1 c ns steps ending :=
      Goes.exists_of_answer hbranches htells (hrules ns hns)
    exact ⟨_, Engine.run_of_ready hp hg, result_has_shape hns (ne_nil_of_mapM hns hne) hg⟩

set_option maxRecDepth 10000 in
theorem run_has_one_shape_sample : ∃ r, Sample.outcome = .ok r ∧
    (∃! shape, r.Has [Sample.tagging, Sample.telling] [] shape) ∧
    r.Numbered [Sample.tagging, Sample.telling] := by
  refine run_has_one_shape {} .standard Sample.clock Sample.trigger
    (.list [Sample.tagging, Sample.telling]) Sample.payload .null rfl rfl rfl ?_ ?_
    Actions.standard_branches Actions.standard_tells
  · rintro t ⟨⟩
    exact ⟨_, rfl⟩
  · rintro ns ⟨⟩
    exact ⟨⟨_, rfl⟩, ⟨_, rfl⟩, trivial⟩

def wordless : Fault := .failure (.execution (.stated (.int 5)) .null .null)

set_option maxRecDepth 10000 in
theorem not_run_has_one_shape_of_wordless : ¬ ∀ (e : Engine) (rules : Rules) (clock : Clock)
    (trigger nodes payload edges : Value) (raw : List Value) (edgeCount : Nat)
    (issues : List Issue),
    nodes.elementsIfGiven = .ok raw → edges.countIfGiven = .ok edgeCount →
    Review.workflow rules trigger raw = .ok issues →
    (∀ t, Trigger.ofValue trigger = .ok t →
      ∃ c, Event.toContext t payload clock.read.1 = .ok c) →
    (∀ ns, raw.mapM Node.ofValue = .ok ns → rules.Answer e.actions ns) →
    (∀ type, (e.actions.find type).Branches) →
    ∃ r, (e.run rules clock trigger nodes payload edges).outcome = .ok r ∧
      (∃! shape, r.Has raw issues shape) ∧ r.Numbered raw := by
  intro h
  obtain ⟨r, hr, -⟩ := h { actions := Actions.standard.put "add_tag" (.failing wordless) }
    .standard Sample.clock Sample.trigger (.list [Sample.tagging]) Sample.payload .null
    _ _ _ rfl rfl rfl
    (by
      rintro t ⟨⟩
      exact ⟨_, rfl⟩)
    (by
      rintro ns ⟨⟩
      exact ⟨⟨_, rfl⟩, trivial⟩)
    (by
      intro type
      by_cases ht : type = "add_tag"
      · rw [ht, Actions.find_put_self]
        rintro n c s o ⟨⟩
      · rw [Actions.find_put_other _ _ ht]
        exact Actions.standard_branches type)
  cases hr

end Run

end Automation
