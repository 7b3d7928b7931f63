import Automation.Proofs.Run.Arrival

namespace Automation

abbrev NodeReply := Except Fault (Value × Option String)

namespace Action

def replying (reply : Node → Context → Situation → NodeReply) : Action where
  act n c s := (reply n c s).map fun p ↦
    { context := c, output := p.1, branch := textOrNull p.2 }

end Action

namespace NodeReply

def Fits : NodeReply → Prop
  | .ok p => p.2 ∈ [none, some "YES", some "NO"]
  | .error f => f.Told

end NodeReply

theorem Step.branchReader_textOrNull_iff {name : Option String} {b : Option Branch} :
    branchReader (textOrNull name) = .good b ↔ name = b.map Branch.name := by
  rw [branchReader_eq_good_iff]
  cases name <;> cases b.map Branch.name <;> simp [textOrNull]

namespace Actions

/-- The actions known from the start, with others beside or instead of them that only reply. -/
def Replying (actions : Actions) : Prop :=
  ∀ type, actions type = standard type ∨ ∃ reply, actions type = some (.replying reply)

variable {actions : Actions}

theorem standard_replying : standard.Replying := fun _ ↦ .inl rfl

theorem Replying.put (h : actions.Replying) (type : String)
    (reply : Node → Context → Situation → NodeReply) :
    (actions.put type (.replying reply)).Replying := by
  intro other
  unfold Actions.put
  split
  · exact .inr ⟨reply, rfl⟩
  · exact h other

theorem Replying.leave (h : actions.Replying) : actions.Leave := by
  intro type rules
  rcases h type with hstandard | ⟨reply, hreply⟩
  · have hfind : actions.find type = standard.find type := by simp only [find, hstandard]
    rw [hfind]
    exact standard_leave type rules
  · simp only [find, hreply]
    rfl

end Actions

namespace Run

inductive Records (a : Arrival) : NodeReply → Step → Prop
  | answer (output : Value) (b : Option Branch) :
      Records a (.ok (output, b.map Branch.name)) (.answering a.node a.index output b a.context)
  | fault {f : Fault} {m : String} (h : Tells f m) :
      Records a (.error f) (.failing a.node a.index m)

variable {actions : Actions} {s : Situation} {a : Arrival} {step : Step} {d : Context}
  {reply : Node → Context → Situation → NodeReply}

theorem attempt_of_replying (hcheck : a.rules.check a.node = .ok [])
    (h : actions a.node.type = some (.replying reply)) :
    (∃ d, (a.attempt actions s).outcome = .ok (step, d)) ↔
      Records a (reply a.node a.context s) step := by
  have hfind : actions.find a.node.type = .replying reply := by simp [Actions.find, h]
  simp only [Arrival.attempt, attempt_eq_ok_iff, hfind]
  constructor
  · rintro ⟨d, ⟨m, hf, rfl, -⟩ | ⟨o, b, -, hact, hb, rfl, -⟩⟩
    · -- As nothing is amiss, it can only be the action that failed.
      cases hf with
      | amiss hm => cases hcheck.symm.trans hm
      | @action f m _ hact hsaid =>
        rw [hfind] at hact
        rw [map_eq_error_iff.mp hact]
        exact .fault (Fault.said_eq_text_iff.mp hsaid)
    · obtain ⟨⟨output, branch⟩, hreply, rfl⟩ := map_eq_ok_iff.mp hact
      obtain rfl := Step.branchReader_textOrNull_iff.mp hb
      rw [hreply]
      exact .answer output b
  · intro hrecords
    generalize hreply : reply a.node a.context s = answer at hrecords
    cases hrecords with
    | answer output b =>
      refine ⟨_, .inr ⟨_, b, hcheck, map_eq_ok_iff.mpr ⟨_, hreply, rfl⟩, ?_, rfl, rfl⟩⟩
      exact Step.branchReader_textOrNull_iff.mpr rfl
    | fault hm =>
      refine ⟨_, .inl ⟨_, .action hcheck ?_ (Fault.said_eq_text_iff.mpr hm), rfl, rfl⟩⟩
      rw [hfind]
      exact map_eq_error_iff.mpr hreply

theorem exists_records_iff {answer : NodeReply} :
    (∃ step, Records a answer step) ↔ answer.Fits := by
  cases answer with
  | error f =>
    simp only [NodeReply.Fits, Fault.told_iff]
    constructor
    · rintro ⟨step, hstep⟩
      cases hstep with
      | fault hm => exact ⟨_, hm⟩
    · rintro ⟨m, hm⟩
      exact ⟨_, .fault hm⟩
  | ok p =>
    obtain ⟨output, branch⟩ := p
    simp only [NodeReply.Fits, List.mem_cons, List.not_mem_nil, or_false]
    constructor
    · rintro ⟨step, hstep⟩
      cases hstep with
      | answer _ b => rcases b with _ | _ | _ <;> simp [Branch.name]
    · rintro (rfl | rfl | rfl)
      · exact ⟨_, .answer output none⟩
      · exact ⟨_, .answer output (some .yes)⟩
      · exact ⟨_, .answer output (some .no)⟩

theorem Goes.length_of_error {rules : Rules} {index : Nat} {c : Context} {ns : List Node}
    {steps : List Step} {ending : Ending} (h : Goes actions s rules index c ns steps ending)
    {i : Nat} (hi : steps[i]? = some step) (herror : step.status = .error) :
    steps.length = i + 1 := by
  induction h generalizing i with
  | done => simp at hi
  | stop =>
    cases i with
    | zero => rfl
    | succ i => simp at hi
  | next _ _ _ _ ih =>
    cases i with
    | zero =>
      cases hi
      cases herror
    | succ i => exact congrArg (· + 1) (ih hi)

theorem attempt_isOk (hcheck : a.rules.check a.node = .ok [])
    (hbranches : (actions.find a.node.type).Branches) (htells : (actions.find a.node.type).Tells) :
    ∃ p, (a.attempt actions s).outcome = .ok p := by
  cases hact : (actions.find a.node.type).act a.node a.context s with
  | error f =>
    obtain ⟨m, hm⟩ := (htells _ _ _ f hact).said
    exact ⟨_, attempt_eq_ok_iff.mpr (.inl ⟨m, .action hcheck hact hm, rfl, rfl⟩)⟩
  | ok o =>
    obtain ⟨b, hb⟩ := Step.branchReader_good (hbranches _ _ _ o hact)
    exact ⟨_, attempt_eq_ok_iff.mpr (.inr ⟨o, b, hcheck, hact, hb, rfl, rfl⟩)⟩

end Run

namespace Engine

open Run

variable {e : Engine} {rules : Rules} {clock : Clock} {trigger nodes payload edges : Value}

theorem length_of_error {r : Result} {i : Nat} {step : Step}
    (hr : (e.run rules clock trigger nodes payload edges).outcome = .ok r)
    (hi : r.steps[i]? = some step) (herror : step.status = .error) : r.steps.length = i + 1 := by
  rcases run_eq_ok_iff.mp hr with ⟨_, _, -, rfl⟩ | ⟨ns, c, steps, ending, -, hg, rfl⟩
  · cases hi
  · rw [Ending.steps_result] at hi ⊢
    exact hg.length_of_error hi herror

/-- A run of a valid workflow has a result, whatever the actions reply that were registered beside
those known from the start, exactly if each reply that it is given fits into a step. Its steps then
go up to each node that was replied to, and say what the reply was. -/
theorem run_survives_replies (e : Engine) (rules : Rules) (clock : Clock)
    (trigger nodes payload edges : Value) {raw : List Value} {edgeCount : Nat}
    (hraw : nodes.elementsIfGiven = .ok raw) (hedges : edges.countIfGiven = .ok edgeCount)
    (hreview : Review.workflow rules trigger raw = .ok [])
    (hevent : ∀ t, Trigger.ofValue trigger = .ok t →
      ∃ c, Event.toContext t payload clock.read.1 = .ok c)
    (hactions : e.actions.Replying) :
    ((∃ r, (e.run rules clock trigger nodes payload edges).outcome = .ok r) ↔
        ∀ a reply, e.Reaches rules clock trigger nodes payload edges a →
          e.actions a.node.type = some (.replying reply) →
            (reply a.node a.context (e.situation clock)).Fits) ∧
      ∀ r, (e.run rules clock trigger nodes payload edges).outcome = .ok r →
        ∀ a reply, e.Reaches rules clock trigger nodes payload edges a →
          e.actions a.node.type = some (.replying reply) →
            ∃ i step, a.index = i + 1 ∧ r.steps[i]? = some step ∧
              Records a (reply a.node a.context (e.situation clock)) step ∧
              (step.status = .error → r.steps.length = i + 1) := by
  have hcheck (a : Arrival) (ha : e.Reaches rules clock trigger nodes payload edges a) :
      a.rules.check a.node = .ok [] :=
    ha.check_eq fun a _ ↦ hactions.leave a.node.type a.rules
  obtain ⟨⟨t, type, ht, -, -⟩, -, ns, hns⟩ := Review.workflow_eq_nil hreview
  obtain ⟨c, hc⟩ := hevent t ht
  have hp : (prepare rules clock.read.1 trigger nodes payload edges).outcome = .ok (.ready ns c) :=
    prepare_eq_ready_iff.mpr ⟨raw, t, hraw, ⟨_, hedges⟩, hreview, ht, hns, hc⟩
  refine ⟨?_, fun r hr a reply ha hreply ↦ ?_⟩
  · -- The actions known from the start never stand in the way, so that the replies alone decide.
    rw [run_isOk_iff hp]
    constructor
    · intro h a reply ha hreply
      obtain ⟨⟨step, d⟩, hd⟩ := h a ha
      exact exists_records_iff.mp
        ⟨step, (attempt_of_replying (hcheck a ha) hreply).mp ⟨d, hd⟩⟩
    · intro h a ha
      rcases hactions a.node.type with hstandard | ⟨reply, hreply⟩
      · have hfind : e.actions.find a.node.type = Actions.standard.find a.node.type := by
          simp only [Actions.find, hstandard]
        exact attempt_isOk (hcheck a ha) (hfind ▸ Actions.standard_branches a.node.type)
          (hfind ▸ Actions.standard_tells a.node.type)
      · obtain ⟨step, hstep⟩ := exists_records_iff.mpr (h a reply ha hreply)
        obtain ⟨d, hd⟩ := (attempt_of_replying (hcheck a ha) hreply).mpr hstep
        exact ⟨_, hd⟩
  · obtain ⟨i, step, d, hindex, hi, hd⟩ := ha.step hr
    exact ⟨i, step, hindex, hi, (attempt_of_replying (hcheck a ha) hreply).mp ⟨d, hd⟩,
      fun herror ↦ length_of_error hr hi herror⟩

end Engine

namespace Sample

def replying : Engine :=
  { actions := (Actions.standard.put "add_tag" (.replying fun _ _ _ ↦ .ok (.int 7, some "NO"))).put
      "send_notification" (.replying fun _ _ _ ↦ .error (.foreign .runtime "")) }

def undecided : Engine :=
  { actions := Actions.standard.put "add_tag" (.replying fun _ _ _ ↦ .ok (.null, some "MAYBE")) }

end Sample

set_option maxRecDepth 10000 in
theorem Engine.run_survives_replies_sample : ∃ r, (Sample.replying.run .standard Sample.clock
      Sample.trigger (.list [Sample.tagging, Sample.telling]) Sample.payload .null).outcome =
        .ok r ∧
    r.steps.length = 2 ∧ ∃ a step, r.steps[1]? = some step ∧
      Run.Records a (.error (.foreign .runtime "")) step := by
  obtain ⟨a, ha, hindex, hreply⟩ : ∃ a,
      Sample.replying.Reaches .standard Sample.clock Sample.trigger
      (.list [Sample.tagging, Sample.telling]) Sample.payload .null a ∧ a.index = 2 ∧
      Sample.replying.actions a.node.type =
        some (.replying fun _ _ _ ↦ .error (.foreign .runtime "")) :=
    ⟨_, ⟨_, _, rfl, .later rfl rfl rfl (.here ..)⟩, rfl, rfl⟩
  obtain ⟨r, hr, hl⟩ : ∃ r, (Sample.replying.run .standard Sample.clock Sample.trigger
      (.list [Sample.tagging, Sample.telling]) Sample.payload .null).outcome = .ok r ∧
      r.steps.length = 2 := ⟨_, rfl, rfl⟩
  obtain ⟨i, step, hi, hstep, hrecords, -⟩ := (Engine.run_survives_replies Sample.replying .standard
    Sample.clock Sample.trigger (.list [Sample.tagging, Sample.telling]) Sample.payload .null
    rfl rfl rfl
    (by
      rintro t ⟨⟩
      exact ⟨_, rfl⟩)
    ((Actions.standard_replying.put _ _).put _ _)).2 r hr a _ ha hreply
  obtain rfl : i = 1 := by omega
  exact ⟨r, hr, hl, a, step, hstep, hrecords⟩

set_option maxRecDepth 10000 in
theorem Engine.not_run_survives_of_branch : ¬ ∀ (e : Engine) (rules : Rules) (clock : Clock)
    (trigger nodes payload edges : Value) (raw : List Value) (edgeCount : Nat),
    nodes.elementsIfGiven = .ok raw → edges.countIfGiven = .ok edgeCount →
    Review.workflow rules trigger raw = .ok [] →
    (∀ t, Trigger.ofValue trigger = .ok t →
      ∃ c, Event.toContext t payload clock.read.1 = .ok c) →
    e.actions.Replying → ∃ r, (e.run rules clock trigger nodes payload edges).outcome = .ok r := by
  intro h
  obtain ⟨r, hr⟩ := h Sample.undecided .standard Sample.clock Sample.trigger
    (.list [Sample.tagging]) Sample.payload .null _ _ rfl rfl rfl
    (by
      rintro t ⟨⟩
      exact ⟨_, rfl⟩)
    (Actions.standard_replying.put _ _)
  cases hr

end Automation
