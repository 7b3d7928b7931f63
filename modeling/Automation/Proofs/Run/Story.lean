import Automation.Proofs.Run.Warning

namespace Automation

namespace Run

def own (records : List Log.Record) : List Log.Record :=
  records.filter fun r ↦ r.logger = "autoflow.core.engine"

def faultRecord (n : Node) (f : Fault) : Log.Record :=
  if f.isFailure then note Log.error ("Node " ++ nodeName n ++ " failed: " ++ f.message) [] false
  else note Log.error ("Unexpected error executing node " ++ nodeName n) [] true

/-- Whether a record tells of a step, given the nodes that the run has come to. -/
inductive Recounts (actions : Actions) (s : Situation) (met : Arrival → Prop) :
    Step → Log.Record → Prop
  | success {step : Step} (hs : step.status = .success) (message : String) :
      Recounts actions s met step (note Log.info message
        [("node_id", textOrNull step.nodeId), ("node_type", .text step.nodeType),
          ("index", .int step.index),
          ("branch_taken", textOrNull (step.branch.map Branch.name))] false)
  | failure {a : Arrival} {f : Fault} {m : String} (ha : met a)
      (hf : (actions.find a.node.type).act a.node a.context s = .error f) (hm : Tells f m) :
      Recounts actions s met (.failing a.node a.index m) (faultRecord a.node f)

def Ending.lastWord : Ending → List Log.Record
  | .completed _ => []
  | .stopped n m =>
    [note Log.error ("Workflow run failed at node " ++ n.shownId ++ ": " ++ m) [] false]

def Ending.farewell (steps : List Step) : Ending → List Log.Record
  | .completed _ =>
    [note Log.info ("Workflow run completed successfully (" ++ intText steps.length ++
      " nodes executed)") [] false]
  | .stopped _ _ => []

variable {actions : Actions} {s : Situation} {met met' : Arrival → Prop} {rules : Rules}
  {index : Nat} {c : Context} {n : Node} {ns : List Node} {steps : List Step} {ending : Ending}

theorem Recounts.imp {step : Step} {r : Log.Record} (hmet : ∀ a, met a → met' a)
    (h : Recounts actions s met step r) : Recounts actions s met' step r := by
  cases h with
  | success hs message => exact .success hs message
  | failure ha hf hm => exact .failure (hmet _ ha) hf hm

theorem course_of_fault {f : Fault} {m : String} (rest : List Node) (hc : rules.check n = .ok [])
    (ha : (actions.find n.type).act n c s = .error f) (hm : said f = .text m) :
    (course actions s rules index c (n :: rest)).records =
      [faultRecord n f] ++ (Ending.stopped n m).lastWord := by
  have hout : (attempt actions s rules index c n).outcome = .ok (.failing n index m, c) :=
    attempt_eq_ok_iff.mpr (.inl ⟨m, .action hc ha hm, rfl, rfl⟩)
  have hrecords : (attempt actions s rules index c n).records = [faultRecord n f] := by
    simp only [attempt, hc, ha, failed, faultRecord]
  simp only [course, hout, hrecords]
  rfl

theorem course_of_answer {o : Outcome} {b : Option Branch} (rest : List Node)
    (hc : rules.check n = .ok []) (ha : (actions.find n.type).act n c s = .ok o)
    (hb : Step.branchReader o.branch = .good b) :
    (course actions s rules index c (n :: rest)).records =
      note Log.info ("Node " ++ nodeName n ++ " completed in 0.0000s")
        (nodeFields n index ++ [("branch_taken", o.branch)]) false ::
      (course actions s ((actions.find n.type).amend rules) (index + 1) o.context
        rest).records := by
  have hout : (attempt actions s rules index c n).outcome =
      .ok (.answering n index o.output b o.context, o.context) :=
    attempt_eq_ok_iff.mpr (.inr ⟨o, b, hc, ha, hb, rfl, rfl⟩)
  have hrecords : (attempt actions s rules index c n).records =
      [note Log.info ("Node " ++ nodeName n ++ " completed in 0.0000s")
        (nodeFields n index ++ [("branch_taken", o.branch)]) false] := by
    simp only [attempt, hc, ha, answered]
  simp only [course, hout, hrecords, attempt_rules hc ha]
  rfl

/-- A run leaves one record of each node that it comes to, and a last word where it fails. -/
theorem Goes.told (h : Goes actions s rules index c ns steps ending)
    (hclear : ∀ a, Arrives actions s rules index c ns a → a.rules.check a.node = .ok []) :
    ∃ told, List.Forall₂ (Recounts actions s (Arrives actions s rules index c ns)) steps told ∧
      (course actions s rules index c ns).records = told ++ ending.lastWord := by
  induction h with
  | done => exact ⟨[], .nil, rfl⟩
  | @stop rules index c n m rest hf =>
    have hhere : Arrives actions s rules index c (n :: rest) ⟨rules, index, c, n⟩ := .here ..
    cases hf with
    | amiss hm => cases (hclear _ hhere).symm.trans hm
    | @action f m hc ha hm =>
      refine ⟨[faultRecord n f], .cons ?_ .nil, course_of_fault rest hc ha hm⟩
      exact .failure hhere ha (Fault.said_eq_text_iff.mp hm)
  | @next rules index c n o b rest steps ending hc ha hb _ ih =>
    have hlater a (ha' : Arrives actions s ((actions.find n.type).amend rules) (index + 1) o.context
        rest a) : Arrives actions s rules index c (n :: rest) a := .later hc ha hb ha'
    obtain ⟨told, htold, hrecords⟩ := ih fun a ha' ↦ hclear a (hlater a ha')
    have hstatus : (Step.answering n index o.output b o.context).status = .success := rfl
    refine ⟨_, .cons ?_ (htold.imp fun _ _ ↦ Recounts.imp hlater),
      (course_of_answer rest hc ha hb).trans (congrArg _ hrecords)⟩
    rw [Step.branchReader_eq_good_iff.mp hb]
    exact .success hstatus _

theorem own_append (xs ys : List Log.Record) : own (xs ++ ys) = own xs ++ own ys :=
  List.filter_append ..

theorem own_eq_nil {α : Type} {x : Traced α} (h : x.Leaves IsAside) : own x.records = [] :=
  List.filter_eq_nil_iff.mpr fun r hr ↦ by simpa using (h r hr).2

theorem Recounts.logger {step : Step} {r : Log.Record} (h : Recounts actions s met step r) :
    r.logger = "autoflow.core.engine" := by
  cases h with
  | success => rfl
  | @failure a f _ _ _ _ =>
    unfold faultRecord
    split <;> rfl

theorem own_eq_self {told : List Log.Record}
    (h : List.Forall₂ (Recounts actions s met) steps told) : own told = told := by
  refine List.filter_eq_self.mpr fun r hr ↦ decide_eq_true ?_
  obtain ⟨step, -, hstep⟩ := exists_of_forall₂ h hr
  exact hstep.logger

theorem own_lastWord (ending : Ending) : own ending.lastWord = ending.lastWord := by
  cases ending <;> rfl

theorem own_farewell (ending : Ending) : own (ending.farewell steps) = ending.farewell steps := by
  cases ending <;> rfl

variable {now : Instant} {trigger nodes payload edges : Value}

def opening (trigger : Value) (nodeCount edgeCount : Nat) : Log.Record :=
  note Log.info ("Starting workflow run (trigger: " ++
    Trigger.shownType (triggerType trigger) ++ ", " ++ intText nodeCount ++ " nodes, " ++
    intText edgeCount ++ " edges not followed)") [] false

theorem own_prepare_of_invalid {first : Issue} {more : List Issue}
    (h : (prepare rules now trigger nodes payload edges).outcome = .ok (.invalid first more)) :
    ∃ raw count, nodes.elementsIfGiven = .ok raw ∧ edges.countIfGiven = .ok count ∧
      own (prepare rules now trigger nodes payload edges).records =
        [opening trigger raw.length count,
          note Log.warning ("Workflow invalid, no node executed: " ++ first.message)
            [("issue_count", .int (first :: more).length)] false] := by
  obtain ⟨raw, hraw, ⟨count, hcount⟩, hw⟩ := prepare_eq_invalid_iff.mp h
  refine ⟨raw, count, hraw, hcount, ?_⟩
  have hreview := own_eq_nil (review_leaves rules trigger raw)
  unfold prepare
  simp only [Traced.bind_records, Traced.lift, Traced.log, hraw, hcount, review_outcome, hw,
    own_append]
  rw [hreview]
  rfl

theorem own_prepare_of_ready
    (h : (prepare rules now trigger nodes payload edges).outcome = .ok (.ready ns c)) :
    ∃ raw count, nodes.elementsIfGiven = .ok raw ∧ edges.countIfGiven = .ok count ∧
      own (prepare rules now trigger nodes payload edges).records =
        [opening trigger raw.length count] := by
  obtain ⟨raw, t, hraw, ⟨count, hcount⟩, hw, ht, hns, hc⟩ := prepare_eq_ready_iff.mp h
  refine ⟨raw, count, hraw, hcount, ?_⟩
  have hreview := own_eq_nil (review_leaves rules trigger raw)
  have hevent := own_eq_nil (event_leaves t payload now)
  unfold prepare
  simp only [Traced.bind_records, Traced.lift, Traced.log, hraw, hcount, review_outcome, hw, ht,
    hns, event_outcome, hc, own_append]
  rw [hreview, hevent]
  rfl

/-- What the log of a run says after its opening, given the nodes that the run has come to. -/
inductive Story (actions : Actions) (s : Situation) (met : Arrival → Prop) (r : Result) :
    List Log.Record → Prop
  | invalid {stop : Stop} {issues : List Issue} (hsteps : r.steps = []) (hstop : r.stop = some stop)
      (hissues : stop.issues = some issues) :
      Story actions s met r
        [note Log.warning ("Workflow invalid, no node executed: " ++ stop.message)
          [("issue_count", .int issues.length)] false]
  | completed {told : List Log.Record} (hstop : r.stop = none)
      (htold : List.Forall₂ (Recounts actions s met) r.steps told) :
      Story actions s met r (told ++ [note Log.info ("Workflow run completed successfully (" ++
        intText r.steps.length ++ " nodes executed)") [] false])
  | stopped {told : List Log.Record} {stop : Stop} {last : Step} {m : String}
      (hstop : r.stop = some stop) (hissues : stop.issues = none)
      (htold : List.Forall₂ (Recounts actions s met) r.steps told)
      (hlast : r.steps.getLast? = some last) (hid : last.nodeId = stop.nodeId)
      (hm : last.error = some m) :
      Story actions s met r (told ++ [note Log.error ("Workflow run failed at node " ++
        stop.nodeId.getD "None" ++ ": " ++ m) [] false])

theorem story_of_invalid (type : Option String) (startedAt : String) (first : Issue)
    (more : List Issue) :
    Story actions s met (Run.invalid type startedAt first more)
      [note Log.warning ("Workflow invalid, no node executed: " ++ first.message)
        [("issue_count", .int (first :: more).length)] false] := by
  have hstop : (Run.invalid type startedAt first more).stop =
      some ⟨first.nodeId, first.message, some (first :: more)⟩ := rfl
  exact Story.invalid rfl hstop rfl

theorem Goes.story {type : Option String} {startedAt completedAt : String} {told : List Log.Record}
    (h : Goes actions s rules index c ns steps ending)
    (htold : List.Forall₂ (Recounts actions s met) steps told) :
    Story actions s met (ending.result type startedAt completedAt steps)
      (told ++ (ending.lastWord ++ ending.farewell steps)) := by
  cases ending with
  | completed d => exact Story.completed rfl htold
  | stopped n m =>
    obtain ⟨earlier, hsteps, -, -⟩ := h.stopped_steps
    have hlast : steps.getLast? = some (.failing n (index + earlier.length) m) := by
      rw [hsteps, List.getLast?_concat]
    have hstop : (Run.stopped type startedAt steps n m).stop = some ⟨n.id, m, none⟩ := rfl
    -- Stated before the goal is compared with it, which would otherwise take the texts apart.
    have hstory :=
      Story.stopped (r := Run.stopped type startedAt steps n m) hstop rfl htold hlast rfl rfl
    rw [Ending.farewell, List.append_nil]
    exact hstory

end Run

namespace Engine

open Run

variable {e : Engine} {rules : Rules} {clock : Clock} {trigger nodes payload edges : Value}
  {ns : List Node} {c : Context} {steps : List Step} {ending : Ending}

theorem records_of_invalid {first : Issue} {more : List Issue}
    (h : (prepare rules clock.read.1 trigger nodes payload edges).outcome =
      .ok (.invalid first more)) :
    (e.run rules clock trigger nodes payload edges).records =
      (prepare rules clock.read.1 trigger nodes payload edges).records := by
  simp only [run, h]

theorem records_of_ready
    (h : (prepare rules clock.read.1 trigger nodes payload edges).outcome = .ok (.ready ns c))
    (hg : Goes e.actions (e.situation clock) rules 1 c ns steps ending) :
    (e.run rules clock trigger nodes payload edges).records =
      (prepare rules clock.read.1 trigger nodes payload edges).records ++
        (course e.actions (e.situation clock) rules 1 c ns).records ++ ending.farewell steps := by
  have hc := course_eq_ok_iff.mpr hg
  cases ending with
  | completed d => simp only [run, h, hc, Ending.farewell]
  | stopped n m => simp only [run, h, hc, Ending.farewell, List.append_nil]

theorem own_records_of_ready
    (h : (prepare rules clock.read.1 trigger nodes payload edges).outcome = .ok (.ready ns c))
    (hg : Goes e.actions (e.situation clock) rules 1 c ns steps ending)
    (hclear : ∀ a, e.Reaches rules clock trigger nodes payload edges a →
      a.rules.check a.node = .ok []) :
    ∃ told, List.Forall₂ (Recounts e.actions (e.situation clock)
        (e.Reaches rules clock trigger nodes payload edges)) steps told ∧
      own (e.run rules clock trigger nodes payload edges).records =
        own (prepare rules clock.read.1 trigger nodes payload edges).records ++
          (told ++ (ending.lastWord ++ ending.farewell steps)) := by
  have hreaches a (ha : Arrives e.actions (e.situation clock) rules 1 c ns a) :
      e.Reaches rules clock trigger nodes payload edges a := ⟨ns, c, h, ha⟩
  obtain ⟨told, htold, hrecords⟩ := hg.told fun a ha ↦ hclear a (hreaches a ha)
  refine ⟨told, htold.imp fun _ _ ↦ Recounts.imp hreaches, ?_⟩
  rw [records_of_ready h hg, hrecords, own_append, own_append, own_append, own_eq_self htold,
    own_lastWord, own_farewell, List.append_assoc, List.append_assoc]

/-- A run with the actions known from the start leaves a log that tells the same as its result: how
it started, what came of each node in turn, and how it ended. -/
theorem run_tells_story (unknownCondition : Bool) (rules : Rules) (clock : Clock)
    (trigger nodes payload edges : Value) {r : Result}
    (h : (Engine.run { unknownCondition } rules clock trigger nodes payload edges).outcome =
      .ok r) :
    ∃ raw count later, nodes.elementsIfGiven = .ok raw ∧ edges.countIfGiven = .ok count ∧
      own (Engine.run { unknownCondition } rules clock trigger nodes payload edges).records =
        opening trigger raw.length count :: later ∧
      Story .standard ⟨clock.read.1, unknownCondition⟩
        (Engine.Reaches { unknownCondition } rules clock trigger nodes payload edges) r later := by
  rcases run_eq_ok_iff.mp h with ⟨first, more, hp, rfl⟩ | ⟨ns, c, steps, ending, hp, hg, rfl⟩
  · obtain ⟨raw, count, hraw, hcount, hown⟩ := own_prepare_of_invalid hp
    exact ⟨raw, count, _, hraw, hcount, (congrArg own (records_of_invalid hp)).trans hown,
      story_of_invalid _ _ first more⟩
  · obtain ⟨raw, count, hraw, hcount, hopening⟩ := own_prepare_of_ready hp
    obtain ⟨told, htold, hown⟩ := own_records_of_ready hp hg fun a ha ↦
      ha.check_eq fun a _ ↦ Actions.standard_leave a.node.type a.rules
    rw [hopening] at hown
    exact ⟨raw, count, _, hraw, hcount, hown, hg.story htold⟩

end Engine

set_option maxRecDepth 10000 in
theorem Engine.run_tells_story_sample : ∃ r, Sample.outcome = .ok r ∧ ∃ raw count later,
    (Value.list [Sample.tagging, Sample.telling]).elementsIfGiven = .ok raw ∧
    Value.null.countIfGiven = .ok count ∧
    Run.own (Engine.run {} .standard Sample.clock Sample.trigger
      (.list [Sample.tagging, Sample.telling]) Sample.payload .null).records =
        Run.opening Sample.trigger raw.length count :: later ∧
    Run.Story .standard ⟨Sample.clock.read.1, true⟩ (Engine.Reaches {} .standard Sample.clock
      Sample.trigger (.list [Sample.tagging, Sample.telling]) Sample.payload .null) r later := by
  obtain ⟨r, hr⟩ : ∃ r, Sample.outcome = .ok r := ⟨_, rfl⟩
  exact ⟨r, hr, Engine.run_tells_story true .standard Sample.clock Sample.trigger
    (.list [Sample.tagging, Sample.telling]) Sample.payload .null hr⟩

end Automation
