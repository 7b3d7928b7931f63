import Automation.Proofs.Run.Arrival
import Automation.Proofs.Traced

namespace Automation

namespace Run

variable {actions : Actions} {s : Situation} {rules : Rules} {index : Nat} {c : Context} {n : Node}
  {ns : List Node}

/-- The records of a course are those of its arrivals, and the last word on a failure. -/
theorem mem_records_of_course {record : Log.Record}
    (h : record ∈ (course actions s rules index c ns).records) :
    (∃ a, Arrives actions s rules index c ns a ∧ record ∈ (a.attempt actions s).records) ∨
      record.level = Log.error := by
  induction ns generalizing rules index c with
  | nil => simp [course] at h
  | cons n rest ih =>
    have hhere (hm : record ∈ (attempt actions s rules index c n).records) :
        ∃ a, Arrives actions s rules index c (n :: rest) a ∧
          record ∈ (a.attempt actions s).records :=
      ⟨_, .here rules index c n rest, hm⟩
    -- Whether the course goes on is told by the first attempt; where it fails, one record is added.
    simp only [course] at h
    split at h
    · exact .inl (hhere h)
    · next step d hp =>
      rcases attempt_eq_ok_iff.mp hp with ⟨m, -, rfl, -⟩ | ⟨o, b, hc, ho, hb, rfl, rfl⟩
      · rcases List.mem_append.mp h with h | h
        · exact .inl (hhere h)
        · rw [List.mem_singleton.mp h]
          exact .inr rfl
      · rcases List.mem_append.mp h with h | h
        · exact .inl (hhere h)
        · rw [attempt_rules hc ho] at h
          rcases ih h with ⟨a, ha, hm⟩ | herror
          · exact .inl ⟨a, .later hc ho hb ha, hm⟩
          · exact .inr herror

theorem level_of_attempt {record : Log.Record} (hc : rules.check n = .ok [])
    (h : record ∈ (attempt actions s rules index c n).records) : record.level ≠ Log.warning := by
  simp only [attempt, hc] at h
  split at h
  · simp only [failed, List.mem_singleton] at h
    rw [h]
    split <;> exact (by decide : Log.error ≠ Log.warning)
  · simp only [answered, List.mem_singleton] at h
    rw [h]
    exact (by decide : Log.info ≠ Log.warning)

variable {now : Instant} {trigger nodes payload edges : Value} {raw : List Value}

def IsAside (r : Log.Record) : Prop := r.level = Log.debug ∧ r.logger ≠ "autoflow.core.engine"

theorem IsAside.level_ne {r : Log.Record} (h : IsAside r) : r.level ≠ Log.warning := by
  rw [h.1]
  decide

theorem review_leaves (rules : Rules) (trigger : Value) (raw : List Value) :
    (Review.logged rules trigger raw).Leaves IsAside := by
  have hlogger : "autoflow.core.validation" ≠ "autoflow.core.engine" := by decide
  refine .bind (.lift _) fun issues _ ↦ ?_
  cases issues with
  | nil => exact .pure []
  | cons => exact .bind (.log ⟨rfl, hlogger⟩) fun _ _ ↦ .pure _

theorem event_leaves (t : Trigger) (payload : Value) (now : Instant) :
    (Event.logged t payload now).Leaves IsAside := by
  have hlogger : "autoflow.core.normalizer" ≠ "autoflow.core.engine" := by decide
  refine .bind (.lift _) fun c _ ↦ ?_
  exact .bind (.log ⟨rfl, hlogger⟩) fun _ _ ↦ .pure c

theorem prepare_leaves (hraw : nodes.elementsIfGiven = .ok raw)
    (hreview : Review.workflow rules trigger raw = .ok []) :
    (prepare rules now trigger nodes payload edges).Leaves fun r ↦ r.level ≠ Log.warning := by
  have hinfo : Log.info ≠ Log.warning := by decide
  refine .bind (.lift _) fun raw' hraw' ↦ ?_
  refine .bind (.lift _) fun count _ ↦ .bind (.log hinfo) fun _ _ ↦ ?_
  refine .bind ((review_leaves rules trigger raw').imp fun _ ↦ IsAside.level_ne)
    fun issues hissues ↦ ?_
  -- There is no warning of an invalid workflow, as the review is known to find no issue.
  obtain rfl := Except.ok.inj (hraw.symm.trans hraw')
  rw [review_outcome, hreview] at hissues
  obtain rfl := Except.ok.inj hissues
  refine .bind (.lift _) fun t _ ↦ .bind (.lift _) fun ns _ ↦ ?_
  exact .bind ((event_leaves t payload now).imp fun _ ↦ IsAside.level_ne) fun c _ ↦ .pure _

end Run

namespace Engine

open Run

variable {e : Engine} {rules : Rules} {clock : Clock} {trigger nodes payload edges : Value}
  {raw : List Value}

theorem mem_records_of_run {record : Log.Record}
    (h : record ∈ (e.run rules clock trigger nodes payload edges).records) :
    record ∈ (prepare rules clock.read.1 trigger nodes payload edges).records ∨
      record.level = Log.info ∨
      ∃ ns c, (prepare rules clock.read.1 trigger nodes payload edges).outcome = .ok (.ready ns c) ∧
        record ∈ (course e.actions (e.situation clock) rules 1 c ns).records := by
  unfold run at h
  dsimp only at h
  split at h
  · exact .inl h
  · exact .inl h
  · next ns c hp =>
    -- Only a run that completes has a word of its own at the end.
    have hm : record ∈ (prepare rules clock.read.1 trigger nodes payload edges).records ++
        (course e.actions (e.situation clock) rules 1 c ns).records ∨ record.level = Log.info := by
      split at h
      · exact .inl h
      · exact .inl h
      · refine (List.mem_append.mp h).imp_right fun h ↦ ?_
        exact congrArg Log.Record.level (List.mem_singleton.mp h)
    rcases hm with hm | hinfo
    · exact (List.mem_append.mp hm).imp_right fun hc ↦ .inr ⟨ns, c, hp, hc⟩
    · exact .inr (.inl hinfo)

/-- A workflow that was found valid stays so during the run, as long as no action that the run takes
changes the rules: nothing is amiss with any node that it comes to, so no node is warned of, and a
run only fails at a node whose action does, in the words of that failure. -/
theorem run_trusts_review (e : Engine) (rules : Rules) (clock : Clock)
    (trigger nodes payload edges : Value) (hraw : nodes.elementsIfGiven = .ok raw)
    (hreview : (Review.logged rules trigger raw).outcome = .ok [])
    (hstill : ∀ a, e.Reaches rules clock trigger nodes payload edges a →
      (e.actions.find a.node.type).amend a.rules = a.rules) :
    (∀ a, e.Reaches rules clock trigger nodes payload edges a → a.rules.check a.node = .ok []) ∧
      (∀ record ∈ (e.run rules clock trigger nodes payload edges).records,
        record.level ≠ Log.warning) ∧
      ∀ r, (e.run rules clock trigger nodes payload edges).outcome = .ok r →
        ∀ (i : Nat) step, r.steps[i]? = some step → step.status = .error →
          ∃ a f m, e.Reaches rules clock trigger nodes payload edges a ∧ a.index = i + 1 ∧
            (e.actions.find a.node.type).act a.node a.context (e.situation clock) = .error f ∧
            Tells f m ∧ step = .failing a.node a.index m := by
  rw [review_outcome] at hreview
  refine ⟨fun a ha ↦ ha.check_eq hstill, ?_, ?_⟩
  · intro record hrecord
    rcases mem_records_of_run hrecord with hp | hinfo | ⟨ns, c, hp, hc⟩
    · exact prepare_leaves hraw hreview record hp
    · rw [hinfo]
      decide
    · rcases mem_records_of_course hc with ⟨a, ha, hm⟩ | herror
      · have ha : e.Reaches rules clock trigger nodes payload edges a := ⟨ns, c, hp, ha⟩
        exact level_of_attempt (ha.check_eq hstill) hm
      · rw [herror]
        decide
  · intro r hr i step hi herror
    obtain ⟨a, d, ha, hindex, hd⟩ := reaches_of_step hr hi
    rcases attempt_eq_ok_iff.mp hd with ⟨m, hf, rfl, -⟩ | ⟨o, b, -, -, -, rfl, -⟩
    · cases hf with
      | amiss hm => cases (ha.check_eq hstill).symm.trans hm
      | @action f m _ hact hsaid =>
        exact ⟨a, f, m, ha, hindex, hact, Fault.said_eq_text_iff.mp hsaid, rfl⟩
    · cases herror

end Engine

namespace Sample

def faltering : Engine :=
  { actions := Actions.standard.put "send_notification" (.failing (.foreign .runtime "")) }

end Sample

set_option maxRecDepth 10000 in
theorem Engine.run_trusts_review_sample : ∃ r, (Sample.faltering.run .standard Sample.clock
      Sample.trigger (.list [Sample.tagging, Sample.telling]) Sample.payload .null).outcome =
        .ok r ∧
    ∃ step, r.steps[1]? = some step ∧ ∃ (a : Run.Arrival) (f : Fault) (m : String), a.index = 2 ∧
      (Sample.faltering.actions.find a.node.type).act a.node a.context
        (Sample.faltering.situation Sample.clock) = .error f ∧
      Run.Tells f m ∧ step = .failing a.node a.index m := by
  obtain ⟨r, hr, step, hi, herror⟩ : ∃ r, (Sample.faltering.run .standard Sample.clock
      Sample.trigger (.list [Sample.tagging, Sample.telling]) Sample.payload .null).outcome =
        .ok r ∧
    ∃ step, r.steps[1]? = some step ∧ step.status = .error := ⟨_, rfl, _, rfl, rfl⟩
  have hleave : Sample.faltering.actions.Leave := Actions.standard_leave.put _ fun _ ↦ rfl
  obtain ⟨a, f, m, -, ha⟩ := (Engine.run_trusts_review Sample.faltering .standard Sample.clock
    Sample.trigger (.list [Sample.tagging, Sample.telling]) Sample.payload .null rfl rfl
    fun a _ ↦ hleave a.node.type a.rules).2.2 r hr 1 step hi herror
  exact ⟨r, hr, step, hi, a, f, m, ha⟩

end Automation
