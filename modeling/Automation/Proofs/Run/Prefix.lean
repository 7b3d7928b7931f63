import Automation.Proofs.Run.Reviewed
import Automation.Proofs.Run.Shape

namespace Automation

namespace Review

variable {rules : Rules} {rawTrigger : Value} {front back : List Value}

theorem workflow_front (hne : front ≠ [])
    (h : workflow rules rawTrigger (front ++ back) = .ok []) :
    workflow rules rawTrigger front = .ok [] := by
  simp only [workflow, map_eq_ok_iff, List.append_eq_nil_iff, nodes_append, bind_eq_ok_iff,
    pure_eq_ok_iff] at h ⊢
  obtain ⟨-, ⟨issues, hfront, more, -, rfl⟩, ⟨ht, -⟩, hnil⟩ := h
  obtain ⟨rfl, rfl⟩ := List.append_eq_nil_iff.mp hnil
  have he : emptiness front = [] := by
    cases front with
    | nil => exact absurd rfl hne
    | cons v front => rfl
  exact ⟨[], hfront, ⟨ht, he⟩, rfl⟩

end Review

namespace Run

variable {actions : Actions} {s : Situation} {rules : Rules} {index : Nat} {c d : Context}
  {n : Node} {front back : List Node} {steps steps' : List Step} {ending ending' : Ending}
  {m : String}

theorem Goes.unique {ns : List Node} (h : Goes actions s rules index c ns steps ending)
    (h' : Goes actions s rules index c ns steps' ending') : steps = steps' ∧ ending = ending' := by
  have he := (course_eq_ok_iff.mpr h).symm.trans (course_eq_ok_iff.mpr h')
  simpa using he

theorem Goes.append_stopped (back : List Node)
    (h : Goes actions s rules index c front steps (.stopped n m)) :
    Goes actions s rules index c (front ++ back) steps (.stopped n m) := by
  generalize he : Ending.stopped n m = ending at h ⊢
  induction h with
  | done => cases he
  | stop rest hf => exact .stop (rest ++ back) hf
  | next hc ha hb _ ih => exact .next hc ha hb (ih he)

/-- A run stops at one of the first nodes, or has come to all of them before it goes on. -/
theorem Goes.of_append (h : Goes actions s rules index c (front ++ back) steps ending) :
    (∃ n m, Goes actions s rules index c front steps (.stopped n m)) ∨
      ∃ d earlier more, Goes actions s rules index c front earlier (.completed d) ∧
        steps = earlier ++ more := by
  induction front generalizing rules index c steps with
  | nil => exact .inr ⟨c, [], steps, .done rules index c, rfl⟩
  | cons n front ih =>
    cases h with
    | stop _ hf => exact .inl ⟨n, _, .stop front hf⟩
    | next hc ha hb hr =>
      rcases ih hr with ⟨n', m, hs⟩ | ⟨d, earlier, more, hd, rfl⟩
      · exact .inl ⟨n', m, .next hc ha hb hs⟩
      · exact .inr ⟨d, _, more, .next hc ha hb hd, rfl⟩

theorem Goes.append_of_stopped (h : Goes actions s rules index c front steps (.stopped n m))
    (h' : Goes actions s rules index c (front ++ back) steps' ending') :
    steps' = steps ∧ ending' = .stopped n m :=
  h'.unique (h.append_stopped back)

theorem Goes.append_of_completed (h : Goes actions s rules index c front steps (.completed d))
    (h' : Goes actions s rules index c (front ++ back) steps' ending') :
    ∃ more, steps' = steps ++ more := by
  rcases h'.of_append with ⟨n, m, hs⟩ | ⟨d', earlier, more, hd, rfl⟩
  · cases (h.unique hs).2
  · obtain ⟨rfl, -⟩ := h.unique hd
    exact ⟨more, rfl⟩

theorem Goes.exists_next {ns : List Node} (h : Goes actions s rules index c ns steps ending)
    {i : Nat} {step : Step} (hi : steps[i]? = some step) (hs : step.status = .success)
    (hlt : i + 1 < ns.length) : ∃ next, steps[i + 1]? = some next := by
  induction h generalizing i with
  | done => simp at hi
  | stop rest hf =>
    cases i with
    | zero =>
      cases hi
      cases hs
    | succ i => simp at hi
  | @next _ _ _ _ _ _ rest steps _ _ _ _ hr ih =>
    cases i with
    | zero =>
      cases hr with
      | done => simp at hlt
      | stop => exact ⟨_, rfl⟩
      | next => exact ⟨_, rfl⟩
    | succ i => exact ih hi (by simpa using hlt)

variable {now : Instant} {trigger payload edges edges' : Value}

theorem prepare_of_edges {k l : Nat} {nodes : Value} (h : edges.countIfGiven = .ok k)
    (h' : edges'.countIfGiven = .ok l) :
    (prepare rules now trigger nodes payload edges).outcome =
      (prepare rules now trigger nodes payload edges').outcome := by
  simp only [prepare, Traced.bind_outcome, Traced.lift, Traced.log, h, h', Except.bind]

end Run

/-- The steps are those of the nodes in the order of the list, and only a failure keeps the node
after it from its turn. -/
structure Result.InOrder (raw : List Value) (r : Result) : Prop where
  numbered : r.Numbered raw
  next : ∀ i step, r.steps[i]? = some step → step.status = .success → i + 1 < raw.length →
    ∃ next, r.steps[i + 1]? = some next

namespace Engine

open Run

variable {e : Engine} {rules : Rules} {clock : Clock} {trigger nodes payload edges edges' : Value}
  {raw : List Value} {r : Result}

theorem run_of_edges {k : Nat} (hk : edges'.countIfGiven = .ok k)
    (h : (e.run rules clock trigger nodes payload edges).outcome = .ok r) :
    (e.run rules clock trigger nodes payload edges').outcome = .ok r := by
  obtain ⟨-, l, hl⟩ := given_of_run h
  rw [run_eq_ok_iff, ← prepare_of_edges hl hk]
  exact run_eq_ok_iff.mp h

theorem run_of_valid (hw : Review.workflow rules trigger raw = .ok [])
    (h : (e.run rules clock trigger (.list raw) payload edges).outcome = .ok r) :
    ∃ t ns c steps ending, Trigger.ofValue trigger = .ok t ∧ raw.mapM Node.ofValue = .ok ns ∧
      Event.toContext t payload clock.read.1 = .ok c ∧
      Goes e.actions ⟨clock.read.1, e.unknownCondition⟩ rules 1 c ns steps ending ∧
      r = ending.result (triggerType trigger) clock.read.1.text clock.read.2.read.1.text steps := by
  rcases run_eq_ok_iff.mp h with ⟨first, more, hp, -⟩ | ⟨ns, c, steps, ending, hp, hg, hr⟩
  · obtain ⟨raw', hraw, -, hw'⟩ := prepare_eq_invalid_iff.mp hp
    obtain rfl := Except.ok.inj ((Value.elementsIfGiven_list raw).symm.trans hraw)
    cases hw.symm.trans hw'
  · obtain ⟨raw', t, hraw, -, -, ht, hns, hc⟩ := prepare_eq_ready_iff.mp hp
    obtain rfl := Except.ok.inj ((Value.elementsIfGiven_list raw).symm.trans hraw)
    exact ⟨t, ns, c, steps, ending, ht, hns, hc, hg, hr⟩

theorem run_in_order (hw : Review.workflow rules trigger raw = .ok [])
    (h : (e.run rules clock trigger (.list raw) payload edges).outcome = .ok r) :
    r.InOrder raw := by
  obtain ⟨t, ns, c, steps, ending, -, hns, -, hg, rfl⟩ := run_of_valid hw h
  have hlength : ns.length = raw.length := (mapM_eq_ok_iff.mp hns).length_eq.symm
  have hne : ns ≠ [] := ne_nil_of_mapM hns (Review.workflow_eq_nil hw).2.1
  obtain ⟨-, hnumbered⟩ : (∃ shape, Result.Has raw [] _ shape) ∧ _ := result_has_shape hns hne hg
  refine ⟨hnumbered, ?_⟩
  rw [Ending.steps_result, ← hlength]
  exact fun i step hi hs hlt ↦ hg.exists_next hi hs hlt

/-- What comes later makes no difference to a run. If the run of the first nodes of a workflow
without issues fails, so does the run of all its nodes, with the same result; if it succeeds, its
steps are the first steps of that run. Nodes have their turn one after the other until one fails,
whichever branches are taken and whatever edges there are. -/
theorem run_has_no_lookahead (e : Engine) (rules : Rules) {clock clock' : Clock}
    (trigger payload edges edges' : Value) {front back : List Value} {r r' : Result}
    (hnow : clock.next = clock'.next) (hne : front ≠ [])
    (hvalid : Review.workflow rules trigger (front ++ back) = .ok [])
    (h : (e.run rules clock trigger (.list front) payload edges).outcome = .ok r)
    (h' : (e.run rules clock' trigger (.list (front ++ back)) payload edges').outcome = .ok r') :
    (r.success = false → r' = r) ∧
      (r.success = true → r.steps.length = front.length ∧ r'.steps.take front.length = r.steps) ∧
      r.InOrder front ∧ r'.InOrder (front ++ back) ∧
      ∀ other k, other.countIfGiven = .ok k →
        (e.run rules clock trigger (.list front) payload other).outcome = .ok r ∧
        (e.run rules clock' trigger (.list (front ++ back)) payload other).outcome = .ok r' := by
  have hfront := Review.workflow_front hne hvalid
  have hedges : ∀ other k, other.countIfGiven = .ok k →
      (e.run rules clock trigger (.list front) payload other).outcome = .ok r ∧
      (e.run rules clock' trigger (.list (front ++ back)) payload other).outcome = .ok r' :=
    fun other k hk ↦ ⟨run_of_edges hk h, run_of_edges hk h'⟩
  have horder := run_in_order hfront h
  have horder' := run_in_order hvalid h'
  obtain ⟨t, ns, c, steps, ending, ht, hns, hc, hg, rfl⟩ := run_of_valid hfront h
  obtain ⟨t', all, c', steps', ending', ht', hall, hc', hg', rfl⟩ := run_of_valid hvalid h'
  -- Both runs start from the same context, and the second has the nodes of the first in front.
  obtain rfl : t' = t := Except.ok.inj (ht'.symm.trans ht)
  have hread : clock'.read.1 = clock.read.1 := hnow.symm
  rw [hread] at hc' hg'
  obtain rfl : c' = c := Except.ok.inj (hc'.symm.trans hc)
  simp only [List.mapM_append, hns, bind_eq_ok_iff, pure_eq_ok_iff] at hall
  obtain ⟨_, ⟨⟩, more, -, rfl⟩ := hall
  refine ⟨fun hfail ↦ ?_, fun hsuccess ↦ ?_, horder, horder', hedges⟩
  · cases ending with
    | completed d => cases hfail
    | stopped n m =>
      obtain ⟨rfl, rfl⟩ := hg.append_of_stopped hg'
      simp only [Ending.result, hread]
  · cases ending with
    | stopped n m => cases hsuccess
    | completed d =>
      obtain ⟨later, rfl⟩ := hg.append_of_completed hg'
      have hlength : steps.length = front.length :=
        hg.completed_steps.1.trans (mapM_eq_ok_iff.mp hns).length_eq.symm
      exact ⟨hlength, by rw [Ending.steps_result, Ending.steps_result, ← hlength, List.take_left]⟩

end Engine

namespace Sample

def asking : Value := .object [("id", .text "n3"), ("type", .text "condition"),
  ("config", .object [("condition_type", .text "has_tag"), ("tag", .text "vip")])]

end Sample

set_option maxRecDepth 10000 in
theorem Engine.run_has_no_lookahead_sample : ∃ r r',
    (Engine.run {} .standard Sample.clock Sample.trigger (.list [Sample.tagging, Sample.asking])
      Sample.payload .null).outcome = .ok r ∧
    (Engine.run {} .standard Sample.clock Sample.trigger
      (.list ([Sample.tagging, Sample.asking] ++ [Sample.telling])) Sample.payload
      (.list [.null])).outcome = .ok r' ∧
    r.success = true ∧ r.steps.map Step.branch = [none, some .no] ∧ r'.steps.length = 3 ∧
    r'.steps.take 2 = r.steps := by
  obtain ⟨r, r', h, h', hs, hb, hl⟩ : ∃ r r',
      (Engine.run {} .standard Sample.clock Sample.trigger (.list [Sample.tagging, Sample.asking])
        Sample.payload .null).outcome = .ok r ∧
      (Engine.run {} .standard Sample.clock Sample.trigger
        (.list ([Sample.tagging, Sample.asking] ++ [Sample.telling])) Sample.payload
        (.list [.null])).outcome = .ok r' ∧
      r.success = true ∧ r.steps.map Step.branch = [none, some .no] ∧ r'.steps.length = 3 :=
    ⟨_, _, rfl, rfl, rfl, rfl, rfl⟩
  have hall := run_has_no_lookahead {} .standard Sample.trigger Sample.payload .null (.list [.null])
    rfl (List.cons_ne_nil _ _) rfl h h'
  exact ⟨r, r', h, h', hs, hb, hl, (hall.2.1 hs).2⟩

end Automation
