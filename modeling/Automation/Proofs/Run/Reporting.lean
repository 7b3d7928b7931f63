import Automation.Proofs.Context.Naming
import Automation.Proofs.Run.Finite
import Automation.Proofs.Run.Shape

namespace Automation

theorem Step.record_isOk_iff {s : Step} :
    (∃ v, s.record = .ok v) ↔ ∀ c, s.after = some c → ∃ v, c.record = .ok v := by
  unfold record
  cases hc : s.after with
  | none => exact iff_of_true ⟨_, rfl⟩ fun _ h ↦ nomatch h
  | some c =>
    simp only [recordIfAny, map_eq_ok_iff, Option.some.injEq, forall_eq']
    constructor
    · rintro ⟨_, v, hv, -⟩
      exact ⟨v, hv⟩
    · rintro ⟨v, hv⟩
      exact ⟨_, v, hv, rfl⟩

theorem Result.record_isOk_iff {r : Result} :
    (∃ v, r.record = .ok v) ↔ ∀ c ∈ r.contexts, ∃ v, c.record = .ok v := by
  have hsteps : (∃ vs, r.steps.mapM Step.record = .ok vs) ↔
      ∀ c ∈ r.steps.filterMap Step.after, ∃ v, c.record = .ok v := by
    rw [mapM_isOk_iff]
    constructor
    · intro h c hc
      obtain ⟨s, hs, hafter⟩ := List.mem_filterMap.mp hc
      exact Step.record_isOk_iff.mp (h s hs) c hafter
    · intro h s hs
      exact Step.record_isOk_iff.mpr fun c hc ↦ h c (List.mem_filterMap.mpr ⟨s, hs, hc⟩)
  have hfinal : (∃ v, recordIfAny r.final = .ok v) ↔
      ∀ c ∈ r.final.toList, ∃ v, c.record = .ok v := by
    cases r.final with
    | none => exact iff_of_true ⟨_, rfl⟩ fun _ hm ↦ absurd hm List.not_mem_nil
    | some c => simp only [recordIfAny, Option.toList_some, List.forall_mem_singleton]
  unfold contexts
  rw [List.forall_mem_append, ← hsteps, ← hfinal]
  simp only [record, bind_eq_ok_iff, pure_eq_ok_iff]
  constructor
  · rintro ⟨_, vs, hvs, v, hv, -⟩
    exact ⟨⟨vs, hvs⟩, v, hv⟩
  · rintro ⟨⟨vs, hvs⟩, v, hv⟩
    exact ⟨_, vs, hvs, v, hv, rfl⟩

namespace Node

variable {n : Node} {c d : Context}

theorem textual_carry_iff (h : n.carry c = .ok d) (hc : c.contact.extra.Textual) :
    d.contact.extra.Textual ↔ ¬ n.Misnames := by
  unfold carry at h
  split at h
  · next htype =>
    obtain rfl := Except.ok.inj h
    refine iff_of_true hc fun hn ↦ ?_
    simpa using htype.symm.trans hn.type
  · exact textual_change_iff h hc

end Node

namespace Run

variable {s : Situation} {rules : Rules} {index : Nat} {c : Context} {ns : List Node}
  {steps : List Step} {ending : Ending}

/-- Every name stays a text in a run exactly if no node that succeeds in it misnames a field. -/
theorem Goes.textual_iff (h : Goes .standard s rules index c ns steps ending)
    (hc : c.contact.extra.Textual) :
    (∀ d ∈ contexts c steps ending.context?, d.contact.extra.Textual) ↔
      ∀ (i : Nat) (step : Step) (n : Node), steps[i]? = some step → step.status = .success →
        ns[i]? = some n → ¬ n.Misnames := by
  induction h with
  | done => exact iff_of_true (by simpa [contexts, Ending.context?] using hc) (by simp)
  | stop rest hf =>
    -- A node that fails has written nothing, whatever it names.
    refine iff_of_true (by simpa [contexts, Ending.context?, Step.failing] using hc) ?_
    intro i step n hi hs
    cases i with
    | zero =>
      cases hi
      cases hs
    | succ i => simp at hi
  | @next rules index c n o b rest steps ending _ ha _ _ ih =>
    have hcarry : o.context.contact.extra.Textual ↔ ¬ n.Misnames :=
      Node.textual_carry_iff (Node.carry_of_act ha) hc
    have hfirst : contexts c (.answering n index o.output b o.context :: steps) ending.context? =
        c :: contexts o.context steps ending.context? := rfl
    rw [hfirst, List.forall_mem_cons]
    constructor
    · rintro ⟨-, hrest⟩
      have ho : o.context.contact.extra.Textual := hrest _ List.mem_cons_self
      intro i step n' hi hs hn
      cases i with
      | zero =>
        cases hn
        exact hcarry.mp ho
      | succ i => exact (ih ho).mp hrest i step n' hi hs hn
    · intro hall
      have ho := hcarry.mpr (hall 0 _ n rfl rfl rfl)
      exact ⟨hc, (ih ho).mpr fun i step n' hi hs hn ↦ hall (i + 1) step n' hi hs hn⟩

end Run

theorem Event.textual_toContext {t : Trigger} {payload : Value} {now : Instant} {c : Context}
    (h : toContext t payload now = .ok c) : c.contact.extra.Textual := by
  obtain ⟨o, -, rfl⟩ := toContext_eq_ok_iff.mp h
  exact Named.textual_nil

open Run

/-- The result of a run with the actions known from the start can be written as data exactly if no
node at which it succeeded names a field of the contact by something other than a text. -/
theorem Engine.run_recorded_iff (unknownCondition : Bool) (rules : Rules) (clock : Clock)
    (trigger nodes payload edges : Value) {r : Result}
    (h : (Engine.run { unknownCondition } rules clock trigger nodes payload edges).outcome =
      .ok r) :
    ∃ raw, nodes.elementsIfGiven = .ok raw ∧ ((∃ v, r.record = .ok v) ↔
      ∀ (i : Nat) (step : Step) (n : Node), r.steps[i]? = some step → step.status = .success →
        Result.NodeAt raw i n → ¬ n.Misnames) := by
  obtain ⟨⟨raw, hraw⟩, -⟩ := given_of_run h
  refine ⟨raw, hraw, ?_⟩
  rw [Result.record_isOk_iff]
  rcases run_eq_ok_cases h with
    ⟨first, more, rfl⟩ | ⟨type, ns, c, steps, ending, hstart, hg, rfl⟩
  · exact iff_of_true (fun c hc ↦ nomatch hc) fun i step n hi ↦ nomatch hi
  · obtain ⟨t, -, htype, hfirst⟩ := hstart.trigger
    have hsound := hg.forall_contexts (fun _ _ _ hc hd ↦ Node.carry_sound hd hc)
      (Event.toContext_sound hfirst htype hstart.type_ne)
    have htextual := Event.textual_toContext hfirst
    have hns : raw.mapM Node.ofValue = .ok ns := by
      obtain ⟨raw', hraw', hns⟩ := then_eq_ok_iff.mp hstart.nodes
      rwa [Except.ok.inj (hraw.symm.trans hraw')]
    have hcontexts := contexts_eq_cons c steps ending (some type) clock.read.1.text
      clock.read.2.read.1.text
    rw [hcontexts, List.forall_mem_cons] at hsound
    rw [Ending.steps_result]
    calc (∀ d ∈
          (ending.result (some type) clock.read.1.text clock.read.2.read.1.text steps).contexts,
            ∃ v, d.record = .ok v)
        ↔ ∀ d ∈ contexts c steps ending.context?, d.contact.extra.Textual := by
          rw [hcontexts, List.forall_mem_cons, and_iff_right htextual]
          refine forall₂_congr fun d hd ↦ ?_
          obtain ⟨x, hx⟩ := (hsound.2 d hd).value
          exact Context.record_isOk_iff hx
      _ ↔ ∀ (i : Nat) (step : Step) (n : Node), steps[i]? = some step → step.status = .success →
            ns[i]? = some n → ¬ n.Misnames := hg.textual_iff htextual
      _ ↔ ∀ (i : Nat) (step : Step) (n : Node), steps[i]? = some step → step.status = .success →
            Result.NodeAt raw i n → ¬ n.Misnames :=
          ⟨fun hall i step n hi hs hn ↦ hall i step n hi hs (Result.getElem?_of_nodeAt hns hn),
            fun hall i step n hi hs hn ↦ hall i step n hi hs (Result.nodeAt_of_mapM hns hn)⟩

set_option maxRecDepth 10000 in
theorem Engine.run_recorded_iff_sample : ∃ r, Sample.outcome = .ok r ∧ r.success = true ∧
    ∃ v, r.record = .ok v := by
  obtain ⟨r, hr, hs⟩ : ∃ r, Sample.outcome = .ok r ∧ r.success = true := ⟨_, rfl, rfl⟩
  refine ⟨r, hr, hs, ?_⟩
  obtain ⟨raw, hraw, hiff⟩ := Engine.run_recorded_iff true .standard Sample.clock Sample.trigger
    (.list [Sample.tagging, Sample.telling]) Sample.payload .null hr
  obtain rfl := Except.ok.inj ((Value.elementsIfGiven_list _).symm.trans hraw)
  refine hiff.mpr fun i step n _ _ ⟨v, hv, hn⟩ hmis ↦ ?_
  have htype := hmis.type
  rcases i with _ | _ | i
  · cases hv
    cases hn
    simp at htype
  · cases hv
    cases hn
    simp at htype
  · simp at hv

namespace Sample

def numbering : Value := .object [("id", .text "n1"), ("type", .text "update_contact"),
  ("config", .object [("field", .int 5), ("field_value", .text "x")])]

end Sample

theorem Engine.not_run_recorded_of_number :
    ¬ ∀ (clock : Clock) (trigger nodes payload edges : Value)
    (r : Result), (Engine.run {} .standard clock trigger nodes payload edges).outcome = .ok r →
      ∃ v, r.record = .ok v := by
  intro hall
  have hrun : ((Engine.run {} .standard Sample.clock Sample.trigger (.list [Sample.numbering])
      (.object []) .null).outcome.toOption.any fun r ↦ r.success && !r.record.isOk) = true := by
    decide +kernel
  cases hr : (Engine.run {} .standard Sample.clock Sample.trigger (.list [Sample.numbering])
      (.object []) .null).outcome with
  | error f => simp [hr, Except.toOption] at hrun
  | ok r =>
    obtain ⟨v, hv⟩ := hall Sample.clock Sample.trigger (.list [Sample.numbering]) (.object []) .null
      r hr
    simp [hr, hv, Except.toOption, Except.isOk, Except.toBool] at hrun

end Automation
