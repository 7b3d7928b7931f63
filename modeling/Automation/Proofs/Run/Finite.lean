import Automation.Proofs.Context.Finite
import Automation.Proofs.Run.Invariant

namespace Automation

def Value.Bounded (v : Value) : Prop := ∀ x, v.asNumber = .number x → x.isFinite = true

theorem Value.bounded_int (n : Int) : (Value.int n).Bounded := by
  intro x hx
  unfold asNumber at hx
  cases hy : Binary64.ofInt? n with
  | none => simp [hy] at hx
  | some y =>
    simp only [hy, NumberReading.number.injEq] at hx
    exact hx ▸ Binary64.isFinite_of_ofInt? hy

theorem Value.bounded_of_unread {s : String} (h : Binary64.ofText? s = none) :
    (Value.text s).Bounded := by
  intro x hx
  simp [asNumber, h] at hx

theorem Value.Bounded.orElse {v w : Value} (h : v.Bounded) (hw : w.Bounded) :
    (v.orElse w).Bounded := by
  unfold Value.orElse
  split
  · exact h
  · exact hw

theorem Change.isFinite_of_dealValue {cfg : Fields} {x : Binary64}
    (hb : (Fields.get cfg "value").Bounded) (h : dealValue cfg = .ok x) : x.isFinite = true := by
  have ho := hb.orElse (Value.bounded_int 0) x
  simp only [dealValue] at h
  generalize ((Fields.get cfg "value").orElse (.int 0)).asNumber = reading at h ho
  cases reading with
  | number y =>
    cases h
    exact ho rfl
  | tooLarge => cases h
  | unreadable => cases h

namespace Node

variable {n : Node} {c d : Context}

theorem change_bounded (hn : n.opensDeal = true → (Fields.get n.config "value").Bounded)
    (h : n.change c = .ok d) (hc : c.Bounded) : d.Bounded := by
  cases ho : n.opensDeal with
  | false =>
    rcases change_cases h with rfl | ⟨contact, opportunity, notes, hw, hr⟩
    · exact hc
    · obtain ⟨k, -, rfl⟩ := Context.revise_eq_ok_iff.mp hr
      obtain ⟨x, hv, hx⟩ := hc
      exact ⟨x, (Opportunity.value_update_of_ne (hw.deal ho)).trans hv, hx⟩
  | true =>
    have hk : Change.ofType? n.type = some .openDeal := by simpa [opensDeal] using ho
    simp only [change, hk, mapError_eq_ok_iff, Change.apply, bind_eq_ok_iff] at h
    obtain ⟨x, hx, hr⟩ := h
    obtain ⟨k, -, rfl⟩ := Context.revise_eq_ok_iff.mp hr
    exact ⟨x, rfl, Change.isFinite_of_dealValue (hn ho) hx⟩

theorem carry_bounded (hn : n.opensDeal = true → (Fields.get n.config "value").Bounded)
    (h : n.carry c = .ok d) (hc : c.Bounded) : d.Bounded := by
  rcases carry_cases h with rfl | h
  · exact hc
  · exact change_bounded hn h hc

end Node

namespace Event

open Schema

theorem isFinite_of_readInt {n : Int} {x : Binary64} (h : Reader.number (.int n) = .good x) :
    x.isFinite = true := by
  unfold Reader.number at h
  cases hy : Binary64.ofInt? n with
  | none => simp [hy, Checked.flawed] at h
  | some y =>
    simp only [hy, Checked.good.injEq] at h
    exact h ▸ Binary64.isFinite_of_ofInt? hy

theorem isFinite_of_number {v : Value} {x : Binary64} (hv : v.Bounded)
    (h : Reader.number (number v) = .good x) : x.isFinite = true := by
  cases v with
  | float y =>
    cases h
    exact hv x rfl
  | text t =>
    cases ht : Binary64.ofText? t with
    | none =>
      simp only [number, ht] at h
      exact isFinite_of_readInt h
    | some y =>
      simp only [number, ht] at h
      obtain rfl : y = x := Checked.good.inj h
      exact hv y (by simp only [Value.asNumber, ht])
  | special t =>
    cases ht : t.number? with
    | none =>
      simp only [number, ht] at h
      exact isFinite_of_readInt h
    | some y =>
      simp only [number, ht] at h
      obtain rfl : y = x := Checked.good.inj h
      exact hv y (by simp only [Value.asNumber, ht])
  | int n => exact isFinite_of_readInt h
  | null => exact isFinite_of_readInt h
  | bool b => exact isFinite_of_readInt h
  | list vs => exact isFinite_of_readInt h
  | object fs => exact isFinite_of_readInt h

theorem toContext_bounded {t : Trigger} {payload : Value} {now : Instant} {c : Context}
    (hp : (Fields.get (mapping payload) "opportunity_value").Bounded)
    (h : toContext t payload now = .ok c) : c.Bounded := by
  obtain ⟨o, ho, rfl⟩ := toContext_eq_ok_iff.mp h
  simp only [opportunity] at ho
  split at ho
  · cases ho
  · next x hx =>
    cases ho
    simp only [Checked.toExcept_eq_ok_iff, Checked.within_eq_good_iff] at hx
    exact ⟨x, rfl, isFinite_of_number hp hx⟩

end Event

open Value

theorem Step.finite_record {s : Step} {v : Value} (hs : ∀ c, s.after = some c → c.Bounded)
    (h : s.record = .ok v) : v.finite = v := by
  unfold record at h
  obtain ⟨after, ha, rfl⟩ := map_eq_ok_iff.mp h
  have hafter : after.finite = after := by
    cases hc : s.after with
    | none =>
      rw [hc] at ha
      cases ha
      rfl
    | some c =>
      rw [hc] at ha
      exact (hs c hc).finite_record ha
  simp only [finite, finiteFields, finite_textOrNull, finite_finite, hafter]

theorem Stop.finite_fields (s : Stop) : finiteFields s.fields = s.fields := by
  have hi (i : Issue) : (Value.object i.fields).finite = .object i.fields := by
    obtain ⟨nodeId, m, position⟩ := i
    cases position <;> simp [finite, finiteFields, Issue.fields, finite_textOrNull]
  obtain ⟨nodeId, m, issues⟩ := s
  cases issues with
  | none => simp [fields, finite, finiteFields, finite_textOrNull]
  | some issues =>
    have hs : finiteItems (issues.map fun i ↦ .object i.fields) =
        issues.map fun i ↦ .object i.fields := by
      refine finiteItems_eq_self fun v hv ↦ ?_
      obtain ⟨i, -, rfl⟩ := List.mem_map.mp hv
      exact hi i
    simp [fields, finite, finiteFields, finite_textOrNull, hs]

def Result.contexts (r : Result) : List Context := r.steps.filterMap Step.after ++ r.final.toList

theorem Run.contexts_eq_cons (c : Context) (steps : List Step) (ending : Ending)
    (type : Option String) (startedAt completedAt : String) : contexts c steps ending.context? =
      c :: (ending.result type startedAt completedAt steps).contexts := by
  cases ending <;> rfl

theorem Result.finite_record {r : Result} {v : Value} (hr : ∀ c ∈ r.contexts, c.Bounded)
    (h : r.record = .ok v) : v.finite = v := by
  simp only [record, bind_eq_ok_iff, pure_eq_ok_iff] at h
  obtain ⟨steps, hs, final, hf, rfl⟩ := h
  have hsteps : finiteItems steps = steps := by
    refine finiteItems_eq_self fun v hv ↦ ?_
    obtain ⟨step, hm, hv⟩ := exists_of_mapM hs hv
    refine Step.finite_record (fun c hc ↦ hr c ?_) hv
    exact List.mem_append_left _ (List.mem_filterMap.mpr ⟨step, hm, hc⟩)
  have hfinal : final.finite = final := by
    cases hc : r.final with
    | none =>
      rw [hc] at hf
      cases hf
      rfl
    | some c =>
      rw [hc] at hf
      exact (hr c (by simp [contexts, hc])).finite_record hf
  have hstop : ((r.stop.map fun s ↦ Value.object s.fields).getD .null).finite =
      (r.stop.map fun s ↦ Value.object s.fields).getD .null := by
    cases r.stop with
    | none => rfl
    | some s => simp only [Option.map_some, Option.getD_some, finite, s.finite_fields]
  simp only [finite, finiteFields, finite_textOrNull, hsteps, hfinal, hstop]

/-- With the actions known from the start, the contexts of a run are bounded if its event is, and if
the nodes that open a deal are. -/
theorem Engine.run_bounded {unknownCondition : Bool} {rules : Rules} {clock : Clock}
    {trigger nodes payload edges : Value} {r : Result}
    (hp : (Fields.get (Event.mapping payload) "opportunity_value").Bounded)
    (hn : ∀ ns, Node.listOfValue nodes = .ok ns →
      ∀ n ∈ ns, n.opensDeal = true → (Fields.get n.config "value").Bounded)
    (h : (Engine.run { unknownCondition } rules clock trigger nodes payload edges).outcome =
      .ok r) :
    ∀ c ∈ r.contexts, c.Bounded := by
  rcases run_eq_ok_cases h with
    ⟨first, more, rfl⟩ | ⟨type, ns, first, steps, ending, hstart, hg, rfl⟩
  · intro c hc
    cases hc
  · obtain ⟨t, -, -, hfirst⟩ := hstart.trigger
    have hbounded := hg.forall_contexts_of_mem
      (fun n hm _ _ hc hd ↦ Node.carry_bounded (hn ns hstart.nodes n hm) hd hc)
      (Event.toContext_bounded hp hfirst)
    rw [Run.contexts_eq_cons, List.forall_mem_cons] at hbounded
    exact hbounded.2

end Automation
