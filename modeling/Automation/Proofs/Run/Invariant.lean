import Automation.Proofs.Context.Writing
import Automation.Proofs.Run.Carry

namespace Automation

namespace Context

/-- A context of a run for an event: its tags are distinct, its deal is that of the event and is
worth a number, and it says of which type the event was and when it came. -/
structure Sound (type startedAt : String) (deal : Value) (c : Context) : Prop where
  tags : Tags.IsDistinct c.contact.tags
  value : ∃ x, c.opportunity.value = .float x
  triggerType : c.triggerType = type
  triggeredAt : c.triggeredAt = startedAt
  deal : c.opportunity.id = deal

structure Keeps (c d : Context) : Prop where
  notes : c.notes.map Prod.fst ⊆ d.notes.map Prod.fst
  fields : c.contact.extra.map Prod.fst ⊆ d.contact.extra.map Prod.fst

theorem Keeps.refl (c : Context) : c.Keeps c := ⟨List.Subset.refl _, List.Subset.refl _⟩

theorem Keeps.trans {c d e : Context} (h : c.Keeps d) (h' : d.Keeps e) : c.Keeps e :=
  ⟨List.Subset.trans h.notes h'.notes, List.Subset.trans h.fields h'.fields⟩

instance : Trans Keeps Keeps Keeps := ⟨Keeps.trans⟩

end Context

open Context

variable {type startedAt : String} {deal : Value} {n : Node} {c d : Context}

namespace Node

theorem change_sound (h : n.change c = .ok d) (hc : c.Sound type startedAt deal) :
    d.Sound type startedAt deal := by
  have htags := isDistinct_change h hc.tags
  rcases change_cases h with rfl | ⟨contact, opportunity, notes, hw, hr⟩
  · exact hc
  · obtain ⟨k, -, rfl⟩ := revise_eq_ok_iff.mp hr
    exact ⟨htags, Opportunity.value_update hw.value hc.value,
      hc.triggerType, hc.triggeredAt, (Opportunity.id_update hw.id).trans hc.deal⟩

theorem change_keeps (h : n.change c = .ok d) : c.Keeps d := by
  rcases change_cases h with rfl | ⟨contact, opportunity, notes, -, hr⟩
  · exact .refl d
  · obtain ⟨k, hk, rfl⟩ := revise_eq_ok_iff.mp hr
    exact ⟨Fields.names_merge _ _, Contact.names_update hk⟩

theorem carry_cases (h : n.carry c = .ok d) : d = c ∨ n.change c = .ok d := by
  unfold carry at h
  split at h
  · exact .inl (Except.ok.inj h).symm
  · exact .inr h

theorem carry_sound (h : n.carry c = .ok d) (hc : c.Sound type startedAt deal) :
    d.Sound type startedAt deal := by
  rcases carry_cases h with rfl | h
  · exact hc
  · exact change_sound h hc

theorem carry_keeps (h : n.carry c = .ok d) : c.Keeps d := by
  rcases carry_cases h with rfl | h
  · exact .refl d
  · exact change_keeps h

end Node

namespace Event

theorem value_of_opportunity {fs : Fields} {o : Opportunity} (h : opportunity fs = .ok o) :
    ∃ x, o.value = .float x := by
  simp only [opportunity] at h
  split at h
  · cases h
  · next x _ =>
    cases h
    exact ⟨x, rfl⟩

theorem toContext_sound {t : Trigger} {payload : Value} {now : Instant}
    (h : toContext t payload now = .ok c) (ht : t.type = some type) (hne : type ≠ "") :
    c.Sound type now.text c.opportunity.id := by
  obtain ⟨o, ho, rfl⟩ := toContext_eq_ok_iff.mp h
  refine ⟨Tags.isDistinct_ofTexts _, value_of_opportunity ho, ?_, rfl, rfl⟩
  simp [ht, textOr, hne]

end Event

namespace Run

variable {s : Situation} {rules : Rules} {index : Nat} {ns : List Node} {steps : List Step}
  {ending : Ending}

def Ending.context? : Ending → Option Context
  | .completed c => some c
  | .stopped _ _ => none

def contexts (first : Context) (steps : List Step) (final : Option Context) : List Context :=
  first :: (steps.filterMap Step.after ++ final.toList)

theorem Goes.forall_contexts_of_mem {P : Context → Prop}
    (h : Goes .standard s rules index c ns steps ending)
    (hP : ∀ n ∈ ns, ∀ c d, P c → n.carry c = .ok d → P d) (hc : P c) :
    ∀ d ∈ contexts c steps ending.context?, P d := by
  induction h with
  | done => simp [contexts, Ending.context?, hc]
  | stop => simp [contexts, Ending.context?, Step.failing, hc]
  | next _ ha _ _ ih =>
    rw [List.forall_mem_cons] at hP
    exact List.forall_mem_cons.mpr ⟨hc, ih hP.2 (hP.1 _ _ hc (Node.carry_of_act ha))⟩

theorem Goes.forall_contexts {P : Context → Prop}
    (hP : ∀ (n : Node) c d, P c → n.carry c = .ok d → P d)
    (h : Goes .standard s rules index c ns steps ending) (hc : P c) :
    ∀ d ∈ contexts c steps ending.context?, P d :=
  h.forall_contexts_of_mem (fun n _ ↦ hP n) hc

/-- The contexts of a run follow on one another as nodes carry them on, or are the same. -/
theorem Goes.isChain_contexts {R : Context → Context → Prop} (hR : ∀ c, R c c)
    (hstep : ∀ (n : Node) c d, n.carry c = .ok d → R c d)
    (h : Goes .standard s rules index c ns steps ending) :
    (contexts c steps ending.context?).IsChain R := by
  induction h with
  | done => simp [contexts, Ending.context?, hR]
  | stop => simp [contexts, Ending.context?, Step.failing]
  | next _ ha _ _ ih => exact .cons_cons (hstep _ _ _ (Node.carry_of_act ha)) ih

/-- Every context of a run is sound, and none of them loses a note or a free field of the contact.
-/
theorem run_contexts_sound (unknownCondition : Bool) (rules : Rules) (clock : Clock)
    (trigger nodes payload edges : Value) {r : Result}
    (h : (Engine.run { unknownCondition } rules clock trigger nodes payload edges).outcome =
      .ok r) :
    r.steps = [] ∧ r.final = none ∨
      ∃ type ns first, Starts clock.read.1 trigger nodes payload type ns first ∧
        r.triggerType = some type ∧
        (∀ c ∈ contexts first r.steps r.final,
          c.Sound type r.startedAt first.opportunity.id ∧
            c.contact.tags.Pairwise fun a b ↦ a.equals b = false) ∧
        (contexts first r.steps r.final).Pairwise Keeps := by
  rcases Engine.run_eq_ok_cases h with
    ⟨issue, more, rfl⟩ | ⟨type, ns, first, steps, ending, hstart, hg, rfl⟩
  · exact .inl ⟨rfl, rfl⟩
  · refine .inr ⟨type, ns, first, hstart, ?_⟩
    obtain ⟨t, -, htype, hfirst⟩ := hstart.trigger
    have hfirst := Event.toContext_sound hfirst htype hstart.type_ne
    have hsound := hg.forall_contexts (fun _ _ _ hc hd ↦ Node.carry_sound hd hc) hfirst
    have hkeeps := (hg.isChain_contexts Keeps.refl fun _ _ _ hd ↦ Node.carry_keeps hd).pairwise
    have htags {c : Context} (hc : c ∈ contexts first steps ending.context?) :
        c.contact.tags.Pairwise fun a b ↦ a.equals b = false :=
      (hsound c hc).tags.pairwise.imp fun hs ↦ by simp [Value.equals, hs]
    cases ending with
    | stopped n m => exact ⟨rfl, fun c hc ↦ ⟨hsound c hc, htags hc⟩, hkeeps⟩
    | completed d => exact ⟨rfl, fun c hc ↦ ⟨hsound c hc, htags hc⟩, hkeeps⟩

set_option maxRecDepth 10000 in
theorem run_contexts_sound_sample : ∃ r, Sample.outcome = .ok r ∧ r.success = true ∧
    ∃ type ns first, Starts Sample.clock.read.1 Sample.trigger
        (.list [Sample.tagging, Sample.telling]) Sample.payload type ns first ∧
      ∀ c ∈ contexts first r.steps r.final, c.Sound type r.startedAt first.opportunity.id := by
  obtain ⟨r, hr, hs, hf⟩ : ∃ r, Sample.outcome = .ok r ∧ r.success = true ∧ r.final ≠ none :=
    ⟨_, rfl, rfl, Option.some_ne_none _⟩
  refine ⟨r, hr, hs, ?_⟩
  rcases run_contexts_sound true .standard Sample.clock Sample.trigger
    (.list [Sample.tagging, Sample.telling]) Sample.payload .null hr with
    ⟨-, hn⟩ | ⟨type, ns, first, hstart, -, hc, -⟩
  · exact absurd hn hf
  · exact ⟨type, ns, first, hstart, fun c hm ↦ (hc c hm).1⟩

end Run

end Automation
