import Automation.Proofs.Context.Typed
import Automation.Proofs.Run.Arrival

namespace Automation

theorem Contact.isDistinct_of_read {fs : Fields} {c : Contact} (h : read fs = .good c) :
    Tags.IsDistinct c.tags := by
  obtain ⟨ts, -, hts⟩ := (typed_of_read h).tags
  rw [← hts]
  exact Tags.isDistinct_ofTexts ts

namespace Context

inductive Reachable : Context → Prop
  | event {t : Trigger} {payload : Value} {now : Instant} {c : Context}
      (h : Event.toContext t payload now = .ok c) : c.Reachable
  | read {fs : Fields} {c : Context} (h : read fs = .good c) : c.Reachable
  | revise {c d : Context} {contact : Named} {opportunity notes : Fields} (hc : c.Reachable)
      (h : c.revise contact opportunity notes = .ok d) : d.Reachable

variable {n : Node} {c d : Context}

theorem Reachable.change (hc : c.Reachable) (h : n.change c = .ok d) : d.Reachable := by
  rcases Node.change_cases h with rfl | ⟨contact, opportunity, notes, -, hr⟩
  · exact hc
  · exact .revise hc hr

theorem Reachable.carry (hc : c.Reachable) (h : n.carry c = .ok d) : d.Reachable := by
  rcases Node.carry_cases h with rfl | h
  · exact hc
  · exact hc.change h

theorem Reachable.isDistinct (hc : c.Reachable) : Tags.IsDistinct c.contact.tags := by
  induction hc with
  | event h =>
    obtain ⟨o, -, rfl⟩ := Event.toContext_eq_ok_iff.mp h
    exact Tags.isDistinct_ofTexts _
  | read h => exact Contact.isDistinct_of_read (sections_of_read h).1
  | revise _ h ih =>
    obtain ⟨k, hk, rfl⟩ := revise_eq_ok_iff.mp h
    exact Contact.isDistinct_update hk ih

end Context

namespace Run

variable {s : Situation} {rules : Rules} {index : Nat} {c : Context} {ns : List Node} {a : Arrival}

theorem Arrives.reachable (h : Arrives .standard s rules index c ns a) (hc : c.Reachable) :
    a.context.Reachable := by
  induction h with
  | here => exact hc
  | later _ ho _ _ ih => exact ih (hc.carry (Node.carry_of_act ho))

/-- A run with the actions known from the start comes to no other contexts, be it to a node or to
the end. -/
theorem contexts_reachable (unknownCondition : Bool) (rules : Rules) (clock : Clock)
    (trigger nodes payload edges : Value) :
    (∀ a, Engine.Reaches { unknownCondition } rules clock trigger nodes payload edges a →
      a.context.Reachable) ∧
    ∀ r c,
      (Engine.run { unknownCondition } rules clock trigger nodes payload edges).outcome = .ok r →
      c ∈ r.steps.filterMap Step.after ++ r.final.toList → c.Reachable := by
  constructor
  · intro a h
    obtain ⟨ns, c, hp, ha⟩ := h
    obtain ⟨raw, t, -, -, -, -, -, hc⟩ := prepare_eq_ready_iff.mp hp
    exact ha.reachable (.event hc)
  · intro r c h hm
    rcases Engine.run_eq_ok_cases h with
      ⟨issue, more, rfl⟩ | ⟨type, ns, first, steps, ending, hstart, hg, rfl⟩
    · cases hm
    · obtain ⟨t, -, -, hfirst⟩ := hstart.trigger
      have hall := hg.forall_contexts (P := Context.Reachable) (fun _ _ _ hc hd ↦ hc.carry hd)
        (.event hfirst)
      refine hall c (List.mem_cons_of_mem first ?_)
      cases ending <;> exact hm

end Run

end Automation
