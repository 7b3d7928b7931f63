import Automation.Proofs.Context.Writing

namespace Automation

namespace Named

def Textual (fs : Named) : Prop := ∀ name ∈ fs.map Prod.fst, ∃ s, name = Value.text s

variable {fs : Named} {name v : Value}

theorem textual_nil : Textual [] := fun _ hm ↦ absurd hm List.not_mem_nil

theorem textual_cons {p : Value × Value} :
    Textual (p :: fs) ↔ (∃ s, p.1 = .text s) ∧ fs.Textual := by
  unfold Textual
  rw [List.map_cons, List.forall_mem_cons]

theorem record_isOk_iff : (∃ gs, fs.record = .ok gs) ↔ fs.Textual := by
  induction fs with
  | nil => exact iff_of_true ⟨[], rfl⟩ textual_nil
  | cons p fs ih =>
    obtain ⟨k, v⟩ := p
    rw [textual_cons, ← ih]
    constructor
    · rintro ⟨gs, h⟩
      cases k with
      | text s =>
        obtain ⟨rest, hrest, -⟩ := map_eq_ok_iff.mp h
        exact ⟨⟨s, rfl⟩, rest, hrest⟩
      | _ => cases h
    · rintro ⟨⟨s, rfl⟩, rest, hrest⟩
      exact ⟨_, map_eq_ok_iff.mpr ⟨rest, hrest, rfl⟩⟩

theorem Textual.set (h : fs.Textual) (hname : ∃ s, name = .text s) (v : Value) :
    (fs.set name v).Textual := by
  induction fs with
  | nil => exact textual_cons.mpr ⟨hname, h⟩
  | cons p fs ih =>
    obtain ⟨k, w⟩ := p
    obtain ⟨hk, hfs⟩ := textual_cons.mp h
    unfold Named.set
    split
    · exact textual_cons.mpr ⟨hk, hfs⟩
    · exact textual_cons.mpr ⟨hk, ih hfs⟩

theorem not_textual_set (hname : ∀ s, name ≠ .text s) : ¬ (fs.set name v).Textual := by
  induction fs with
  | nil =>
    intro h
    obtain ⟨⟨s, hs⟩, -⟩ := textual_cons.mp h
    exact hname s hs
  | cons p fs ih =>
    obtain ⟨k, w⟩ := p
    unfold Named.set
    split
    · next hsame =>
      -- The name in its place stays, and it is no text either.
      intro h
      obtain ⟨⟨s, hs⟩, -⟩ := textual_cons.mp h
      exact hname s (Value.eq_text_of_same (hs ▸ hsame))
    · exact fun h ↦ ih (textual_cons.mp h).2

end Named

namespace Contact

variable {c d : Contact} {name v : Value} {changes : Named}

theorem textual_put (hc : c.extra.Textual) (hname : ∃ s, name = .text s) :
    (c.put name v).extra.Textual := by
  unfold put
  split <;> first | exact hc | exact hc.set hname v

theorem extra_put (hname : ∀ s, name ≠ .text s) : (c.put name v).extra = c.extra.set name v := by
  unfold put
  split <;> first | exact absurd rfl (hname _) | rfl

theorem textual_update (h : c.update changes = .ok d) (hn : changes.Textual)
    (hc : c.extra.Textual) : d.extra.Textual := by
  refine update_keeps (P := fun b ↦ b.extra.Textual) h hc fun p hp b b' hb hw ↦ ?_
  rw [extra_give]
  rcases write_cases hw with ⟨-, vs, ts, -, -, rfl⟩ | ⟨-, rfl⟩
  · exact hb
  · exact textual_put hb (hn p.1 (List.mem_map_of_mem hp))

theorem not_textual_update (hname : ∀ s, name ≠ .text s) (h : c.update [(name, v)] = .ok d) :
    ¬ d.extra.Textual := by
  simp only [update, List.foldlM_cons, List.foldlM_nil, bind_eq_ok_iff, pure_eq_ok_iff,
    map_eq_ok_iff] at h
  obtain ⟨_, ⟨b, hb, rfl⟩, rfl⟩ := h
  rw [extra_give]
  rcases write_cases hb with ⟨ht, -⟩ | ⟨-, rfl⟩
  · exact absurd ht (hname "tags")
  · rw [extra_put hname]
    exact Named.not_textual_set hname

end Contact

namespace Context

variable {c d : Context}

/-- A context whose deal is worth a number can be written as data unless a name stands in the way.
-/
theorem record_isOk_iff {x : Binary64} (hx : c.opportunity.value = .float x) :
    (∃ v, c.record = .ok v) ↔ c.contact.extra.Textual := by
  have hdeal : ∃ v, c.opportunity.record = .ok v := by
    unfold Opportunity.record
    rw [hx]
    exact ⟨_, rfl⟩
  rw [← Named.record_isOk_iff]
  simp only [record, Contact.record, bind_eq_ok_iff, pure_eq_ok_iff, map_eq_ok_iff]
  constructor
  · rintro ⟨_, _, ⟨extra, hextra, -⟩, -⟩
    exact ⟨extra, hextra⟩
  · rintro ⟨extra, hextra⟩
    obtain ⟨deal, hdeal⟩ := hdeal
    exact ⟨_, _, ⟨extra, hextra, rfl⟩, deal, hdeal, rfl⟩

theorem textual_revise {contact : Named} {opportunity notes : Fields}
    (h : c.revise contact opportunity notes = .ok d) (hn : contact.Textual)
    (hc : c.contact.extra.Textual) : d.contact.extra.Textual := by
  obtain ⟨k, hk, rfl⟩ := revise_eq_ok_iff.mp h
  exact Contact.textual_update hk hn hc

end Context

namespace Change

variable {c d : Context}

theorem textual_writeContact {name : String} {v : Value} (h : writeContact c name v = .ok d)
    (hc : c.contact.extra.Textual) : d.contact.extra.Textual :=
  Context.textual_revise h (Named.textual_cons.mpr ⟨⟨name, rfl⟩, Named.textual_nil⟩) hc

end Change

namespace Node

/-- A node that gives a field of the contact a name that is no text. -/
structure Misnames (n : Node) : Prop where
  type : n.type = "update_contact"
  value : n.config.has "field_value" = true
  given : (n.config.get "field").truthy = true
  name : ∀ s, n.config.get "field" ≠ .text s

variable {n : Node} {c d : Context}

theorem Misnames.not_textual_change (hn : n.Misnames) (h : n.change c = .ok d) :
    ¬ d.contact.extra.Textual := by
  simp only [change, hn.type, Change.ofType?, mapError_eq_ok_iff, Change.apply] at h
  rcases Change.writeNamed_cases h with ⟨-, -, hr⟩ | ⟨hgiven | hvalue, -⟩
  · obtain ⟨k, hk, rfl⟩ := Context.revise_eq_ok_iff.mp hr
    exact Contact.not_textual_update hn.name hk
  · cases hn.given.symm.trans hgiven
  · cases hn.value.symm.trans hvalue

theorem textual_change (hn : ¬ n.Misnames) (h : n.change c = .ok d)
    (hc : c.contact.extra.Textual) : d.contact.extra.Textual := by
  unfold change at h
  cases hk : Change.ofType? n.type with
  | none =>
    rw [hk] at h
    exact Except.ok.inj h ▸ hc
  | some k =>
    simp only [hk, mapError_eq_ok_iff] at h
    cases k with
    | addTag =>
      simp only [Change.apply] at h
      split at h
      · exact Except.ok.inj h ▸ hc
      · exact Change.textual_writeContact h hc
    | setField =>
      rcases Change.writeNamed_cases h with ⟨⟨hgiven, hvalue⟩, -, hr⟩ | ⟨-, rfl⟩
      · have hname : ∃ s, n.config.get "field" = .text s := by
          by_contra hno
          exact hn ⟨Change.ofType?_inj hk rfl, hvalue, hgiven, not_exists.mp hno⟩
        exact Context.textual_revise hr (Named.textual_cons.mpr ⟨hname, Named.textual_nil⟩) hc
      · exact hc
    | openDeal =>
      simp only [Change.apply, bind_eq_ok_iff] at h
      obtain ⟨x, -, h⟩ := h
      exact Context.textual_revise h Named.textual_nil hc
    | moveDeal => exact Context.textual_revise h Named.textual_nil hc
    | annotate note source => exact Context.textual_revise h Named.textual_nil hc
    | _ => exact Change.textual_writeContact h hc

theorem textual_change_iff (h : n.change c = .ok d) (hc : c.contact.extra.Textual) :
    d.contact.extra.Textual ↔ ¬ n.Misnames :=
  ⟨fun hd hn ↦ hn.not_textual_change h hd, fun hn ↦ textual_change hn h hc⟩

end Node

end Automation
