import Automation.Proofs.Context.Entries

namespace Automation

inductive Part where
  | contact | opportunity | notes
  deriving DecidableEq, Repr

structure Place where
  part : Part
  name : Value
  deriving DecidableEq, Repr

namespace Place

/-- The only entry that is not kept as it is written. -/
def tags : Place := ⟨.contact, .text "tags"⟩

def same (p q : Place) : Bool := p.part == q.part && p.name.same q.name

end Place

@[ext]
structure Revision where
  contact : Named
  opportunity : Fields
  notes : Fields
  contact_distinct : contact.IsDistinct
  opportunity_distinct : opportunity.named.IsDistinct
  notes_distinct : notes.named.IsDistinct

namespace Revision

def empty : Revision :=
  ⟨[], [], [], Named.isDistinct_nil, Named.isDistinct_nil, Named.isDistinct_nil⟩

def entries (u : Revision) : Part → Named
  | .contact => u.contact
  | .opportunity => u.opportunity.named
  | .notes => u.notes.named

def value? (u : Revision) (p : Place) : Option Value := (u.entries p.part).get? p.name

def merge (u w : Revision) : Revision where
  contact := u.contact.merge w.contact
  opportunity := u.opportunity.merge w.opportunity
  notes := u.notes.merge w.notes
  contact_distinct := u.contact_distinct.merge w.contact_distinct
  opportunity_distinct := by
    rw [Fields.named_merge]
    exact u.opportunity_distinct.merge w.opportunity_distinct
  notes_distinct := by
    rw [Fields.named_merge]
    exact u.notes_distinct.merge w.notes_distinct

def places (u : Revision) : List Place :=
  u.contact.map (fun q ↦ ⟨.contact, q.1⟩) ++
    u.opportunity.map (fun q ↦ ⟨.opportunity, .text q.1⟩) ++
      u.notes.map fun q ↦ ⟨.notes, .text q.1⟩

theorem mem_places {u : Revision} {part : Part} {q : Value × Value} (h : q ∈ u.entries part) :
    ⟨part, q.1⟩ ∈ u.places := by
  unfold places
  cases part with
  | contact => exact List.mem_append_left _ (List.mem_append_left _ (List.mem_map_of_mem h))
  | opportunity =>
    obtain ⟨r, hr, rfl⟩ := List.mem_map.mp h
    exact List.mem_append_left _ (List.mem_append_right _ (List.mem_map_of_mem hr))
  | notes =>
    obtain ⟨r, hr, rfl⟩ := List.mem_map.mp h
    exact List.mem_append_right _ (List.mem_map_of_mem hr)

theorem value?_eq_none {u : Revision} {p : Place} (h : ∀ q ∈ u.places, q.same p = false) :
    u.value? p = none := by
  refine Named.get?_eq_none fun q hq ↦ ?_
  simpa [Place.same] using h _ (mem_places hq)

theorem eq_empty {u : Revision} (h : u.places = []) : u = empty := by
  simp only [places, List.append_eq_nil_iff, List.map_eq_nil_iff] at h
  obtain ⟨⟨hcontact, hopportunity⟩, hnotes⟩ := h
  ext1
  · exact hcontact
  · exact hopportunity
  · exact hnotes

theorem isDistinct_entries (u : Revision) (part : Part) : (u.entries part).IsDistinct := by
  cases part with
  | contact => exact u.contact_distinct
  | opportunity => exact u.opportunity_distinct
  | notes => exact u.notes_distinct

theorem entries_merge (u w : Revision) (part : Part) :
    (u.merge w).entries part = (u.entries part).merge (w.entries part) := by
  cases part with
  | contact => rfl
  | opportunity => exact Fields.named_merge u.opportunity w.opportunity
  | notes => exact Fields.named_merge u.notes w.notes

theorem value?_merge (u w : Revision) (p : Place) :
    (u.merge w).value? p = (w.value? p).or (u.value? p) := by
  rw [value?, entries_merge]
  exact Named.get?_merge (w.isDistinct_entries p.part) _ _

theorem merge_self (u : Revision) : u.merge u = u := by
  have hfields {fs : Fields} (h : fs.named.IsDistinct) : fs.merge fs = fs := by
    apply Fields.named_injective
    rw [Fields.named_merge, h.merge_self]
  ext1
  · exact u.contact_distinct.merge_self
  · exact hfields u.opportunity_distinct
  · exact hfields u.notes_distinct

end Revision

namespace Context

def entries (c : Context) : Part → Named
  | .contact => c.contact.entries
  | .opportunity => c.opportunity.entries.named
  | .notes => c.notes.named

def value? (c : Context) (p : Place) : Option Value := (c.entries p.part).get? p.name

def revised (c : Context) (u : Revision) : Except Fault Context :=
  c.revise u.contact u.opportunity u.notes

variable {c d e : Context} {u w : Revision} {p : Place}

theorem value?_tags (c : Context) : c.value? .tags = some (.list c.contact.tags) := rfl

theorem revised_empty (c : Context) : c.revised .empty = .ok c := rfl

/-- Whether a context can be revised depends on what is to be written only. -/
theorem revised_isOk (h : c.revised u = .ok d) (e : Context) : ∃ f, e.revised u = .ok f := by
  obtain ⟨k, hk, -⟩ := revise_eq_ok_iff.mp h
  obtain ⟨ws, hall, -⟩ := Contact.update_eq_ok hk
  obtain ⟨j, hj⟩ := e.contact.update_isOk hall
  exact ⟨_, revise_eq_ok_iff.mpr ⟨j, hj, rfl⟩⟩

theorem revised_merge (h : c.revised u = .ok d) (h' : d.revised w = .ok e) :
    c.revised (u.merge w) = .ok e := by
  obtain ⟨k, hk, rfl⟩ := revise_eq_ok_iff.mp h
  obtain ⟨j, hj, rfl⟩ := revise_eq_ok_iff.mp h'
  refine revise_eq_ok_iff.mpr ⟨j, ?_, ?_⟩
  · exact Contact.update_merge u.contact_distinct w.contact_distinct hk hj
  · have hdeal := Opportunity.update_merge u.opportunity_distinct c.opportunity w.opportunity
    have hnotes := Fields.merge_merge u.notes_distinct c.notes w.notes
    simp only [Revision.merge, hdeal, hnotes]

theorem revised_again (h : c.revised u = .ok d) : d.revised u = .ok d := by
  obtain ⟨e, he⟩ := revised_isOk h d
  have hboth := revised_merge h he
  rw [u.merge_self, h] at hboth
  rw [he, Except.ok.inj hboth]

theorem entries_revised (h : c.revised u = .ok d) : ∃ ws, Contact.KeepsAll u.contact ws ∧
    d.entries .contact = (c.entries .contact).merge ws ∧ ∀ part, part ≠ .contact →
      d.entries part = (c.entries part).merge (u.entries part) := by
  obtain ⟨k, hk, rfl⟩ := revise_eq_ok_iff.mp h
  obtain ⟨ws, hall, hentries, -⟩ := Contact.update_eq_ok hk
  refine ⟨ws, hall, hentries, fun part hpart ↦ ?_⟩
  cases part with
  | contact => exact absurd rfl hpart
  | opportunity =>
    simp only [entries, Opportunity.entries_update, Fields.named_merge]
    rfl
  | notes => exact Fields.named_merge c.notes u.notes

theorem value?_revised (h : c.revised u = .ok d) (hp : p ≠ .tags) :
    d.value? p = (u.value? p).or (c.value? p) := by
  obtain ⟨ws, hall, hcontact, hrest⟩ := entries_revised h
  obtain ⟨part, name⟩ := p
  by_cases hpart : part = .contact
  · subst hpart
    have hname : name ≠ .text "tags" := fun he ↦ hp (by rw [he]; rfl)
    have hread : ws.get? name = u.contact.get? name := hall.get?_eq hname
    simp only [value?, Revision.value?, hcontact,
      Named.get?_merge (hall.isDistinct u.contact_distinct), hread]
    rfl
  · simp only [value?, Revision.value?, hrest part hpart]
    exact Named.get?_merge (u.isDistinct_entries part) _ _

theorem tags_revised (h : c.revised u = .ok d) :
    (u.value? .tags = none ∧ d.contact.tags = c.contact.tags) ∨
      ∃ v vs, u.value? .tags = some v ∧ v.elements = .ok vs ∧
        Tags.distinct vs = .ok d.contact.tags := by
  obtain ⟨ws, hall, hcontact, -⟩ := entries_revised h
  have hread : some (Value.list d.contact.tags) =
      (ws.get? (.text "tags")).or (some (.list c.contact.tags)) := by
    rw [← value?_tags, ← value?_tags, value?, Place.tags, hcontact]
    exact Named.get?_merge (hall.isDistinct u.contact_distinct) _ _
  rcases hall.get?_tags with ⟨hu, hw⟩ | ⟨v, vs, ts, hu, hv, ht, hw⟩
  · rw [hw] at hread
    exact .inl ⟨hu, Value.list.inj (Option.some.inj hread)⟩
  · rw [hw] at hread
    obtain rfl : d.contact.tags = ts := Value.list.inj (Option.some.inj hread)
    exact .inr ⟨v, vs, hu, hv, ht⟩

theorem value?_of_not_written (h : c.revised u = .ok d) (hp : u.value? p = none) :
    d.value? p = c.value? p := by
  by_cases htags : p = .tags
  · subst htags
    rcases tags_revised h with ⟨-, hsame⟩ | ⟨v, vs, hsome, -⟩
    · rw [value?_tags, value?_tags, hsame]
    · cases hp.symm.trans hsome
  · rw [value?_revised h htags, hp, Option.none_or]

def sent : Option Fields → Value
  | none => .null
  | some fs => .object fs

theorem reviseFrom_sent (c : Context) (contact opportunity notes : Option Fields) :
    c.reviseFrom (sent contact) (sent opportunity) (sent notes) =
      c.revise (contact.getD []).named (opportunity.getD []) (notes.getD []) := by
  have hcontact : contactChanges (sent contact) = .ok (contact.getD []) := by
    cases contact <;> rfl
  have hopportunity : sectionChanges (sent opportunity) = .ok (opportunity.getD []) := by
    cases opportunity <;> rfl
  have hnotes : noteChanges (sent notes) = .ok (notes.getD []) := by
    cases notes <;> rfl
  simp only [reviseFrom, hcontact, hopportunity, hnotes]
  -- Only the fields of the contact can be refused, and they are written first.
  cases hk : c.contact.update (contact.getD []).named <;>
    simp only [revise, Bind.bind, Except.bind,
      show List.map _ _ = (contact.getD []).named from rfl, hk] <;>
    rfl

theorem keeps_revised (h : c.revised u = .ok d) : d.triggerType = c.triggerType ∧
    d.triggeredAt = c.triggeredAt ∧ d.contact.aside = c.contact.aside := by
  obtain ⟨k, hk, rfl⟩ := revise_eq_ok_iff.mp h
  obtain ⟨ws, -, -, -, haside⟩ := Contact.update_eq_ok hk
  exact ⟨rfl, rfl, haside⟩

/-- Revisions compose: two in turn come to one, one without fields changes nothing, and what is
written is kept as it is, but for tags, which lose those that come again. -/
theorem revisions_compose (c d e : Context) (u w : Revision) (hu : c.revised u = .ok d)
    (hw : d.revised w = .ok e) :
    (c.revised (u.merge w) = .ok e ∧ ∀ p, (u.merge w).value? p = (w.value? p).or (u.value? p)) ∧
    (∀ contact opportunity notes : Option Fields,
      contact.getD [] = [] → opportunity.getD [] = [] → notes.getD [] = [] →
        c.reviseFrom (sent contact) (sent opportunity) (sent notes) = .ok c) ∧
    (∀ p, p ≠ .tags → d.value? p = (u.value? p).or (c.value? p)) ∧
    ∀ v, u.value? .tags = some v →
      ∃ vs, v.elements = .ok vs ∧ Tags.distinct vs = .ok d.contact.tags := by
  refine ⟨⟨revised_merge hu hw, u.value?_merge w⟩, ?_, fun p hp ↦ value?_revised hu hp, ?_⟩
  · intro contact opportunity notes hcontact hopportunity hnotes
    rw [reviseFrom_sent, hcontact, hopportunity, hnotes]
    exact revised_empty c
  · intro v hv
    rcases tags_revised hu with ⟨hnone, -⟩ | ⟨v', vs, hsome, hvs, ht⟩
    · cases hnone.symm.trans hv
    · obtain rfl : v' = v := Option.some.inj (hsome.symm.trans hv)
      exact ⟨vs, hvs, ht⟩

end Context

namespace Sample

def filing (tags : List Value) : Revision where
  contact := Fields.named [("tags", .list tags), ("nickname", .text "Jo")]
  opportunity := []
  notes := [("source", .text "form")]
  contact_distinct := Fields.isDistinct_named (by simp)
  opportunity_distinct := Named.isDistinct_nil
  notes_distinct := Fields.isDistinct_named (by simp)

end Sample

theorem Context.revisions_compose_sample : ∃ d e : Context,
    revised {} (Sample.filing [.text "a", .text "b", .text "a"]) = .ok d ∧
    d.revised (Sample.filing [.text "c", .text "a", .text "c"]) = .ok e ∧
    revised {} ((Sample.filing [.text "a", .text "b", .text "a"]).merge
      (Sample.filing [.text "c", .text "a", .text "c"])) = .ok e ∧
    d.contact.tags = [.text "a", .text "b"] ∧ e.contact.tags = [.text "c", .text "a"] := by
  refine ⟨_, _, rfl, rfl, ?_, rfl, rfl⟩
  exact (revisions_compose _ _ _ _ _ rfl rfl).1.1

end Automation
