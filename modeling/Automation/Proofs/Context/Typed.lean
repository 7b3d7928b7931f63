import Automation.Proofs.Run.Invariant
import Automation.Proofs.Run.Stored
import Automation.Proofs.Value.Plain

namespace Automation

open Schema Value

namespace Fields

variable {fs : Fields} {names : List String}

theorem without_finiteFields (h : fs.without names = fs) :
    Fields.without (finiteFields fs) names = finiteFields fs := by
  conv_rhs => rw [← h]
  simp only [finiteFields_eq_map, without, List.filter_map]
  rfl

theorem named_finiteFields (fs : Fields) :
    named (finiteFields fs) = fs.named.map fun p ↦ (p.1, p.2.finite) := by
  simp [named, finiteFields_eq_map]

end Fields

theorem Contact.textField_append {fs : Fields} {name : String} {v : Value}
    (hl : fs.lookup name = some v) (hv : ∃ s, v = .text s) (gs : Fields) :
    textField name (fs ++ gs) = .good v := by
  obtain ⟨s, rfl⟩ := hv
  refine Checked.map_eq_good_iff.mpr ⟨s, field_eq_good_iff.mpr (.inr ⟨.text s, ?_, rfl⟩), rfl⟩
  rw [List.lookup_append, hl]
  rfl

namespace Contact

/-- A contact as it is read, with the free fields `extra`: the declared ones are texts, but for the
tags, which are different texts. -/
structure Typed (c : Contact) (extra : Fields) : Prop where
  texts : ∀ p ∈ c.declaredFields, p.1 ≠ "tags" → ∃ s, p.2 = .text s
  tags : ∃ ts : List String, c.tags = ts.map .text ∧ Tags.ofTexts ts = c.tags
  free : extra.without declared = extra
  named : c.extra = extra.named

/-- What a contact is read as from what it is written as. -/
def asRead (c : Contact) : Contact :=
  { c with
    extra := c.extra.map fun p ↦ (p.1, p.2.finite)
    given := c.declaredFields.map (.text ·.1) ++ c.extra.map Prod.fst
    aside := [] }

variable {c : Contact} {fs extra : Fields}

theorem typed_of_read (h : read fs = .good c) : c.Typed (fs.without declared) := by
  simp only [read, textField, Checked.seq_eq_good_iff, Checked.map_eq_good_iff,
    Checked.pure_eq] at h
  obtain ⟨_, _, h, ⟨⟩, rfl⟩ := h
  obtain ⟨_, _, h, ⟨⟩, rfl⟩ := h
  obtain ⟨_, _, h, ⟨⟩, rfl⟩ := h
  obtain ⟨_, _, h, ⟨type, -, rfl⟩, rfl⟩ := h
  obtain ⟨_, _, h, ⟨status, -, rfl⟩, rfl⟩ := h
  obtain ⟨_, _, h, ⟨ss, -, rfl⟩, rfl⟩ := h
  obtain ⟨_, _, h, ⟨phone, -, rfl⟩, rfl⟩ := h
  obtain ⟨_, _, h, ⟨company, -, rfl⟩, rfl⟩ := h
  obtain ⟨_, _, h, ⟨last, -, rfl⟩, rfl⟩ := h
  obtain ⟨_, _, h, ⟨first, -, rfl⟩, rfl⟩ := h
  obtain ⟨_, _, ⟨_, ⟨id, -, rfl⟩, rfl⟩, ⟨email, -, rfl⟩, rfl⟩ := h
  refine ⟨?_, Tags.exists_texts ss, fs.without_without declared, rfl⟩
  simp [declaredFields]

theorem typed_event (payload : Fields) : (Event.contact payload).Typed [] := by
  refine ⟨?_, Tags.exists_texts _, rfl, rfl⟩
  simp [declaredFields, Event.contact]

theorem nodup_declared (c : Contact) : (c.declaredFields.map Prod.fst).Nodup :=
  (by decide : declared.Nodup)

variable (hc : c.Typed extra)

include hc

theorem Typed.declared_cases {p : String × Value} (hp : p ∈ c.declaredFields) :
    (∃ s, p.2 = .text s) ∨ ∃ ts : List String, p.2 = .list (ts.map .text) := by
  by_cases hn : p.1 = "tags"
  · obtain ⟨ts, hts, -⟩ := hc.tags
    have hl := lookup_of_mem c.nodup_declared hp
    rw [hn] at hl
    exact .inr ⟨ts, (Option.some.inj hl).symm.trans (congrArg _ hts)⟩
  · exact .inl (hc.texts p hp hn)

theorem Typed.read_record : read (c.declaredFields ++ finiteFields extra) = .good c.asRead := by
  have htext (name : String) {v : Value} (hl : c.declaredFields.lookup name = some v)
      (hne : name ≠ "tags") : textField name (c.declaredFields ++ finiteFields extra) = .good v :=
    textField_append hl (hc.texts (name, v) (mem_of_lookup hl) hne) _
  have htags : Tags.ofTexts <$>
      field "tags" [] (.list .text) (c.declaredFields ++ finiteFields extra) = .good c.tags := by
    obtain ⟨ts, hts, hself⟩ := hc.tags
    refine Checked.map_eq_good_iff.mpr
      ⟨ts, field_eq_good_iff.mpr (.inr ⟨.list c.tags, rfl, ?_⟩), hself⟩
    rw [Reader.list_eq_good_iff]
    refine ⟨c.tags, rfl, ?_⟩
    rw [hts, List.forall₂_map_left_iff, List.forall₂_same]
    exact fun _ _ ↦ rfl
  have hextra : Fields.without (c.declaredFields ++ finiteFields extra) declared =
      finiteFields extra := by
    rw [Fields.without_append, Fields.without_finiteFields hc.free]
    rfl
  have hgiven : (c.declaredFields ++ finiteFields extra).map (fun p ↦ Value.text p.1) =
      c.asRead.given := by
    simp [asRead, hc.named, Fields.named, finiteFields_eq_map]
  have hnamed : Fields.named (finiteFields extra) = c.asRead.extra := by
    rw [Fields.named_finiteFields, asRead, hc.named]
  rw [read, htags, hextra, hgiven, ← Fields.named, hnamed, htext "id" rfl (by decide),
    htext "email" rfl (by decide), htext "first_name" rfl (by decide),
    htext "last_name" rfl (by decide), htext "company" rfl (by decide),
    htext "phone" rfl (by decide), htext "status" rfl (by decide),
    htext "contact_type" rfl (by decide)]
  rfl

end Contact

namespace Opportunity

structure Typed (o : Opportunity) : Prop where
  texts : ∀ p ∈ o.declaredFields, p.1 ≠ "value" → ∃ s, p.2 = .text s
  value : ∃ x, o.value = .float x
  extra : o.extra.without declared = o.extra

def asRead (o : Opportunity) : Opportunity := { o with extra := finiteFields o.extra }

variable {o : Opportunity} {fs : Fields}

theorem typed_of_read (h : read fs = .good o) : o.Typed ∧ o.extra = fs.without declared := by
  simp only [read, Contact.textField, Checked.seq_eq_good_iff, Checked.map_eq_good_iff,
    Checked.pure_eq] at h
  obtain ⟨_, _, h, ⟨⟩, rfl⟩ := h
  obtain ⟨_, _, h, ⟨pipeline, -, rfl⟩, rfl⟩ := h
  obtain ⟨_, _, h, ⟨status, -, rfl⟩, rfl⟩ := h
  obtain ⟨_, _, h, ⟨x, -, rfl⟩, rfl⟩ := h
  obtain ⟨_, _, ⟨_, ⟨id, -, rfl⟩, rfl⟩, ⟨stage, -, rfl⟩, rfl⟩ := h
  refine ⟨⟨?_, ⟨x, rfl⟩, fs.without_without declared⟩, rfl⟩
  simp [declaredFields]

theorem typed_event {payload : Fields} (h : Event.opportunity payload = .ok o) :
    o.Typed ∧ o.extra = [] := by
  obtain ⟨x, hx⟩ := Event.value_of_opportunity h
  simp only [Event.opportunity] at h
  split at h
  · cases h
  · cases h
    refine ⟨⟨?_, ⟨x, hx⟩, rfl⟩, rfl⟩
    simp [declaredFields]

theorem nodup_declared (o : Opportunity) : (o.declaredFields.map Prod.fst).Nodup :=
  (by decide : declared.Nodup)

variable (ho : o.Typed)

include ho

theorem Typed.read_record : read (o.declaredFields ++ finiteFields o.extra) = .good o.asRead := by
  have htext (name : String) {v : Value} (hl : o.declaredFields.lookup name = some v)
      (hne : name ≠ "value") :
      Contact.textField name (o.declaredFields ++ finiteFields o.extra) = .good v :=
    Contact.textField_append hl (ho.texts (name, v) (mem_of_lookup hl) hne) _
  have hvalue : Value.float <$>
      field "value" .zero .number (o.declaredFields ++ finiteFields o.extra) = .good o.value := by
    obtain ⟨x, hx⟩ := ho.value
    refine Checked.map_eq_good_iff.mpr ⟨x, field_eq_good_iff.mpr (.inr ⟨o.value, rfl, ?_⟩), hx.symm⟩
    rw [hx]
    rfl
  have hextra : Fields.without (o.declaredFields ++ finiteFields o.extra) declared =
      finiteFields o.extra := by
    rw [Fields.without_append, Fields.without_finiteFields ho.extra]
    rfl
  rw [read, hvalue, hextra, htext "id" rfl (by decide),
    htext "stage" rfl (by decide), htext "status" rfl (by decide), htext "pipeline" rfl (by decide)]
  rfl

end Opportunity

namespace Context

structure Typed (c : Context) (extra : Fields) : Prop where
  contact : c.contact.Typed extra
  opportunity : c.opportunity.Typed

def fields (c : Context) (extra : Fields) : Fields :=
  [("trigger_type", .text c.triggerType), ("triggered_at", .text c.triggeredAt),
    ("contact", .object (c.contact.declaredFields ++ finiteFields extra)),
    ("opportunity", .object (c.opportunity.declaredFields ++ finiteFields c.opportunity.extra)),
    ("meta", .object (finiteFields c.notes))]

def asRead (c : Context) : Context :=
  { c with
    contact := c.contact.asRead
    opportunity := c.opportunity.asRead
    notes := finiteFields c.notes }

variable {α : Type} {c : Context} {fs extra : Fields}

theorem read_mapping {name model : String} {default a : α} {r : Fields → Checked α}
    (h : field name default (.record model r) fs = .good a) (hr : r [] = .good default) :
    r (Event.mapping (fs.get name)) = .good a := by
  rcases field_eq_good_iff.mp h with ⟨hl, rfl⟩ | ⟨v, hl, hv⟩
  · rw [Fields.get, hl]
    exact hr
  · obtain ⟨gs, rfl, hread⟩ := Reader.record_eq_good_iff.mp hv
    rw [Fields.get, hl]
    exact hread

theorem sections_of_read (h : read fs = .good c) :
    Contact.read (Event.mapping (fs.get "contact")) = .good c.contact ∧
      Opportunity.read (Event.mapping (fs.get "opportunity")) = .good c.opportunity ∧
        c.notes = Event.mapping (fs.get "meta") := by
  simp only [read, Checked.seq_eq_good_iff, Checked.map_eq_good_iff] at h
  obtain ⟨_, notes, h, hn, rfl⟩ := h
  obtain ⟨_, o, h, ho, rfl⟩ := h
  obtain ⟨_, k, ⟨_, _, ⟨_, -, rfl⟩, -, rfl⟩, hk, rfl⟩ := h
  refine ⟨read_mapping hk rfl, read_mapping ho rfl, ?_⟩
  rcases field_eq_good_iff.mp hn with ⟨hl, rfl⟩ | ⟨v, hl, hv⟩
  · rw [Fields.get, hl]
    rfl
  · cases v <;> cases hv
    rw [Fields.get, hl]
    rfl

theorem typed_of_read (h : read fs = .good c) :
    c.Typed (Fields.without (Event.mapping (fs.get "contact")) Contact.declared) := by
  obtain ⟨hk, ho, -⟩ := sections_of_read h
  exact ⟨Contact.typed_of_read hk, (Opportunity.typed_of_read ho).1⟩

theorem typed_event {t : Trigger} {payload : Value} {now : Instant}
    (h : Event.toContext t payload now = .ok c) : c.Typed [] := by
  obtain ⟨o, ho, rfl⟩ := Event.toContext_eq_ok_iff.mp h
  exact ⟨Contact.typed_event _, (Opportunity.typed_event ho).1⟩

theorem Typed.read_fields (hc : c.Typed extra) : read (c.fields extra) = .good c.asRead := by
  have hcontact : field "contact" {} (.record "Contact" Contact.read) (c.fields extra) =
      .good c.contact.asRead := by
    refine field_eq_good_iff.mpr (.inr ⟨_, rfl, ?_⟩)
    exact hc.contact.read_record
  have hdeal : field "opportunity" {} (.record "Opportunity" Opportunity.read) (c.fields extra) =
      .good c.opportunity.asRead := by
    refine field_eq_good_iff.mpr (.inr ⟨_, rfl, ?_⟩)
    exact hc.opportunity.read_record
  rw [read, hcontact, hdeal]
  rfl

end Context

end Automation
