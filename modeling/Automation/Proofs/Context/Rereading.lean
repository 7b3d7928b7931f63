import Automation.Proofs.Context.Typed

namespace Automation

open Schema Value

theorem Named.same_self {fs : Named} (h : fs.IsDistinct) (hs : ∀ p ∈ fs, p.2.same p.2 = true) :
    fs.same fs = true := by
  rw [Named.same, beq_self_eq_true, Bool.true_and, List.all_eq_true]
  intro p hp
  rw [h.get?_of_mem hp]
  exact hs p hp

theorem Fields.floats_named (fs : Fields) :
    (fs.named.flatMap fun p ↦ p.2.floats) = (Value.object fs).floats := by
  rw [Value.floats_object, named, List.flatMap_map]

namespace Event

variable {payload : Fields} {v : Value}

theorem isPlain_mapping (h : v.isPlain = true) : (object (mapping v)).isPlain = true := by
  cases v with
  | object fs => exact h
  | _ => rfl

theorem isPlain_number (v : Value) : (number v).isPlain = true := by
  unfold number
  split <;> first | rfl | (split <;> rfl)

theorem isPlain_notes (h : (object payload).isPlain = true) (t : Trigger) {o : Opportunity}
    (ho : o.stage.isPlain = true) : ∀ p ∈ notes t payload o, p.2.isPlain = true := by
  have hobject (name : String) : (object (mapping (payload.get name))).isPlain = true :=
    isPlain_mapping (isPlain_get h name)
  have hstage (s : String) : ((Value.text s).orElse o.stage).isPlain = true := isPlain_orElse rfl ho
  unfold notes
  split <;> simp [hobject, hstage, isPlain_number]

end Event

namespace Contact

variable {c : Contact} {extra : Fields}

theorem Typed.isPlain_declared (hc : c.Typed extra) : (object c.declaredFields).isPlain = true := by
  refine isPlain_object_iff.mpr ⟨c.nodup_declared, fun p hp ↦ ?_⟩
  rcases hc.declared_cases hp with ⟨s, hs⟩ | ⟨ts, hts⟩
  · rw [hs]
    rfl
  · rw [hts]
    exact plainItems_iff.mpr (List.forall_mem_map.mpr fun _ _ ↦ rfl)

end Contact

namespace Opportunity

variable {o : Opportunity}

theorem Typed.isPlain_declared (ho : o.Typed) : (object o.declaredFields).isPlain = true := by
  refine isPlain_object_iff.mpr ⟨o.nodup_declared, fun p hp ↦ ?_⟩
  by_cases hn : p.1 = "value"
  · obtain ⟨x, hx⟩ := ho.value
    have hl := lookup_of_mem o.nodup_declared hp
    rw [hn] at hl
    have hv : p.2 = .float x := (Option.some.inj hl).symm.trans hx
    rw [hv]
    rfl
  · obtain ⟨s, hs⟩ := ho.texts p hp hn
    rw [hs]
    rfl

end Opportunity

namespace Context

def floats (c : Context) : List Binary64 :=
  (object c.contact.declaredFields).floats ++ c.contact.extra.flatMap (fun p ↦ p.2.floats) ++
    ((object c.opportunity.declaredFields).floats ++ (object c.opportunity.extra).floats) ++
      (object c.notes).floats

/-- A context read from JSON data, or made from an event with such data. -/
inductive FromJson : Context → Prop
  | read {fs : Fields} {c : Context} (hfs : (object fs).isPlain = true) (h : read fs = .good c) :
      c.FromJson
  | event {t : Trigger} {payload : Value} {now : Instant} {c : Context}
      (hp : payload.isPlain = true) (h : (Event.logged t payload now).outcome = .ok c) : c.FromJson

structure Plain (c : Context) (extra : Fields) : Prop where
  typed : c.Typed extra
  extra : (object extra).isPlain = true
  deal : (object c.opportunity.extra).isPlain = true
  notes : (object c.notes).isPlain = true

variable {c : Context} {extra : Fields}

theorem FromJson.plain (hc : c.FromJson) : ∃ extra, c.Plain extra := by
  cases hc with
  | @read fs _ hfs h =>
    obtain ⟨-, hdeal, hnotes⟩ := sections_of_read h
    have hsection (name : String) : (object (Event.mapping (fs.get name))).isPlain = true :=
      Event.isPlain_mapping (isPlain_get hfs name)
    refine ⟨_, typed_of_read h, isPlain_without (hsection _) _, ?_, ?_⟩
    · rw [(Opportunity.typed_of_read hdeal).2]
      exact isPlain_without (hsection _) _
    · rw [hnotes]
      exact hsection _
  | @event t payload now _ hp h =>
    rw [Run.event_outcome] at h
    have htyped := typed_event h
    obtain ⟨o, ho, rfl⟩ := Event.toContext_eq_ok_iff.mp h
    have hfields := Event.isPlain_mapping hp
    have hstage : o.stage.isPlain = true :=
      (isPlain_object_iff.mp htyped.opportunity.isPlain_declared).2 ("stage", o.stage) (by
        simp [Opportunity.declaredFields])
    refine ⟨[], htyped, rfl, ?_, ?_⟩
    · rw [(Opportunity.typed_event ho).2]
      rfl
    · refine isPlain_merge (Event.isPlain_mapping (isPlain_get hfields _)) ?_
      exact Event.isPlain_notes hfields t hstage

theorem Plain.finite (hc : c.Plain extra) (hx : ∀ x ∈ c.floats, x.isFinite = true) :
    finiteFields extra = extra ∧ finiteFields c.opportunity.extra = c.opportunity.extra ∧
      finiteFields c.notes = c.notes := by
  simp only [floats, List.forall_mem_append] at hx
  obtain ⟨⟨⟨-, hcontact⟩, -, hdeal⟩, hnotes⟩ := hx
  rw [hc.typed.contact.named, Fields.floats_named] at hcontact
  exact ⟨finiteFields_of_isPlain _ hc.extra hcontact, finiteFields_of_isPlain _ hc.deal hdeal,
    finiteFields_of_isPlain _ hc.notes hnotes⟩

end Context

namespace Sample

end Sample

end Automation
