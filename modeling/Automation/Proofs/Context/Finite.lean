import Automation.Context.Basic
import Automation.Proofs.Faulty

namespace Automation

namespace Value

theorem finiteItems_eq_map (vs : List Value) : finiteItems vs = vs.map finite := by
  induction vs with
  | nil => rfl
  | cons v vs ih => rw [finiteItems, ih, List.map_cons]

theorem finiteFields_eq_map (fs : Fields) : finiteFields fs = fs.map fun p ↦ (p.1, p.2.finite) := by
  induction fs with
  | nil => rfl
  | cons p fs ih => rw [finiteFields, ih, List.map_cons]

theorem finiteItems_eq_self {vs : List Value} (h : ∀ v ∈ vs, v.finite = v) :
    finiteItems vs = vs := by
  rw [finiteItems_eq_map]
  exact (List.map_congr_left h).trans (List.map_id vs)

mutual

theorem finite_finite : ∀ v : Value, v.finite.finite = v.finite
  | .float x => by cases hx : x.isFinite <;> simp [finite, hx]
  | .list vs => by rw [finite, finite, finiteItems_finiteItems vs]
  | .object fs => by rw [finite, finite, finiteFields_finiteFields fs]
  | .special s => by cases hs : s.json? <;> simp [finite, hs]
  | .null | .bool _ | .int _ | .text _ => rfl

theorem finiteItems_finiteItems : ∀ vs : List Value, finiteItems (finiteItems vs) = finiteItems vs
  | [] => rfl
  | v :: vs => by rw [finiteItems, finiteItems, finite_finite v, finiteItems_finiteItems vs]

theorem finiteFields_finiteFields : ∀ fs : Fields, finiteFields (finiteFields fs) = finiteFields fs
  | [] => rfl
  | (k, v) :: fs => by
    rw [finiteFields, finiteFields, finite_finite v, finiteFields_finiteFields fs]

end

theorem finiteFields_append (fs gs : Fields) :
    finiteFields (fs ++ gs) = finiteFields fs ++ finiteFields gs := by
  simp only [finiteFields_eq_map, List.map_append]

theorem finiteFields_set (fs : Fields) (name : String) (v : Value) :
    finiteFields (fs.set name v) = Fields.set (finiteFields fs) name v.finite := by
  induction fs with
  | nil => rfl
  | cons p fs ih =>
    obtain ⟨k, w⟩ := p
    by_cases hk : k = name
    · simp [Fields.set, finiteFields, hk]
    · simp [Fields.set, finiteFields, hk, ih]

theorem finite_textOrNull (s : Option String) : (textOrNull s).finite = textOrNull s := by
  cases s <;> rfl

end Value

open Value

theorem Named.finite_record {fs : Named} {gs : Fields} (h : fs.record = .ok gs) :
    finiteFields gs = gs := by
  induction fs generalizing gs with
  | nil =>
    cases h
    rfl
  | cons p fs ih =>
    obtain ⟨k, v⟩ := p
    simp only [record] at h
    split at h
    · obtain ⟨rest, hr, rfl⟩ := map_eq_ok_iff.mp h
      rw [finiteFields, finite_finite, ih hr]
    · cases h

theorem Contact.finite_record {c : Contact} {v : Value} (h : c.record = .ok v) : v.finite = v := by
  obtain ⟨extra, hr, rfl⟩ := map_eq_ok_iff.mp h
  rw [finite, finiteFields_append, finiteFields_finiteFields, Named.finite_record hr]

def Context.Bounded (c : Context) : Prop :=
  ∃ x, c.opportunity.value = .float x ∧ x.isFinite = true

theorem Opportunity.finite_record {o : Opportunity} {x : Binary64} {v : Value}
    (hv : o.value = .float x) (hx : x.isFinite = true) (h : o.record = .ok v) : v.finite = v := by
  have hf : (Value.float x).finite = .float x := by simp [finite, hx]
  unfold record at h
  obtain ⟨w, hw, rfl⟩ := map_eq_ok_iff.mp h
  rw [hv] at hw
  obtain rfl := Except.ok.inj hw
  rw [finite, finiteFields_append, finiteFields_set, finiteFields_finiteFields,
    finiteFields_finiteFields, hf]

theorem Context.Bounded.finite_record {c : Context} {v : Value} (hc : c.Bounded)
    (h : c.record = .ok v) : v.finite = v := by
  obtain ⟨x, hv, hx⟩ := hc
  simp only [Context.record, bind_eq_ok_iff, pure_eq_ok_iff] at h
  obtain ⟨contact, hcontact, deal, hdeal, rfl⟩ := h
  simp only [finite, finiteFields, Contact.finite_record hcontact,
    Opportunity.finite_record hv hx hdeal, finiteFields_finiteFields]

end Automation
