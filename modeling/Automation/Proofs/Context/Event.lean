import Automation.Proofs.Number.Range
import Automation.Proofs.Run.Outcome

namespace Automation

namespace Event

open Schema Binary64

variable {v : Value} {payload : Fields} {f : Fault}

/-- What is read of the worth of a deal is a number, or an integer that is too large to be one. -/
theorem number_cases (v : Value) :
    (∃ x, Reader.number (number v) = .good x) ∧ (∀ k, v = .int k → k.natAbs < limit) ∨
      Reader.number (number v) = .flawed .notNumber ∧ ∃ k, v = .int k ∧ limit ≤ k.natAbs := by
  have hzero : ∃ x, Reader.number (.int 0) = .good x := by
    obtain ⟨x, hx⟩ := (exists_ofInt?_iff (n := 0)).mpr (by decide +kernel)
    exact ⟨x, by simp only [Reader.number, hx]⟩
  cases v with
  | int k =>
    cases hk : ofInt? k with
    | none =>
      exact .inr ⟨by simp only [number, Reader.number, hk], k, rfl, ofInt?_eq_none_iff.mp hk⟩
    | some x =>
      refine .inl ⟨⟨x, by simp only [number, Reader.number, hk]⟩, ?_⟩
      rintro _ ⟨⟩
      exact exists_ofInt?_iff.mp ⟨x, hk⟩
  | float x => exact .inl ⟨⟨x, rfl⟩, fun k h ↦ nomatch h⟩
  | text s =>
    refine .inl ⟨?_, fun k h ↦ nomatch h⟩
    simp only [number]
    split
    · exact ⟨_, rfl⟩
    · exact hzero
  | special s =>
    refine .inl ⟨?_, fun k h ↦ nomatch h⟩
    simp only [number]
    split
    · exact ⟨_, rfl⟩
    · exact hzero
  | _ => exact .inl ⟨hzero, fun k h ↦ nomatch h⟩

def unread : Report := ⟨"Opportunity", [⟨[.field "value"], .notNumber⟩]⟩

theorem opportunity_eq_error_iff : opportunity payload = .error f ↔
    (∃ k, payload.get "opportunity_value" = .int k ∧ limit ≤ k.natAbs) ∧ f = .schema unread := by
  unfold opportunity
  dsimp only
  rcases number_cases (payload.get "opportunity_value") with ⟨⟨x, hx⟩, hsmall⟩ | ⟨hx, hlarge⟩
  · rw [hx]
    refine iff_of_false (fun h ↦ nomatch h) ?_
    rintro ⟨⟨k, hk, hl⟩, -⟩
    exact Nat.not_le_of_lt (hsmall k hk) hl
  · rw [hx, and_iff_right hlarge, eq_comm]
    exact ⟨fun h ↦ (Except.error.inj h.symm).symm, fun h ↦ h ▸ rfl⟩

theorem toContext_eq_error_iff {t : Trigger} {raw : Value} {now : Instant} :
    toContext t raw now = .error f ↔ (∃ fs k, raw = .object fs ∧
      Fields.get fs "opportunity_value" = .int k ∧ limit ≤ k.natAbs) ∧ f = .schema unread := by
  rw [toContext, map_eq_error_iff, opportunity_eq_error_iff]
  cases raw with
  | object fs => simp [mapping]
  | _ => simp [mapping, Fields.get]

theorem toContext_isOk_iff {t : Trigger} {raw : Value} {now : Instant} :
    (∃ c, toContext t raw now = .ok c) ↔ ∀ fs k, raw = .object fs →
      Fields.get fs "opportunity_value" = .int k → k.natAbs < limit := by
  rw [isOk_iff_forall_ne_error]
  simp only [ne_eq, toContext_eq_error_iff]
  constructor
  · intro h fs k hfs hk
    exact Nat.lt_of_not_le fun hl ↦ h _ ⟨⟨fs, k, hfs, hk, hl⟩, rfl⟩
  · rintro h f ⟨⟨fs, k, hfs, hk, hl⟩, -⟩
    exact Nat.not_le_of_lt (h fs k hfs hk) hl

theorem contact_of_toContext {t : Trigger} {raw : Value} {now : Instant} {c : Context}
    (h : toContext t raw now = .ok c) : c.contact = contact (mapping raw) := by
  obtain ⟨deal, -, rfl⟩ := toContext_eq_ok_iff.mp h
  rfl

theorem exists_logged (t : Trigger) (now : Instant) (payload : Fields)
    (h : ∀ k, payload.get "opportunity_value" = .int k → k.natAbs < limit) :
    ∃ c, (logged t (.object payload) now).outcome = .ok c ∧ c.contact = contact payload := by
  obtain ⟨c, hc⟩ : ∃ c, toContext t (.object payload) now = .ok c := by
    refine toContext_isOk_iff.mpr ?_
    rintro fs k ⟨⟩ hk
    exact h k hk
  exact ⟨c, Run.event_outcome.trans hc, contact_of_toContext hc⟩

/-- An event of any shape gives a context, unless its deal is worth an integer beyond the range of
numbers; then it is the deal that is reported. -/
theorem event_gives_context_iff (t : Trigger) (payload : Value) (now : Instant) :
    ((∃ c, (logged t payload now).outcome = .ok c) ↔
        ∀ fs k, payload = .object fs → Fields.get fs "opportunity_value" = .int k →
          k.natAbs < limit) ∧
      ∀ f, (logged t payload now).outcome = .error f → f = .schema unread := by
  rw [Run.event_outcome]
  exact ⟨toContext_isOk_iff, fun f hf ↦ (toContext_eq_error_iff.mp hf).2⟩

theorem not_event_gives_context_of_integer : ¬ ∀ (t : Trigger) (payload : Value) (now : Instant),
    ∃ c, (logged t payload now).outcome = .ok c := by
  intro h
  obtain ⟨k, hk⟩ : ∃ k : Int, limit ≤ k.natAbs := ⟨.ofNat (Nat.pow 10 400), by decide +kernel⟩
  obtain ⟨c, hc⟩ := h {} (.object [("opportunity_value", .int k)])
    { year := 2026, month := 3, day := 5 }
  rw [Run.event_outcome, toContext_eq_error_iff.mpr ⟨⟨_, k, rfl, rfl, hk⟩, rfl⟩] at hc
  cases hc

end Event

end Automation
