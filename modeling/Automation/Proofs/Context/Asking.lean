import Automation.Condition
import Automation.Proofs.Context.Typed
import Automation.Proofs.Value.Number

namespace Automation

open Binary64 Schema

namespace Condition

variable {cfg : Fields} {context : Context} {a b : Value} {test : Binary64 → Binary64 → Bool}
  {k : Condition} {f : Fault}

theorem compare_eq_error_iff : compare test a b = .error f ↔
    (a.asNumber = .tooLarge ∨ b.asNumber = .tooLarge) ∧ f = .numberTooLarge := by
  unfold compare
  cases a.asNumber <;> cases b.asNumber <;> simp [eq_comm]

theorem compare_eq_true_iff : compare test a b = .ok true ↔
    ∃ x y, a.asNumber = .number x ∧ b.asNumber = .number y ∧ test x y = true := by
  unfold compare
  cases a.asNumber <;> cases b.asNumber <;> simp

def name : Condition → String
  | hasTag => "has_tag"
  | emailOpened => "email_opened"
  | linkClicked => "link_clicked"
  | noResponse => "no_response"
  | valueAbove => "opp_value_gt"
  | contactStatus => "contact_status"

theorem ofName?_eq_some_iff {s : String} : ofName? s = some k ↔ s = k.name := by
  constructor
  · intro h
    unfold ofName? at h
    split at h <;> cases h <;> rfl
  · rintro rfl
    cases k <;> rfl

theorem ofConfig?_eq_some_iff :
    ofConfig? cfg = .ok (some k) ↔ cfg.get "condition_type" = .text k.name := by
  unfold ofConfig?
  cases cfg.get "condition_type" with
  | text s => simp [ofName?_eq_some_iff]
  | _ => exact iff_of_false (fun h ↦ nomatch h) fun h ↦ nomatch h

theorem ofConfig?_eq_error_iff : ofConfig? cfg = .error f ↔
    (∃ vs, cfg.get "condition_type" = .list vs) ∧ f = .unhashable .list ∨
      (∃ fs, cfg.get "condition_type" = .object fs) ∧ f = .unhashable .object := by
  unfold ofConfig?
  cases cfg.get "condition_type" with
  | list vs =>
    constructor
    · intro h
      exact .inl ⟨⟨vs, rfl⟩, (Except.error.inj h).symm⟩
    · rintro (⟨-, rfl⟩ | ⟨⟨fs, hfs⟩, -⟩)
      · rfl
      · cases hfs
  | object fs =>
    constructor
    · intro h
      exact .inr ⟨⟨fs, rfl⟩, (Except.error.inj h).symm⟩
    · rintro (⟨⟨vs, hvs⟩, -⟩ | ⟨-, rfl⟩)
      · cases hvs
      · rfl
  | _ =>
    refine iff_of_false (fun h ↦ nomatch h) ?_
    rintro (⟨⟨vs, hvs⟩, -⟩ | ⟨⟨fs, hfs⟩, -⟩)
    · cases hvs
    · cases hfs

theorem noResponse_eq_error_iff : noResponse.holds cfg context = .error f ↔
    ((∃ k, context.notes.get "days_since_last_contact" = .int k ∧ limit ≤ k.natAbs) ∨
      ∃ k, cfg.get "no_response_days" = .int k ∧ limit ≤ k.natAbs) ∧ f = .numberTooLarge := by
  have hzero : (Value.int 0).asNumber ≠ .tooLarge := by simp
  have hthree : (Value.int defaultDays).asNumber ≠ .tooLarge := by decide +kernel
  rw [holds, compare_eq_error_iff, Value.asNumber_orElse_eq_tooLarge_iff hzero,
    Value.asNumber_orElse_eq_tooLarge_iff hthree]

theorem valueAbove_eq_error_iff (hv : ∃ x, context.opportunity.value = .float x) :
    valueAbove.holds cfg context = .error f ↔
      (∃ k, cfg.get "opp_value" = .int k ∧ limit ≤ k.natAbs) ∧ f = .numberTooLarge := by
  have hzero : (Value.int 0).asNumber ≠ .tooLarge := by simp
  obtain ⟨x, hx⟩ := hv
  rw [holds, compare_eq_error_iff, Value.asNumber_orElse_eq_tooLarge_iff hzero,
    Value.asNumber_orElse_eq_tooLarge_iff hzero, hx]
  simp

end Condition

namespace Node

variable {n : Node} {c : Context} {k : Condition} {f : Fault}

/-- How a node fails to ask its condition of a context. -/
inductive Baffles (n : Node) (c : Context) : Fault → Prop
  | list {vs : List Value} (h : n.config.get "condition_type" = .list vs) :
      n.Baffles c (.unhashable .list)
  | object {fs : Fields} (h : n.config.get "condition_type" = .object fs) :
      n.Baffles c (.unhashable .object)
  | least {k : Int} (ht : n.config.get "condition_type" = .text "opp_value_gt")
      (h : n.config.get "opp_value" = .int k) (hk : limit ≤ k.natAbs) :
      n.Baffles c .numberTooLarge
  | days {k : Int} (ht : n.config.get "condition_type" = .text "no_response")
      (h : n.config.get "no_response_days" = .int k) (hk : limit ≤ k.natAbs) :
      n.Baffles c .numberTooLarge
  | silence {k : Int} (ht : n.config.get "condition_type" = .text "no_response")
      (h : c.notes.get "days_since_last_contact" = .int k) (hk : limit ≤ k.natAbs) :
      n.Baffles c .numberTooLarge

/-- A number that a node asks about is given, but cannot be read as one. -/
inductive AsksUnread (n : Node) (c : Context) : Prop
  | least (ht : n.config.get "condition_type" = .text "opp_value_gt")
      (h : (n.config.get "opp_value").Unread)
  | days (ht : n.config.get "condition_type" = .text "no_response")
      (h : (n.config.get "no_response_days").Unread)
  | silence (ht : n.config.get "condition_type" = .text "no_response")
      (h : (c.notes.get "days_since_last_contact").Unread)

theorem asks_of_name (h : n.config.get "condition_type" = .text k.name) (c : Context)
    (default : Bool) : n.asks c default = k.holds n.config c := by
  simp only [asks, Condition.ofConfig?_eq_some_iff.mpr h]
  rfl

theorem asks_of_baffles (h : n.Baffles c f) (hv : ∃ x, c.opportunity.value = .float x)
    (default : Bool) : n.asks c default = .error f := by
  cases h with
  | list h =>
    simp only [asks, Condition.ofConfig?_eq_error_iff.mpr (.inl ⟨⟨_, h⟩, rfl⟩)]
    rfl
  | object h =>
    simp only [asks, Condition.ofConfig?_eq_error_iff.mpr (.inr ⟨⟨_, h⟩, rfl⟩)]
    rfl
  | least ht h hk =>
    rw [asks_of_name (k := .valueAbove) ht]
    exact (Condition.valueAbove_eq_error_iff hv).mpr ⟨⟨_, h, hk⟩, rfl⟩
  | days ht h hk =>
    rw [asks_of_name (k := .noResponse) ht]
    exact Condition.noResponse_eq_error_iff.mpr ⟨.inr ⟨_, h, hk⟩, rfl⟩
  | silence ht h hk =>
    rw [asks_of_name (k := .noResponse) ht]
    exact Condition.noResponse_eq_error_iff.mpr ⟨.inl ⟨_, h, hk⟩, rfl⟩

theorem baffles_of_asks {default : Bool} (h : n.asks c default = .error f)
    (hv : ∃ x, c.opportunity.value = .float x) : n.Baffles c f := by
  cases hk : Condition.ofConfig? n.config with
  | error e =>
    simp only [asks, hk] at h
    obtain rfl : e = f := Except.error.inj h
    rcases Condition.ofConfig?_eq_error_iff.mp hk with ⟨⟨vs, hvs⟩, rfl⟩ | ⟨⟨fs, hfs⟩, rfl⟩
    · exact .list hvs
    · exact .object hfs
  | ok found =>
    cases found with
    | none =>
      simp only [asks, hk] at h
      cases h
    | some k =>
      have hname := Condition.ofConfig?_eq_some_iff.mp hk
      rw [asks_of_name hname] at h
      cases k with
      | noResponse =>
        obtain ⟨⟨k, hnote, hk⟩ | ⟨k, hdays, hk⟩, rfl⟩ := Condition.noResponse_eq_error_iff.mp h
        · exact .silence hname hnote hk
        · exact .days hname hdays hk
      | valueAbove =>
        obtain ⟨⟨k, hleast, hk⟩, rfl⟩ := (Condition.valueAbove_eq_error_iff hv).mp h
        exact .least hname hleast hk
      | _ => cases h

theorem asks_eq_error_iff (hv : ∃ x, c.opportunity.value = .float x) (default : Bool) :
    n.asks c default = .error f ↔ n.Baffles c f :=
  ⟨fun h ↦ baffles_of_asks h hv, fun h ↦ asks_of_baffles h hv default⟩

theorem AsksUnread.not_true (h : n.AsksUnread c) (default : Bool) :
    n.asks c default ≠ .ok true := by
  have hfalse {test : Binary64 → Binary64 → Bool} {a b : Value}
      (hab : a.asNumber = .unreadable ∨ b.asNumber = .unreadable) :
      Condition.compare test a b ≠ .ok true := by
    rw [ne_eq, Condition.compare_eq_true_iff]
    grind
  cases h with
  | least ht h =>
    rw [asks_of_name (k := .valueAbove) ht]
    exact hfalse (.inr (h.orElse _))
  | days ht h =>
    rw [asks_of_name (k := .noResponse) ht]
    exact hfalse (.inr (h.orElse _))
  | silence ht h =>
    rw [asks_of_name (k := .noResponse) ht]
    exact hfalse (.inl (h.orElse _))

end Node

theorem Context.value_of_read {fs : Fields} {c : Context} (h : read fs = .good c) :
    ∃ x, c.opportunity.value = .float x := by
  obtain ⟨-, hdeal, -⟩ := sections_of_read h
  exact (Opportunity.typed_of_read hdeal).1.value

/-- A context that has been read from data can be asked any condition, unless the condition is not
named by a text or has to compare an integer beyond the range of numbers. What is given as a number,
but cannot be read as one, is never found to be enough. -/
theorem Node.condition_answers_iff (n : Node) {fs : Fields} {c : Context}
    (hc : Context.read fs = .good c) (default : Bool) :
    ((∃ answer, n.asks c default = .ok answer) ↔ ∀ f, ¬ n.Baffles c f) ∧
      (∀ f, n.asks c default = .error f ↔ n.Baffles c f) ∧
      (n.AsksUnread c → (∀ f, ¬ n.Baffles c f) → n.asks c default = .ok false) := by
  have hv := Context.value_of_read hc
  have hanswers : (∃ answer, n.asks c default = .ok answer) ↔ ∀ f, ¬ n.Baffles c f := by
    rw [isOk_iff_forall_ne_error]
    simp only [ne_eq, asks_eq_error_iff hv]
  refine ⟨hanswers, fun f ↦ asks_eq_error_iff hv default, ?_⟩
  intro hunread hclear
  obtain ⟨answer, hanswer⟩ := hanswers.mpr hclear
  cases answer with
  | false => exact hanswer
  | true => exact absurd hanswer (hunread.not_true default)

namespace Sample

def unsure : Fields := [("meta", .object [("days_since_last_contact", .text "soon")])]

def asksSilence (days : Value) : Node :=
  { type := "condition"
    config := [("condition_type", .text "no_response"), ("no_response_days", days)] }

def asksWorth (least : Value) : Node :=
  { type := "condition"
    config := [("condition_type", .text "opp_value_gt"), ("opp_value", least)] }

def worthFive : Fields := [("opportunity", .object [("value", .int 5)])]

theorem read_worthFive : ∃ c, Context.read worthFive = .good c := by
  have hok : ((Context.read worthFive).toExcept "Context").isOk = true := by decide +kernel
  cases hread : (Context.read worthFive).toExcept "Context" with
  | ok c => exact ⟨c, Checked.toExcept_eq_ok_iff.mp hread⟩
  | error r =>
    rw [hread] at hok
    cases hok

end Sample

theorem Node.condition_answers_iff_sample : ∃ c, Context.read Sample.unsure = .good c ∧
    (Sample.asksSilence (.int 7)).AsksUnread c ∧
    (Sample.asksSilence (.int 7)).asks c true = .ok false := by
  have hread : Context.read Sample.unsure =
      .good { notes := [("days_since_last_contact", .text "soon")] } := rfl
  have hunread : (Sample.asksSilence (.int 7)).AsksUnread
      { notes := [("days_since_last_contact", .text "soon")] } :=
    .silence rfl ⟨rfl, by decide +kernel⟩
  refine ⟨_, hread, hunread, (condition_answers_iff _ hread true).2.2 hunread fun f hf ↦ ?_⟩
  cases hf with
  | list h => cases h
  | object h => cases h
  | least ht => simp [Sample.asksSilence, Fields.get] at ht
  | days _ h hk =>
    cases h
    exact absurd hk (by decide +kernel)
  | silence _ h => cases h

theorem Node.not_condition_answers_of_integer : ¬ ∀ (n : Node) (fs : Fields) (c : Context)
    (default : Bool), Context.read fs = .good c → ∃ answer, n.asks c default = .ok answer := by
  intro h
  obtain ⟨k, hk⟩ : ∃ k : Int, limit ≤ k.natAbs := ⟨.ofNat (Nat.pow 10 400), by decide +kernel⟩
  obtain ⟨c, hc⟩ := Sample.read_worthFive
  obtain ⟨answer, hanswer⟩ := h (Sample.asksWorth (.int k)) _ c true hc
  have hfails : (Sample.asksWorth (.int k)).asks c true = .error .numberTooLarge :=
    (asks_eq_error_iff (Context.value_of_read hc) true).mpr (.least rfl rfl hk)
  cases hfails.symm.trans hanswer

end Automation
