import Automation.Proofs.Context.Asking
import Automation.Proofs.Number.Order

namespace Automation

open Binary64

namespace Value

variable {u v w : Value}

/-- Two values are read as numbers, the first of which is at most the second. -/
def AtMost (v w : Value) : Prop :=
  ∃ x y, v.asNumber = .number x ∧ w.asNumber = .number y ∧ x.le y = true

theorem AtMost.trans (h : u.AtMost v) (h' : v.AtMost w) : u.AtMost w := by
  obtain ⟨x, y, hx, hy, hxy⟩ := h
  obtain ⟨y', z, hy', hz, hyz⟩ := h'
  obtain rfl : y = y' := NumberReading.number.inj (hy.symm.trans hy')
  exact ⟨x, z, hx, hz, le_trans hxy hyz⟩

theorem AtMost.refl_right (h : v.AtMost w) : w.AtMost w := by
  obtain ⟨x, y, -, hy, hxy⟩ := h
  have hnan : y ≠ .nan := by
    rintro rfl
    rw [(not_le_nan x).1] at hxy
    cases hxy
  exact ⟨y, y, hy, hy, le_refl hnan⟩

theorem atMost_int {m n : Nat} (h : m ≤ n) (hn : n < limit) : (Value.int m).AtMost (.int n) := by
  have hread {k : Nat} (hk : k < limit) : ∃ x, ofInt? k = some x := by
    rwa [exists_ofInt?_iff, Int.natAbs_natCast]
  obtain ⟨x, hx⟩ := hread (Nat.lt_of_le_of_lt h hn)
  obtain ⟨y, hy⟩ := hread hn
  exact ⟨x, y, asNumber_int hx, asNumber_int hy, le_of_ofInt? h hx hy⟩

theorem AtMost.zero_left (h : v.AtMost w) (hv : v.truthy = false) : (Value.int 0).AtMost w := by
  obtain ⟨x, y, hx, hy, hxy⟩ := h
  have hle : Binary64.zero.le x = true :=
    (le_iff_of_quanta? rfl (quanta?_of_isZero (isZero_of_not_truthy hv hx))).mpr (Int.le_refl 0)
  exact ⟨.zero, y, asNumber_zero, hy, le_trans hle hxy⟩

theorem AtMost.zero_right (h : v.AtMost w) (hw : w.truthy = false) : v.AtMost (.int 0) := by
  obtain ⟨x, y, hx, hy, hxy⟩ := h
  have hle : y.le .zero = true :=
    (le_iff_of_quanta? (quanta?_of_isZero (isZero_of_not_truthy hw hy)) rfl).mpr (Int.le_refl 0)
  exact ⟨x, .zero, hx, asNumber_zero, le_trans hxy hle⟩

theorem AtMost.orElse (h : v.AtMost w) (hzero : (Value.int 0).AtMost u)
    (hlow : v.truthy = false → w.truthy = false ∨ u.AtMost w) :
    (v.orElse u).AtMost (w.orElse u) := by
  cases hv : v.truthy with
  | true =>
    rw [orElse_of_truthy hv]
    cases hw : w.truthy with
    | true =>
      rw [orElse_of_truthy hw]
      exact h
    | false =>
      rw [orElse_of_not_truthy hw]
      exact (h.zero_right hw).trans hzero
  | false =>
    rw [orElse_of_not_truthy hv]
    cases hw : w.truthy with
    | true =>
      rw [orElse_of_truthy hw]
      exact (hlow hv).resolve_left (by simp [hw])
    | false =>
      rw [orElse_of_not_truthy hw]
      exact hzero.refl_right

theorem AtMost.orElse_zero (h : v.AtMost w) : (v.orElse (.int 0)).AtMost (w.orElse (.int 0)) := by
  have hzero : (Value.int 0).AtMost (.int 0) := ⟨.zero, .zero, asNumber_zero, asNumber_zero, rfl⟩
  exact h.orElse hzero fun hv ↦ .inr (h.zero_left hv)

end Value

namespace Condition

variable {u v : Value}

theorem compare_le_iff : compare (fun days least ↦ least.le days) u v = .ok true ↔ v.AtMost u := by
  rw [compare_eq_true_iff]
  constructor
  · rintro ⟨x, y, hx, hy, hyx⟩
    exact ⟨y, x, hy, hx, hyx⟩
  · rintro ⟨y, x, hy, hx, hyx⟩
    exact ⟨x, y, hx, hy, hyx⟩

theorem compare_lt_of_higher {a a' b : Value} (ha : a.AtMost a')
    (h : compare (fun value least ↦ least.lt value) a b = .ok true) :
    compare (fun value least ↦ least.lt value) a' b = .ok true := by
  obtain ⟨x, y, hx, hy, hyx⟩ := compare_eq_true_iff.mp h
  obtain ⟨x₁, x', hx₁, hx', hxx⟩ := ha
  obtain rfl : x = x₁ := NumberReading.number.inj (hx.symm.trans hx₁)
  exact compare_eq_true_iff.mpr ⟨x', y, hx', hy, lt_of_lt_of_le hyx hxx⟩

theorem compare_lt_of_lower {a b b' : Value} (hb : b'.AtMost b)
    (h : compare (fun value least ↦ least.lt value) a b = .ok true) :
    compare (fun value least ↦ least.lt value) a b' = .ok true := by
  obtain ⟨x, y, hx, hy, hyx⟩ := compare_eq_true_iff.mp h
  obtain ⟨y', y₁, hy', hy₁, hyy⟩ := hb
  obtain rfl : y = y₁ := NumberReading.number.inj (hy.symm.trans hy₁)
  exact compare_eq_true_iff.mpr ⟨x, y', hx, hy', lt_of_le_of_lt hyy hyx⟩

end Condition

namespace Context

def worth (c : Context) (v : Value) : Context :=
  { c with opportunity := { c.opportunity with value := v } }

def silent (c : Context) (v : Value) : Context :=
  { c with notes := c.notes.set "days_since_last_contact" v }

theorem get_silent (c : Context) (v : Value) (name : String) : (c.silent v).notes.get name =
    if name = "days_since_last_contact" then v else c.notes.get name :=
  Fields.get_set _ _ _ _

end Context

namespace Node

variable {m n : Node} {c : Context} {v w : Value} {default : Bool}

structure AsksWith (n : Node) (k : Condition) (field : String) (v : Value) : Prop where
  condition : n.config.get "condition_type" = .text k.name
  threshold : n.config.get field = v

theorem asks_cases (n : Node) : (∃ k : Condition, n.config.get "condition_type" = .text k.name) ∨
    ∀ c d default, n.asks c default = n.asks d default := by
  cases hk : Condition.ofConfig? n.config with
  | error f =>
    refine .inr fun c d default ↦ ?_
    simp only [asks, hk]
    rfl
  | ok found =>
    cases found with
    | none =>
      refine .inr fun c d default ↦ ?_
      simp only [asks, hk]
      rfl
    | some k => exact .inl ⟨k, Condition.ofConfig?_eq_some_iff.mp hk⟩

theorem asks_worth_mono (h : v.AtMost w) (ht : n.asks (c.worth v) default = .ok true) :
    n.asks (c.worth w) default = .ok true := by
  rcases n.asks_cases with ⟨k, hk⟩ | hsame
  · rw [asks_of_name hk] at ht ⊢
    cases k with
    | valueAbove => exact Condition.compare_lt_of_higher h.orElse_zero ht
    | _ => exact ht
  · rwa [hsame (c.worth w) (c.worth v)]

theorem asks_silent_cases (n : Node) : n.config.get "condition_type" = .text "no_response" ∨
    ∀ (c : Context) u v default, n.asks (c.silent u) default = n.asks (c.silent v) default := by
  rcases n.asks_cases with ⟨k, hk⟩ | hsame
  · cases k with
    | noResponse => exact .inl hk
    | _ =>
      refine .inr fun c u v default ↦ ?_
      rw [asks_of_name hk, asks_of_name hk]
      simp only [Condition.holds, Context.get_silent]
      rfl
  · exact .inr fun c u v default ↦ hsame _ _ default

theorem asks_silent_mono (h : v.AtMost w) (ht : n.asks (c.silent v) default = .ok true) :
    n.asks (c.silent w) default = .ok true := by
  rcases n.asks_silent_cases with hk | hsame
  · rw [asks_of_name (k := .noResponse) hk, Condition.holds, Condition.compare_le_iff,
      Context.get_silent, if_pos rfl] at ht ⊢
    exact ht.trans h.orElse_zero
  · rwa [hsame c w v]

theorem asks_silent_of_le {i j : Nat} (h : i ≤ j)
    (ht : n.asks (c.silent (.int i)) default = .ok true) :
    n.asks (c.silent (.int j)) default = .ok true ∨
      limit ≤ j ∧ n.asks (c.silent (.int j)) default = .error .numberTooLarge := by
  rcases Nat.lt_or_ge j limit with hj | hj
  · exact .inl (asks_silent_mono (Value.atMost_int h hj) ht)
  · rcases n.asks_silent_cases with hk | hsame
    · refine .inr ⟨hj, ?_⟩
      rw [asks_of_name (k := .noResponse) hk]
      refine Condition.noResponse_eq_error_iff.mpr ⟨.inl ⟨j, ?_, ?_⟩, rfl⟩
      · rw [Context.get_silent, if_pos rfl]
      · rwa [Int.natAbs_natCast]
    · exact .inl (by rwa [hsame c _ (.int i)])

theorem asksAbove_mono (hm : m.AsksWith .valueAbove "opp_value" v)
    (hn : n.AsksWith .valueAbove "opp_value" w) (h : v.AtMost w)
    (ht : n.asks c default = .ok true) : m.asks c default = .ok true := by
  rw [asks_of_name hn.condition, Condition.holds, hn.threshold] at ht
  rw [asks_of_name hm.condition, Condition.holds, hm.threshold]
  exact Condition.compare_lt_of_lower h.orElse_zero ht

theorem asksSilence_iff (hn : n.AsksWith .noResponse "no_response_days" v) :
    n.asks c default = .ok true ↔ (v.orElse (.int Condition.defaultDays)).AtMost
      ((c.notes.get "days_since_last_contact").orElse (.int 0)) := by
  rw [asks_of_name hn.condition, Condition.holds, hn.threshold, Condition.compare_le_iff]

/-- A lower threshold of days is passed by all that pass a higher one, unless it counts as none:
then the default is to be passed. -/
theorem asksSilence_mono_iff (hm : m.AsksWith .noResponse "no_response_days" v)
    (hn : n.AsksWith .noResponse "no_response_days" w) (h : v.AtMost w) :
    (∀ c default, n.asks c default = .ok true → m.asks c default = .ok true) ↔
      (v.truthy = false → w.truthy = false ∨ (Value.int Condition.defaultDays).AtMost w) := by
  constructor
  · intro hall hv
    cases hw : w.truthy with
    | false => exact .inl rfl
    | true =>
      -- A contact that has been silent for just as long as the higher threshold asks for.
      have hdays : (({} : Context).silent w).notes.get "days_since_last_contact" = w := by
        rw [Context.get_silent, if_pos rfl]
      have hhigh : n.asks (({} : Context).silent w) true = .ok true := by
        rw [asksSilence_iff hn, hdays, Value.orElse_of_truthy hw, Value.orElse_of_truthy hw]
        exact h.refl_right
      have hlow := (asksSilence_iff hm).mp (hall _ true hhigh)
      rw [hdays, Value.orElse_of_truthy hw, Value.orElse_of_not_truthy hv] at hlow
      exact .inr hlow
  · intro hlow c default ht
    have hzero : (Value.int 0).AtMost (.int Condition.defaultDays) :=
      Value.atMost_int (m := 0) (n := 3) (by decide) (by decide +kernel)
    rw [asksSilence_iff hn] at ht
    exact (asksSilence_iff hm).mpr ((h.orElse hzero hlow).trans ht)

/-- A larger worth of the deal and longer silence turn no answer from yes to no, and neither does a
lower threshold, unless it is one of days that counts as none while the higher one is below the
default. -/
theorem thresholds_are_monotone (m n : Node) :
    (∀ i j : Nat, i ≤ j → j < limit → (Value.int i).AtMost (.int j)) ∧
    (∀ v w : Value, v.AtMost w →
      m.AsksWith .valueAbove "opp_value" v → n.AsksWith .valueAbove "opp_value" w →
      ∀ c default, n.asks c default = .ok true → m.asks c default = .ok true) ∧
    (∀ v w : Value, v.AtMost w →
      m.AsksWith .noResponse "no_response_days" v → n.AsksWith .noResponse "no_response_days" w →
      ((∀ c default, n.asks c default = .ok true → m.asks c default = .ok true) ↔
        (v.truthy = false → w.truthy = false ∨ (Value.int 3).AtMost w))) ∧
    ∀ (c : Context) (default : Bool),
      (∀ v w : Value, v.AtMost w → n.asks (c.worth v) default = .ok true →
        n.asks (c.worth w) default = .ok true) ∧
      ∀ i j : Nat, i ≤ j → n.asks (c.silent (.int i)) default = .ok true →
        n.asks (c.silent (.int j)) default = .ok true ∨
          limit ≤ j ∧ n.asks (c.silent (.int j)) default = .error .numberTooLarge := by
  refine ⟨fun i j h hj ↦ Value.atMost_int h hj, ?_, ?_, ?_⟩
  · intro v w h hm hn c default ht
    exact asksAbove_mono hm hn h ht
  · intro v w h hm hn
    exact asksSilence_mono_iff hm hn h
  · intro c default
    exact ⟨fun v w h ht ↦ asks_worth_mono h ht, fun i j h ht ↦ asks_silent_of_le h ht⟩

end Node

theorem Node.thresholds_are_monotone_sample :
    (Sample.asksWorth (.int 200)).asks (({} : Context).worth (.int 300)) true = .ok true ∧
    (Sample.asksWorth (.int 100)).asks (({} : Context).worth (.int 300)) true = .ok true ∧
    (Sample.asksWorth (.int 200)).asks (({} : Context).worth (.int 500)) true = .ok true ∧
    ∀ c default, (Sample.asksSilence (.int 7)).asks c default = .ok true →
      (Sample.asksSilence (.int 5)).asks c default = .ok true := by
  obtain ⟨hread, hlower, -, hraise⟩ :=
    Node.thresholds_are_monotone (Sample.asksWorth (.int 100)) (Sample.asksWorth (.int 200))
  obtain ⟨-, -, hdays, -⟩ :=
    Node.thresholds_are_monotone (Sample.asksSilence (.int 5)) (Sample.asksSilence (.int 7))
  have hlow :
      (Sample.asksWorth (.int 200)).asks (({} : Context).worth (.int 300)) true = .ok true := by
    decide +kernel
  refine ⟨hlow, ?_, ?_, ?_⟩
  · exact hlower _ _ (hread 100 200 (by decide) (by decide +kernel)) ⟨rfl, rfl⟩ ⟨rfl, rfl⟩ _ true
      hlow
  · exact (hraise {} true).1 _ _ (hread 300 500 (by decide) (by decide +kernel)) hlow
  · exact (hdays _ _ (hread 5 7 (by decide) (by decide +kernel)) ⟨rfl, rfl⟩ ⟨rfl, rfl⟩).mpr
      (fun hfalse ↦ nomatch hfalse)

theorem Node.not_thresholds_are_monotone_of_zero : ¬ ∀ (m n : Node) (s t : Nat) (c : Context)
    (default : Bool), s ≤ t → (ofInt? s).bind toInt? = some (s : Int) →
    (ofInt? t).bind toInt? = some (t : Int) → m.AsksWith .noResponse "no_response_days" (.int s) →
    n.AsksWith .noResponse "no_response_days" (.int t) → n.asks c default = .ok true →
    m.asks c default = .ok true := by
  intro hall
  have hone :
      (Sample.asksSilence (.int 1)).asks (({} : Context).silent (.int 1)) true = .ok true := by
    decide +kernel
  have hzero : (Sample.asksSilence (.int 0)).asks (({} : Context).silent (.int 1)) true =
      .ok false := by
    decide +kernel
  have hlow := hall (Sample.asksSilence (.int 0)) (Sample.asksSilence (.int 1)) 0 1 _ true
    (by decide) (by decide +kernel) (by decide +kernel) ⟨rfl, rfl⟩ ⟨rfl, rfl⟩ hone
  cases hzero.symm.trans hlow

end Automation
