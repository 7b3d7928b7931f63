import Automation.Context.Tags
import Automation.Proofs.Faulty
import Automation.Proofs.Value.Given

namespace Automation

namespace Tags

/-- Tags all of which have keys, no two of them the same one. -/
structure IsDistinct (ts : List Value) : Prop where
  keyed : ∀ t ∈ ts, t.key?.isSome = true
  nodup : (ts.map Value.key?).Nodup

variable {ts vs : List Value} {v : Value} {f : Fault}

theorem key?_mem_firsts {seen : List (Option Key)} {k : Option Key} :
    k ∈ (firsts seen vs).map Value.key? ↔ k ∈ vs.map Value.key? ∧ k ∉ seen := by
  induction vs generalizing seen with
  | nil => simp [firsts]
  | cons v vs ih =>
    rw [firsts]
    split
    · next hv =>
      have hv : v.key? ∈ seen := by simpa using hv
      rw [ih, List.map_cons, List.mem_cons]
      constructor
      · rintro ⟨h, hk⟩
        exact ⟨.inr h, hk⟩
      · rintro ⟨rfl | h, hk⟩
        · exact absurd hv hk
        · exact ⟨h, hk⟩
    · next hv =>
      have hv : v.key? ∉ seen := by simpa using hv
      rw [List.map_cons, List.map_cons, List.mem_cons, List.mem_cons, ih, List.mem_cons]
      constructor
      · rintro (rfl | ⟨h, hk⟩)
        · exact ⟨.inl rfl, hv⟩
        · exact ⟨.inr h, fun hm ↦ hk (.inr hm)⟩
      · rintro ⟨rfl | h, hk⟩
        · exact .inl rfl
        · by_cases he : k = v.key?
          · exact .inl he
          · exact .inr ⟨h, by tauto⟩

theorem nodup_firsts (seen : List (Option Key)) (vs : List Value) :
    ((firsts seen vs).map Value.key?).Nodup := by
  induction vs generalizing seen with
  | nil => exact List.nodup_nil
  | cons v vs ih =>
    rw [firsts]
    split
    · exact ih seen
    · rw [List.map_cons, List.nodup_cons]
      exact ⟨fun hm ↦ (key?_mem_firsts.mp hm).2 List.mem_cons_self, ih _⟩

theorem firsts_eq_self {seen : List (Option Key)} (h : (vs.map Value.key?).Nodup)
    (hs : ∀ v ∈ vs, v.key? ∉ seen) : firsts seen vs = vs := by
  induction vs generalizing seen with
  | nil => rfl
  | cons v vs ih =>
    rw [List.map_cons, List.nodup_cons] at h
    rw [firsts, if_neg (by simpa using hs v List.mem_cons_self), ih h.2]
    intro w hw hm
    rcases List.mem_cons.mp hm with he | hm
    · exact h.1 (he ▸ List.mem_map_of_mem hw)
    · exact hs w (List.mem_cons_of_mem _ hw) hm

theorem isDistinct_firsts (h : ∀ v ∈ vs, v.key?.isSome = true) : IsDistinct (firsts [] vs) :=
  ⟨fun t ht ↦ h t ((firsts_sublist [] vs).mem ht), nodup_firsts [] vs⟩

theorem isDistinct_of_distinct (h : distinct vs = .ok ts) : IsDistinct ts := by
  obtain ⟨hk, rfl⟩ := distinct_eq_ok_iff.mp h
  exact isDistinct_firsts hk

theorem isDistinct_ofTexts (ss : List String) : IsDistinct (ofTexts ss) := by
  refine isDistinct_firsts fun v hv ↦ ?_
  obtain ⟨s, -, rfl⟩ := List.mem_map.mp hv
  rfl

/-- Distinct tags are those that making tags distinct leaves alone. -/
theorem distinct_eq_self_iff : distinct ts = .ok ts ↔ IsDistinct ts :=
  ⟨isDistinct_of_distinct, fun h ↦ distinct_eq_ok_iff.mpr
    ⟨h.keyed, (firsts_eq_self h.nodup fun _ _ ↦ List.not_mem_nil).symm⟩⟩

theorem IsDistinct.pairwise (h : IsDistinct ts) : ts.Pairwise fun a b ↦ a.same b = false := by
  refine List.Pairwise.imp_of_mem ?_ (List.pairwise_map.mp h.nodup)
  intro a b ha _ hne
  rw [Bool.eq_false_iff]
  exact fun hs ↦ hne (Value.key?_eq_of_same hs)

theorem memberOf_iff (h : ∀ t ∈ ts, t.key?.isSome = true) (v : Value) :
    v.memberOf ts = true ↔ v.key? ∈ ts.map Value.key? := by
  rw [Value.memberOf, List.any_eq_true, List.mem_map]
  constructor
  · rintro ⟨t, ht, hs⟩
    exact ⟨t, ht, Value.key?_eq_of_same hs⟩
  · rintro ⟨t, ht, he⟩
    exact ⟨t, ht, (Value.same_iff (h t ht)).mpr he⟩

theorem memberOf_of_key?_eq_none (h : IsDistinct ts) (hv : v.key? = none) :
    v.memberOf ts = false := by
  rw [← Bool.not_eq_true, memberOf_iff h.keyed, hv]
  intro hm
  obtain ⟨t, ht, hn⟩ := List.mem_map.mp hm
  have hkeyed := h.keyed t ht
  simp [hn] at hkeyed

theorem memberOf_distinct (h : distinct vs = .ok ts) (v : Value) :
    v.memberOf ts = true ↔ v.key? ∈ vs.map Value.key? := by
  rw [memberOf_iff (isDistinct_of_distinct h).keyed]
  obtain ⟨-, rfl⟩ := distinct_eq_ok_iff.mp h
  simp [key?_mem_firsts]

theorem IsDistinct.filter (h : IsDistinct ts) (p : Value → Bool) : IsDistinct (ts.filter p) :=
  ⟨fun t ht ↦ h.keyed t (List.mem_of_mem_filter ht), (List.filter_sublist.map _).nodup h.nodup⟩

theorem distinct_append_eq_error_iff (h : IsDistinct ts) :
    distinct (ts ++ [v]) = .error f ↔ v.key? = none ∧ f = .unhashable v.kind := by
  have hnone : ts.find? (fun t ↦ t.key?.isNone) = none := by
    refine List.find?_eq_none.mpr fun t ht hn ↦ ?_
    have hkeyed := h.keyed t ht
    cases hk : t.key? <;> simp_all
  unfold distinct
  rw [List.find?_append, hnone]
  cases hk : v.key? <;> simp [hk, eq_comm]

theorem distinct_filter_isOk (h : IsDistinct ts) (p : Value → Bool) :
    ∃ vs, distinct (ts.filter p) = .ok vs :=
  ⟨_, distinct_eq_ok_iff.mpr ⟨fun t ht ↦ h.keyed t (List.mem_of_mem_filter ht), rfl⟩⟩

theorem exists_texts (ss : List String) :
    ∃ ts : List String, ofTexts ss = ts.map .text ∧ ofTexts ts = ofTexts ss := by
  obtain ⟨ts, -, hts⟩ := List.sublist_map_iff.mp (firsts_sublist [] (ss.map Value.text))
  refine ⟨ts, hts, ?_⟩
  have h := (isDistinct_ofTexts ss).nodup
  rw [ofTexts, hts] at h
  rw [ofTexts, ofTexts, hts, firsts_eq_self h fun _ _ ↦ List.not_mem_nil]

end Tags

end Automation
