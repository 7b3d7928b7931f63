import Automation.Proofs.Context.TagSet

namespace Automation

namespace Tags

variable {vs ts : List Value} {seen : List (Option Key)}

theorem firsts_congr {seen' : List (Option Key)} (h : ∀ k, k ∈ seen ↔ k ∈ seen') :
    firsts seen vs = firsts seen' vs := by
  induction vs generalizing seen seen' with
  | nil => rfl
  | cons v vs ih =>
    have hcontains : seen.contains v.key? = seen'.contains v.key? := by
      rw [Bool.eq_iff_iff, List.contains_iff_mem, List.contains_iff_mem, h]
    have hcons : ∀ k, k ∈ v.key? :: seen ↔ k ∈ v.key? :: seen' := fun k ↦ by
      rw [List.mem_cons, List.mem_cons, h]
    rw [firsts, firsts, hcontains, ih h, ih hcons]

theorem firsts_append (seen : List (Option Key)) (vs ws : List Value) :
    firsts seen (vs ++ ws) = firsts seen vs ++ firsts (vs.map Value.key? ++ seen) ws := by
  induction vs generalizing seen with
  | nil => rfl
  | cons v vs ih =>
    rw [List.cons_append, firsts, firsts]
    split
    · next hv =>
      have hv : v.key? ∈ seen := List.contains_iff_mem.mp hv
      rw [ih]
      congr 1
      refine firsts_congr fun k ↦ ?_
      simp only [List.map_cons, List.cons_append, List.mem_cons, List.mem_append]
      constructor
      · exact .inr
      · rintro (rfl | h)
        · exact .inr hv
        · exact h
    · rw [ih, List.cons_append]
      congr 2
      refine firsts_congr fun k ↦ ?_
      simp only [List.map_cons, List.cons_append, List.mem_cons, List.mem_append]
      exact or_left_comm

theorem firsts_append_of_notMem {earlier : List Value} {v : Value}
    (h : v.key? ∉ earlier.map Value.key?) (later : List Value) : ∃ seen,
      firsts [] (earlier ++ v :: later) = firsts [] earlier ++ v :: firsts seen later := by
  rw [firsts_append, List.append_nil, firsts, if_neg fun hc ↦ h (List.contains_iff_mem.mp hc)]
  exact ⟨_, rfl⟩

theorem firsts_append_of_mem {earlier : List Value} {v : Value}
    (h : v.key? ∈ earlier.map Value.key?) (later : List Value) : ∃ seen,
      firsts [] (earlier ++ v :: later) = firsts [] earlier ++ firsts seen later := by
  rw [firsts_append, List.append_nil, firsts, if_pos (List.contains_iff_mem.mpr h)]
  exact ⟨_, rfl⟩

theorem exists_equals_iff (h : ∀ v ∈ vs, v.IsScalar) (x : Value) :
    (∃ v ∈ vs, v.equals x = true) ↔ x.isNan = false ∧ x.key? ∈ vs.map Value.key? := by
  rw [List.mem_map]
  constructor
  · rintro ⟨v, hv, he⟩
    obtain ⟨hx, hk⟩ := (Value.equals_iff (h v hv)).mp he
    exact ⟨hx, v, hv, hk⟩
  · rintro ⟨hx, v, hv, hk⟩
    exact ⟨v, hv, (Value.equals_iff (h v hv)).mpr ⟨hx, hk⟩⟩

/-- Whether a list is what is left of another one when of all values that compare as equal only the
first is kept. A value that is `nan` is equal to none, but the same as another `nan`. -/
structure KeepsFirsts (vs ts : List Value) : Prop where
  sublist : ts.Sublist vs
  apart : ts.Pairwise fun a b ↦ a.equals b = false ∧ b.equals a = false
  found : ∀ x, (∃ t ∈ ts, t.equals x = true) ↔ ∃ v ∈ vs, v.equals x = true
  kept : ∀ earlier v later, vs = earlier ++ v :: later → (∀ w ∈ earlier, w.same v = false) →
    ∃ before after, before.Sublist earlier ∧ after.Sublist later ∧ ts = before ++ v :: after
  dropped : ∀ earlier v later, vs = earlier ++ v :: later → (∃ w ∈ earlier, w.equals v = true) →
    ∃ before after, before.Sublist earlier ∧ after.Sublist later ∧ ts = before ++ after

theorem keepsFirsts_firsts (h : ∀ v ∈ vs, v.IsScalar) : KeepsFirsts vs (firsts [] vs) := by
  have hsub := firsts_sublist [] vs
  have hscalar : ∀ t ∈ firsts [] vs, t.IsScalar := fun t ht ↦ h t (hsub.mem ht)
  refine ⟨hsub, ?_, ?_, ?_, ?_⟩
  · refine List.Pairwise.imp_of_mem ?_ (List.pairwise_map.mp (nodup_firsts [] vs))
    intro a b ha hb hne
    rw [← Bool.not_eq_true, ← Bool.not_eq_true, Value.equals_iff (hscalar a ha),
      Value.equals_iff (hscalar b hb)]
    exact ⟨fun he ↦ hne he.2, fun he ↦ hne he.2.symm⟩
  · intro x
    rw [exists_equals_iff hscalar, exists_equals_iff h, key?_mem_firsts]
    simp
  · rintro earlier v later rfl hv
    have hnot : v.key? ∉ earlier.map Value.key? := by
      intro hm
      obtain ⟨w, hw, hk⟩ := List.mem_map.mp hm
      have hkeyed := Value.isSome_key?_iff.mpr (h w (List.mem_append_left _ hw))
      exact Bool.eq_false_iff.mp (hv w hw) ((Value.same_iff hkeyed).mpr hk)
    obtain ⟨seen, hseen⟩ := firsts_append_of_notMem hnot later
    exact ⟨_, _, firsts_sublist [] earlier, firsts_sublist seen later, hseen⟩
  · rintro earlier v later rfl hv
    have hearlier : ∀ w ∈ earlier, w.IsScalar := fun w hw ↦ h w (List.mem_append_left _ hw)
    have hmem := ((exists_equals_iff hearlier v).mp hv).2
    obtain ⟨seen, hseen⟩ := firsts_append_of_mem hmem later
    exact ⟨_, _, firsts_sublist [] earlier, firsts_sublist seen later, hseen⟩

theorem distinct_eq_error_iff {f : Fault} : distinct vs = .error f ↔
    ∃ v, vs.find? (fun v ↦ ¬ v.IsScalar) = some v ∧ f = .unhashable v.kind := by
  have hfind : (vs.find? fun v ↦ v.key?.isNone) = vs.find? fun v ↦ ¬ v.IsScalar := by
    congr 1
    funext v
    rw [Bool.eq_iff_iff, decide_eq_true_iff, ← Value.isSome_key?_iff]
    simp
  unfold distinct
  rw [hfind]
  cases vs.find? fun v ↦ ¬ v.IsScalar with
  | none => simp
  | some v => simp [eq_comm]

/-- Of values that compare as equal the first is kept when values are made distinct, and nothing
else is lost; to do so again changes nothing. It fails exactly if one of the values is a list or an
object. -/
theorem distinct_keeps_firsts (vs : List Value) :
    ((∀ v ∈ vs, v.IsScalar) →
        ∃ ts, distinct vs = .ok ts ∧ KeepsFirsts vs ts ∧ distinct ts = .ok ts) ∧
      ((∃ f, distinct vs = .error f) ↔ ∃ v ∈ vs, ¬ v.IsScalar) ∧
      ∀ f, distinct vs = .error f → ∃ v ∈ vs, ¬ v.IsScalar ∧ f = .unhashable v.kind := by
  have hfind {v : Value} (h : vs.find? (fun v ↦ ¬ v.IsScalar) = some v) :
      v ∈ vs ∧ ¬ v.IsScalar := by
    have hn := List.find?_some h
    exact ⟨List.mem_of_find?_eq_some h, of_decide_eq_true hn⟩
  refine ⟨fun h ↦ ?_, ⟨?_, ?_⟩, ?_⟩
  · have hkeyed : ∀ v ∈ vs, v.key?.isSome = true := fun v hv ↦ Value.isSome_key?_iff.mpr (h v hv)
    exact ⟨firsts [] vs, distinct_eq_ok_iff.mpr ⟨hkeyed, rfl⟩, keepsFirsts_firsts h,
      distinct_eq_self_iff.mpr (isDistinct_firsts hkeyed)⟩
  · rintro ⟨f, hf⟩
    obtain ⟨v, hv, -⟩ := distinct_eq_error_iff.mp hf
    exact ⟨v, hfind hv⟩
  · rintro ⟨w, hw, hn⟩
    have hsome : (vs.find? fun v ↦ ¬ v.IsScalar).isSome = true :=
      List.find?_isSome.mpr ⟨w, hw, by simpa using hn⟩
    obtain ⟨v, hv⟩ := Option.isSome_iff_exists.mp hsome
    exact ⟨_, distinct_eq_error_iff.mpr ⟨v, hv, rfl⟩⟩
  · intro f hf
    obtain ⟨v, hv, rfl⟩ := distinct_eq_error_iff.mp hf
    exact ⟨v, (hfind hv).1, (hfind hv).2, rfl⟩

theorem distinct_keeps_firsts_sample : ∃ ts,
    distinct [.int 1, .text "a", .bool true, .float .one, .text "1"] = .ok ts ∧
      KeepsFirsts [.int 1, .text "a", .bool true, .float .one, .text "1"] ts ∧
      ts = [.int 1, .text "a", .text "1"] := by
  obtain ⟨ts, hts, hkeeps, -⟩ :=
    (distinct_keeps_firsts [.int 1, .text "a", .bool true, .float .one, .text "1"]).1 (by decide)
  have hrun : distinct [.int 1, .text "a", .bool true, .float .one, .text "1"] =
      .ok [.int 1, .text "a", .text "1"] := by decide +kernel
  exact ⟨ts, hts, hkeeps, Except.ok.inj (hts.symm.trans hrun)⟩

end Tags

end Automation
