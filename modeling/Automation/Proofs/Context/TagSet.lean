import Automation.Condition
import Automation.Proofs.Context.Writing
import Mathlib.Data.List.Induction

namespace Automation

namespace Tags

theorem key?_mem_filter {ts : List Value} (hts : ∀ x ∈ ts, x.key?.isSome = true)
    {t : Value} (ht : t.isNan = false) (tag : Value) :
    t.key? ∈ (ts.filter fun x ↦ !x.equals tag).map Value.key? ↔
      t.key? ∈ ts.map Value.key? ∧ tag.same t = false := by
  simp only [List.mem_map, List.mem_filter, Bool.not_eq_true']
  have hx {x : Value} (hx : x ∈ ts) (hk : x.key? = t.key?) : x.equals tag = tag.same t := by
    have hn : x.isNan = false := by
      rw [← ht, Value.isNan, Value.isNan, hk]
    rw [Value.equals_of_not_isNan hn, Bool.eq_iff_iff, Value.same_iff (hts x hx), hk]
    constructor
    · intro he
      exact (Value.same_iff (he ▸ hk ▸ hts x hx)).mpr he.symm
    · intro hs
      exact (Value.key?_eq_of_same hs).symm
  constructor
  · rintro ⟨x, ⟨hm, he⟩, hk⟩
    exact ⟨⟨x, hm, hk⟩, (hx hm hk).symm.trans he⟩
  · rintro ⟨⟨x, hm, hk⟩, hs⟩
    exact ⟨x, ⟨hm, (hx hm hk).trans hs⟩, hk⟩

end Tags

namespace Node

/-- Whether the node puts a tag in or takes it out. -/
def concerns (t : Value) (n : Node) : Bool :=
  (n.type == "add_tag" || n.type == "remove_tag") && (n.config.get "tag").equals t

def lastConcerned (t : Value) (ns : List Node) : Option Node := ns.reverse.find? (concerns t)

def changes (ns : List Node) (c : Context) : Except Fault Context :=
  ns.foldlM (fun c n ↦ n.change c) c

variable {n : Node} {c d : Context} {t : Value}

theorem concerns_iff (ht : t.isNan = false) : n.concerns t = true ↔
    (n.type = "add_tag" ∨ n.type = "remove_tag") ∧ (n.config.get "tag").same t = true := by
  rw [concerns, Bool.and_eq_true, Bool.or_eq_true, Value.equals_iff_same ht]
  simp

theorem write_tags {vs : List Value} (h : Change.writeContact c "tags" (.list vs) = .ok d) :
    Tags.distinct vs = .ok d.contact.tags := by
  obtain ⟨k, hk, rfl⟩ := Context.revise_eq_ok_iff.mp h
  simp only [Contact.update, List.foldlM_cons, List.foldlM_nil, bind_eq_ok_iff, pure_eq_ok_iff,
    map_eq_ok_iff] at hk
  obtain ⟨_, ⟨k', hk', rfl⟩, rfl⟩ := hk
  rcases Contact.write_cases hk' with ⟨-, ws, ts, hws, hts, rfl⟩ | ⟨hn, -⟩
  · cases hws
    rwa [Contact.tags_give]
  · exact absurd rfl hn

theorem change_addTag (hn : n.type = "add_tag") (h : n.change c = .ok d) :
    (d = c ∧ ((n.config.get "tag").truthy = false ∨
        (n.config.get "tag").memberOf c.contact.tags = true)) ∨
      Tags.distinct (c.contact.tags ++ [n.config.get "tag"]) = .ok d.contact.tags := by
  simp only [change, hn, Change.ofType?, mapError_eq_ok_iff, Change.apply] at h
  split at h
  · next hs =>
    refine .inl ⟨(Except.ok.inj h).symm, ?_⟩
    simpa using hs
  · exact .inr (write_tags h)

theorem change_removeTag (hn : n.type = "remove_tag") (h : n.change c = .ok d) :
    Tags.distinct (c.contact.tags.filter fun x ↦ !x.equals (n.config.get "tag")) =
      .ok d.contact.tags := by
  simp only [change, hn, Change.ofType?, mapError_eq_ok_iff, Change.apply] at h
  exact write_tags h

theorem memberOf_change (h : n.change c = .ok d) (hc : Tags.IsDistinct c.contact.tags)
    (htrue : t.truthy = true) (ht : t.isNan = false) :
    t.memberOf d.contact.tags = true ↔
      if n.concerns t then n.type = "add_tag" ∧ (n.config.get "tag").truthy = true
      else t.memberOf c.contact.tags = true := by
  by_cases ha : n.type = "add_tag"
  · by_cases hs : (n.config.get "tag").same t = true
    · have hk := Value.key?_eq_of_same hs
      have hg := (Value.truthy_of_same hs).trans htrue
      rw [if_pos ((concerns_iff ht).mpr ⟨.inl ha, hs⟩)]
      refine iff_of_true ?_ ⟨ha, hg⟩
      rcases change_addTag ha h with ⟨rfl, hf | hm⟩ | hd
      · rw [hg] at hf
        cases hf
      · rw [Tags.memberOf_iff hc.keyed] at hm ⊢
        rwa [← hk]
      · rw [Tags.memberOf_distinct hd]
        simp [hk]
    · rw [if_neg (fun hn ↦ hs ((concerns_iff ht).mp hn).2)]
      rcases change_addTag ha h with ⟨rfl, -⟩ | hd
      · rfl
      · have hkeyed := (Tags.distinct_eq_ok_iff.mp hd).1 (n.config.get "tag") (by simp)
        rw [Value.same_iff hkeyed] at hs
        rw [Tags.memberOf_distinct hd, Tags.memberOf_iff hc.keyed]
        simp [Ne.symm hs]
  · by_cases hr : n.type = "remove_tag"
    · rw [Tags.memberOf_distinct (change_removeTag hr h), Tags.key?_mem_filter hc.keyed ht,
        ← Tags.memberOf_iff hc.keyed]
      by_cases hs : (n.config.get "tag").same t = true
      · rw [if_pos ((concerns_iff ht).mpr ⟨.inr hr, hs⟩)]
        simp [hs, ha]
      · rw [if_neg (fun hn ↦ hs ((concerns_iff ht).mp hn).2)]
        simp [hs]
    · rw [if_neg fun hn ↦ ((concerns_iff ht).mp hn).1.elim ha hr, tags_change h ha hr]

/-- After nodes in turn, the last one that is concerned with a tag has decided. -/
theorem memberOf_changes {ns : List Node} (h : changes ns c = .ok d)
    (hc : Tags.IsDistinct c.contact.tags) (htrue : t.truthy = true) (ht : t.isNan = false) :
    t.memberOf d.contact.tags = true ↔ match lastConcerned t ns with
      | some n => n.type = "add_tag" ∧ (n.config.get "tag").truthy = true
      | none => t.memberOf c.contact.tags = true := by
  induction ns using List.reverseRecOn generalizing d with
  | nil =>
    cases h
    rfl
  | append_singleton ns n ih =>
    simp only [changes, List.foldlM_append, List.foldlM_cons, List.foldlM_nil, bind_eq_ok_iff,
      pure_eq_ok_iff] at h
    obtain ⟨e, he, _, hn, rfl⟩ := h
    have hd := foldlM_keeps (P := fun c ↦ Tags.IsDistinct c.contact.tags)
      (fun n _ _ _ hb hs ↦ isDistinct_change hs hb) he hc
    rw [memberOf_change hn hd htrue ht, lastConcerned, List.reverse_append, List.reverse_singleton,
      List.singleton_append, List.find?_cons]
    by_cases hcon : n.concerns t = true
    · simp [hcon]
    · simp only [hcon, Bool.false_eq_true, if_false]
      exact ih he

theorem asks_hasTag {q : Node} (hq : q.config.get "condition_type" = .text "has_tag") (c : Context)
    (default : Bool) :
    q.asks c default = .ok ((q.config.get "tag").memberOf c.contact.tags) := by
  simp only [asks, Condition.ofConfig?, hq]
  rfl

/-- Whether a contact has a tag is decided by the last node that puts it in or takes it out, and no
node of another type has a say in it. -/
theorem has_tag_iff_last_concerned (c d : Context) (ns : List Node) (q : Node) (default : Bool)
    (hc : Tags.distinct c.contact.tags = .ok c.contact.tags) (hd : changes ns c = .ok d)
    (hq : q.config.get "condition_type" = .text "has_tag")
    (htrue : (q.config.get "tag").truthy = true) (ht : (q.config.get "tag").isNan = false) :
    (∃ b, q.asks d default = .ok b ∧ (b = true ↔ match lastConcerned (q.config.get "tag") ns with
      | some n => n.type = "add_tag" ∧ (n.config.get "tag").truthy = true
      | none => (q.config.get "tag").memberOf c.contact.tags = true)) ∧
    ∀ n c d, n.type ≠ "add_tag" → n.type ≠ "remove_tag" → change n c = .ok d →
      d.contact.tags = c.contact.tags ∧ q.asks d default = q.asks c default := by
  refine ⟨⟨_, asks_hasTag hq d default, ?_⟩, ?_⟩
  · exact memberOf_changes hd (Tags.distinct_eq_self_iff.mp hc) htrue ht
  · intro n c d ha hr h
    have htags := tags_change h ha hr
    rw [asks_hasTag hq, asks_hasTag hq, htags]
    exact ⟨rfl, rfl⟩

def about (type : String) (tag : Value) : Node := { type, config := [("tag", tag)] }

def asking (tag : Value) : Node :=
  { type := "condition", config := [("condition_type", .text "has_tag"), ("tag", tag)] }

theorem has_tag_iff_last_concerned_sample : ∃ d,
    changes [about "add_tag" (.text "lead"), about "remove_tag" (.text "new"),
      about "add_tag" (.text "old")] { contact := { tags := [.text "new"] } } = .ok d ∧
    (asking (.text "lead")).asks d false = .ok true := by
  refine ⟨_, rfl, ?_⟩
  obtain ⟨⟨b, hb, hiff⟩, -⟩ := has_tag_iff_last_concerned { contact := { tags := [.text "new"] } } _
    [about "add_tag" (.text "lead"), about "remove_tag" (.text "new"),
      about "add_tag" (.text "old")] (asking (.text "lead")) false rfl rfl rfl rfl rfl
  rwa [hiff.mpr ⟨rfl, rfl⟩] at hb

theorem not_has_tag_iff_last_concerned_of_nan : ¬ ∀ (c d : Context) (ns : List Node) (q : Node)
    (default : Bool), Tags.distinct c.contact.tags = .ok c.contact.tags → changes ns c = .ok d →
    q.config.get "condition_type" = .text "has_tag" → (q.config.get "tag").truthy = true →
    ∃ b, q.asks d default = .ok b ∧ (b = true ↔ match lastConcerned (q.config.get "tag") ns with
      | some n => n.type = "add_tag" ∧ (n.config.get "tag").truthy = true
      | none => (q.config.get "tag").memberOf c.contact.tags = true) := by
  intro h
  obtain ⟨b, hb, hiff⟩ := h {} _ [about "add_tag" (.float .nan)] (asking (.float .nan)) false
    rfl rfl rfl rfl
  obtain rfl : true = b := Except.ok.inj hb
  cases hiff.mp rfl

end Node

end Automation
