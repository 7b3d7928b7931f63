import Automation.Proofs.Context.Effect

namespace Automation

namespace Change

variable {k : Change} {cfg : Fields} {c d : Context} {u : Revision}

/-- A change writes the same again, or nothing. -/
theorem writes_again (hc : Tags.IsDistinct c.contact.tags)
    (hu : k.writes cfg c.contact.tags = .ok u) (hd : c.revised u = .ok d) :
    k.writes cfg d.contact.tags = .ok u ∨ k.writes cfg d.contact.tags = .ok .empty := by
  cases k with
  | addTag =>
    right
    simp only [writes] at hu ⊢
    split at hu
    · next hleft =>
      cases hu
      obtain rfl : c = d := Except.ok.inj hd
      exact if_pos hleft
    · cases hu
      have hmem : (cfg.get "tag").memberOf d.contact.tags = true := by
        rw [Tags.memberOf_distinct (Context.tags_revised_field hd)]
        simp
      simp [hmem]
  | removeTag =>
    left
    cases hu
    have hdistinct := Tags.distinct_eq_self_iff.mpr (hc.filter fun t ↦ !t.equals (cfg.get "tag"))
    have htags : d.contact.tags = c.contact.tags.filter fun t ↦ !t.equals (cfg.get "tag") :=
      Except.ok.inj ((Context.tags_revised_field hd).symm.trans hdistinct)
    simp only [writes, htags, List.filter_filter, Bool.and_self]
  | _ => exact .inl hu

end Change

namespace Node

variable {n : Node} {ns : List Node} {c d e : Context}

theorem change_again (hc : Tags.IsDistinct c.contact.tags) (h : n.change c = .ok d) :
    n.change d = .ok d := by
  obtain ⟨u, hu, hd⟩ := change_eq_ok_iff.mp h
  have hsame : d.revised u = .ok d := Context.revised_again hd
  rcases writes_eq_ok_iff.mp hu with hnone | ⟨k, hk, hu⟩
  · exact change_eq_ok_iff.mpr ⟨u, writes_eq_ok_iff.mpr (.inl hnone), hsame⟩
  · rcases Change.writes_again hc hu hd with hagain | hnothing
    · exact change_eq_ok_iff.mpr ⟨u, writes_eq_ok_iff.mpr (.inr ⟨k, hk, hagain⟩), hsame⟩
    · have hwrites : n.writes d.contact.tags = .ok .empty :=
        writes_eq_ok_iff.mpr (.inr ⟨k, hk, hnothing⟩)
      exact change_eq_ok_iff.mpr ⟨.empty, hwrites, Context.revised_empty d⟩

theorem changes_again_isOk (hc : Tags.IsDistinct c.contact.tags) (h : changes ns c = .ok d) :
    ∃ e, changes ns d = .ok e := by
  have hd := isDistinct_changes hc h
  refine (changes_isOk_iff hd).mpr fun n hn ↦ ?_
  obtain ⟨b, hb⟩ := (changes_isOk_iff hc).mp ⟨d, h⟩ n hn
  exact change_isOk hc hd hb

theorem alike_changes_again (hc : Tags.IsDistinct c.contact.tags) (h : changes ns c = .ok d)
    (h' : changes ns d = .ok e) : Context.Alike List.Perm e d := by
  have hd := isDistinct_changes hc h
  obtain ⟨htype, hat, haside⟩ := keeps_changes h'
  refine ⟨htype, hat, haside, fun p hp ↦ ?_, ?_⟩
  · rw [value?_changes h' hp, value?_changes h hp, Effect.on_on]
  · refine (isDistinct_changes hd h').perm hd fun k ↦ ?_
    have he := tagged_changes k h'
    rw [tagged_changes k h, Effect.on_on, ← tagged_changes k h] at he
    exact he

/-- Nodes that have been applied can be applied once more, and change nothing but the order of the
tags; a node alone does not even change that. -/
theorem changes_again (c d : Context) (ns : List Node) (hc : c.Reachable)
    (h : changes ns c = .ok d) :
    (∃ e, changes ns d = .ok e ∧ Context.Alike List.Perm e d) ∧
    ∀ n, ns = [n] → changes ns d = .ok d := by
  refine ⟨?_, fun n hn ↦ ?_⟩
  · obtain ⟨e, he⟩ := changes_again_isOk hc.isDistinct h
    exact ⟨e, he, alike_changes_again hc.isDistinct h he⟩
  · subst hn
    rw [changes_singleton] at h ⊢
    exact change_again hc.isDistinct h

end Node

namespace Sample

def retagging : List Node :=
  [.about "remove_tag" (.text "lead"), .about "add_tag" (.text "lead"),
    .about "add_tag" (.text "new")]

end Sample

theorem Node.changes_again_sample : ∃ c d e : Context, c.Reachable ∧
    changes Sample.retagging c = .ok d ∧ changes Sample.retagging d = .ok e ∧
    Context.Alike List.Perm e d ∧
    d.contact.tags = [.text "lead", .text "new"] ∧
    e.contact.tags = [.text "new", .text "lead"] := by
  have hreachable : Context.Reachable {} := .read (show Context.read [] = .good {} from rfl)
  obtain ⟨⟨e, he, halike⟩, -⟩ := changes_again {} _ Sample.retagging hreachable rfl
  obtain rfl := Except.ok.inj he
  exact ⟨{}, _, _, hreachable, rfl, rfl, halike, rfl, rfl⟩

end Automation
