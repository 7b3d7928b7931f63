import Automation.Context.History
import Automation.Proofs.Context.Effect

namespace Automation

namespace Node

/-- There is no place that both nodes may write. -/
def Apart (m n : Node) : Prop := ∀ p, m.touches p = true → n.touches p = false

variable {m n : Node} {b b' c c' d d' : Context} {p : Place}

theorem touches_eq_of_same {q : Place} (h : q.same p = true) (hq : q.name.key?.isSome = true) :
    n.touches p = n.touches q := by
  obtain ⟨hpart, hname⟩ := Bool.and_eq_true_iff.mp h
  have hkeyed : p.name.key?.isSome = true := Value.key?_eq_of_same hname ▸ hq
  unfold touches Place.same
  simp only [← eq_of_beq hpart, Value.same_congr_right hname hkeyed]

theorem apart_of_forall (hkeyed : ∀ q ∈ m.footprint, q.name.key?.isSome = true)
    (h : ∀ q ∈ m.footprint, n.touches q = false) : m.Apart n := by
  intro p hp
  obtain ⟨q, hq, hsame⟩ := List.any_eq_true.mp hp
  rw [touches_eq_of_same hsame (hkeyed q hq)]
  exact h q hq

theorem tags_change_congr (h : n.change c = .ok d) (h' : n.change c' = .ok d')
    (htags : c.contact.tags = c'.contact.tags) : d.contact.tags = d'.contact.tags := by
  obtain ⟨u, hu, hd⟩ := change_eq_ok_iff.mp h
  obtain ⟨u', hu', hd'⟩ := change_eq_ok_iff.mp h'
  obtain rfl : u = u' := by
    rw [htags, hu'] at hu
    exact (Except.ok.inj hu).symm
  rcases Context.tags_revised hd with ⟨hnone, hsame⟩ | ⟨v, vs, hv, hvs, ht⟩
  · rcases Context.tags_revised hd' with ⟨-, hsame'⟩ | ⟨v', vs', hv', -⟩
    · rw [hsame, hsame', htags]
    · cases hnone.symm.trans hv'
  · rcases Context.tags_revised hd' with ⟨hnone, -⟩ | ⟨v', vs', hv', hvs', ht'⟩
    · cases hnone.symm.trans hv
    · cases hv.symm.trans hv'
      cases hvs.symm.trans hvs'
      exact Except.ok.inj (ht.symm.trans ht')

theorem value?_change_congr (h : n.change c = .ok d) (h' : n.change c' = .ok d')
    (hp : c.value? p = c'.value? p) : d.value? p = d'.value? p := by
  by_cases htags : p = .tags
  · subst htags
    rw [Context.value?_tags, Context.value?_tags] at hp ⊢
    rw [tags_change_congr h h' (Value.list.inj (Option.some.inj hp))]
  · rw [value?_change_eq_on h htags, value?_change_eq_on h' htags, hp]

/-- Where one of two nodes does not write, the other one does the same before it as after it. -/
theorem value?_change_swap (hm : m.change c = .ok b) (hn : n.change b = .ok d)
    (hn' : n.change c = .ok b') (hm' : m.change b' = .ok d') (hp : n.touches p = false) :
    d.value? p = d'.value? p := by
  rw [value?_change hn hp]
  exact value?_change_congr hm hm' (value?_change hn' hp).symm

theorem changes_pair_eq_ok_iff : changes [m, n] c = .ok d ↔
    ∃ b, m.change c = .ok b ∧ n.change b = .ok d := by
  rw [changes_cons_eq_ok_iff]
  simp only [changes_singleton]

/-- Two nodes that write at no common place can be applied in one order if they can be applied in
the other one, and what comes of it is alike. -/
theorem changes_commute (m n : Node) (c : Context) (hc : c.Reachable) (hapart : m.Apart n) :
    ((∃ d, changes [m, n] c = .ok d) ↔ ∃ d, changes [n, m] c = .ok d) ∧
    ∀ d d', changes [m, n] c = .ok d → changes [n, m] c = .ok d' → Context.Alike Eq d d' := by
  refine ⟨?_, fun d d' h h' ↦ ?_⟩
  · rw [changes_isOk_iff hc.isDistinct, changes_isOk_iff hc.isDistinct]
    simp only [List.forall_mem_cons, List.not_mem_nil, false_imp_iff, implies_true, and_true]
    exact and_comm
  · obtain ⟨htype, hat, haside⟩ := keeps_changes h
    obtain ⟨htype', hat', haside'⟩ := keeps_changes h'
    obtain ⟨b, hm, hn⟩ := changes_pair_eq_ok_iff.mp h
    obtain ⟨b', hn', hm'⟩ := changes_pair_eq_ok_iff.mp h'
    have hread (p : Place) : d.value? p = d'.value? p := by
      by_cases hp : m.touches p = true
      · exact value?_change_swap hm hn hn' hm' (hapart p hp)
      · exact (value?_change_swap hn' hm' hm hn (Bool.eq_false_iff.mpr hp)).symm
    exact {
      triggerType := htype.trans htype'.symm
      triggeredAt := hat.trans hat'.symm
      aside := haside.trans haside'.symm
      value? := fun p _ ↦ hread p
      tags := Value.list.inj (Option.some.inj (hread .tags)) }

end Node

theorem Node.changes_commute_sample : ∃ c d d' : Context, c.Reachable ∧
    changes [Sample.naming (.text "city") (.text "Oslo"),
      Sample.naming (.text "nickname") (.text "Jo")] c =
      .ok d ∧
    changes [Sample.naming (.text "nickname") (.text "Jo"),
      Sample.naming (.text "city") (.text "Oslo")] c =
      .ok d' ∧ d ≠ d' ∧ Context.Alike Eq d d' := by
  have hread : Context.read [] = .good {} := rfl
  have hapart : (Sample.naming (.text "city") (.text "Oslo")).Apart
      (Sample.naming (.text "nickname") (.text "Jo")) :=
    apart_of_forall (by decide) (by decide)
  refine ⟨{}, _, _, .read hread, rfl, rfl, by decide, ?_⟩
  exact (changes_commute _ _ _ (.read hread) hapart).2 _ _ rfl rfl

namespace History

def grow (h : History) (version : Int) (n : Node) : Except Fault History :=
  (n.change (h.context version)).map fun d ↦ h.add version d n.opensDeal

def bothOrders (m n : Node) (c : Context) : Except Fault History := do
  let h ← (start c).grow 0 m
  let h ← h.grow 1 n
  let h ← h.grow 0 n
  h.grow 3 m

variable {m n : Node} {c : Context} {h : History}

theorem bothOrders_eq_ok (hboth : bothOrders m n c = .ok h) :
    Node.changes [m, n] c = .ok (h.context 2) ∧ Node.changes [n, m] c = .ok (h.context 4) := by
  simp only [bothOrders, grow, bind_eq_ok_iff, map_eq_ok_iff] at hboth
  obtain ⟨_, ⟨b, hm, rfl⟩, _, ⟨d, hn, rfl⟩, _, ⟨b', hn', rfl⟩, d', hm', rfl⟩ := hboth
  exact ⟨Node.changes_pair_eq_ok_iff.mpr ⟨b, hm, hn⟩,
    Node.changes_pair_eq_ok_iff.mpr ⟨b', hn', hm'⟩⟩

end History

namespace Sample

def noting (note : Value) : Node :=
  { id := some "n2", type := "add_note", config := [("note", note)] }

end Sample

theorem Node.not_changes_commute_of_nan : ¬ ∀ (m n : Node) (c : Context) (h : History),
    c.Reachable → m.Apart n → History.bothOrders m n c = .ok h → h.same 2 4 = true := by
  intro hall
  have hread : Context.read [] = .good {} := rfl
  have h := hall (Sample.opening (.text "nan")) (Sample.noting (.text "hi")) {} _ (.read hread)
    (apart_of_forall (by decide) (by decide)) rfl
  cases h

end Automation
