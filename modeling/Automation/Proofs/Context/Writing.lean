import Automation.Change
import Automation.Proofs.Context.Distinct

namespace Automation

namespace Fields

theorem names_set (fs : Fields) (name : String) (v : Value) :
    fs.map Prod.fst ⊆ (fs.set name v).map Prod.fst := by
  induction fs with
  | nil => exact List.nil_subset _
  | cons p fs ih =>
    obtain ⟨k, w⟩ := p
    by_cases hk : k = name
    · simp [set, hk]
    · simpa [set, hk] using List.cons_subset_cons k ih

theorem names_merge (fs gs : Fields) : fs.map Prod.fst ⊆ (fs.merge gs).map Prod.fst := by
  induction gs generalizing fs with
  | nil => exact List.Subset.refl _
  | cons p gs ih => exact List.Subset.trans (names_set fs p.1 p.2) (ih _)

end Fields

namespace Named

theorem names_set (fs : Named) (name v : Value) :
    fs.map Prod.fst ⊆ (fs.set name v).map Prod.fst := by
  induction fs with
  | nil => exact List.nil_subset _
  | cons p fs ih =>
    obtain ⟨k, w⟩ := p
    by_cases hk : k.same name = true
    · simp [set, hk]
    · simpa [set, hk] using List.cons_subset_cons k ih

end Named

namespace Opportunity

variable {o : Opportunity} {changes : Fields}

theorem id_put {name : String} (v : Value) (h : name ≠ "id") : (o.put name v).id = o.id := by
  unfold put
  split <;> simp_all

theorem value_put (name : String) (v : Value) :
    (o.put name v).value = if name = "value" then v else o.value := by
  unfold put
  split <;> simp_all

theorem id_update (h : ∀ p ∈ changes, p.1 ≠ "id") : (o.update changes).id = o.id := by
  induction changes generalizing o with
  | nil => rfl
  | cons p changes ih =>
    rw [List.forall_mem_cons] at h
    exact (ih h.2).trans (id_put p.2 h.1)

theorem value_update_of_ne (h : ∀ p ∈ changes, p.1 ≠ "value") :
    (o.update changes).value = o.value := by
  induction changes generalizing o with
  | nil => rfl
  | cons p changes ih =>
    rw [List.forall_mem_cons] at h
    have hp : (o.put p.1 p.2).value = o.value := (value_put p.1 p.2).trans (if_neg h.1)
    exact (ih h.2).trans hp

theorem value_update (h : ∀ p ∈ changes, p.1 = "value" → ∃ x, p.2 = .float x)
    (ho : ∃ x, o.value = .float x) : ∃ x, (o.update changes).value = .float x := by
  induction changes generalizing o with
  | nil => exact ho
  | cons p changes ih =>
    rw [List.forall_mem_cons] at h
    refine ih h.2 ?_
    rw [value_put]
    split
    · next hp => exact h.1 hp
    · exact ho

end Opportunity

namespace Contact

variable {c d : Contact} {name v : Value} {changes : Named}

theorem tags_put : (c.put name v).tags = c.tags := by
  unfold put
  split <;> rfl

theorem names_put : c.extra.map Prod.fst ⊆ (c.put name v).extra.map Prod.fst := by
  unfold put
  split <;> first | exact List.Subset.refl _ | exact Named.names_set _ _ _

@[simp] theorem tags_give : (c.give name).tags = c.tags := by
  unfold give
  split <;> rfl

@[simp] theorem extra_give : (c.give name).extra = c.extra := by
  unfold give
  split <;> rfl

theorem write_cases (h : c.write name v = .ok d) :
    (name = .text "tags" ∧ ∃ vs ts, v.elements = .ok vs ∧ Tags.distinct vs = .ok ts ∧
        d = { c with tags := ts }) ∨
      name ≠ .text "tags" ∧ d = c.put name v := by
  unfold write at h
  split at h
  · next hn =>
    simp only [map_eq_ok_iff, then_eq_ok_iff] at h
    obtain ⟨ts, ⟨vs, hv, ht⟩, rfl⟩ := h
    exact .inl ⟨hn, vs, ts, hv, ht, rfl⟩
  · next hn => exact .inr ⟨hn, (Except.ok.inj h).symm⟩

theorem update_keeps {P : Contact → Prop} (h : c.update changes = .ok d) (hc : P c)
    (hw : ∀ p ∈ changes, ∀ b b', P b → b.write p.1 p.2 = .ok b' → P (b'.give p.1)) : P d := by
  refine foldlM_keeps (fun p hp b b' hb hs ↦ ?_) h hc
  simp only [map_eq_ok_iff] at hs
  obtain ⟨b'', hb'', rfl⟩ := hs
  exact hw p hp b b'' hb hb''

theorem update_singleton (c : Contact) (name v : Value) :
    c.update [(name, v)] = (c.write name v).map (·.give name) := by
  simp only [update, List.foldlM_cons, List.foldlM_nil]
  cases c.write name v <;> rfl

theorem tags_update (h : c.update changes = .ok d) (hn : ∀ p ∈ changes, p.1 ≠ .text "tags") :
    d.tags = c.tags := by
  refine update_keeps (P := fun b ↦ b.tags = c.tags) h rfl fun p hp b b' hb hw ↦ ?_
  rcases write_cases hw with ⟨ht, -⟩ | ⟨-, rfl⟩
  · exact absurd ht (hn p hp)
  · rw [tags_give, tags_put, hb]

theorem isDistinct_update (h : c.update changes = .ok d) (hc : Tags.IsDistinct c.tags) :
    Tags.IsDistinct d.tags := by
  refine update_keeps (P := fun b ↦ Tags.IsDistinct b.tags) h hc fun p _ b b' hb hw ↦ ?_
  rw [tags_give]
  rcases write_cases hw with ⟨-, vs, ts, -, ht, rfl⟩ | ⟨-, rfl⟩
  · exact Tags.isDistinct_of_distinct ht
  · rwa [tags_put]

theorem names_update (h : c.update changes = .ok d) :
    c.extra.map Prod.fst ⊆ d.extra.map Prod.fst := by
  refine update_keeps (P := fun b ↦ c.extra.map Prod.fst ⊆ b.extra.map Prod.fst) h
    (List.Subset.refl _) fun p _ b b' hb hw ↦ ?_
  rw [extra_give]
  rcases write_cases hw with ⟨-, vs, ts, -, -, rfl⟩ | ⟨-, rfl⟩
  · exact hb
  · exact List.Subset.trans hb names_put

end Contact

namespace Context

theorem revise_eq_ok_iff {c d : Context} {contact : Named} {opportunity notes : Fields} :
    c.revise contact opportunity notes = .ok d ↔ ∃ k, c.contact.update contact = .ok k ∧
      { c with
        contact := k
        opportunity := c.opportunity.update opportunity
        notes := c.notes.merge notes } = d := by
  rw [revise, map_eq_ok_iff]

theorem revise_isOk (c : Context) {name : Value} (hname : name ≠ .text "tags") (v : Value) :
    ∃ d, c.revise [(name, v)] [] [] = .ok d := by
  have hwrite : c.contact.write name v = .ok (c.contact.put name v) := if_neg hname
  rw [revise, Contact.update_singleton, hwrite]
  exact ⟨_, rfl⟩

end Context

namespace Change

variable {cfg : Fields} {p : String × Value}

theorem name_of_mem_given {name : String} (h : p ∈ given cfg name) : p.1 = name := by
  unfold given at h
  split at h
  · rw [List.mem_singleton.mp h]
  · cases h

theorem name_ne_of_mem_moved (h : p ∈ given cfg "stage" ++ given cfg "status") :
    p.1 ≠ "id" ∧ p.1 ≠ "value" := by
  rcases List.mem_append.mp h with hp | hp <;> simp [name_of_mem_given hp]

theorem writeNamed_cases {c d : Context} (h : writeNamed cfg c = .ok d) :
    ((cfg.get "field").truthy = true ∧ cfg.has "field_value" = true) ∧
        cfg.get "field" ≠ .text "tags" ∧
        c.revise [(cfg.get "field", writtenFor (cfg.get "field") (cfg.get "field_value"))] [] [] =
          .ok d ∨
      ((cfg.get "field").truthy = false ∨ cfg.has "field_value" = false) ∧ d = c := by
  simp only [writeNamed] at h
  split at h
  · next hgiven => exact .inr ⟨by simpa using hgiven, (Except.ok.inj h).symm⟩
  · next hgiven =>
    split at h
    · cases h
    · split at h
      · cases h
      · next hname => exact .inl ⟨by simpa using hgiven, by simpa [guarded] using hname, h⟩

theorem ofType?_inj {s t : String} {k : Change} (hs : ofType? s = some k)
    (ht : ofType? t = some k) : s = t := by
  unfold ofType? at hs
  split at hs <;> cases hs <;>
    (unfold ofType? at ht; split at ht <;> first | rfl | simp at ht)

end Change

namespace Node

/-- What a node may write into a contact and a deal: no node but those about tags writes tags, none
writes the id of a deal, and only numbers are written as its value, where the node opens a deal. -/
structure Writes (n : Node) (contact : Named) (opportunity : Fields) : Prop where
  tags : ∀ p ∈ contact, p.1 = .text "tags" → n.type = "add_tag" ∨ n.type = "remove_tag"
  id : ∀ p ∈ opportunity, p.1 ≠ "id"
  value : ∀ p ∈ opportunity, p.1 = "value" → ∃ x, p.2 = .float x
  deal : n.opensDeal = false → ∀ p ∈ opportunity, p.1 ≠ "value"

variable {n : Node} {c d : Context}

theorem Writes.contact {name v : Value}
    (h : name = .text "tags" → n.type = "add_tag" ∨ n.type = "remove_tag") :
    n.Writes [(name, v)] [] where
  tags := by simpa using h
  id := by simp
  value := by simp
  deal := by simp

theorem Writes.opportunity {changes : Fields} (hi : ∀ p ∈ changes, p.1 ≠ "id")
    (hv : ∀ p ∈ changes, p.1 = "value" → ∃ x, p.2 = .float x)
    (hd : n.opensDeal = false → ∀ p ∈ changes, p.1 ≠ "value") : n.Writes [] changes where
  tags := by simp
  id := hi
  value := hv
  deal := hd

theorem change_cases (h : n.change c = .ok d) : d = c ∨ ∃ contact opportunity notes,
    n.Writes contact opportunity ∧ c.revise contact opportunity notes = .ok d := by
  unfold change at h
  cases hk : Change.ofType? n.type with
  | none =>
    rw [hk] at h
    exact .inl (Except.ok.inj h).symm
  | some k =>
    simp only [hk, mapError_eq_ok_iff] at h
    cases k with
    | addTag =>
      simp only [Change.apply] at h
      split at h
      · exact .inl (Except.ok.inj h).symm
      · exact .inr ⟨_, _, _, .contact fun _ ↦ .inl (Change.ofType?_inj hk rfl), h⟩
    | removeTag => exact .inr ⟨_, _, _, .contact fun _ ↦ .inr (Change.ofType?_inj hk rfl), h⟩
    | setField =>
      rcases Change.writeNamed_cases h with ⟨-, hname, hr⟩ | ⟨-, hd⟩
      · exact .inr ⟨_, _, _, .contact fun hn ↦ absurd hn hname, hr⟩
      · exact .inl hd
    | openDeal =>
      simp only [Change.apply, bind_eq_ok_iff] at h
      obtain ⟨x, -, h⟩ := h
      exact .inr ⟨_, _, _, .opportunity (by simp) (by simp) (by simp [opensDeal, hk]), h⟩
    | moveDeal =>
      have hvalue : ∀ p ∈ Change.given n.config "stage" ++ Change.given n.config "status",
          p.1 ≠ "value" := fun p hp ↦ (Change.name_ne_of_mem_moved hp).2
      refine .inr ⟨_, _, _, .opportunity ?_ ?_ fun _ ↦ hvalue, h⟩
      · exact fun p hp ↦ (Change.name_ne_of_mem_moved hp).1
      · exact fun p hp he ↦ absurd he (hvalue p hp)
    | annotate note source =>
      exact .inr ⟨_, _, _, .opportunity (by simp) (by simp) (by simp), h⟩
    | setStatus | setSalesperson | setCampaign =>
      simp only [Change.apply, Change.writeContact] at h
      exact .inr ⟨_, _, _, .contact (by simp), h⟩

theorem isDistinct_change (h : n.change c = .ok d) (hc : Tags.IsDistinct c.contact.tags) :
    Tags.IsDistinct d.contact.tags := by
  rcases change_cases h with rfl | ⟨contact, opportunity, notes, -, hr⟩
  · exact hc
  · obtain ⟨k, hk, rfl⟩ := Context.revise_eq_ok_iff.mp hr
    exact Contact.isDistinct_update hk hc

/-- No node writes tags but those that are about one. -/
theorem tags_change (h : n.change c = .ok d) (ha : n.type ≠ "add_tag")
    (hr : n.type ≠ "remove_tag") : d.contact.tags = c.contact.tags := by
  rcases change_cases h with rfl | ⟨contact, opportunity, notes, hw, hr'⟩
  · rfl
  · obtain ⟨k, hk, rfl⟩ := Context.revise_eq_ok_iff.mp hr'
    exact Contact.tags_update hk fun p hp ht ↦ (hw.tags p hp ht).elim ha hr

end Node

end Automation
