import Automation.Proofs.Context.Merging

namespace Automation

namespace Contact

def entries (c : Contact) : Named := c.declaredFields.named ++ c.extra

def marks (c : Contact) : Named := c.given.map fun name ↦ (name, .null)

inductive Keeps : Value → Value → Value → Prop
  | tags {v : Value} {vs ts : List Value} (hv : v.elements = .ok vs)
      (ht : Tags.distinct vs = .ok ts) : Keeps (.text "tags") v (.list ts)
  | other {name v : Value} (hn : name ≠ .text "tags") : Keeps name v v

inductive KeepsAll : Named → Named → Prop
  | nil : KeepsAll [] []
  | cons {name v w : Value} {us ws : Named} (h : Keeps name v w) (hs : KeepsAll us ws) :
      KeepsAll ((name, v) :: us) ((name, w) :: ws)

variable {c d e : Contact} {name v w : Value} {us ws us' ws' : Named}

theorem Keeps.rename {k : Value} (h : Keeps name v w) (hk : k.same name = true)
    (hn : name.key?.isSome = true) : Keeps k v w := by
  cases h with
  | tags hv ht =>
    rw [← Value.same_comm hn] at hk
    rw [Value.eq_text_of_same hk]
    exact .tags hv ht
  | other hne =>
    refine .other fun he ↦ hne ?_
    rw [he] at hk
    exact Value.eq_text_of_same hk

theorem Keeps.unique {w' : Value} (h : Keeps name v w) (h' : Keeps name v w') : w = w' := by
  cases h with
  | tags hv ht =>
    cases h' with
    | tags hv' ht' =>
      cases hv.symm.trans hv'
      cases ht.symm.trans ht'
      rfl
    | other hn => exact absurd rfl hn
  | other hn =>
    cases h' with
    | tags _ _ => exact absurd rfl hn
    | other _ => rfl

namespace KeepsAll

theorem names_eq (h : KeepsAll us ws) : ws.map Prod.fst = us.map Prod.fst := by
  induction h with
  | nil => rfl
  | cons _ _ ih => rw [List.map_cons, List.map_cons, ih]

theorem isDistinct (h : KeepsAll us ws) (hu : us.IsDistinct) : ws.IsDistinct := by
  unfold Named.IsDistinct
  rwa [h.names_eq]

theorem get?_eq (h : KeepsAll us ws) (hn : name ≠ .text "tags") :
    ws.get? name = us.get? name := by
  induction h with
  | nil => rfl
  | cons hkeeps _ ih =>
    rw [Named.get?_cons, Named.get?_cons, ih]
    cases hkeeps with
    | other _ => rfl
    | tags _ _ =>
      have hne : ¬ (Value.text "tags").same name = true := fun hs ↦ hn (Value.eq_text_of_same hs)
      simp [hne]

theorem get?_tags (h : KeepsAll us ws) :
    (us.get? (.text "tags") = none ∧ ws.get? (.text "tags") = none) ∨
      ∃ v vs ts, us.get? (.text "tags") = some v ∧ v.elements = .ok vs ∧
        Tags.distinct vs = .ok ts ∧ ws.get? (.text "tags") = some (.list ts) := by
  induction h with
  | nil => exact .inl ⟨rfl, rfl⟩
  | @cons name v w us ws hkeeps _ ih =>
    rw [Named.get?_cons, Named.get?_cons]
    by_cases hname : name.same (.text "tags") = true
    · rw [if_pos hname, if_pos hname]
      cases hkeeps with
      | tags hv ht => exact .inr ⟨v, _, _, rfl, hv, ht, rfl⟩
      | other hn =>
        rw [← Value.same_comm (v := .text "tags") rfl] at hname
        exact absurd (Value.eq_text_of_same hname) hn
    · rw [if_neg hname, if_neg hname]
      exact ih

theorem unique (h : KeepsAll us ws) (h' : KeepsAll us ws') : ws = ws' := by
  induction h generalizing ws' with
  | nil =>
    cases h'
    rfl
  | cons hkeeps _ ih =>
    cases h' with
    | cons hkeeps' hs' => rw [hkeeps.unique hkeeps', ih hs']

theorem set (h : KeepsAll us ws) (hkeeps : Keeps name v w) (hn : name.key?.isSome = true) :
    KeepsAll (us.set name v) (ws.set name w) := by
  induction h with
  | nil => exact .cons hkeeps .nil
  | cons hk hs ih =>
    unfold Named.set
    split
    · next hsame => exact .cons (hkeeps.rename hsame hn) hs
    · exact .cons hk ih

theorem merge (h : KeepsAll us ws) (h' : KeepsAll us' ws')
    (hu : ∀ p ∈ us', p.1.key?.isSome = true) : KeepsAll (us.merge us') (ws.merge ws') := by
  induction h' generalizing us ws with
  | nil => exact h
  | cons hkeeps _ ih =>
    obtain ⟨hn, hu⟩ := List.forall_mem_cons.mp hu
    exact ih (h.set hkeeps hn) hu

end KeepsAll

/-- A contact can be told from its fields, the names given to it and what is put aside in it. -/
theorem ext_entries (h : c.entries = d.entries) (hm : c.marks = d.marks) (ha : c.aside = d.aside) :
    c = d := by
  have hg : c.given = d.given := by
    refine List.map_injective_iff.mpr ?_ hm
    intro v w he
    exact (Prod.mk.inj he).1
  cases c
  cases d
  simp only [entries, declaredFields, Fields.named, List.map_cons, List.map_nil, List.cons_append,
    List.nil_append, List.cons.injEq, Prod.mk.injEq, Value.list.injEq, true_and] at h
  obtain ⟨h₁, h₂, h₃, h₄, h₅, h₆, h₇, h₈, h₉, h⟩ := h
  subst h₁ h₂ h₃ h₄ h₅ h₆ h₇ h₈ h₉ h hg ha
  rfl

theorem entries_put (hn : name ≠ .text "tags") (v : Value) :
    (c.put name v).entries = c.entries.set name v := by
  unfold put
  split
  case h_9 => exact absurd rfl hn
  case h_10 hid hemail hfirst hlast hcompany hphone hstatus htype _ =>
    refine (Named.set_append fun q hq ↦ ?_).symm
    rw [Bool.eq_false_iff]
    intro hs
    simp only [declaredFields, Fields.named, List.map_cons, List.map_nil, List.mem_cons,
      List.not_mem_nil, or_false] at hq
    rcases hq with rfl | rfl | rfl | rfl | rfl | rfl | rfl | rfl | rfl <;>
      have he := Value.eq_text_of_same hs <;> contradiction
  all_goals simp [entries, declaredFields, Fields.named, Named.set]

theorem marks_give (c : Contact) (name : Value) : (c.give name).marks = c.marks.set name .null := by
  have hlist (names : List Value) :
      (if name.memberOf names then names else names ++ [name]).map (fun n ↦ (n, Value.null)) =
        Named.set (names.map fun n ↦ (n, Value.null)) name .null := by
    induction names with
    | nil => rfl
    | cons n names ih =>
      by_cases hs : n.same name = true
      · simp [Value.memberOf, Named.set, hs]
      · have hmem : name.memberOf (n :: names) = name.memberOf names := by
          simp [Value.memberOf, hs]
        rw [hmem]
        split at ih
        · next hm => simpa [hm, Named.set, hs] using ih
        · next hm => simpa [hm, Named.set, hs] using ih
  rw [marks, marks, ← hlist, give]
  split <;> rfl

theorem write_eq_ok (h : c.write name v = .ok d) : ∃ w, Keeps name v w ∧
    d.entries = c.entries.set name w ∧ d.marks = c.marks ∧ d.aside = c.aside := by
  rcases write_cases h with ⟨rfl, vs, ts, hv, ht, rfl⟩ | ⟨hn, rfl⟩
  · refine ⟨_, .tags hv ht, ?_, rfl, rfl⟩
    simp [entries, declaredFields, Fields.named, Named.set]
  · refine ⟨v, .other hn, entries_put hn v, ?_, ?_⟩
    · unfold marks put
      split <;> rfl
    · unfold put
      split <;> rfl

theorem write_isOk (c : Contact) (h : Keeps name v w) : ∃ d, c.write name v = .ok d := by
  cases h with
  | tags hv ht =>
    rw [write, if_pos rfl, hv]
    exact ⟨_, map_eq_ok_iff.mpr ⟨_, ht, rfl⟩⟩
  | other hn => exact ⟨_, if_neg hn⟩

@[simp] theorem entries_give (c : Contact) (name : Value) : (c.give name).entries = c.entries := by
  unfold give
  split <;> rfl

@[simp] theorem aside_give (c : Contact) (name : Value) : (c.give name).aside = c.aside := by
  unfold give
  split <;> rfl

theorem update_cons (c : Contact) (name v : Value) (us : Named) :
    c.update ((name, v) :: us) = ((c.write name v).map (·.give name)).bind (·.update us) := by
  rw [update, List.foldlM_cons]
  rfl

/-- What a contact is after fields have been written: they are merged into its own. -/
theorem update_eq_ok (h : c.update us = .ok d) : ∃ ws, KeepsAll us ws ∧
    d.entries = c.entries.merge ws ∧ d.marks = c.marks.merge us.blank ∧ d.aside = c.aside := by
  induction us generalizing c with
  | nil =>
    obtain rfl : c = d := Except.ok.inj h
    exact ⟨[], .nil, rfl, rfl, rfl⟩
  | cons p us ih =>
    obtain ⟨name, v⟩ := p
    simp only [update_cons, then_eq_ok_iff, map_eq_ok_iff] at h
    obtain ⟨_, ⟨b, hb, rfl⟩, h⟩ := h
    obtain ⟨w, hkeeps, hentries, hmarks, haside⟩ := write_eq_ok hb
    obtain ⟨ws, hall, hentries', hmarks', haside'⟩ := ih h
    refine ⟨(name, w) :: ws, .cons hkeeps hall, ?_, ?_, ?_⟩
    · rw [hentries', entries_give, hentries, Named.merge_cons]
    · rw [hmarks', marks_give, hmarks]
      rfl
    · rw [haside', aside_give, haside]

theorem update_isOk (c : Contact) (h : KeepsAll us ws) : ∃ d, c.update us = .ok d := by
  induction h generalizing c with
  | nil => exact ⟨c, rfl⟩
  | @cons name _ _ _ _ hkeeps _ ih =>
    obtain ⟨b, hb⟩ := c.write_isOk hkeeps
    obtain ⟨d, hd⟩ := ih (b.give name)
    refine ⟨d, ?_⟩
    rw [update_cons, hb]
    exact hd

theorem update_merge (hu : us.IsDistinct) (hus' : us'.IsDistinct) (h : c.update us = .ok d)
    (h' : d.update us' = .ok e) : c.update (us.merge us') = .ok e := by
  obtain ⟨ws, hall, hentries, hmarks, haside⟩ := update_eq_ok h
  obtain ⟨ws', hall', hentries', hmarks', haside'⟩ := update_eq_ok h'
  have hkeyed : ∀ p ∈ us', p.1.key?.isSome = true := hus'.forall_keyed
  obtain ⟨f, hf⟩ := c.update_isOk (hall.merge hall' hkeyed)
  obtain ⟨vs, hvs, hentries'', hmarks'', haside''⟩ := update_eq_ok hf
  obtain rfl := hvs.unique (hall.merge hall' hkeyed)
  have he : f = e := by
    apply ext_entries
    · rw [hentries'', hentries', hentries,
        Named.merge_merge (hall.isDistinct hu) (hall'.isDistinct hus').forall_keyed]
    · rw [hmarks'', hmarks', hmarks, Named.blank_merge,
        Named.merge_merge hu.blank hus'.blank.forall_keyed]
    · rw [haside'', haside', haside]
  rw [hf, he]

end Contact

namespace Opportunity

def entries (o : Opportunity) : Fields := o.declaredFields ++ o.extra

variable {o p : Opportunity}

theorem ext_entries (h : o.entries = p.entries) : o = p := by
  cases o
  cases p
  simp only [entries, declaredFields, List.cons_append, List.nil_append, List.cons.injEq,
    Prod.mk.injEq, true_and] at h
  obtain ⟨h₁, h₂, h₃, h₄, h₅, h⟩ := h
  subst h₁ h₂ h₃ h₄ h₅ h
  rfl

theorem entries_put (o : Opportunity) (name : String) (v : Value) :
    (o.put name v).entries = o.entries.set name v := by
  unfold put
  split
  case h_6 hid hstage hvalue hstatus hpipeline =>
    simp [entries, declaredFields, Fields.set, Ne.symm hid, Ne.symm hstage, Ne.symm hvalue,
      Ne.symm hstatus, Ne.symm hpipeline]
  all_goals simp [entries, declaredFields, Fields.set]

theorem entries_update (o : Opportunity) (changes : Fields) :
    (o.update changes).entries = o.entries.merge changes := by
  induction changes generalizing o with
  | nil => rfl
  | cons p changes ih =>
    rw [update, List.foldl_cons, Fields.merge, List.foldl_cons, ← entries_put]
    exact ih (o.put p.1 p.2)

theorem update_merge {changes : Fields} (h : changes.named.IsDistinct) (o : Opportunity)
    (more : Fields) : (o.update changes).update more = o.update (changes.merge more) := by
  apply ext_entries
  rw [entries_update, entries_update, entries_update, Fields.merge_merge h]

end Opportunity

end Automation
