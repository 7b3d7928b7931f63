import Automation.Proofs.Context.Revision

namespace Automation

namespace Revision

def field (name v : Value) (h : name.key?.isSome = true) : Revision where
  contact := [(name, v)]
  opportunity := []
  notes := []
  contact_distinct := Named.isDistinct_cons.mpr ⟨h, by simp, Named.isDistinct_nil⟩
  opportunity_distinct := Named.isDistinct_nil
  notes_distinct := Named.isDistinct_nil

def deal (changes : Fields) (h : (changes.map Prod.fst).Nodup) : Revision where
  contact := []
  opportunity := changes
  notes := []
  contact_distinct := Named.isDistinct_nil
  opportunity_distinct := Fields.isDistinct_named h
  notes_distinct := Named.isDistinct_nil

def note (name : String) (v : Value) : Revision where
  contact := []
  opportunity := []
  notes := [(name, v)]
  contact_distinct := Named.isDistinct_nil
  opportunity_distinct := Named.isDistinct_nil
  notes_distinct := Fields.isDistinct_named (by simp)

end Revision

theorem Context.tags_revised_field {c d : Context} {vs : List Value}
    (h : c.revised (.field (.text "tags") (.list vs) rfl) = .ok d) :
    Tags.distinct vs = .ok d.contact.tags := by
  rcases tags_revised h with ⟨hnone, -⟩ | ⟨v, ws, hv, hws, ht⟩
  · cases hnone
  · cases hv
    cases hws
    exact ht

namespace Change

theorem names_given (cfg : Fields) : ((given cfg "stage" ++ given cfg "status").map Prod.fst) =
    ["stage", "status"].filter fun name ↦ (cfg.get name).truthy := by
  cases hstage : (cfg.get "stage").truthy <;> cases hstatus : (cfg.get "status").truthy <;>
    simp [given, hstage, hstatus]

theorem nodup_names_given (cfg : Fields) :
    ((given cfg "stage" ++ given cfg "status").map Prod.fst).Nodup := by
  rw [names_given]
  exact List.filter_sublist.nodup (by decide)

def writes (k : Change) (cfg : Fields) (tags : List Value) : Except Fault Revision :=
  match k with
  | addTag =>
    if !(cfg.get "tag").truthy || (cfg.get "tag").memberOf tags then .ok .empty
    else .ok (.field (.text "tags") (.list (tags ++ [cfg.get "tag"])) rfl)
  | removeTag =>
    .ok (.field (.text "tags") (.list (tags.filter fun t ↦ !t.equals (cfg.get "tag"))) rfl)
  | setStatus => .ok (.field (.text "status") (cfg.get "new_status") rfl)
  | setField =>
    if !(cfg.get "field").truthy || !cfg.has "field_value" then .ok .empty
    else if h : (cfg.get "field").key?.isSome = true then
      if guarded (cfg.get "field") then .error (failed (.protectedField (cfg.get "field")))
      else .ok (.field (cfg.get "field") (writtenFor (cfg.get "field") (cfg.get "field_value")) h)
    else .error (.unhashable (cfg.get "field").kind)
  | setSalesperson => .ok (.field (.text "assigned_salesperson") (cfg.get "salesperson") rfl)
  | openDeal => (dealValue cfg).map fun value ↦
    .deal [("stage", cfg.get "stage"), ("value", .float value),
      ("pipeline", (cfg.get "pipeline").orElse (.text "")), ("status", .text "active")] (by simp)
  | moveDeal => .ok (.deal (given cfg "stage" ++ given cfg "status") (nodup_names_given cfg))
  | setCampaign => .ok (.field (.text "campaign_id") (cfg.get "campaign_id") rfl)
  | annotate note source => .ok (.note note (cfg.get source))

def places (k : Change) (cfg : Fields) : List Place :=
  match k with
  | addTag | removeTag => [.tags]
  | setStatus => [⟨.contact, .text "status"⟩]
  | setField =>
    if (cfg.get "field").truthy && cfg.has "field_value" then [⟨.contact, cfg.get "field"⟩] else []
  | setSalesperson => [⟨.contact, .text "assigned_salesperson"⟩]
  | openDeal => ["stage", "value", "pipeline", "status"].map fun name ↦ ⟨.opportunity, .text name⟩
  | moveDeal => (["stage", "status"].filter fun name ↦ (cfg.get name).truthy).map
    fun name ↦ ⟨.opportunity, .text name⟩
  | setCampaign => [⟨.contact, .text "campaign_id"⟩]
  | annotate note _ => [⟨.notes, .text note⟩]

variable {k : Change} {cfg : Fields} {tags : List Value} {u : Revision}

/-- To apply a change is to find out what it writes, and to revise the context. -/
theorem apply_eq (k : Change) (cfg : Fields) (c : Context) :
    k.apply cfg c = (k.writes cfg c.contact.tags).bind c.revised := by
  cases k with
  | addTag =>
    simp only [apply, writes]
    split <;> rfl
  | setField =>
    simp only [apply, writes, writeNamed]
    split
    · rfl
    · by_cases hkey : (cfg.get "field").key?.isSome = true
      · have hnot : ¬ (cfg.get "field").key?.isNone = true := by
          obtain ⟨a, ha⟩ := Option.isSome_iff_exists.mp hkey
          simp [ha]
        rw [if_neg hnot, dif_pos hkey]
        split <;> rfl
      · have hnone : (cfg.get "field").key?.isNone = true := by simpa using hkey
        rw [if_pos hnone, dif_neg hkey]
        rfl
  | openDeal =>
    simp only [apply, writes]
    cases dealValue cfg <;> rfl
  | removeTag => rfl
  | setStatus => rfl
  | setSalesperson => rfl
  | moveDeal => rfl
  | setCampaign => rfl
  | annotate note source => rfl

theorem places_writes (h : k.writes cfg tags = .ok u) : u.places ⊆ k.places cfg := by
  cases k with
  | addTag =>
    simp only [writes] at h
    split at h <;> obtain rfl := Except.ok.inj h
    · exact List.nil_subset _
    · exact List.Subset.refl _
  | setField =>
    simp only [writes] at h
    split at h
    · obtain rfl := Except.ok.inj h
      exact List.nil_subset _
    · next hgiven =>
      have hgiven : ((cfg.get "field").truthy && cfg.has "field_value") = true := by
        simpa using hgiven
      split at h
      · split at h
        · cases h
        · obtain rfl := Except.ok.inj h
          rw [places, if_pos hgiven]
          exact List.Subset.refl _
      · cases h
  | openDeal =>
    obtain ⟨x, -, rfl⟩ := map_eq_ok_iff.mp h
    exact List.Subset.refl _
  | moveDeal =>
    obtain rfl := Except.ok.inj h
    simp only [Revision.places, Revision.deal, places, ← names_given, List.map_map, List.map_nil,
      List.nil_append, List.append_nil]
    exact List.Subset.refl _
  | removeTag => cases h; exact List.Subset.refl _
  | setStatus => cases h; exact List.Subset.refl _
  | setSalesperson => cases h; exact List.Subset.refl _
  | setCampaign => cases h; exact List.Subset.refl _
  | annotate note source => cases h; exact List.Subset.refl _

end Change

namespace Node

def writes (n : Node) (tags : List Value) : Except Fault Revision :=
  match Change.ofType? n.type with
  | some k => k.writes n.config tags
  | none => .ok .empty

/-- The places that a node may write; none for a node of a type that changes nothing. -/
def footprint (n : Node) : List Place :=
  match Change.ofType? n.type with
  | some k => k.places n.config
  | none => []

def touches (n : Node) (p : Place) : Bool := n.footprint.any fun q ↦ q.same p

variable {n : Node} {c d : Context} {p : Place} {u : Revision} {tags : List Value}

theorem change_eq_ok_iff : n.change c = .ok d ↔
    ∃ u, n.writes c.contact.tags = .ok u ∧ c.revised u = .ok d := by
  unfold change writes
  cases Change.ofType? n.type with
  | none => simp [Context.revised_empty]
  | some k => simp only [mapError_eq_ok_iff, Change.apply_eq, then_eq_ok_iff]

theorem writes_eq_ok_iff : n.writes tags = .ok u ↔
    (Change.ofType? n.type = none ∧ u = .empty) ∨
      ∃ k, Change.ofType? n.type = some k ∧ k.writes n.config tags = .ok u := by
  unfold writes
  cases Change.ofType? n.type with
  | none => simp [eq_comm]
  | some k => simp

theorem places_writes (h : n.writes tags = .ok u) : u.places ⊆ n.footprint := by
  rcases writes_eq_ok_iff.mp h with ⟨-, rfl⟩ | ⟨k, hk, hu⟩
  · exact List.nil_subset _
  · rw [footprint, hk]
    exact Change.places_writes hu

theorem value?_writes (h : n.writes tags = .ok u) (hp : n.touches p = false) :
    u.value? p = none := by
  refine Revision.value?_eq_none fun q hq ↦ ?_
  have hall := List.any_eq_false.mp hp q (places_writes h hq)
  simpa using hall

theorem value?_change (h : n.change c = .ok d) (hp : n.touches p = false) :
    d.value? p = c.value? p := by
  obtain ⟨u, hu, hd⟩ := change_eq_ok_iff.mp h
  exact Context.value?_of_not_written hd (value?_writes hu hp)

/-- A node leaves everything as it is that is not in its footprint, and all of a context if there is
nothing in its footprint. -/
theorem change_keeps_rest (n : Node) (c d : Context) (h : n.change c = .ok d) :
    (∀ p, n.touches p = false → d.value? p = c.value? p) ∧
    (d.triggerType = c.triggerType ∧ d.triggeredAt = c.triggeredAt ∧
      d.contact.aside = c.contact.aside) ∧
    (n.footprint = [] → d = c) := by
  obtain ⟨u, hu, hd⟩ := change_eq_ok_iff.mp h
  refine ⟨fun p hp ↦ value?_change h hp, Context.keeps_revised hd, fun hnone ↦ ?_⟩
  have hplaces : u.places = [] := List.subset_nil.mp (hnone ▸ places_writes hu)
  rw [Revision.eq_empty hplaces] at hd
  exact (Except.ok.inj hd).symm

end Node

namespace Sample

def naming (name v : Value) : Node :=
  { type := "update_contact", config := [("field", name), ("field_value", v)] }

def known : Context :=
  { contact := { status := .text "open", extra := [(.text "city", .text "Oslo")] }
    opportunity := { stage := .text "won" }
    notes := [("source", .text "form")] }

end Sample

theorem Node.change_keeps_rest_sample : ∃ d,
    (Sample.naming (.text "nickname") (.text "Jo")).change Sample.known = .ok d ∧
    d.value? ⟨.contact, .text "nickname"⟩ = some (.text "Jo") ∧
    d.value? ⟨.contact, .text "city"⟩ = some (.text "Oslo") ∧
    d.value? ⟨.notes, .text "source"⟩ = some (.text "form") := by
  have h := change_keeps_rest (Sample.naming (.text "nickname") (.text "Jo")) Sample.known _ rfl
  exact ⟨_, rfl, rfl, h.1 ⟨.contact, .text "city"⟩ rfl, h.1 ⟨.notes, .text "source"⟩ rfl⟩

end Automation
