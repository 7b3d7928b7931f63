import Automation.Proofs.Traced
import Automation.Proofs.Workflow.Grammar

namespace Automation

open Schema

namespace Trigger

variable {fs : Fields} {t : Trigger}

theorem read_fields (h : t.extra.without declared = t.extra) : read t.fields = .good t := by
  have hw : t.fields.without declared = t.extra := h
  have ht : field "type" none (.optional .text) t.fields = .good t.type := by
    simp [field, fields]
  have hc : field "condition" [] .objectOrEmpty t.fields = .good t.condition := by
    simp [field, fields, Reader.objectOrEmpty, Reader.object, List.lookup_cons]
  simp only [read, ht, hc, hw]
  rfl

theorem ofValue_of_read (h : read fs = .good t) : ofValue (.object fs) = .ok t :=
  ofValue_eq_ok_iff.mpr ⟨fs, .object fs, h⟩

theorem ofValue_fields (h : read fs = .good t) : ofValue (.object t.fields) = .ok t := by
  obtain ⟨-, -, hextra⟩ := read_eq_good_iff.mp h
  have hfree : t.extra.without declared = t.extra := by
    rw [hextra, Fields.without_without]
  exact ofValue_of_read (read_fields hfree)

end Trigger

namespace Node

variable {fs : Fields} {n : Node}

theorem read_fields (h : n.extra.without declared = n.extra) (ht : n.type ≠ "") :
    read n.fields = .good n := by
  have hw : n.fields.without declared = n.extra := h
  have hi : field "id" none .id n.fields = .good n.id := by
    simp [field, fields]
  have htype : required "type" .nonEmptyText n.fields = .good n.type := by
    simp [required, fields, Reader.nonEmptyText, List.lookup_cons, ht]
  have hl : field "label" none (.optional .text) n.fields = .good n.label := by
    simp [field, fields, List.lookup_cons]
  have hc : field "config" [] .objectOrEmpty n.fields = .good n.config := by
    simp [field, fields, Reader.objectOrEmpty, Reader.object, List.lookup_cons]
  simp only [read, hi, htype, hl, hc, hw]
  rfl

theorem ofValue_of_read (h : read fs = .good n) : ofValue (.object fs) = .ok n :=
  ofValue_eq_ok_iff.mpr ⟨fs, rfl, h⟩

theorem ofValue_fields (h : read fs = .good n) : ofValue (.object n.fields) = .ok n := by
  obtain ⟨-, htype, -, -, hextra⟩ := read_eq_good_iff.mp h
  have hfree : n.extra.without declared = n.extra := by
    rw [hextra, Fields.without_without]
  exact ofValue_of_read (read_fields hfree (requiredText_eq_good_iff.mp htype).2)

end Node

namespace Definition

/-- Free data of a workflow from which the parts of a definition are read. -/
structure Spelled (d : Definition) (trigger nodes edges : Value) : Prop where
  trigger : Trigger.ofValue trigger = .ok d.trigger
  nodes : ∃ raw, nodes.elementsIfGiven = .ok raw ∧ raw.mapM Node.ofValue = .ok d.nodes
  edges : edges.countIfGiven = .ok d.edges.length

variable {fs : Fields} {d : Definition} {v : Value} {t : Trigger}

theorem ofValue_of_triggerReader (h : triggerReader v = .good t) : Trigger.ofValue v = .ok t := by
  unfold triggerReader at h
  split at h
  · cases h
    rfl
  · obtain ⟨gs, rfl, hg⟩ := Reader.record_eq_good_iff.mp h
    exact Trigger.ofValue_of_read hg

theorem read_of_triggerReader (h : triggerReader v = .good t) :
    ∃ gs, Trigger.read gs = .good t := by
  unfold triggerReader at h
  split at h
  · exact ⟨[], h⟩
  · obtain ⟨gs, -, hg⟩ := Reader.record_eq_good_iff.mp h
    exact ⟨gs, hg⟩

theorem parts_of_read (h : read fs = .good d) : ∃ trigger nodes edges,
    field "trigger" {} triggerReader fs = .good trigger ∧
      field "nodes" [] (.list (.record "Node" Node.read)) fs = .good nodes ∧
      field "edges" [] (.list (.record "Edge" Edge.read)) fs = .good edges ∧
      d = ⟨trigger, nodes, edges⟩ := by
  simp only [read, Checked.seq_eq_good_iff, Checked.map_eq_good_iff] at h
  obtain ⟨_, edges, h, he, rfl⟩ := h
  obtain ⟨_, nodes, ⟨trigger, ht, rfl⟩, hn, rfl⟩ := h
  exact ⟨trigger, nodes, edges, ht, hn, he, rfl⟩

theorem spelled_of_read (h : read fs = .good d) :
    d.Spelled (Fields.get fs "trigger") (Fields.get fs "nodes") (Fields.get fs "edges") := by
  obtain ⟨trigger, nodes, edges, ht, hn, he, rfl⟩ := parts_of_read h
  refine ⟨?_, ?_, ?_⟩
  · rcases field_eq_good_iff.mp ht with ⟨hnone, rfl⟩ | ⟨v, hv, hr⟩
    · rw [Fields.get, hnone]
      rfl
    · rw [Fields.get, hv]
      exact ofValue_of_triggerReader hr
  · rcases field_eq_good_iff.mp hn with ⟨hnone, rfl⟩ | ⟨v, hv, hr⟩
    · rw [Fields.get, hnone]
      exact ⟨[], rfl, rfl⟩
    · rw [Fields.get, hv]
      obtain ⟨vs, rfl, hall⟩ := Reader.list_eq_good_iff.mp hr
      refine ⟨vs, Value.elementsIfGiven_list vs, mapM_eq_ok_iff.mpr (hall.imp fun w n hw ↦ ?_)⟩
      obtain ⟨gs, rfl, hg⟩ := Reader.record_eq_good_iff.mp hw
      exact Node.ofValue_of_read hg
  · rcases field_eq_good_iff.mp he with ⟨hnone, rfl⟩ | ⟨v, hv, hr⟩
    · rw [Fields.get, hnone]
      rfl
    · rw [Fields.get, hv]
      obtain ⟨vs, rfl, hall⟩ := Reader.list_eq_good_iff.mp hr
      exact (Value.countIfGiven_list vs).trans (congrArg _ hall.length_eq)

theorem spelled_fields (h : read fs = .good d) :
    d.Spelled (Fields.get d.fields "trigger") (Fields.get d.fields "nodes")
      (Fields.get d.fields "edges") := by
  obtain ⟨trigger, nodes, edges, ht, hn, he, rfl⟩ := parts_of_read h
  refine ⟨?_, ⟨_, Value.elementsIfGiven_list _, ?_⟩, ?_⟩
  · rcases field_eq_good_iff.mp ht with ⟨-, rfl⟩ | ⟨v, -, hr⟩
    · rfl
    · obtain ⟨gs, hg⟩ := read_of_triggerReader hr
      exact Trigger.ofValue_fields hg
  · refine mapM_eq_ok_iff.mpr (List.forall₂_map_left_iff.mpr (List.forall₂_same.mpr fun n hm ↦ ?_))
    rcases field_eq_good_iff.mp hn with ⟨-, rfl⟩ | ⟨v, -, hr⟩
    · cases hm
    · obtain ⟨vs, rfl, hall⟩ := Reader.list_eq_good_iff.mp hr
      obtain ⟨w, -, hw⟩ := exists_of_forall₂ hall hm
      obtain ⟨gs, -, hg⟩ := Reader.record_eq_good_iff.mp hw
      exact Node.ofValue_fields hg
  · exact (Value.countIfGiven_list _).trans (congrArg _ (List.length_map _))

end Definition

theorem Node.map_ofValue_of_mapM {raw : List Value} {ns : List Node}
    (h : raw.mapM ofValue = .ok ns) : raw.map ofValue = ns.map .ok :=
  List.forall₂_eq_eq_eq ▸ List.forall₂_map_left_iff.mpr (List.forall₂_map_right_iff.mpr
    (mapM_eq_ok_iff.mp h))

namespace Review

variable {rules : Rules} {position : Nat} {trigger trigger' : Value} {raw raw' : List Value}

theorem nodes_of_alike (h : raw.map Node.ofValue = raw'.map Node.ofValue) :
    nodes rules position raw = nodes rules position raw' := by
  induction raw generalizing raw' position with
  | nil =>
    obtain rfl := List.map_eq_nil_iff.mp h.symm
    rfl
  | cons v raw ih =>
    obtain ⟨w, raw', rfl, hw, hr⟩ := List.map_eq_cons_iff.mp h.symm
    simp only [nodes, node, hw, ih hr.symm]

theorem workflow_of_alike (ht : Trigger.ofValue trigger = Trigger.ofValue trigger')
    (h : raw.map Node.ofValue = raw'.map Node.ofValue) :
    workflow rules trigger raw = workflow rules trigger' raw' := by
  have he : emptiness raw = emptiness raw' := by
    have hl : raw.length = raw'.length := by simpa using congrArg List.length h
    cases raw <;> cases raw' <;> simp_all [emptiness]
  simp only [workflow, nodes_of_alike h, he, Review.trigger, ht]

end Review

namespace Engine

open Run

variable {rules : Rules} {now : Instant} {clock : Clock} {d : Definition}
  {trigger trigger' nodes nodes' payload edges edges' : Value}

theorem prepare_of_spelled (h : d.Spelled trigger nodes edges)
    (h' : d.Spelled trigger' nodes' edges') :
    prepare rules now trigger nodes payload edges =
      prepare rules now trigger' nodes' payload edges' := by
  obtain ⟨raw, hraw, hread⟩ := h.nodes
  obtain ⟨raw', hraw', hread'⟩ := h'.nodes
  have hmap := (Node.map_ofValue_of_mapM hread).trans (Node.map_ofValue_of_mapM hread').symm
  have hlength : raw.length = raw'.length := by simpa using congrArg List.length hmap
  have htrigger := h.trigger.trans h'.trigger.symm
  have htype : triggerType trigger = triggerType trigger' := by simp only [triggerType, htrigger]
  have hreview : Review.workflow rules trigger raw = Review.workflow rules trigger' raw' :=
    Review.workflow_of_alike htrigger hmap
  simp only [prepare, Review.logged, hraw, hraw', h.edges, h'.edges, Traced.lift_ok_bind, htype,
    hlength, hreview, htrigger, hread, hread']

theorem run_of_spelled (e : Engine) (h : d.Spelled trigger nodes edges)
    (h' : d.Spelled trigger' nodes' edges') :
    e.run rules clock trigger nodes payload edges =
      e.run rules clock trigger' nodes' payload edges' := by
  have htype : triggerType trigger = triggerType trigger' := by
    simp only [triggerType, h.trigger, h'.trigger]
  simp only [run, htype, prepare_of_spelled h h']

/-- A definition that was read and is written out as data runs as the data that it was read from,
for every event, clock, policy and tables of actions and rules, and leaves the same records behind.
-/
theorem stored_runs_as_read (e : Engine) (rules : Rules) (clock : Clock) (payload : Value)
    {fs : Fields} {d : Definition} (h : Definition.read fs = .good d) :
    e.runDefinition rules clock (.object d.fields) payload =
      e.runDefinition rules clock (.object fs) payload := by
  have hobject (gs : Fields) : (Value.object gs).orElse (.object []) = .object gs := by
    cases gs <;> rfl
  simp only [runDefinition, hobject]
  exact run_of_spelled e (Definition.spelled_fields h) (Definition.spelled_of_read h)

end Engine

namespace Sample

def stored : Fields := [
  ("trigger", .object [("type", .text "manual"), ("condition", .null), ("since", .int 2020)]),
  ("nodes", .list [
    .object [("id", .int 7), ("type", .text "add_tag"),
      ("config", .object [("tag", .text "lead")])],
    .object [("type", .text "ping"), ("config", .null), ("x", .int 40)]]),
  ("owner", .text "ana")]

end Sample

theorem Engine.stored_runs_as_read_sample : ∃ d, Definition.read Sample.stored = .good d ∧
    d.nodes.map Node.id = [some "7", none] ∧ d.fields ≠ Sample.stored ∧
    Engine.runDefinition {} .standard Sample.clock (.object d.fields) Sample.payload =
      Engine.runDefinition {} .standard Sample.clock (.object Sample.stored) Sample.payload := by
  obtain ⟨d, hd, hid, hne⟩ : ∃ d, Definition.read Sample.stored = .good d ∧
      d.nodes.map Node.id = [some "7", none] ∧ d.fields ≠ Sample.stored :=
    ⟨_, rfl, rfl, by decide⟩
  exact ⟨d, hd, hid, hne, stored_runs_as_read {} .standard Sample.clock Sample.payload hd⟩

end Automation
