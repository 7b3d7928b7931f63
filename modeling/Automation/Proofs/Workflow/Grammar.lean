import Automation.Proofs.Schema.Reading
import Automation.Proofs.Workflow.Issues

namespace Automation

open Schema

namespace Node

/-- Free data that a node is read from. Nothing is got of a field that is absent. -/
inductive Readable : Value → Prop
  | object {fs : Fields} (type : (Fields.get fs "type").IsNonEmptyText)
      (label : (Fields.get fs "label").IsTextOrNull)
      (config : (Fields.get fs "config").IsObjectOrNull) : Readable (.object fs)

def mended (name : String) (v : Value) : Value :=
  if name = "id" ∧ v ≠ .null then .text v.shown
  else if name = "config" ∧ v = .null then .object []
  else v

def defaults : Fields := [("id", .null), ("label", .null), ("config", .object [])]

variable {fs : Fields} {n : Node} {v : Value}

theorem read_eq_good_iff : read fs = .good n ↔
    field "id" none .id fs = .good n.id ∧ required "type" .nonEmptyText fs = .good n.type ∧
      field "label" none (.optional .text) fs = .good n.label ∧
      field "config" [] .objectOrEmpty fs = .good n.config ∧ n.extra = fs.without declared := by
  constructor
  · intro h
    simp only [read, Checked.seq_eq_good_iff, Checked.map_eq_good_iff, Checked.pure_eq] at h
    obtain ⟨_, _, h, ⟨⟩, rfl⟩ := h
    obtain ⟨_, config, h, hc, rfl⟩ := h
    obtain ⟨_, label, h, hl, rfl⟩ := h
    obtain ⟨_, type, ⟨id, hid, rfl⟩, ht, rfl⟩ := h
    exact ⟨hid, ht, hl, hc, rfl⟩
  · intro ⟨hid, ht, hl, hc, he⟩
    rw [read, hid, ht, hl, hc, ← he]
    rfl

theorem read_isGood_iff : (∃ n, read fs = .good n) ↔ (fs.get "type").IsNonEmptyText ∧
    (fs.get "label").IsTextOrNull ∧ (fs.get "config").IsObjectOrNull := by
  have hextra : ∃ extra, Checked.good (fs.without declared) = .good extra := ⟨_, rfl⟩
  simp only [read, Checked.seq_isGood_iff, Checked.map_isGood_iff, requiredText_isGood_iff,
    textField_isGood_iff, objectField_isGood_iff, idField_isGood, Checked.pure_eq, hextra, true_and,
    and_true, and_assoc]

theorem ofValue_eq_ok_iff : ofValue v = .ok n ↔ ∃ fs, v = .object fs ∧ read fs = .good n := by
  cases v with
  | object fs => cases h : read fs <;> simp [ofValue, h, Checked.toExcept]
  | _ => simp [ofValue]

theorem ofValue_isOk_iff : (∃ n, ofValue v = .ok n) ↔ Readable v := by
  simp only [ofValue_eq_ok_iff]
  constructor
  · rintro ⟨n, fs, rfl, h⟩
    obtain ⟨ht, hl, hc⟩ := read_isGood_iff.mp ⟨n, h⟩
    exact .object ht hl hc
  · intro ⟨ht, hl, hc⟩
    obtain ⟨n, h⟩ := read_isGood_iff.mpr ⟨ht, hl, hc⟩
    exact ⟨n, _, rfl, h⟩

theorem ofValue_of_not_readable (h : ¬ Readable v) :
    ∃ cause, ofValue v = .error (.failure (.definition cause (rawId v))) := by
  cases hv : ofValue v with
  | ok n => exact absurd (ofValue_isOk_iff.mp ⟨n, hv⟩) h
  | error e =>
    obtain ⟨cause, rfl⟩ := ofValue_eq_error hv
    exact ⟨cause, rfl⟩

theorem mended_of_notMem {name : String} (h : name ∉ ["id", "config"]) : mended name v = v := by
  simp only [List.mem_cons, not_or] at h
  rw [mended, if_neg fun hn ↦ h.1 hn.1, if_neg fun hn ↦ h.2.1 hn.1]

theorem mended_id {id : Option String} (h : Reader.id v = .good id) :
    textOrNull id = mended "id" v := by
  cases v <;> cases h <;> simp [mended, textOrNull]

theorem mended_config {config : Fields} (h : Reader.objectOrEmpty v = .good config) :
    Value.object config = mended "config" v := by
  rcases Reader.objectOrEmpty_eq_good_iff.mp h with ⟨rfl, rfl⟩ | rfl <;> simp [mended]

theorem keptFrom_of_read (h : read fs = .good n) : n.fields.KeptFrom fs defaults mended := by
  obtain ⟨hid, ht, hl, hc, he⟩ := read_eq_good_iff.mp h
  have hfields : n.fields = [("id", textOrNull n.id), ("type", .text n.type),
      ("label", textOrNull n.label), ("config", .object n.config)] ++ fs.without declared := by
    rw [← he]
    rfl
  have hidKept := shown_of_field textOrNull (fun _ _ ↦ mended_id) hid
  have htype : some (Value.text n.type) = (fs.lookup "type").map (mended "type") := by
    refine shown_of_required .text (fun v s hs ↦ ?_) ht
    rw [mended_of_notMem (by decide), (Reader.nonEmptyText_eq_good_iff.mp hs).1]
  have hlabel : some (textOrNull n.label) =
      ((fs.lookup "label").map (mended "label")).or (some .null) := by
    refine shown_of_field textOrNull (fun v s hs ↦ ?_) hl
    rw [mended_of_notMem (by decide), Reader.optional_text_eq_good_iff.mp hs]
  have hconfig := shown_of_field .object (fun _ _ ↦ mended_config) hc
  rw [hfields]
  refine Fields.keptFrom_of_declared rfl ?_ ?_ ?_
  · decide
  · intro name hname v
    have hsub : ["id", "config"] ⊆ declared := by decide
    exact mended_of_notMem fun hm ↦ hname (hsub hm)
  · simp only [declared, List.forall_mem_cons]
    refine ⟨hidKept, ?_, hlabel, hconfig, fun name hm ↦ nomatch hm⟩
    rw [← htype]
    rfl

end Node

namespace Trigger

inductive Readable : Value → Prop
  | null : Readable .null
  | object {fs : Fields} (type : (Fields.get fs "type").IsTextOrNull)
      (condition : (Fields.get fs "condition").IsObjectOrNull) : Readable (.object fs)

def mended (name : String) (v : Value) : Value :=
  if name = "condition" ∧ v = .null then .object [] else v

def defaults : Fields := [("type", .null), ("condition", .object [])]

variable {fs : Fields} {t : Trigger} {v : Value}

theorem read_eq_good_iff : read fs = .good t ↔
    field "type" none (.optional .text) fs = .good t.type ∧
      field "condition" [] .objectOrEmpty fs = .good t.condition ∧
      t.extra = fs.without declared := by
  constructor
  · intro h
    simp only [read, Checked.seq_eq_good_iff, Checked.map_eq_good_iff, Checked.pure_eq] at h
    obtain ⟨_, _, h, ⟨⟩, rfl⟩ := h
    obtain ⟨_, condition, ⟨type, ht, rfl⟩, hc, rfl⟩ := h
    exact ⟨ht, hc, rfl⟩
  · intro ⟨ht, hc, he⟩
    rw [read, ht, hc, ← he]
    rfl

theorem read_isGood_iff : (∃ t, read fs = .good t) ↔
    (fs.get "type").IsTextOrNull ∧ (fs.get "condition").IsObjectOrNull := by
  have hextra : ∃ extra, Checked.good (fs.without declared) = .good extra := ⟨_, rfl⟩
  simp only [read, Checked.seq_isGood_iff, Checked.map_isGood_iff, textField_isGood_iff,
    objectField_isGood_iff, Checked.pure_eq, hextra, and_true]

inductive Source : Value → Fields → Prop
  | null : Source .null []
  | object (fs : Fields) : Source (.object fs) fs

theorem ofValue_eq_ok_iff : ofValue v = .ok t ↔ ∃ fs, Source v fs ∧ read fs = .good t := by
  constructor
  · intro h
    cases v with
    | null => exact ⟨[], .null, by cases h; rfl⟩
    | object fs =>
      refine ⟨fs, .object fs, ?_⟩
      cases hr : read fs <;> simp_all [ofValue, Checked.toExcept]
    | _ => cases h
  · rintro ⟨fs, hs, h⟩
    cases hs with
    | null => cases h; rfl
    | object => simp only [ofValue, h, Checked.toExcept]

theorem ofValue_isOk_iff : (∃ t, ofValue v = .ok t) ↔ Readable v := by
  simp only [ofValue_eq_ok_iff]
  constructor
  · rintro ⟨t, fs, hs, h⟩
    obtain ⟨ht, hc⟩ := read_isGood_iff.mp ⟨t, h⟩
    cases hs with
    | null => exact .null
    | object => exact .object ht hc
  · intro h
    cases h with
    | null => exact ⟨{}, [], .null, rfl⟩
    | object ht hc =>
      obtain ⟨t, h⟩ := read_isGood_iff.mpr ⟨ht, hc⟩
      exact ⟨t, _, .object _, h⟩

theorem ofValue_of_not_readable (h : ¬ Readable v) :
    ∃ cause, ofValue v = .error (.failure (.definition cause .null)) := by
  cases v with
  | null => exact absurd .null h
  | object fs =>
    cases hr : read fs with
    | good t => exact absurd (ofValue_isOk_iff.mp ⟨t, ofValue_eq_ok_iff.mpr ⟨fs, .object fs, hr⟩⟩) h
    | bad ps =>
      exact ⟨.unreadableTrigger ⟨"Trigger", ps⟩, by simp only [ofValue, hr, Checked.toExcept]⟩
  | _ => exact ⟨_, rfl⟩

theorem mended_of_ne {name : String} (h : name ≠ "condition") : mended name v = v := by
  rw [mended, if_neg fun hn ↦ h hn.1]

theorem mended_condition {condition : Fields} (h : Reader.objectOrEmpty v = .good condition) :
    Value.object condition = mended "condition" v := by
  rcases Reader.objectOrEmpty_eq_good_iff.mp h with ⟨rfl, rfl⟩ | rfl <;> simp [mended]

theorem keptFrom_of_read (h : read fs = .good t) : t.fields.KeptFrom fs defaults mended := by
  obtain ⟨ht, hc, he⟩ := read_eq_good_iff.mp h
  have hfields : t.fields = [("type", textOrNull t.type), ("condition", .object t.condition)] ++
      fs.without declared := by
    rw [← he]
    rfl
  have htype : some (textOrNull t.type) =
      ((fs.lookup "type").map (mended "type")).or (some .null) := by
    refine shown_of_field textOrNull (fun v s hs ↦ ?_) ht
    rw [mended_of_ne (by decide), Reader.optional_text_eq_good_iff.mp hs]
  have hcondition := shown_of_field .object (fun _ _ ↦ mended_condition) hc
  rw [hfields]
  refine Fields.keptFrom_of_declared rfl ?_ ?_ ?_
  · decide
  · intro name hname v
    exact mended_of_ne fun hn ↦ hname (hn ▸ by decide)
  · simp only [declared, List.forall_mem_cons]
    exact ⟨htype, hcondition, fun name hm ↦ nomatch hm⟩

end Trigger

namespace Edge

inductive Spelled : Value → Option String → String → String → Prop
  | object {fs : Fields} {id : Option String} {source target : String}
      (hid : Fields.get fs "id" = textOrNull id)
      (hsource : Fields.get fs "source" = .text source) (source_ne : source ≠ "")
      (htarget : Fields.get fs "target" = .text target) (target_ne : target ≠ "")
      (label : (Fields.get fs "label").IsTextOrNull) : Spelled (.object fs) id source target

variable {fs : Fields} {e : Edge} {v : Value} {id : Option String} {source target : String}

theorem read_eq_good_iff : read fs = .good e ↔
    fs.get "id" = textOrNull e.id ∧ (fs.get "source" = .text e.source ∧ e.source ≠ "") ∧
      (fs.get "target" = .text e.target ∧ e.target ≠ "") ∧ fs.get "label" = textOrNull e.label ∧
      e.extra = fs.without declared := by
  simp only [← textField_eq_good_iff, ← requiredText_eq_good_iff]
  constructor
  · intro h
    simp only [read, Checked.seq_eq_good_iff, Checked.map_eq_good_iff, Checked.pure_eq] at h
    obtain ⟨_, _, h, ⟨⟩, rfl⟩ := h
    obtain ⟨_, label, h, hl, rfl⟩ := h
    obtain ⟨_, target, h, ht, rfl⟩ := h
    obtain ⟨_, source, ⟨id, hid, rfl⟩, hs, rfl⟩ := h
    exact ⟨hid, hs, ht, hl, rfl⟩
  · intro ⟨hid, hs, ht, hl, he⟩
    rw [read, hid, hs, ht, hl, ← he]
    rfl

theorem spelled_iff : Spelled v id source target ↔ ∃ fs e, v = .object fs ∧ read fs = .good e ∧
    e.id = id ∧ e.source = source ∧ e.target = target := by
  simp only [read_eq_good_iff]
  constructor
  · intro ⟨hid, hs, hsn, ht, htn, label, hl⟩
    exact ⟨_, ⟨id, source, target, label, _⟩, rfl, ⟨hid, ⟨hs, hsn⟩, ⟨ht, htn⟩, hl, rfl⟩,
      rfl, rfl, rfl⟩
  · rintro ⟨fs, e, rfl, ⟨hid, ⟨hs, hsn⟩, ⟨ht, htn⟩, hl, -⟩, rfl, rfl, rfl⟩
    exact .object hid hs hsn ht htn ⟨e.label, hl⟩

theorem Spelled.unique {id' : Option String} {source' target' : String}
    (h : Spelled v id source target) (h' : Spelled v id' source' target') :
    id = id' ∧ source = source' ∧ target = target' := by
  obtain ⟨fs, e, rfl, hr, rfl, rfl, rfl⟩ := spelled_iff.mp h
  obtain ⟨gs, e', hv, hr', rfl, rfl, rfl⟩ := spelled_iff.mp h'
  cases hv
  cases hr.symm.trans hr'
  exact ⟨rfl, rfl, rfl⟩

end Edge

/-- A node is read from an object with a type, whose label and configuration are of their kinds
where they are given; a trigger from nothing, or an object of the same sort that need not have a
type. What cannot be read is refused as such, a node under its raw id. What can be is kept field by
field. -/
theorem definitions_are_read (v : Value) :
    ((∃ n, Node.ofValue v = .ok n) ↔ Node.Readable v) ∧
      (¬ Node.Readable v →
        ∃ cause, Node.ofValue v = .error (.failure (.definition cause (Node.rawId v)))) ∧
      (∀ fs n, v = .object fs → Node.ofValue v = .ok n →
        n.fields.KeptFrom fs Node.defaults Node.mended) ∧
      ((∃ t, Trigger.ofValue v = .ok t) ↔ Trigger.Readable v) ∧
      (¬ Trigger.Readable v →
        ∃ cause, Trigger.ofValue v = .error (.failure (.definition cause .null))) ∧
      ∀ fs t, Trigger.Source v fs → Trigger.ofValue v = .ok t →
        t.fields.KeptFrom fs Trigger.defaults Trigger.mended := by
  refine ⟨Node.ofValue_isOk_iff, Node.ofValue_of_not_readable, ?_, Trigger.ofValue_isOk_iff,
    Trigger.ofValue_of_not_readable, ?_⟩
  · rintro fs n rfl h
    obtain ⟨gs, hgs, hread⟩ := Node.ofValue_eq_ok_iff.mp h
    cases hgs
    exact Node.keptFrom_of_read hread
  · intro fs t hs h
    obtain ⟨gs, hgs, hread⟩ := Trigger.ofValue_eq_ok_iff.mp h
    cases hs <;> cases hgs <;> exact Trigger.keptFrom_of_read hread

end Automation
