import Automation.Proofs.Faulty
import Automation.Proofs.Value.Lookup
import Automation.Workflow.Definition

namespace Automation

namespace Value

def IsTextOrNull (v : Value) : Prop := ∃ s, v = textOrNull s

def IsNonEmptyText (v : Value) : Prop := ∃ s, v = .text s ∧ s ≠ ""

def IsObjectOrNull (v : Value) : Prop := v = .null ∨ ∃ fs, v = .object fs

end Value

namespace Schema

variable {α β : Type} {name : String} {fs : Fields} {v : Value}

namespace Checked

theorem map_eq_good_iff {f : α → β} {x : Checked α} {b : β} :
    f <$> x = .good b ↔ ∃ a, x = .good a ∧ f a = b := by
  cases x with
  | good a => simp
  | bad ps =>
    constructor
    · rintro ⟨⟩
    · rintro ⟨a, ⟨⟩, -⟩

theorem map_isGood_iff {f : α → β} {x : Checked α} :
    (∃ b, f <$> x = .good b) ↔ ∃ a, x = .good a := by
  simp [map_eq_good_iff]

theorem seq_isGood_iff {f : Checked (α → β)} {x : Checked α} :
    (∃ b, f <*> x = .good b) ↔ (∃ g, f = .good g) ∧ ∃ a, x = .good a := by
  simp [seq_eq_good_iff]

end Checked

namespace Reader

theorem items_eq_good_iff {r : Reader α} {index : Nat} {vs : List Value} {as : List α} :
    items r index vs = .good as ↔ List.Forall₂ (fun v a ↦ r v = .good a) vs as := by
  induction vs generalizing index as with
  | nil => simp [items, List.forall₂_nil_left_iff, eq_comm]
  | cons v vs ih =>
    simp only [items, Checked.seq_eq_good_iff, Checked.map_eq_good_iff, Checked.within_eq_good_iff,
      ih, List.forall₂_cons_left_iff]
    constructor
    · rintro ⟨-, bs, ⟨a, ha, rfl⟩, hbs, rfl⟩
      exact ⟨a, bs, ha, hbs, rfl⟩
    · rintro ⟨a, bs, ha, hbs, rfl⟩
      exact ⟨_, bs, ⟨a, ha, rfl⟩, hbs, rfl⟩

theorem list_eq_good_iff {r : Reader α} {as : List α} :
    list r v = .good as ↔ ∃ vs, v = .list vs ∧ List.Forall₂ (fun v a ↦ r v = .good a) vs as := by
  cases v <;> simp [list, items_eq_good_iff, Checked.flawed]

theorem record_eq_good_iff {model : String} {r : Fields → Checked α} {a : α} :
    record model r v = .good a ↔ ∃ fs, v = .object fs ∧ r fs = .good a := by
  cases v <;> simp [record, Checked.flawed]

theorem nonEmptyText_eq_good_iff {s : String} :
    nonEmptyText v = .good s ↔ v = .text s ∧ s ≠ "" := by
  cases v with
  | text t => by_cases ht : t = "" <;> grind [nonEmptyText, Checked.flawed]
  | _ => simp [nonEmptyText, Checked.flawed]

theorem optional_text_eq_good_iff {s : Option String} :
    optional text v = .good s ↔ v = textOrNull s := by
  cases v with
  | null => cases s <;> simp [optional, textOrNull]
  | text t => cases s <;> simp [optional, text, textOrNull]
  | _ => cases s <;> simp [optional, text, textOrNull, Checked.map_eq_good_iff, Checked.flawed]

@[simp] theorem optional_text_textOrNull (s : Option String) :
    optional text (textOrNull s) = .good s := optional_text_eq_good_iff.mpr rfl

theorem objectOrEmpty_eq_good_iff {gs : Fields} :
    objectOrEmpty v = .good gs ↔ v = .null ∧ gs = [] ∨ v = .object gs := by
  cases v <;> simp [objectOrEmpty, object, Checked.flawed, eq_comm]

@[simp] theorem id_textOrNull (s : Option String) : Reader.id (textOrNull s) = .good s := by
  cases s <;> rfl

end Reader

theorem required_eq_good_iff {r : Reader α} {a : α} :
    required name r fs = .good a ↔ ∃ v, fs.lookup name = some v ∧ r v = .good a := by
  unfold required
  cases fs.lookup name <;> simp [Checked.flawed]

theorem field_eq_good_iff {default a : α} {r : Reader α} :
    field name default r fs = .good a ↔
      fs.lookup name = none ∧ default = a ∨ ∃ v, fs.lookup name = some v ∧ r v = .good a := by
  unfold field
  cases fs.lookup name <;> simp

theorem field_eq_good_iff_get {default a : α} {r : Reader α} (hr : r .null = .good default) :
    field name default r fs = .good a ↔ r (fs.get name) = .good a := by
  unfold field Fields.get
  cases fs.lookup name with
  | none => simp [hr]
  | some v => simp

theorem required_eq_good_iff_get {a : α} {r : Reader α} (hr : ∀ a, r .null ≠ .good a) :
    required name r fs = .good a ↔ r (fs.get name) = .good a := by
  unfold required Fields.get
  cases fs.lookup name with
  | none => simpa [Checked.flawed] using hr a
  | some v => simp

theorem textField_eq_good_iff {s : Option String} :
    field name none (.optional .text) fs = .good s ↔ fs.get name = textOrNull s := by
  have hnull : Reader.optional Reader.text .null = .good none := rfl
  rw [field_eq_good_iff_get hnull, Reader.optional_text_eq_good_iff]

theorem requiredText_eq_good_iff {s : String} :
    required name .nonEmptyText fs = .good s ↔ fs.get name = .text s ∧ s ≠ "" := by
  have hnull (t : String) : Reader.nonEmptyText .null ≠ .good t := by
    simp [Reader.nonEmptyText_eq_good_iff]
  rw [required_eq_good_iff_get hnull, Reader.nonEmptyText_eq_good_iff]

theorem textField_isGood_iff :
    (∃ s, field name none (.optional .text) fs = .good s) ↔ (fs.get name).IsTextOrNull := by
  simp only [textField_eq_good_iff, Value.IsTextOrNull]

theorem requiredText_isGood_iff :
    (∃ s, required name .nonEmptyText fs = .good s) ↔ (fs.get name).IsNonEmptyText := by
  simp only [requiredText_eq_good_iff, Value.IsNonEmptyText]

theorem objectField_isGood_iff :
    (∃ gs, field name [] .objectOrEmpty fs = .good gs) ↔ (fs.get name).IsObjectOrNull := by
  have hnull : Reader.objectOrEmpty .null = .good [] := rfl
  simp [field_eq_good_iff_get hnull, Reader.objectOrEmpty_eq_good_iff, Value.IsObjectOrNull,
    exists_or]

theorem idField_isGood (name : String) (fs : Fields) :
    ∃ id, field name none Reader.id fs = .good id := by
  have hnull : Reader.id .null = .good none := rfl
  simp only [field_eq_good_iff_get hnull]
  cases fs.get name <;> exact ⟨_, rfl⟩

/-- What a record shows of a field is what was given, as its reader mends it, or else the default.
-/
theorem shown_of_field (shown : α → Value) {default a : α} {r : Reader α} {mend : Value → Value}
    (hr : ∀ v a, r v = .good a → shown a = mend v) (h : field name default r fs = .good a) :
    some (shown a) = ((fs.lookup name).map mend).or (some (shown default)) := by
  rcases field_eq_good_iff.mp h with ⟨hnone, rfl⟩ | ⟨v, hv, ha⟩
  · rw [hnone]
    rfl
  · rw [hv, hr v a ha]
    rfl

theorem shown_of_required (shown : α → Value) {a : α} {r : Reader α} {mend : Value → Value}
    (hr : ∀ v a, r v = .good a → shown a = mend v) (h : required name r fs = .good a) :
    some (shown a) = (fs.lookup name).map mend := by
  obtain ⟨v, hv, ha⟩ := required_eq_good_iff.mp h
  rw [hv, hr v a ha]
  rfl

end Schema

namespace Fields

variable {names : List String}

/-- That a record with the fields `kept` was read from `given`: a field that was given is kept, as
`mend` leaves it, and one that was not is there only if it has a default. -/
def KeptFrom (kept given defaults : Fields) (mend : String → Value → Value) : Prop :=
  ∀ name, kept.lookup name = ((given.lookup name).map (mend name)).or (defaults.lookup name)

theorem keptFrom_of_declared {mend : String → Value → Value} {defaults declared given : Fields}
    (hnames : declared.map Prod.fst = names) (hdefaults : defaults.map Prod.fst ⊆ names)
    (hmend : ∀ name, name ∉ names → ∀ v, mend name v = v)
    (hdeclared : ∀ name ∈ names, declared.lookup name =
      ((given.lookup name).map (mend name)).or (defaults.lookup name)) :
    (declared ++ given.without names).KeptFrom given defaults mend := by
  intro name
  rw [List.lookup_append]
  by_cases hm : name ∈ names
  · obtain ⟨v, hv⟩ := exists_lookup (hnames ▸ hm)
    rw [← hdeclared name hm, hv, Option.some_or]
  · have hundeclared : declared.lookup name = none := lookup_eq_none (hnames ▸ hm)
    have hdefault : defaults.lookup name = none := lookup_eq_none fun h ↦ hm (hdefaults h)
    have hkept : mend name = id := funext (hmend name hm)
    rw [hundeclared, hdefault, hkept, lookup_without hm, Option.map_id, Option.or_none,
      Option.none_or]
    rfl

end Fields

end Automation
