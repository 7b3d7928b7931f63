import Automation.Proofs.Context.Finite
import Automation.Proofs.Context.Merging
import Automation.Proofs.Value.Lookup

namespace Automation

namespace Value

mutual

/-- Whether some data is as JSON has it. -/
def isPlain : Value → Bool
  | .list vs => plainItems vs
  | .object fs => decide (fs.map Prod.fst).Nodup && plainFields fs
  | .special _ => false
  | _ => true

def plainItems : List Value → Bool
  | [] => true
  | v :: vs => isPlain v && plainItems vs

def plainFields : List (String × Value) → Bool
  | [] => true
  | (_, v) :: fs => isPlain v && plainFields fs

end

mutual

def floats : Value → List Binary64
  | .float x => [x]
  | .list vs => floatsOfItems vs
  | .object fs => floatsOfFields fs
  | _ => []

def floatsOfItems : List Value → List Binary64
  | [] => []
  | v :: vs => floats v ++ floatsOfItems vs

def floatsOfFields : List (String × Value) → List Binary64
  | [] => []
  | (_, v) :: fs => floats v ++ floatsOfFields fs

end

variable {fs gs : Fields} {name : String} {v : Value}

theorem plainItems_iff {vs : List Value} : plainItems vs = true ↔ ∀ v ∈ vs, v.isPlain = true := by
  induction vs with
  | nil => simp [plainItems]
  | cons v vs ih => rw [plainItems, Bool.and_eq_true, ih, List.forall_mem_cons]

theorem plainFields_iff : plainFields fs = true ↔ ∀ p ∈ fs, p.2.isPlain = true := by
  induction fs with
  | nil => simp [plainFields]
  | cons p fs ih => rw [plainFields, Bool.and_eq_true, ih, List.forall_mem_cons]

theorem isPlain_object_iff :
    (object fs).isPlain = true ↔ (fs.map Prod.fst).Nodup ∧ ∀ p ∈ fs, p.2.isPlain = true := by
  rw [isPlain, Bool.and_eq_true, decide_eq_true_iff, plainFields_iff]

theorem isPlain_object_cons : (object ((name, v) :: fs)).isPlain = true ↔
    name ∉ fs.map Prod.fst ∧ v.isPlain = true ∧ (object fs).isPlain = true := by
  simp only [isPlain_object_iff, List.map_cons, List.nodup_cons, List.forall_mem_cons]
  tauto

@[simp] theorem isPlain_text (s : String) : (text s).isPlain = true := rfl

theorem isPlain_orElse {w : Value} (hv : v.isPlain = true) (hw : w.isPlain = true) :
    (v.orElse w).isPlain = true := by
  unfold orElse
  split
  · exact hv
  · exact hw

theorem floats_object (fs : Fields) : (object fs).floats = fs.flatMap fun p ↦ p.2.floats := by
  rw [floats]
  induction fs with
  | nil => rfl
  | cons p fs ih => rw [floatsOfFields, ih, List.flatMap_cons]

end Value

namespace Fields

variable {fs : Fields} {name other : String} {v : Value}

theorem mem_names_set :
    other ∈ (fs.set name v).map Prod.fst ↔ other = name ∨ other ∈ fs.map Prod.fst := by
  induction fs with
  | nil => simp [set]
  | cons q fs ih =>
    obtain ⟨k, w⟩ := q
    rw [set]
    split
    · next hk => simp [hk]
    · rw [List.map_cons, List.mem_cons, ih, List.map_cons, List.mem_cons]
      tauto

end Fields

namespace Value

variable {fs gs : Fields} {name : String} {v : Value}

theorem isPlain_get (h : (object fs).isPlain = true) (name : String) :
    (Fields.get fs name).isPlain = true := by
  unfold Fields.get
  cases hl : fs.lookup name with
  | none => rfl
  | some v => exact (isPlain_object_iff.mp h).2 _ (mem_of_lookup hl)

theorem isPlain_set (h : (object fs).isPlain = true) (hv : v.isPlain = true) :
    (object (fs.set name v)).isPlain = true := by
  induction fs with
  | nil => exact isPlain_object_cons.mpr ⟨List.not_mem_nil, hv, h⟩
  | cons p fs ih =>
    obtain ⟨k, w⟩ := p
    obtain ⟨hk, hw, hfs⟩ := isPlain_object_cons.mp h
    rw [Fields.set]
    split
    · exact isPlain_object_cons.mpr ⟨hk, hv, hfs⟩
    · next hne =>
      refine isPlain_object_cons.mpr ⟨fun hm ↦ ?_, hw, ih hfs⟩
      rcases Fields.mem_names_set.mp hm with he | hm
      · exact hne he
      · exact hk hm

theorem isPlain_merge (h : (object fs).isPlain = true) (hg : ∀ p ∈ gs, p.2.isPlain = true) :
    (object (fs.merge gs)).isPlain = true := by
  induction gs generalizing fs with
  | nil => exact h
  | cons p gs ih =>
    obtain ⟨hp, hg⟩ := List.forall_mem_cons.mp hg
    exact ih (isPlain_set h hp) hg

theorem isPlain_without (h : (object fs).isPlain = true) (names : List String) :
    (object (fs.without names)).isPlain = true := by
  obtain ⟨hn, hall⟩ := isPlain_object_iff.mp h
  have hsub : (fs.without names).Sublist fs := List.filter_sublist
  exact isPlain_object_iff.mpr ⟨hn.sublist (hsub.map Prod.fst), fun p hp ↦ hall p (hsub.mem hp)⟩

mutual

theorem same_of_isPlain : ∀ v : Value, v.isPlain = true → v.same v = true
  | .list vs, h => sameItems_of_isPlain vs h
  | .object fs, h => by
    rw [same, beq_self_eq_true, Bool.true_and]
    exact fieldsWithin_of_isPlain fs fs h fun p hp ↦
      lookup_of_mem (isPlain_object_iff.mp h).1 hp
  | .null, _ | .bool _, _ | .int _, _ | .float _, _ | .text _, _ => same_self rfl

theorem sameItems_of_isPlain : ∀ vs : List Value, plainItems vs = true → sameItems vs vs = true
  | [], _ => rfl
  | v :: vs, h => by
    rw [plainItems, Bool.and_eq_true] at h
    rw [sameItems, same_of_isPlain v h.1, sameItems_of_isPlain vs h.2, Bool.and_true]

theorem fieldsWithin_of_isPlain : ∀ fs gs : List (String × Value), (object fs).isPlain = true →
    (∀ p ∈ fs, gs.lookup p.1 = some p.2) → fieldsWithin fs gs = true
  | [], _, _, _ => rfl
  | (k, v) :: fs, gs, h, hg => by
    obtain ⟨-, hv, hfs⟩ := isPlain_object_cons.mp h
    obtain ⟨hk, hg⟩ := List.forall_mem_cons.mp hg
    rw [fieldsWithin, hk, fieldsWithin_of_isPlain fs gs hfs hg, Bool.and_true]
    exact same_of_isPlain v hv

end

mutual

theorem finite_of_isPlain : ∀ v : Value, v.isPlain = true → (∀ x ∈ v.floats, x.isFinite = true) →
    v.finite = v
  | .float x, _, hx => by
    have hx : x.isFinite = true := hx x List.mem_cons_self
    rw [finite, if_pos hx]
  | .list vs, h, hx => by rw [finite, finiteItems_of_isPlain vs h hx]
  | .object fs, h, hx => by rw [finite, finiteFields_of_isPlain fs h hx]
  | .null, _, _ | .bool _, _, _ | .int _, _, _ | .text _, _, _ => rfl

theorem finiteItems_of_isPlain : ∀ vs : List Value, plainItems vs = true →
    (∀ x ∈ floatsOfItems vs, x.isFinite = true) → finiteItems vs = vs
  | [], _, _ => rfl
  | v :: vs, h, hx => by
    rw [plainItems, Bool.and_eq_true] at h
    rw [floatsOfItems, List.forall_mem_append] at hx
    rw [finiteItems, finite_of_isPlain v h.1 hx.1, finiteItems_of_isPlain vs h.2 hx.2]

theorem finiteFields_of_isPlain : ∀ fs : List (String × Value), (object fs).isPlain = true →
    (∀ x ∈ (object fs).floats, x.isFinite = true) → finiteFields fs = fs
  | [], _, _ => rfl
  | (k, v) :: fs, h, hx => by
    obtain ⟨-, hv, hfs⟩ := isPlain_object_cons.mp h
    rw [floats, floatsOfFields, List.forall_mem_append] at hx
    rw [finiteFields, finite_of_isPlain v hv hx.1, finiteFields_of_isPlain fs hfs hx.2]

end

end Value

end Automation
