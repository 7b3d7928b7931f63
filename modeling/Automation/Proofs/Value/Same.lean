import Automation.Value.Identity

namespace Automation.Value

variable {v w t : Value}

/-- Values that are the same have the same key, or none of them has one. -/
theorem key?_eq_of_same (h : v.same w = true) : v.key? = w.key? := by
  cases hv : v.key? with
  | some a => exact ((same_iff_key?_eq hv).mp h).symm
  | none =>
    cases v with
    | list xs => cases w <;> first | rfl | (simp [same] at h)
    | object fs => cases w <;> first | rfl | (simp [same] at h)
    | _ => cases hv

theorem same_iff (hv : v.key?.isSome = true) : v.same w = true ↔ v.key? = w.key? := by
  obtain ⟨a, ha⟩ := Option.isSome_iff_exists.mp hv
  rw [same_iff_key?_eq ha, ha, eq_comm]

theorem same_self (h : v.key?.isSome = true) : v.same v = true := (same_iff h).mpr rfl

theorem same_iff_of_right (hw : w.key?.isSome = true) : v.same w = true ↔ v.key? = w.key? :=
  ⟨key?_eq_of_same, fun h ↦ (same_iff (h ▸ hw)).mpr h⟩

theorem same_comm (hv : v.key?.isSome = true) (w : Value) : v.same w = w.same v := by
  rw [Bool.eq_iff_iff, same_iff hv, same_iff_of_right hv, eq_comm]

theorem same_congr_left (h : v.same w = true) (hw : w.key?.isSome = true) (u : Value) :
    v.same u = w.same u := by
  have hk := key?_eq_of_same h
  rw [Bool.eq_iff_iff, same_iff hw, same_iff (hk ▸ hw), hk]

theorem same_congr_right (h : v.same w = true) (hw : w.key?.isSome = true) (u : Value) :
    u.same v = u.same w := by
  have hk := key?_eq_of_same h
  rw [Bool.eq_iff_iff, same_iff_of_right hw, same_iff_of_right (hk ▸ hw), hk]

@[simp] theorem text_same_text (s t : String) : (text s).same (text t) = (s == t) := by
  rw [same_of_key?_eq_some rfl, Bool.eq_iff_iff]
  simp [key?]

theorem eq_text_of_same {s : String} (h : (text s).same v = true) : v = .text s := by
  have hk : some (Key.text s) = v.key? := key?_eq_of_same h
  cases v with
  | text t =>
    cases hk
    rfl
  | special t =>
    cases t <;> cases hk
  | _ => cases hk

theorem isNan_eq_of_same (h : v.same w = true) : v.isNan = w.isNan := by
  rw [isNan, isNan, key?_eq_of_same h]

theorem equals_iff_same (h : t.isNan = false) : v.equals t = true ↔ v.same t = true := by
  constructor
  · intro he
    exact (Bool.and_eq_true_iff.mp he).2
  · intro hs
    rw [equals, isNan_eq_of_same hs, h, hs]
    rfl

theorem equals_iff_of_key? {k : Key} (h : v.key? = some k) :
    v.equals w = true ↔ k ≠ .number .undefined ∧ w.key? = some k := by
  rw [equals, Bool.and_eq_true, same_iff_key?_eq h, isNan, h]
  simp

def IsScalar (v : Value) : Prop := v.kind ≠ .list ∧ v.kind ≠ .object

instance (v : Value) : Decidable v.IsScalar := inferInstanceAs (Decidable (_ ∧ _))

theorem isSome_key?_iff : v.key?.isSome = true ↔ v.IsScalar := by
  cases v with
  | list => exact ⟨nofun, fun h ↦ absurd rfl h.1⟩
  | object => exact ⟨nofun, fun h ↦ absurd rfl h.2⟩
  | special s =>
    refine iff_of_true rfl ⟨?_, ?_⟩
    · cases s <;> exact nofun
    · cases s <;> exact nofun
  | _ => exact iff_of_true rfl ⟨nofun, nofun⟩

theorem equals_iff (hv : v.IsScalar) : v.equals w = true ↔ w.isNan = false ∧ v.key? = w.key? := by
  rw [equals, Bool.and_eq_true, Bool.not_eq_true', same_iff (isSome_key?_iff.mpr hv)]
  refine and_congr_left fun hk ↦ ?_
  rw [isNan, isNan, hk]

end Automation.Value
