import Automation.Value.Basic
import Mathlib.Data.List.Nodup

namespace Automation

section Entries

variable {β : Type} {entries : List (String × β)} {name : String} {b : β} {p : String × β}

theorem lookup_cons_ite (key : String) (b : β) (entries : List (String × β)) (name : String) :
    ((key, b) :: entries).lookup name = if name = key then some b else entries.lookup name := by
  by_cases h : name = key
  · simp [h]
  · simp [List.lookup_cons, h, beq_false_of_ne h]

theorem mem_of_lookup (h : entries.lookup name = some b) : (name, b) ∈ entries := by
  obtain ⟨before, after, rfl, -⟩ := List.lookup_eq_some_iff.mp h
  exact List.mem_append_right before List.mem_cons_self

theorem lookup_eq_none (h : name ∉ entries.map Prod.fst) : entries.lookup name = none := by
  rw [List.lookup_eq_none_iff]
  intro p hp
  exact bne_iff_ne.mpr fun he ↦ h (he ▸ List.mem_map_of_mem hp)

theorem exists_lookup (h : name ∈ entries.map Prod.fst) : ∃ b, entries.lookup name = some b := by
  obtain ⟨p, hp, rfl⟩ := List.mem_map.mp h
  refine Option.isSome_iff_exists.mp ?_
  rw [List.lookup_isSome_iff]
  exact ⟨p, hp, beq_self_eq_true p.1⟩

theorem lookup_of_mem (h : (entries.map Prod.fst).Nodup) (hp : p ∈ entries) :
    entries.lookup p.1 = some p.2 := by
  induction entries with
  | nil => cases hp
  | cons q entries ih =>
    obtain ⟨k, b⟩ := q
    obtain ⟨hk, hentries⟩ := List.nodup_cons.mp h
    rw [lookup_cons_ite]
    rcases List.mem_cons.mp hp with rfl | hp
    · exact if_pos rfl
    · have hne : p.1 ≠ k := fun he ↦ hk (List.mem_map.mpr ⟨p, hp, he⟩)
      rw [if_neg hne, ih hentries hp]

end Entries

namespace Fields

variable {fs gs : Fields} {names : List String} {name : String}

theorem without_without (fs : Fields) (names : List String) :
    (fs.without names).without names = fs.without names := by
  simp [without, List.filter_filter]

theorem lookup_without (h : name ∉ names) : (fs.without names).lookup name = fs.lookup name := by
  induction fs with
  | nil => rfl
  | cons p fs ih =>
    obtain ⟨k, v⟩ := p
    by_cases hk : name = k
    · subst hk
      simp [without, h]
    · by_cases hm : k ∈ names <;> simpa [without, hm, lookup_cons_ite, hk] using ih

theorem lookup_merge (h : (gs.map Prod.fst).Nodup) (fs : Fields) (name : String) :
    (fs.merge gs).lookup name = (gs.lookup name).or (fs.lookup name) := by
  induction gs generalizing fs with
  | nil => rfl
  | cons p gs ih =>
    obtain ⟨k, v⟩ := p
    obtain ⟨hk, hgs⟩ := List.nodup_cons.mp h
    have hmerge : (fs.merge ((k, v) :: gs)).lookup name =
        (gs.lookup name).or ((fs.set k v).lookup name) := ih hgs (fs.set k v)
    rw [hmerge, lookup_set, lookup_cons_ite]
    by_cases hn : name = k
    · have hnone : gs.lookup k = none := lookup_eq_none hk
      simp [hn, hnone]
    · simp [hn]

theorem without_append (fs gs : Fields) (names : List String) :
    (fs ++ gs).without names = fs.without names ++ gs.without names := by
  simp only [without, List.filter_append]

end Fields

end Automation
