import Automation.Proofs.Context.Naming

namespace Automation

namespace Named

def merge (fs gs : Named) : Named := gs.foldl (fun acc p ↦ acc.set p.1 p.2) fs

def IsDistinct (fs : Named) : Prop := Tags.IsDistinct (fs.map Prod.fst)

variable {fs gs hs : Named} {p : Value × Value} {k name other v w : Value}

@[simp] theorem merge_cons (fs : Named) (p : Value × Value) (gs : Named) :
    fs.merge (p :: gs) = (fs.set p.1 p.2).merge gs := rfl

theorem isDistinct_nil : IsDistinct [] := ⟨by simp, by simp⟩

theorem isDistinct_cons : IsDistinct (p :: fs) ↔
    p.1.key?.isSome = true ∧ (∀ q ∈ fs, p.1.same q.1 = false) ∧ fs.IsDistinct := by
  constructor
  · intro h
    have hp : p.1.key?.isSome = true := h.keyed p.1 (by simp)
    have hnodup := List.nodup_cons.mp h.nodup
    refine ⟨hp, fun q hq ↦ ?_, ⟨fun t ht ↦ h.keyed t (List.mem_cons_of_mem _ ht), hnodup.2⟩⟩
    rw [Bool.eq_false_iff, ne_eq, Value.same_iff hp]
    intro he
    exact hnodup.1 (he ▸ List.mem_map_of_mem (List.mem_map_of_mem hq))
  · intro h
    obtain ⟨hp, hne, hfs⟩ := h
    refine ⟨List.forall_mem_cons.mpr ⟨hp, hfs.keyed⟩, List.nodup_cons.mpr ⟨?_, hfs.nodup⟩⟩
    intro hm
    simp only [List.mem_map] at hm
    obtain ⟨-, ⟨q, hq, rfl⟩, he⟩ := hm
    have hsame : p.1.same q.1 = true := (Value.same_iff hp).mpr he.symm
    cases hsame.symm.trans (hne q hq)

theorem IsDistinct.forall_keyed (h : fs.IsDistinct) : ∀ p ∈ fs, p.1.key?.isSome = true :=
  fun p hp ↦ h.keyed p.1 (List.mem_map_of_mem hp)

theorem get?_cons (p : Value × Value) (fs : Named) (name : Value) :
    get? (p :: fs) name = if p.1.same name then some p.2 else fs.get? name := by
  rw [get?, List.find?_cons]
  cases p.1.same name <;> rfl

theorem get?_set (fs : Named) (hn : name.key?.isSome = true) (v other : Value) :
    (fs.set name v).get? other = if name.same other then some v else fs.get? other := by
  induction fs with
  | nil => exact get?_cons (name, v) [] other
  | cons p fs ih =>
    obtain ⟨k, w⟩ := p
    rw [set]
    split
    · next hk =>
      rw [get?_cons, get?_cons, Value.same_congr_left hk hn]
      split <;> rfl
    · next hk =>
      rw [get?_cons, get?_cons, ih]
      by_cases hsame : name.same other = true
      · have hother : k.same other = false := by
          rw [Value.same_comm hn] at hsame
          rw [Value.same_congr_right hsame hn]
          exact Bool.eq_false_iff.mpr hk
        simp [hsame, hother]
      · simp [hsame]

theorem isSome_get?_set (hn : name.key?.isSome = true) (h : (fs.get? other).isSome = true) :
    ((fs.set name v).get? other).isSome = true := by
  rw [get?_set fs hn]
  split
  · rfl
  · exact h

/-- What was written first under the same name is gone, but for the name. -/
theorem set_set (hn : name.key?.isSome = true) (hk : k.same name = true) :
    (fs.set k w).set name v = fs.set k v := by
  have hkeyed : k.key?.isSome = true := Value.key?_eq_of_same hk ▸ hn
  induction fs with
  | nil => simp [set, hk]
  | cons p fs ih =>
    obtain ⟨j, x⟩ := p
    by_cases hj : j.same k = true
    · have hname : j.same name = true := (Value.same_congr_left hj hkeyed name).trans hk
      simp [set, hj, hname]
    · have hname : ¬ j.same name = true := by
        rwa [← Value.same_congr_right hk hn]
      simp [set, hj, hname, ih]

theorem set_comm (ho : other.key?.isSome = true) (hne : other.same name = false)
    (h : (fs.get? name).isSome = true) :
    (fs.set other w).set name v = (fs.set name v).set other w := by
  induction fs with
  | nil => cases h
  | cons p fs ih =>
    obtain ⟨j, x⟩ := p
    by_cases hj : j.same other = true
    · have hname : j.same name = false := (Value.same_congr_left hj ho name).trans hne
      simp [set, hj, hname]
    · by_cases hname : j.same name = true
      · simp [set, hj, hname]
      · have hfs : (get? fs name).isSome = true := by
          rw [get?_cons] at h
          simpa [hname] using h
        simp [set, hj, hname, ih hfs]

theorem set_of_get? (h : fs.get? name = some v) : fs.set name v = fs := by
  induction fs with
  | nil => cases h
  | cons p fs ih =>
    obtain ⟨j, x⟩ := p
    rw [get?_cons] at h
    by_cases hj : j.same name = true
    · obtain rfl : x = v := by simpa [hj] using h
      simp [set, hj]
    · simp [set, hj, ih (by simpa [hj] using h)]

theorem mem_set {q : Value × Value} (h : q ∈ fs.set name v) :
    q.1 = name ∨ ∃ p ∈ fs, p.1 = q.1 := by
  induction fs with
  | nil =>
    obtain rfl := List.mem_singleton.mp h
    exact .inl rfl
  | cons p fs ih =>
    obtain ⟨j, x⟩ := p
    rw [set] at h
    split at h
    · rcases List.mem_cons.mp h with rfl | h
      · exact .inr ⟨_, List.mem_cons_self, rfl⟩
      · exact .inr ⟨q, List.mem_cons_of_mem _ h, rfl⟩
    · rcases List.mem_cons.mp h with rfl | h
      · exact .inr ⟨_, List.mem_cons_self, rfl⟩
      · rcases ih h with hq | ⟨p, hp, hq⟩
        · exact .inl hq
        · exact .inr ⟨p, List.mem_cons_of_mem _ hp, hq⟩

theorem IsDistinct.set (h : fs.IsDistinct) (hn : name.key?.isSome = true) (v : Value) :
    (fs.set name v).IsDistinct := by
  induction fs with
  | nil => exact isDistinct_cons.mpr ⟨hn, by simp, h⟩
  | cons p fs ih =>
    obtain ⟨j, x⟩ := p
    obtain ⟨hj, hne, hfs⟩ := isDistinct_cons.mp h
    rw [Named.set]
    split
    · exact isDistinct_cons.mpr ⟨hj, hne, hfs⟩
    · next hk =>
      refine isDistinct_cons.mpr ⟨hj, fun q hq ↦ ?_, ih hfs⟩
      rcases mem_set hq with he | ⟨p, hp, he⟩
      · rw [he]
        exact Bool.eq_false_iff.mpr hk
      · rw [← he]
        exact hne p hp

theorem IsDistinct.merge (h : fs.IsDistinct) (hg : gs.IsDistinct) : (fs.merge gs).IsDistinct := by
  induction gs generalizing fs with
  | nil => exact h
  | cons p gs ih =>
    obtain ⟨hp, -, hg⟩ := isDistinct_cons.mp hg
    exact ih (h.set hp p.2) hg

theorem get?_eq_none (h : ∀ q ∈ fs, q.1.same name = false) : fs.get? name = none := by
  rw [get?, Option.map_eq_none_iff, List.find?_eq_none]
  intro q hq
  simp [h q hq]

theorem IsDistinct.get?_of_mem (h : fs.IsDistinct) (hp : p ∈ fs) : fs.get? p.1 = some p.2 := by
  induction fs with
  | nil => cases hp
  | cons q fs ih =>
    obtain ⟨hq, hne, hfs⟩ := isDistinct_cons.mp h
    rw [get?_cons]
    rcases List.mem_cons.mp hp with rfl | hp
    · rw [if_pos (Value.same_self hq)]
    · simp [hne p hp, ih hfs hp]

theorem not_same_of_apart {q : Value × Value} (hp : p.1.key?.isSome = true)
    (hne : p.1.same q.1 = false) (hsame : p.1.same name = true) : q.1.same name = false := by
  rw [Value.same_comm hp] at hsame
  rwa [← Value.same_comm (Value.key?_eq_of_same hsame ▸ hp), Value.same_congr_left hsame hp]

/-- A field is read from the group that was merged in, if it is there. -/
theorem get?_merge (hg : gs.IsDistinct) (fs : Named) (name : Value) :
    (fs.merge gs).get? name = (gs.get? name).or (fs.get? name) := by
  induction gs generalizing fs with
  | nil => rfl
  | cons p gs ih =>
    obtain ⟨hp, hne, hg⟩ := isDistinct_cons.mp hg
    rw [merge_cons, ih hg, get?_set fs hp, get?_cons]
    by_cases hsame : p.1.same name = true
    · have hnone : get? gs name = none :=
        get?_eq_none fun q hq ↦ not_same_of_apart hp (hne q hq) hsame
      simp [hsame, hnone]
    · simp [hsame]

/-- A field that is there already, and is not among those merged in, can be written before them. -/
theorem set_merge (h : (fs.get? name).isSome = true)
    (hg : ∀ q ∈ gs, q.1.key?.isSome = true ∧ q.1.same name = false) :
    (fs.merge gs).set name v = (fs.set name v).merge gs := by
  induction gs generalizing fs with
  | nil => rfl
  | cons p gs ih =>
    obtain ⟨⟨hp, hne⟩, hg⟩ := List.forall_mem_cons.mp hg
    rw [merge_cons, ih (isSome_get?_set hp h) hg, set_comm hp hne h, merge_cons]

theorem merge_set (hg : gs.IsDistinct) (hn : name.key?.isSome = true) (fs : Named) (v : Value) :
    fs.merge (gs.set name v) = (fs.merge gs).set name v := by
  induction gs generalizing fs with
  | nil => rfl
  | cons p gs ih =>
    obtain ⟨k, w⟩ := p
    obtain ⟨hk, hne, hg⟩ := isDistinct_cons.mp hg
    by_cases hsame : k.same name = true
    · -- The field keeps its place among those merged in, so it is written before the rest of them.
      have hrest : ∀ q ∈ gs, q.1.key?.isSome = true ∧ q.1.same name = false := by
        intro q hq
        exact ⟨hg.forall_keyed q hq, not_same_of_apart (p := (k, w)) hk (hne q hq) hsame⟩
      have hthere : ((fs.set k w).get? name).isSome = true := by
        rw [get?_set fs hk, if_pos hsame]
        rfl
      calc
        fs.merge (set ((k, w) :: gs) name v) = (fs.set k v).merge gs := by simp [set, hsame]
        _ = ((fs.set k w).set name v).merge gs := by rw [set_set hn hsame]
        _ = ((fs.set k w).merge gs).set name v := (set_merge hthere hrest).symm
    · simp only [set, hsame, Bool.false_eq_true, if_false, merge_cons]
      exact ih hg (fs.set k w)

theorem merge_merge (hg : gs.IsDistinct) (hh : ∀ q ∈ hs, q.1.key?.isSome = true) (fs : Named) :
    (fs.merge gs).merge hs = fs.merge (gs.merge hs) := by
  induction hs generalizing gs with
  | nil => rfl
  | cons p hs ih =>
    obtain ⟨hp, hh⟩ := List.forall_mem_cons.mp hh
    rw [merge_cons, merge_cons, ← merge_set hg hp, ih (hg.set hp p.2) hh]

theorem merge_eq_self (h : ∀ p ∈ gs, fs.get? p.1 = some p.2) : fs.merge gs = fs := by
  induction gs with
  | nil => rfl
  | cons p gs ih =>
    obtain ⟨hp, hg⟩ := List.forall_mem_cons.mp h
    rw [merge_cons, set_of_get? hp, ih hg]

theorem IsDistinct.merge_self (h : fs.IsDistinct) : fs.merge fs = fs :=
  merge_eq_self fun _ hp ↦ h.get?_of_mem hp

def blank (fs : Named) : Named := fs.map fun p ↦ (p.1, .null)

theorem blank_set (fs : Named) (name v : Value) :
    (fs.set name v).blank = fs.blank.set name .null := by
  induction fs with
  | nil => rfl
  | cons p fs ih =>
    obtain ⟨k, w⟩ := p
    by_cases hk : k.same name = true
    · simp [blank, set, hk]
    · simpa [blank, set, hk] using ih

theorem blank_merge (fs gs : Named) : (fs.merge gs).blank = fs.blank.merge gs.blank := by
  induction gs generalizing fs with
  | nil => rfl
  | cons p gs ih => exact (ih (fs.set p.1 p.2)).trans (by rw [blank_set]; rfl)

theorem IsDistinct.blank (h : fs.IsDistinct) : fs.blank.IsDistinct := by
  unfold IsDistinct Named.blank
  rwa [List.map_map]

theorem set_append (h : ∀ q ∈ fs, q.1.same name = false) :
    set (fs ++ gs) name v = fs ++ gs.set name v := by
  induction fs with
  | nil => rfl
  | cons p fs ih =>
    obtain ⟨hp, hfs⟩ := List.forall_mem_cons.mp h
    simp [set, hp, ih hfs]

end Named

namespace Fields

def named (fs : Fields) : Named := fs.map fun p ↦ (.text p.1, p.2)

variable {fs gs hs : Fields}

theorem named_injective (h : fs.named = gs.named) : fs = gs := by
  refine List.map_injective_iff.mpr ?_ h
  intro ⟨s, v⟩ ⟨t, w⟩ he
  obtain ⟨hname, hvalue⟩ := Prod.mk.inj he
  exact Prod.ext (Value.text.inj hname) hvalue

@[simp] theorem named_set (fs : Fields) (name : String) (v : Value) :
    (fs.set name v).named = fs.named.set (.text name) v := by
  induction fs with
  | nil => rfl
  | cons p fs ih =>
    obtain ⟨k, w⟩ := p
    by_cases hk : k = name
    · simp [named, set, Named.set, hk]
    · simpa [named, set, Named.set, hk] using ih

@[simp] theorem named_merge (fs gs : Fields) : (fs.merge gs).named = fs.named.merge gs.named := by
  induction gs generalizing fs with
  | nil => rfl
  | cons p gs ih => exact (ih (fs.set p.1 p.2)).trans (by rw [named_set]; rfl)

theorem keyed_named (fs : Fields) : ∀ p ∈ fs.named, p.1.key?.isSome = true := by
  intro p hp
  obtain ⟨q, -, rfl⟩ := List.mem_map.mp hp
  rfl

theorem isDistinct_named (h : (fs.map Prod.fst).Nodup) : fs.named.IsDistinct := by
  induction fs with
  | nil => exact Named.isDistinct_nil
  | cons p fs ih =>
    obtain ⟨hp, hfs⟩ := List.nodup_cons.mp h
    refine Named.isDistinct_cons.mpr ⟨rfl, fun q hq ↦ ?_, ih hfs⟩
    obtain ⟨r, hr, rfl⟩ := List.mem_map.mp hq
    rw [Value.text_same_text, beq_eq_false_iff_ne]
    rintro he
    exact hp (he ▸ List.mem_map_of_mem hr)

theorem merge_merge (h : gs.named.IsDistinct) (fs hs : Fields) :
    (fs.merge gs).merge hs = fs.merge (gs.merge hs) := by
  apply named_injective
  simp only [named_merge]
  exact Named.merge_merge h hs.keyed_named fs.named

end Fields

end Automation
