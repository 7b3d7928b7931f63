import Automation.Text.Blank
import Mathlib.Data.List.Basic
import Mathlib.Data.List.TakeWhile

namespace Automation.Text

def AllBlank (cs : List Char) : Prop := ∀ c ∈ cs, isBlank c = true

structure Trimmed (cs : List Char) : Prop where
  head : ∀ c, cs.head? = some c → isBlank c = false
  last : ∀ c, cs.getLast? = some c → isBlank c = false

/-- A text with blanks around another one. -/
def Padded (cs padded : List Char) : Prop :=
  ∃ left right, AllBlank left ∧ AllBlank right ∧ padded = left ++ cs ++ right

variable {cs ds : List Char}

theorem trimmed_trim (cs : List Char) : Trimmed (trim cs) :=
  ⟨fun _ h ↦ not_isBlank_head_trim h, fun _ h ↦ not_isBlank_getLast_trim h⟩

theorem trimmed_nil : Trimmed [] where
  head _ h := nomatch h
  last _ h := nomatch h

theorem AllBlank.append (hc : AllBlank cs) (hd : AllBlank ds) : AllBlank (cs ++ ds) :=
  fun c hm ↦ (List.mem_append.mp hm).elim (hc c) (hd c)

theorem AllBlank.reverse (h : AllBlank cs) : AllBlank cs.reverse :=
  fun c hc ↦ h c (List.mem_reverse.mp hc)

theorem AllBlank.dropWhile_append (h : AllBlank cs) (ds : List Char) :
    (cs ++ ds).dropWhile isBlank = ds.dropWhile isBlank := by
  rw [List.dropWhile_append, List.dropWhile_eq_nil_iff.mpr h]
  rfl

theorem AllBlank.filter_eq_nil (h : AllBlank cs) : cs.filter (!isBlank ·) = [] :=
  List.filter_eq_nil_iff.mpr fun c hc ↦ by simp [h c hc]

theorem Trimmed.dropWhile_append (h : Trimmed cs) (hne : cs ≠ []) (ds : List Char) :
    (cs ++ ds).dropWhile isBlank = cs ++ ds := by
  refine dropWhile_eq_self_of_head isBlank fun c hc ↦ h.head c ?_
  rwa [List.head?_append_of_ne_nil _ hne] at hc

theorem Trimmed.reverse (h : Trimmed cs) : Trimmed cs.reverse :=
  ⟨fun c hc ↦ h.last c (by rwa [List.head?_reverse] at hc),
    fun c hc ↦ h.head c (by rwa [List.getLast?_reverse] at hc)⟩

theorem exists_dropWhile (cs : List Char) :
    ∃ left, AllBlank left ∧ cs = left ++ cs.dropWhile isBlank :=
  ⟨cs.takeWhile isBlank, fun _ hc ↦ List.mem_takeWhile_imp hc, List.takeWhile_append_dropWhile.symm⟩

theorem padded_trim (cs : List Char) : Padded (trim cs) cs := by
  obtain ⟨left, hleft, hcs⟩ := exists_dropWhile cs
  obtain ⟨right, hright, hds⟩ := exists_dropWhile (cs.dropWhile isBlank).reverse
  refine ⟨left, right.reverse, hleft, hright.reverse, ?_⟩
  rw [trim, trimBy, List.append_assoc, ← List.reverse_append, ← hds, List.reverse_reverse]
  exact hcs

/-- A text that neither starts nor ends with a blank is what trimming leaves of it with blanks
around. -/
theorem trim_eq_iff : trim ds = cs ↔ Trimmed cs ∧ Padded cs ds := by
  constructor
  · rintro rfl
    exact ⟨trimmed_trim ds, padded_trim ds⟩
  · rintro ⟨h, left, right, hleft, hright, rfl⟩
    rw [trim, trimBy, List.append_assoc, hleft.dropWhile_append]
    by_cases hne : cs = []
    · rw [hne, List.nil_append, List.dropWhile_eq_nil_iff.mpr hright]
      rfl
    · have hrev : cs.reverse ≠ [] := fun hr ↦ hne (List.reverse_eq_nil_iff.mp hr)
      rw [h.dropWhile_append hne, List.reverse_append, hright.reverse.dropWhile_append,
        ← List.append_nil cs.reverse, h.reverse.dropWhile_append hrev, List.append_nil,
        List.reverse_reverse]

theorem trimmed_iff : Trimmed cs ↔ trim cs = cs := by
  rw [trim_eq_iff]
  have hself : Padded cs cs := ⟨[], [], by simp [AllBlank], by simp [AllBlank], by simp⟩
  exact ⟨fun h ↦ ⟨h, hself⟩, And.left⟩

instance (cs : List Char) : Decidable (Trimmed cs) := decidable_of_iff _ trimmed_iff.symm

theorem mem_of_mem_trim {c : Char} (h : c ∈ trim cs) : c ∈ cs := by
  obtain ⟨left, right, -, -, hcs⟩ := padded_trim cs
  rw [hcs]
  exact List.mem_append_left _ (List.mem_append_right _ h)

theorem Padded.filter_eq (h : Padded cs ds) : ds.filter (!isBlank ·) = cs.filter (!isBlank ·) := by
  obtain ⟨left, right, hleft, hright, rfl⟩ := h
  rw [List.filter_append, List.filter_append, hleft.filter_eq_nil, hright.filter_eq_nil,
    List.nil_append, List.append_nil]

theorem trim_eq_nil_iff : trim cs = [] ↔ AllBlank cs := by
  rw [trim_eq_iff]
  constructor
  · rintro ⟨-, left, right, hleft, hright, rfl⟩
    rw [List.append_nil]
    exact hleft.append hright
  · exact fun h ↦ ⟨trimmed_nil, cs, [], h, fun _ hc ↦ absurd hc List.not_mem_nil, by simp⟩

theorem Trimmed.eq_nil_of_append (h : Trimmed (cs ++ ds)) (hd : AllBlank ds) : ds = [] := by
  by_contra hne
  have hlast : (cs ++ ds).getLast? = some (ds.getLast hne) := by
    rw [List.getLast?_append_of_ne_nil _ hne, List.getLast?_eq_getLast_of_ne_nil hne]
  have hblank := hd _ (List.getLast_mem hne)
  rw [h.last _ hlast] at hblank
  cases hblank

/-- After a blank inside of a trimmed text there are more blanks at most, and then something else.
-/
theorem Trimmed.after_blank {b : Char} {tail : List Char} (h : Trimmed (cs ++ b :: tail))
    (hb : isBlank b = true) :
    trim tail ≠ [] ∧ ∃ left, AllBlank left ∧ tail = left ++ trim tail := by
  obtain ⟨left, right, hleft, hright, htail⟩ := padded_trim tail
  have hnil : right = [] := by
    rw [htail, ← List.cons_append, ← List.append_assoc] at h
    exact h.eq_nil_of_append hright
  rw [hnil, List.append_nil] at htail
  refine ⟨fun he ↦ ?_, left, hleft, htail⟩
  have hblank : AllBlank (b :: tail) := List.forall_mem_cons.mpr ⟨hb, trim_eq_nil_iff.mp he⟩
  exact List.cons_ne_nil b tail (h.eq_nil_of_append hblank)

end Automation.Text
