import Automation.Proofs.Context.Event
import Automation.Proofs.Text.Trimmed

namespace Automation

namespace Event

open Text

/-- Whether two texts are the first word of a name and the rest of the name. -/
structure SplitsName (name first rest : List Char) : Prop where
  first_ne : ¬ AllBlank name → first ≠ []
  first_unspaced : ' ' ∉ first
  rest_trimmed : Trimmed rest
  whole : ∃ gap, trim name = first ++ gap ++ rest ∧ AllBlank gap ∧
    (' ' ∈ trim name → gap.head? = some ' ' ∧ rest ≠ []) ∧
    (' ' ∉ trim name → gap = [] ∧ rest = [])

variable {cs first tail : List Char}

theorem splitName_of_unspaced (h : ' ' ∉ trim cs) : splitName cs = (trim cs, []) := by
  have hall : ∀ c ∈ trim cs, decide (c ≠ ' ') = true := fun c hc ↦
    decide_eq_true fun he ↦ h (he ▸ hc)
  unfold splitName
  dsimp only
  rw [List.takeWhile_eq_self_iff.mpr hall, List.dropWhile_eq_nil_iff.mpr hall]
  rfl

theorem splitName_of_spaced (h : trim cs = first ++ ' ' :: tail) (hfirst : ' ' ∉ first) :
    splitName cs = (first, trim tail) := by
  have hall : ∀ c ∈ first, decide (c ≠ ' ') = true := fun c hc ↦
    decide_eq_true fun he ↦ hfirst (he ▸ hc)
  unfold splitName
  dsimp only
  rw [h, List.takeWhile_append_of_pos hall, List.dropWhile_append_of_pos hall]
  simp

theorem splitsName_splitName (cs : List Char) :
    SplitsName cs (splitName cs).1 (splitName cs).2 := by
  by_cases hspace : ' ' ∈ trim cs
  · obtain ⟨first, tail, hcs, hfirst⟩ := List.eq_append_cons_of_mem hspace
    have htrimmed : Trimmed (first ++ ' ' :: tail) := hcs ▸ trimmed_trim cs
    obtain ⟨hne, left, hleft, htail⟩ := htrimmed.after_blank (by decide)
    rw [splitName_of_spaced hcs hfirst]
    refine ⟨fun _ he ↦ ?_, hfirst, trimmed_trim tail, ' ' :: left, ?_,
      List.forall_mem_cons.mpr ⟨by decide, hleft⟩, fun _ ↦ ⟨rfl, hne⟩, fun h ↦ absurd hspace h⟩
    · -- A trimmed text does not start with the space.
      subst he
      cases htrimmed.head ' ' rfl
    · rw [hcs, List.append_assoc, List.cons_append, ← htail]
  · rw [splitName_of_unspaced hspace]
    refine ⟨fun hblank he ↦ hblank (trim_eq_nil_iff.mp he), hspace, trimmed_nil, [], by simp,
      fun _ hc ↦ absurd hc List.not_mem_nil, fun h ↦ absurd h hspace, fun _ ↦ ⟨rfl, rfl⟩⟩

theorem SplitsName.filter_eq {name first rest : List Char} (h : SplitsName name first rest) :
    (first ++ rest).filter (!isBlank ·) = name.filter (!isBlank ·) := by
  obtain ⟨gap, hwhole, hgap, -⟩ := h.whole
  rw [(padded_trim name).filter_eq, hwhole, List.filter_append, List.filter_append,
    List.filter_append, hgap.filter_eq_nil, List.append_nil]

/-- A full name is split into its first word and the rest. A payload with nothing else fills the
first and the last name of its contact with these, so that every character that is no blank is kept,
in order. -/
theorem full_name_is_kept (t : Trigger) (now : Instant) (name : String) : ∃ first last,
    names (.text name) = (first, last) ∧ SplitsName name.toList first.toList last.toList ∧
      ∃ c, (logged t (.object [("name", .text name)]) now).outcome = .ok c ∧
        c.contact.firstName = .text first ∧ c.contact.lastName = .text last ∧
        (first.toList ++ last.toList).filter (!isBlank ·) = name.toList.filter (!isBlank ·) := by
  have hsplit :
      SplitsName name.toList (names (.text name)).1.toList (names (.text name)).2.toList := by
    have h := splitsName_splitName name.toList
    rwa [names, Prod.map_fst, Prod.map_snd, String.toList_ofList, String.toList_ofList]
  obtain ⟨c, hc, hcontact⟩ := exists_logged t now [("name", .text name)] fun k hk ↦ nomatch hk
  exact ⟨_, _, rfl, hsplit, c, hc, by rw [hcontact]; rfl, by rw [hcontact]; rfl, hsplit.filter_eq⟩

example : names (.text " Jane  van Dyke\t") = ("Jane", "van Dyke") := by decide

end Event

end Automation
