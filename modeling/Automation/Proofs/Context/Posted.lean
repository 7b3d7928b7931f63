import Automation.Proofs.Context.Distinct
import Automation.Proofs.Context.Event
import Automation.Proofs.Text.Trimmed
import Mathlib.Data.List.Nodup

namespace Automation

namespace Tags

theorem firsts_texts (seen : List (Option Key)) (ss : List String) : firsts seen (ss.map .text) =
    ((ss.filter fun s ↦ !seen.contains (some (.text s))).eraseDups).map .text := by
  induction ss generalizing seen with
  | nil => rfl
  | cons s ss ih =>
    rw [List.map_cons, firsts, List.filter_cons, Value.key?]
    cases hs : seen.contains (some (.text s)) with
    | true => exact ih seen
    | false =>
      -- What is left of the texts that follow is neither seen nor the first one again.
      have hfilter : (ss.filter fun r ↦ !(some (Key.text s) :: seen).contains (some (.text r))) =
          (ss.filter fun r ↦ !seen.contains (some (.text r))).filter fun r ↦ !r == s := by
        rw [List.filter_filter]
        refine List.filter_congr fun r _ ↦ ?_
        have hkey : (some (Key.text r) == some (Key.text s)) = (r == s) := by
          rw [Bool.eq_iff_iff]
          simp
        rw [List.contains_cons, Bool.not_or, hkey]
      rw [if_neg Bool.false_ne_true, Bool.not_false, if_pos rfl, List.eraseDups_cons, List.map_cons,
        ih, hfilter]

theorem ofTexts_eq_eraseDups (ss : List String) : ofTexts ss = ss.eraseDups.map .text := by
  rw [ofTexts, firsts_texts]
  simp

end Tags

namespace Event

open Text

theorem pieces_eq_splitOn (separator : Char) (cs : List Char) :
    pieces separator cs = cs.splitOn separator := by
  induction cs with
  | nil => rfl
  | cons c cs ih =>
    rw [pieces, ih, List.splitOn_cons_eq_if_modifyHead]
    refine if_congr beq_iff_eq.symm rfl ?_
    cases hp : cs.splitOn separator with
    | nil => exact absurd hp (List.splitOn_ne_nil separator cs)
    | cons p ps => rfl

theorem notMem_of_mem_pieces {separator : Char} {cs p : List Char} (h : p ∈ pieces separator cs) :
    separator ∉ p := by
  induction cs generalizing p with
  | nil =>
    rw [List.mem_singleton.mp h]
    exact List.not_mem_nil
  | cons c cs ih =>
    rw [pieces] at h
    split at h
    · rcases List.mem_cons.mp h with rfl | h
      · exact List.not_mem_nil
      · exact ih h
    · next hc =>
      split at h
      · rw [List.mem_singleton.mp h]
        simpa using Ne.symm hc
      · next q qs hq =>
        rw [hq] at ih
        rcases List.mem_cons.mp h with rfl | h
        · rw [List.mem_cons, not_or]
          exact ⟨Ne.symm hc, ih List.mem_cons_self⟩
        · exact ih (List.mem_cons_of_mem q h)

theorem notMem_of_padded {separator : Char} {cs p : List Char} (hb : isBlank separator = false)
    (hc : separator ∉ cs) (h : Padded cs p) : separator ∉ p := by
  obtain ⟨left, right, hleft, hright, rfl⟩ := h
  have hnot {ds : List Char} (hds : AllBlank ds) : separator ∉ ds := fun hm ↦ by
    rw [hds separator hm] at hb
    cases hb
  simp only [List.mem_append, not_or]
  exact ⟨⟨hnot hleft, hc⟩, hnot hright⟩

theorem filterMap_ofList (xs : List String) :
    ((xs.map String.toList).filterMap fun p ↦ if p = [] then none else some (String.ofList p)) =
      xs.filter (· ≠ "") := by
  induction xs with
  | nil => rfl
  | cons x xs ih =>
    rw [List.map_cons, List.filterMap_cons, List.filter_cons, ih]
    by_cases hx : x = ""
    · simp [hx]
    · simp [hx]

/-- Items without commas are read back from a text with blanks around each of them. -/
theorem commaList_intercalate {xs : List String} {ps : List (List Char)}
    (hxs : ∀ x ∈ xs, ',' ∉ x.toList ∧ Trimmed x.toList)
    (h : List.Forall₂ (fun x p ↦ Padded x.toList p) xs ps) :
    commaList (.ofList ([','].intercalate ps)) = xs.filter (· ≠ "") := by
  have htrim : ps.map trim = xs.map String.toList := by
    induction h with
    | nil => rfl
    | cons hp _ ih =>
      rw [List.forall_mem_cons] at hxs
      rw [List.map_cons, List.map_cons, trim_eq_iff.mpr ⟨hxs.1.2, hp⟩, ih hxs.2]
  have hcomma : ∀ p ∈ ps, ',' ∉ p := by
    intro p hp
    obtain ⟨x, hx, hpad⟩ := exists_of_forall₂ h hp
    exact notMem_of_padded (by decide) (hxs x hx).1 hpad
  by_cases hne : ps = []
  · subst hne
    rw [List.forall₂_nil_right_iff.mp h]
    rfl
  · rw [commaList, String.toList_ofList, pieces_eq_splitOn, List.splitOn_intercalate ',' hcomma hne,
      htrim, filterMap_ofList]

theorem tags_texts (xs : List String) : tags (.list (xs.map .text)) = xs.filter (· ≠ "") := by
  rw [tags, List.filter_map, List.map_map]
  have hshown : Value.shown ∘ Value.text = id := rfl
  rw [hshown, List.map_id]
  refine List.filter_congr fun x _ ↦ ?_
  rw [Bool.eq_iff_iff]
  simp

theorem of_mem_commaList {s x : String} (h : x ∈ commaList s) :
    x ≠ "" ∧ Trimmed x.toList ∧ ',' ∉ x.toList := by
  obtain ⟨p, hp, hx⟩ := List.mem_filterMap.mp h
  obtain ⟨q, hq, rfl⟩ := List.mem_map.mp hp
  split at hx
  · cases hx
  · next hne =>
    obtain rfl := Option.some.inj hx
    rw [String.toList_ofList]
    refine ⟨fun he ↦ hne ?_, trimmed_trim q, fun hm ↦ notMem_of_mem_pieces hq (mem_of_mem_trim hm)⟩
    rwa [String.ofList_eq_empty_iff] at he

theorem contact_tags (payload : Fields) :
    (contact payload).tags = Tags.ofTexts (tags (payload.get "tags")) := rfl

/-- Tags that are given as a list of items and as a text with the items between commas, however many
blanks stand around each, are the same: the items that are not empty, each where it comes first. The
tags from any text are trimmed, not empty, without commas, and each there once. Only a deal that is
too large an integer is in the way, whatever the tags are (`toContext_isOk_iff`). -/
theorem posted_tags_are_listed (t : Trigger) (now : Instant) (payload : Fields)
    (hdeal : ∀ k, payload.get "opportunity_value" = .int k → k.natAbs < Binary64.limit) :
    (∀ (xs : List String) (ps : List (List Char)),
      (∀ x ∈ xs, ',' ∉ x.toList ∧ Trimmed x.toList) →
      List.Forall₂ (fun x p ↦ Padded x.toList p) xs ps →
      ∃ listed posted,
        (logged t (.object (payload.set "tags" (.list (xs.map .text)))) now).outcome = .ok listed ∧
        (logged t (.object (payload.set "tags" (.text (.ofList ([','].intercalate ps)))))
          now).outcome = .ok posted ∧
        listed.contact.tags = posted.contact.tags ∧
        listed.contact.tags = (xs.filter (· ≠ "")).eraseDups.map .text) ∧
    ∀ s, ∃ posted, (logged t (.object (payload.set "tags" (.text s))) now).outcome = .ok posted ∧
      posted.contact.tags.Nodup ∧ ∀ tag ∈ posted.contact.tags, ∃ x : String, tag = .text x ∧
        x ≠ "" ∧ Trimmed x.toList ∧ ',' ∉ x.toList := by
  have hcontext (v : Value) : ∃ c, (logged t (.object (payload.set "tags" v)) now).outcome = .ok c ∧
      c.contact.tags = Tags.ofTexts (tags v) := by
    obtain ⟨c, hc, hcontact⟩ := exists_logged t now (payload.set "tags" v) fun k hk ↦
      hdeal k (by rwa [Fields.get_set, if_neg (by decide)] at hk)
    refine ⟨c, hc, ?_⟩
    rw [hcontact, contact_tags, Fields.get_set, if_pos rfl]
  constructor
  · intro xs ps hxs hps
    obtain ⟨listed, hlisted, hl⟩ := hcontext (.list (xs.map .text))
    obtain ⟨posted, hposted, hp⟩ := hcontext (.text (.ofList ([','].intercalate ps)))
    rw [tags_texts] at hl
    rw [tags, commaList_intercalate hxs hps] at hp
    exact ⟨listed, posted, hlisted, hposted, hl.trans hp.symm,
      hl.trans (Tags.ofTexts_eq_eraseDups _)⟩
  · intro s
    obtain ⟨posted, hposted, hp⟩ := hcontext (.text s)
    refine ⟨posted, hposted, hp ▸ List.Nodup.of_map _ (Tags.isDistinct_ofTexts _).nodup,
      fun tag htag ↦ ?_⟩
    rw [hp, Tags.ofTexts_eq_eraseDups] at htag
    obtain ⟨x, hx, rfl⟩ := List.mem_map.mp htag
    exact ⟨x, rfl, of_mem_commaList (List.mem_eraseDups.mp hx)⟩

theorem posted_tags_are_listed_sample : ∃ c,
    (logged {} (.object [("tags", .text " vip,lead\t,, vip ")])
      { year := 2026, month := 3, day := 5 }).outcome = .ok c ∧
    c.contact.tags = [.text "vip", .text "lead"] := by
  have hpad {cs ds : List Char} (h : trim ds = cs) : Padded cs ds := (trim_eq_iff.mp h).2
  obtain ⟨listed, posted, -, hposted, hsame, htags⟩ :=
    (posted_tags_are_listed {} { year := 2026, month := 3, day := 5 } [] (by rintro k ⟨⟩)).1
      ["vip", "lead", "", "vip"] [" vip".toList, "lead\t".toList, [], " vip ".toList] (by decide)
      (.cons (hpad rfl) (.cons (hpad rfl) (.cons (hpad rfl) (.cons (hpad rfl) .nil))))
  exact ⟨posted, hposted, hsame.symm.trans htags⟩

end Event

end Automation
