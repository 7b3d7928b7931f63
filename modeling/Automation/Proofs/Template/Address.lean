import Automation.Proofs.Faulty
import Automation.Proofs.Template.Substitution

namespace Automation

def Context.addressed (c : Context) (address : Value) : Context :=
  { c with contact := { c.contact with email := address } }

namespace Template

variable {template : Value} {c : Context} {now : Instant}

/-- A mail made from a template is the same whatever the contact's address is. -/
def HidesAddress (template : Value) (c : Context) (now : Instant) : Prop :=
  ∀ address address', fill mailNames template (c.addressed address) now =
    fill mailNames template (c.addressed address') now

theorem fill_messageNames (template : Value) (c : Context) (now : Instant) :
    fill messageNames template c now = .ok (.ofList
      (replace (placeholder "company") (told.shownOr c.contact.company "").toList
        (replace (placeholder "first_name") (told.shownOr c.contact.firstName "there").toList
          (source template)))) := by
  simp only [fill, passes, messageNames, value?, shown_orElse]
  rfl

theorem fill_mailNames {s : String} (h : fill messageNames template c now = .ok s)
    (address : Value) : fill mailNames template (c.addressed address) now = .ok (.ofList
      (replace (placeholder "current_date") now.shortDate.toList
        (replace (placeholder "lead_email") (told.shownOr address "").toList s.toList))) := by
  rw [fill_messageNames] at h
  obtain rfl := Except.ok.inj h
  simp only [fill, passes, mailNames, value?, shown_orElse, String.toList_ofList]
  rfl

/-- A mail hides the address exactly if the message made of its template does not ask for it. -/
theorem hidesAddress_iff {s : String} (h : fill messageNames template c now = .ok s) :
    HidesAddress template c now ↔ ¬ placeholder "lead_email" <:+: s.toList := by
  constructor
  · intro hsame
    -- Only an address holds the letter, so it tells how many of them have been put in.
    have hdate : now.shortDate.toList.countP (· == 'z') = 0 := by
      rw [List.countP_eq_zero]
      intro a ha hz
      obtain rfl := eq_of_beq hz
      rcases Instant.mem_shortDate ha with hz | hz <;> revert hz <;> decide
    have hlater (u : List Char) :
        (replace (placeholder "current_date") now.shortDate.toList u).countP (· == 'z') =
          u.countP (· == 'z') := by
      refine countP_replace (placeholder_ne_nil "current_date") ?_ u
      rw [hdate]
      decide
    obtain ⟨k, hzero, hk⟩ := exists_countP_replace (placeholder_ne_nil "lead_email") s.toList
    have heq := hsame (.text "z") (.text "")
    rw [fill_mailNames h, fill_mailNames h] at heq
    have hcount := congrArg (List.countP (· == 'z')) (String.ofList_injective (Except.ok.inj heq))
    rw [hlater, hlater] at hcount
    have hone := hk (· == 'z') (told.shownOr (.text "z") "").toList
    have hnone := hk (· == 'z') (told.shownOr (.text "") "").toList
    rw [show (told.shownOr (.text "z") "").toList.countP (· == 'z') = 1 by decide] at hone
    rw [show (told.shownOr (.text "") "").toList.countP (· == 'z') = 0 by decide] at hnone
    exact hzero.mp (by omega)
  · intro hfree address address'
    rw [fill_mailNames h, fill_mailNames h, replace_eq_self hfree, replace_eq_self hfree]

theorem placeholder_infix_written {name : String} (hname : Braceless name) {ps : List Piece} :
    placeholder name <:+: written ps ↔ .hole name hname ∈ ps := by
  constructor
  · intro hin
    by_contra hno
    have hput : ∀ p ∈ ps, p.put name "" (by decide) = p := by
      intro p hp
      cases p with
      | plain s hs => rfl
      | hole other ho => exact if_neg fun he ↦ hno (by subst he; exact hp)
    have hself : replace (placeholder name) [] (written ps) = written ps := by
      refine (replace_written hname (by decide : Braceless "") ps).trans ?_
      rw [List.map_congr_left hput, List.map_id']
    obtain ⟨k, hzero, hk⟩ := exists_countP_replace (placeholder_ne_nil name) (written ps)
    have hlength := hk (fun _ ↦ true) []
    rw [hself] at hlength
    have hnone : k * (placeholder name).length = 0 := by simpa using hlength
    have hlong : (placeholder name).length ≠ 0 := by simp [placeholder]
    exact hzero.mp ((Nat.mul_eq_zero.mp hnone).resolve_right hlong) hin
  · intro hm
    obtain ⟨before, after, rfl⟩ := List.append_of_mem hm
    exact ⟨written before, written after, by simp [written, Piece.source]⟩

theorem hole_mem_map_put {name other v : String} {hv : Braceless v} {h : Braceless other}
    (hne : other ≠ name) {ps : List Piece} :
    .hole other h ∈ ps.map (Piece.put name v hv) ↔ .hole other h ∈ ps := by
  rw [List.mem_map]
  constructor
  · rintro ⟨p, hp, he⟩
    cases p with
    | plain s hs => cases he
    | hole asked ha =>
      by_cases hasked : asked = name
      · simp [Piece.put, hasked] at he
      · simp only [Piece.put, if_neg hasked] at he
        exact he ▸ hp
  · exact fun hm ↦ ⟨_, hm, if_neg hne⟩

theorem hidesAddress_written_iff (hfirst : Braceless c.contact.firstName.shown)
    (hcompany : Braceless c.contact.company.shown) (ps : List Piece) :
    HidesAddress (.text (.ofList (written ps))) c now ↔
      .hole "lead_email" (by decide) ∉ ps := by
  have hmessage := fill_messageNames (.text (.ofList (written ps))) c now
  rw [show source (.text (.ofList (written ps))) = written ps from String.toList_ofList,
    replace_written (by decide) (braceless_shownOr hfirst (by decide)),
    replace_written (by decide) (braceless_shownOr hcompany (by decide))] at hmessage
  rw [hidesAddress_iff hmessage, String.toList_ofList, placeholder_infix_written (by decide),
    hole_mem_map_put (by decide), hole_mem_map_put (by decide)]

/-- A mail made from a template tells nothing of the address of its contact exactly if the message
made from it does not ask for the address. For a well-formed template, and a contact whose name and
company hold no brace, this is so exactly if the template does not ask for it. -/
theorem address_told_if_asked (c : Context) (now : Instant) :
    (∀ template : Value, ∃ s : String, fill messageNames template c now = .ok s ∧
      (HidesAddress template c now ↔ ¬ placeholder "lead_email" <:+: s.toList)) ∧
    (Braceless c.contact.firstName.shown → Braceless c.contact.company.shown → ∀ ps : List Piece,
      HidesAddress (.text (.ofList (written ps))) c now ↔ .hole "lead_email" (by decide) ∉ ps) :=
  ⟨fun template ↦
      ⟨_, fill_messageNames template c now, hidesAddress_iff (fill_messageNames template c now)⟩,
    hidesAddress_written_iff⟩

theorem address_told_if_asked_sample :
    HidesAddress (.text (.ofList (written Sample.greeting))) Sample.reader Sample.today :=
  ((address_told_if_asked Sample.reader Sample.today).2 (by decide) (by decide) Sample.greeting).mpr
    (by simp [Sample.greeting])

namespace Sample

def curious : Context := { contact := { firstName := .text "\x7b\x7blead_email\x7d\x7d" } }

end Sample

theorem not_address_told_if_asked_of_name : ¬ ∀ (text : String) (c : Context) (now : Instant),
    ¬ placeholder "lead_email" <:+: text.toList → HidesAddress (.text text) c now := by
  intro h
  have hmessage :
      fill messageNames (.text "\x7b\x7bfirst_name\x7d\x7d") Sample.curious Sample.today =
        .ok "\x7b\x7blead_email\x7d\x7d" := by
    decide +kernel
  refine (hidesAddress_iff hmessage).mp (h _ Sample.curious Sample.today (by decide)) ?_
  exact ⟨[], [], by decide⟩

end Template

end Automation
