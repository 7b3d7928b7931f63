import Automation.Proofs.Context.Event
import Automation.Proofs.Value.Lookup

namespace Automation

namespace Event

inductive TextOf (v : Value) : String → Prop
  | given (h : v.truthy = true) : TextOf v v.shown
  | missing (h : v.truthy = false) : TextOf v ""

inductive ObjectOf : Value → Fields → Prop
  | object (fs : Fields) : ObjectOf (.object fs) fs
  | other {v : Value} (h : ∀ fs, v ≠ .object fs) : ObjectOf v []

inductive NumberOf : Value → Value → Prop
  | int (n : Int) : NumberOf (.int n) (.int n)
  | read {v : Value} {x : Binary64} (hint : ∀ n, v ≠ .int n) (hbool : ∀ b, v ≠ .bool b)
      (h : v.asNumber = .number x) : NumberOf v (.float x)
  | bool (b : Bool) : NumberOf (.bool b) (.int 0)
  | unread {v : Value} (h : v.asNumber = .unreadable) : NumberOf v (.int 0)

def textNotes : List String := [
  "campaign_id", "link_url", "previous_stage", "form_id", "appointment_status", "appointment_date",
  "product_name", "document_status", "reminder_date", "task_title", "note_content", "channel"]

/-- What a note that is called for holds, given the trigger, the payload and the stage of the deal.
-/
inductive Noted (t : Trigger) (payload : Fields) (stage : Value) : String → Value → Prop
  | tag {s : String} (h : TextOf ((payload.get "tag").orElse (t.condition.get "tag")) s) :
      Noted t payload stage "tag" (.text s)
  | days {v : Value} (h : NumberOf (payload.get "days") v) :
      Noted t payload stage "days_since_last_contact" v
  | newStage {s : String} (h : TextOf (payload.get "new_stage") s) (hs : s ≠ "") :
      Noted t payload stage "new_stage" (.text s)
  | oldStage (h : TextOf (payload.get "new_stage") "") : Noted t payload stage "new_stage" stage
  | object {name : String} {fs : Fields} (hn : name ∈ ["form_data", "webhook_data"])
      (h : ObjectOf (payload.get name) fs) : Noted t payload stage name (.object fs)
  | text {name s : String} (hn : name ∈ textNotes) (h : TextOf (payload.get name) s) :
      Noted t payload stage name (.text s)

def calls : List (String × List String) := [
  ("tag_added", ["tag"]),
  ("tag_removed", ["tag"]),
  ("email_opened", ["campaign_id", "link_url"]),
  ("email_clicked", ["campaign_id", "link_url"]),
  ("trigger_link_clicked", ["campaign_id", "link_url"]),
  ("no_response", ["days_since_last_contact"]),
  ("opportunity_stage_changed", ["previous_stage", "new_stage"]),
  ("form_submission", ["form_id", "form_data"]),
  ("survey_submitted", ["form_id", "form_data"]),
  ("order_form_submission", ["form_id", "form_data"]),
  ("appointment_status", ["appointment_status", "appointment_date"]),
  ("customer_booked", ["appointment_status", "appointment_date"]),
  ("membership_signup", ["product_name"]),
  ("category_completed", ["product_name"]),
  ("offer_access_granted", ["product_name"]),
  ("offer_access_removed", ["product_name"]),
  ("document_event", ["document_status"]),
  ("inbound_webhook", ["webhook_data"]),
  ("birthday_reminder", ["reminder_date"]),
  ("custom_date_reminder", ["reminder_date"]),
  ("task_added", ["task_title"]),
  ("task_completed", ["task_title"]),
  ("note_added", ["note_content"]),
  ("call_event", ["channel"]),
  ("customer_replied", ["channel"])]

def callsFor (t : Trigger) : List String := (calls.lookup (t.type.getD "")).getD []

variable {t : Trigger} {payload other : Fields} {o : Opportunity} {v : Value} {name : String}

theorem textOf_text (v : Value) : TextOf v (text v) := by
  unfold text
  split
  · next h => exact .given h
  · next h => exact .missing (Bool.eq_false_iff.mpr h)

theorem objectOf_mapping (v : Value) : ObjectOf v (mapping v) := by
  cases v with
  | object fs => exact .object fs
  | _ => exact .other (by simp)

theorem numberOf_number (v : Value) : NumberOf v (number v) := by
  cases v with
  | int n => exact .int n
  | bool b => exact .bool b
  | float x => exact .read (by simp) (by simp) rfl
  | text s =>
    cases hs : Binary64.ofText? s with
    | some x =>
      simp only [number, hs]
      exact .read (by simp) (by simp) (by simp only [Value.asNumber, hs])
    | none =>
      simp only [number, hs]
      exact .unread (by simp only [Value.asNumber, hs])
  | special s =>
    cases hs : s.number? with
    | some x =>
      simp only [number, hs]
      exact .read (by simp) (by simp) (by simp only [Value.asNumber, hs])
    | none =>
      simp only [number, hs]
      exact .unread (by simp only [Value.asNumber, hs])
  | _ => exact .unread rfl

theorem noted_newStage (t : Trigger) (payload : Fields) (stage : Value) : Noted t payload stage
    "new_stage" ((Value.text (text (payload.get "new_stage"))).orElse stage) := by
  have h := textOf_text (payload.get "new_stage")
  by_cases hs : text (payload.get "new_stage") = ""
  · rw [hs] at h ⊢
    exact .oldStage h
  · have hgiven : (Value.text (text (payload.get "new_stage"))).truthy = true := by
      simpa [Value.truthy] using hs
    rw [Value.orElse, if_pos hgiven]
    exact .newStage h hs

theorem noted_of_mem : ∀ p ∈ notes t payload o, Noted t payload o.stage p.1 p.2 := by
  have htag : Noted t payload o.stage "tag"
      (.text (text ((payload.get "tag").orElse (t.condition.get "tag")))) := .tag (textOf_text _)
  have hdays : Noted t payload o.stage "days_since_last_contact" (number (payload.get "days")) :=
    .days (numberOf_number _)
  have hstage := noted_newStage t payload o.stage
  have hobject : ∀ name ∈ ["form_data", "webhook_data"],
      Noted t payload o.stage name (.object (mapping (payload.get name))) :=
    fun name hn ↦ .object hn (objectOf_mapping (payload.get name))
  have htext : ∀ name ∈ textNotes,
      Noted t payload o.stage name (.text (text (payload.get name))) :=
    fun name hn ↦ .text hn (textOf_text (payload.get name))
  simp only [textNotes, List.forall_mem_cons] at hobject htext
  unfold notes
  split <;> simp [htag, hdays, hstage, hobject, htext]

theorem names_notes (t : Trigger) (payload : Fields) (o : Opportunity) :
    (notes t payload o).map Prod.fst = callsFor t := by
  unfold notes callsFor
  split <;> simp_all [calls, lookup_cons_ite]

theorem callsFor_eq_nil (h : t.type.getD "" ∉ calls.map Prod.fst) : callsFor t = [] := by
  rw [callsFor, lookup_eq_none h, Option.getD_none]

theorem nodup_callsFor (t : Trigger) : (callsFor t).Nodup := by
  have hcalls : ∀ p ∈ calls, p.2.Nodup := by decide
  unfold callsFor
  cases hl : calls.lookup (t.type.getD "") with
  | none => exact List.nodup_nil
  | some names => exact hcalls (_, names) (mem_of_lookup hl)

theorem stage_of_opportunity (h : opportunity payload = .ok o) :
    o.stage = .text (text (payload.get "opportunity_stage")) := by
  unfold opportunity at h
  dsimp only at h
  split at h
  · cases h
  · cases h
    rfl

theorem notes_congr {o' : Opportunity}
    (h : ∀ name, name ≠ "meta" → other.get name = payload.get name)
    (ho : o'.stage = o.stage) : notes t other o' = notes t payload o := by
  unfold notes
  split <;> simp [h, ho]

theorem lookup_notes {given : Fields} (name : String) :
    (given.merge (notes t payload o)).lookup name =
      ((notes t payload o).lookup name).or (given.lookup name) := by
  refine Fields.lookup_merge ?_ given name
  rw [names_notes]
  exact nodup_callsFor t

theorem exists_note (hn : name ∈ callsFor t) : ∃ v,
    (notes t payload o).lookup name = some v ∧ Noted t payload o.stage name v := by
  rw [← names_notes t payload o] at hn
  obtain ⟨v, hv⟩ := exists_lookup hn
  exact ⟨v, hv, noted_of_mem _ (mem_of_lookup hv)⟩

theorem lookup_notes_of_called {given : Fields} (hn : name ∈ callsFor t) :
    (given.merge (notes t payload o)).lookup name = (notes t payload o).lookup name := by
  obtain ⟨v, hv, -⟩ := exists_note hn
  rw [lookup_notes, hv, Option.some_or]

theorem lookup_notes_of_uncalled {given : Fields} (hn : name ∉ callsFor t) :
    (given.merge (notes t payload o)).lookup name = given.lookup name := by
  rw [← names_notes t payload o] at hn
  rw [lookup_notes, lookup_eq_none hn, Option.none_or]

/-- The notes of a context are those that the payload gives, but for the ones that the type of the
trigger calls for. These are always there, whatever the payload gives under their names. -/
theorem event_overlays_notes (t : Trigger) (payload : Value) (now : Instant) {c : Context}
    (h : (logged t payload now).outcome = .ok c) : ∃ fs given,
    ObjectOf payload fs ∧ ObjectOf (Fields.get fs "meta") given ∧
      (∀ name ∈ callsFor t, ∃ v, c.notes.lookup name = some v ∧
        Noted t fs c.opportunity.stage name v) ∧
      (∀ name, name ∉ callsFor t → c.notes.lookup name = given.lookup name) ∧
      (t.type.getD "" ∉ calls.map Prod.fst → c.notes = given) ∧
      ∀ other c', (∀ name, name ≠ "meta" → Fields.get other name = fs.get name) →
        (logged t (.object other) now).outcome = .ok c' →
        ∀ name ∈ callsFor t, c'.notes.lookup name = c.notes.lookup name := by
  rw [Run.event_outcome] at h
  obtain ⟨deal, hdeal, rfl⟩ := toContext_eq_ok_iff.mp h
  refine ⟨mapping payload, mapping ((mapping payload).get "meta"), objectOf_mapping payload,
    objectOf_mapping _, ?_, ?_, ?_, ?_⟩
  · intro name hn
    obtain ⟨v, hv, hnoted⟩ := exists_note hn
    exact ⟨v, (lookup_notes_of_called hn).trans hv, hnoted⟩
  · exact fun name hn ↦ lookup_notes_of_uncalled hn
  · intro ht
    have hnone : notes t (mapping payload) deal = [] := by
      rw [← List.map_eq_nil_iff, names_notes, callsFor_eq_nil ht]
    rw [hnone]
    rfl
  · intro other c' hother h' name hn
    rw [Run.event_outcome] at h'
    obtain ⟨deal', hdeal', rfl⟩ := toContext_eq_ok_iff.mp h'
    have hstage : deal'.stage = deal.stage := by
      rw [stage_of_opportunity hdeal', stage_of_opportunity hdeal]
      exact congrArg (fun v ↦ Value.text (text v)) (hother _ (by decide))
    have hnotes : notes t (mapping (.object other)) deal' = notes t (mapping payload) deal :=
      notes_congr hother hstage
    rw [lookup_notes_of_called hn, lookup_notes_of_called hn, hnotes]

namespace Sample

def tagging : Trigger := { type := some "tag_added", condition := [("tag", .text "vip")] }

def claiming : Value := .object [
  ("tag", .text ""), ("meta", .object [("tag", .text "forged"), ("source", .text "ad")])]

end Sample

theorem event_overlays_notes_sample : ∃ c,
    (logged Sample.tagging Sample.claiming { year := 2026, month := 3, day := 5 }).outcome = .ok c ∧
      c.notes.lookup "source" = some (.text "ad") ∧
      ∃ fs v, ObjectOf Sample.claiming fs ∧ c.notes.lookup "tag" = some v ∧
        Noted Sample.tagging fs c.opportunity.stage "tag" v := by
  obtain ⟨c, hc⟩ : ∃ c, (logged Sample.tagging Sample.claiming
      { year := 2026, month := 3, day := 5 }).outcome = .ok c := by
    rw [Run.event_outcome, isOk_iff_forall_ne_error]
    intro f hf
    obtain ⟨⟨fs, k, hfs, hk, -⟩, -⟩ := toContext_eq_error_iff.mp hf
    cases hfs
    cases hk
  obtain ⟨fs, given, hfs, hgiven, hcalled, huncalled, -⟩ := event_overlays_notes _ _ _ hc
  refine ⟨c, hc, ?_, ?_⟩
  · rw [huncalled "source" (by decide)]
    cases hfs with
    | object => cases hgiven with
      | object => rfl
      | other h => exact absurd rfl (h _)
    | other h => exact absurd rfl (h _)
  · obtain ⟨v, hv, hnoted⟩ := hcalled "tag" (by decide)
    exact ⟨fs, v, hfs, hv, hnoted⟩

end Event

end Automation
