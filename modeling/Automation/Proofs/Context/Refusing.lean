import Automation.Proofs.Context.Asking
import Automation.Proofs.Context.Event
import Automation.Proofs.Context.Naming
import Automation.Proofs.Run.Reachable

namespace Automation

open Binary64

namespace Change

variable {cfg : Fields} {c : Context} {f : Fault}

theorem writeContact_isOk (c : Context) {name : String} (hname : name ≠ "tags") (v : Value) :
    ∃ d, writeContact c name v = .ok d :=
  c.revise_isOk (fun h ↦ hname (Value.text.inj h)) v

theorem writeTags_eq_error_iff {vs : List Value} :
    writeContact c "tags" (.list vs) = .error f ↔ Tags.distinct vs = .error f := by
  rw [writeContact, Context.revise, map_eq_error_iff, Contact.update_singleton, map_eq_error_iff,
    Contact.write, if_pos rfl, map_eq_error_iff]
  rfl

theorem addTag_eq_error_iff (hc : Tags.IsDistinct c.contact.tags) :
    addTag.apply cfg c = .error f ↔
      ((cfg.get "tag").truthy = true ∧ (cfg.get "tag").key? = none) ∧
        f = .unhashable (cfg.get "tag").kind := by
  simp only [apply]
  split
  · next hleft =>
    refine iff_of_false (by simp) ?_
    intro h
    have hnot := Tags.memberOf_of_key?_eq_none hc h.1.2
    simp [h.1.1, hnot] at hleft
  · next hleft =>
    have hgiven : (cfg.get "tag").truthy = true := by
      by_contra hno
      simp [hno] at hleft
    rw [writeTags_eq_error_iff, Tags.distinct_append_eq_error_iff hc, and_iff_right hgiven]

theorem removeTag_isOk (cfg : Fields) (hc : Tags.IsDistinct c.contact.tags) :
    ∃ d, removeTag.apply cfg c = .ok d := by
  obtain ⟨vs, hvs⟩ := Tags.distinct_filter_isOk hc fun t ↦ !t.equals (cfg.get "tag")
  rw [isOk_iff_forall_ne_error]
  intro f hf
  cases hvs.symm.trans (writeTags_eq_error_iff.mp hf)

theorem writeNamed_eq_error_iff : writeNamed cfg c = .error f ↔
    ((cfg.get "field").truthy = true ∧ cfg.has "field_value" = true) ∧
      ((cfg.get "field").key? = none ∧ f = .unhashable (cfg.get "field").kind ∨
        cfg.get "field" = .text "tags" ∧ f = failed (.protectedField (.text "tags"))) := by
  simp only [writeNamed]
  split
  · next hleft =>
    refine iff_of_false (by simp) ?_
    intro h
    simp [h.1.1, h.1.2] at hleft
  · next hgiven =>
    have hgiven : (cfg.get "field").truthy = true ∧ cfg.has "field_value" = true := by
      simpa using hgiven
    rw [and_iff_right hgiven]
    split
    · next hkey =>
      have hkey : (cfg.get "field").key? = none := Option.isNone_iff_eq_none.mp hkey
      have hname : cfg.get "field" ≠ .text "tags" := by
        intro h
        rw [h] at hkey
        cases hkey
      simp [hkey, hname, eq_comm]
    · next hkey =>
      have hkey : (cfg.get "field").key? ≠ none := fun h ↦ hkey (Option.isNone_iff_eq_none.mpr h)
      split
      · next hname =>
        have hname : cfg.get "field" = .text "tags" := by simpa [guarded] using hname
        simp [hname, Value.key?, eq_comm]
      · next hname =>
        have hname : cfg.get "field" ≠ .text "tags" := by simpa [guarded] using hname
        obtain ⟨d, hd⟩ := c.revise_isOk hname
          (writtenFor (cfg.get "field") (cfg.get "field_value"))
        simp [hd, hkey, hname]

theorem dealValue_eq_error_iff : dealValue cfg = .error f ↔
    (∃ k, cfg.get "value" = .int k ∧ limit ≤ k.natAbs) ∧ f = .numberTooLarge ∨
      (cfg.get "value").Unread ∧ f = failed (.opportunityValue (cfg.get "value")) := by
  have hzero : (Value.int 0).asNumber ≠ .tooLarge := by simp
  rw [← Value.asNumber_orElse_eq_tooLarge_iff hzero, ← Value.asNumber_orElse_eq_unreadable_iff,
    dealValue]
  cases hread : ((cfg.get "value").orElse (.int 0)).asNumber with
  | number x => simp
  | tooLarge => simp [eq_comm]
  | unreadable =>
    have hunread := Value.asNumber_orElse_eq_unreadable_iff.mp hread
    rw [Value.orElse_of_truthy hunread.given]
    simp [eq_comm]

theorem openDeal_eq_error_iff : openDeal.apply cfg c = .error f ↔ dealValue cfg = .error f := by
  simp only [apply]
  cases dealValue cfg with
  | error e =>
    constructor
    · intro h
      exact congrArg Except.error (Except.error.inj h)
    · intro h
      exact congrArg Except.error (Except.error.inj h)
  | ok x =>
    constructor
    · intro h
      cases h
    · intro h
      cases h

end Change

namespace Node

variable {n : Node} {c : Context} {f : Fault}

inductive Refuses (n : Node) : Cause → Prop
  | tags (ht : n.type = "update_contact") (h : n.config.get "field" = .text "tags")
      (hv : n.config.has "field_value" = true) : n.Refuses (.protectedField (.text "tags"))
  | worth (ht : n.type = "create_opportunity") (h : (n.config.get "value").Unread) :
      n.Refuses (.opportunityValue (n.config.get "value"))

/-- How a node fails that has something else than a tag, a name or a number to write. -/
inductive Jams (n : Node) : Fault → Prop
  | tag (ht : n.type = "add_tag") (hg : (n.config.get "tag").truthy = true)
      (hk : (n.config.get "tag").key? = none) : n.Jams (.unhashable (n.config.get "tag").kind)
  | name (ht : n.type = "update_contact") (hg : (n.config.get "field").truthy = true)
      (hk : (n.config.get "field").key? = none) (hv : n.config.has "field_value" = true) :
      n.Jams (.unhashable (n.config.get "field").kind)
  | worth {k : Int} (ht : n.type = "create_opportunity") (h : n.config.get "value" = .int k)
      (hk : limit ≤ k.natAbs) : n.Jams .numberTooLarge

def refusal (n : Node) (cause : Cause) : Fault :=
  .failure (.execution cause (textOrNull n.id) (.text n.type))

theorem change_of_apply {k : Change} {e : Fault} (hk : Change.ofType? n.type = some k)
    (h : k.apply n.config c = .error e) : n.change c = .error (n.locate e) := by
  simp only [change, hk]
  exact mapError_eq_error_iff.mpr ⟨e, h, rfl⟩

theorem change_of_refuses {cause : Cause} (h : n.Refuses cause) (c : Context) :
    n.change c = .error (n.refusal cause) := by
  cases h with
  | tags ht hname hv =>
    refine change_of_apply (k := .setField) (e := Change.failed _) (by rw [ht]; rfl) ?_
    refine Change.writeNamed_eq_error_iff.mpr ⟨⟨?_, hv⟩, .inr ⟨hname, rfl⟩⟩
    rw [hname]
    rfl
  | worth ht hunread =>
    refine change_of_apply (k := .openDeal) (e := Change.failed _) (by rw [ht]; rfl) ?_
    exact Change.openDeal_eq_error_iff.mpr
      (Change.dealValue_eq_error_iff.mpr (.inr ⟨hunread, rfl⟩))

theorem change_of_jams (h : n.Jams f) (hc : Tags.IsDistinct c.contact.tags) :
    n.change c = .error f := by
  cases h with
  | tag ht hg hkey =>
    refine change_of_apply (k := .addTag) (e := .unhashable _) (by rw [ht]; rfl) ?_
    exact (Change.addTag_eq_error_iff hc).mpr ⟨⟨hg, hkey⟩, rfl⟩
  | name ht hg hkey hv =>
    refine change_of_apply (k := .setField) (e := .unhashable _) (by rw [ht]; rfl) ?_
    exact Change.writeNamed_eq_error_iff.mpr ⟨⟨hg, hv⟩, .inl ⟨hkey, rfl⟩⟩
  | worth ht hv hk =>
    refine change_of_apply (k := .openDeal) (e := .numberTooLarge) (by rw [ht]; rfl) ?_
    exact Change.openDeal_eq_error_iff.mpr
      (Change.dealValue_eq_error_iff.mpr (.inl ⟨⟨_, hv, hk⟩, rfl⟩))

theorem refuses_or_jams (h : n.change c = .error f) (hc : Tags.IsDistinct c.contact.tags) :
    (∃ cause, n.Refuses cause ∧ f = n.refusal cause) ∨ n.Jams f := by
  unfold change at h
  cases hk : Change.ofType? n.type with
  | none =>
    rw [hk] at h
    cases h
  | some k =>
    simp only [hk, mapError_eq_error_iff] at h
    obtain ⟨e, he, rfl⟩ := h
    -- Most changes write into one field, whose name they know, and which is not that of the tags.
    have hwrites {name : String} (hname : name ≠ "tags") {v : Value} :
        Change.writeContact c name v ≠ .error e := by
      obtain ⟨d, hd⟩ := Change.writeContact_isOk c hname v
      simp [hd]
    cases k with
    | addTag =>
      obtain ⟨⟨hg, hkey⟩, rfl⟩ := (Change.addTag_eq_error_iff hc).mp he
      exact .inr (.tag (Change.ofType?_inj hk rfl) hg hkey)
    | removeTag =>
      obtain ⟨d, hd⟩ := Change.removeTag_isOk n.config hc
      cases hd.symm.trans he
    | setField =>
      have ht : n.type = "update_contact" := Change.ofType?_inj hk rfl
      obtain ⟨⟨hg, hv⟩, ⟨hkey, rfl⟩ | ⟨hname, rfl⟩⟩ := Change.writeNamed_eq_error_iff.mp he
      · exact .inr (.name ht hg hkey hv)
      · exact .inl ⟨_, .tags ht hname hv, rfl⟩
    | openDeal =>
      have ht : n.type = "create_opportunity" := Change.ofType?_inj hk rfl
      rcases Change.dealValue_eq_error_iff.mp (Change.openDeal_eq_error_iff.mp he) with
        ⟨⟨k, hv, hk⟩, rfl⟩ | ⟨hunread, rfl⟩
      · exact .inr (.worth ht hv hk)
      · exact .inl ⟨_, .worth ht hunread, rfl⟩
    | setStatus => exact absurd he (hwrites (by decide))
    | setSalesperson => exact absurd he (hwrites (by decide))
    | setCampaign => exact absurd he (hwrites (by decide))
    | moveDeal => cases he
    | annotate note source => cases he

/-- A node fails to change a context with distinct tags in these ways and in no others. -/
theorem change_eq_error_iff (hc : Tags.IsDistinct c.contact.tags) : n.change c = .error f ↔
    (∃ cause, n.Refuses cause ∧ f = n.refusal cause) ∨ n.Jams f := by
  constructor
  · intro h
    exact refuses_or_jams h hc
  · intro h
    rcases h with ⟨cause, hrefuses, rfl⟩ | hjams
    · exact change_of_refuses hrefuses c
    · exact change_of_jams hjams hc

/-- A node changes a context that a run can come to, or refuses to and says where and why; unless it
is given something else to write than a tag, a name or a number. -/
theorem change_answers_iff (n : Node) {c : Context} (hc : c.Reachable) :
    ((∃ d, n.change c = .ok d) ↔ (∀ cause, ¬ n.Refuses cause) ∧ ∀ f, ¬ n.Jams f) ∧
      ∀ f, n.change c = .error f ↔
        (∃ cause, n.Refuses cause ∧
          f = .failure (.execution cause (textOrNull n.id) (.text n.type))) ∨ n.Jams f := by
  have herror (f : Fault) := change_eq_error_iff (n := n) (f := f) hc.isDistinct
  refine ⟨?_, herror⟩
  rw [isOk_iff_forall_ne_error]
  simp only [ne_eq, herror, not_or, not_exists, not_and]
  constructor
  · intro h
    exact ⟨fun cause hrefuses ↦ (h _).1 cause hrefuses rfl, fun f ↦ (h f).2⟩
  · intro h f
    exact ⟨fun cause hrefuses ↦ absurd hrefuses (h.1 cause), h.2 f⟩

end Node

namespace Sample

def opening (worth : Value) : Node :=
  { id := some "n1"
    type := "create_opportunity"
    config := [("stage", .text "won"), ("value", worth)] }

end Sample

theorem Node.change_answers_iff_sample : ∃ c : Context, c.Reachable ∧
    (∃ d, (Sample.opening (.int 5)).change c = .ok d) ∧
    (Sample.opening (.text "much")).change c = .error (.failure (.execution
      (.opportunityValue (.text "much")) (.text "n1") (.text "create_opportunity"))) := by
  obtain ⟨c, hc⟩ :
      ∃ c, Event.toContext {} .null { year := 2026, month := 3, day := 5 } = .ok c := by
    rw [isOk_iff_forall_ne_error]
    intro f hf
    obtain ⟨⟨fs, k, hfs, -⟩, -⟩ := Event.toContext_eq_error_iff.mp hf
    cases hfs
  have hreachable : c.Reachable := .event hc
  have hunread : (Value.text "much").Unread := ⟨rfl, by decide +kernel⟩
  refine ⟨c, hreachable, ?_, ?_⟩
  · refine (change_answers_iff _ hreachable).1.mpr ⟨fun cause h ↦ ?_, fun f h ↦ ?_⟩
    · cases h with
      | tags ht => simp [Sample.opening] at ht
      | worth _ h =>
        have hread : (Value.int 5).asNumber ≠ .unreadable := by decide +kernel
        exact hread h.unreadable
    · cases h with
      | tag ht => simp [Sample.opening] at ht
      | name ht => simp [Sample.opening] at ht
      | worth _ h hk =>
        obtain rfl := Value.int.inj h
        exact absurd hk (by decide +kernel)
  · exact ((change_answers_iff _ hreachable).2 _).mpr (.inl ⟨_, .worth rfl hunread, rfl⟩)

theorem Node.not_change_answers_of_integer : ¬ ∀ (n : Node) (c : Context), c.Reachable →
    (∃ d, n.change c = .ok d) ∨ ∃ cause id, n.change c =
      .error (.failure (.execution cause id (.text n.type))) := by
  intro h
  obtain ⟨k, hk⟩ : ∃ k : Int, limit ≤ k.natAbs := ⟨.ofNat (Nat.pow 10 400), by decide +kernel⟩
  have hfails : (Sample.opening (.int k)).change {} = .error .numberTooLarge :=
    (change_eq_error_iff (Tags.isDistinct_ofTexts [])).mpr (.inr (.worth rfl rfl hk))
  have hread : Context.read [] = .good {} := rfl
  rcases h (Sample.opening (.int k)) {} (.read hread) with ⟨d, hd⟩ | ⟨cause, id, hf⟩
  · cases hfails.symm.trans hd
  · cases hfails.symm.trans hf

end Automation
