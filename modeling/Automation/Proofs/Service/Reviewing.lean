import Automation.Proofs.Service.Agreement

namespace Automation

namespace Service

variable {c : Configuration} {s : State} {tag : Log.Record → Log.Record} {w : Sent} {b : Body}
  {rules : Rules} {issues : List Issue}

theorem mem_sortedOnce {ss : List String} {t : String} : t ∈ sortedOnce ss ↔ t ∈ ss := by
  rw [sortedOnce, mem_eraseReps, List.mem_mergeSort]

theorem pairwise_sortedOnce (ss : List String) : (sortedOnce ss).Pairwise (· < ·) := by
  have hsorted :
      (ss.mergeSort fun a b ↦ decide (a ≤ b)).Pairwise fun a b ↦ decide (a ≤ b) = true := by
    refine List.pairwise_mergeSort (fun a b c hab hbc ↦ ?_) (fun a b ↦ ?_) ss
    · simpa using String.le_trans (of_decide_eq_true hab) (of_decide_eq_true hbc)
    · simpa using String.le_total a b
  exact pairwise_eraseReps (hsorted.imp of_decide_eq_true)

theorem filterMap_textOf? (ss : List String) : (ss.map Value.text).filterMap textOf? = ss := by
  rw [List.filterMap_map]
  exact List.filterMap_some

theorem listedTypes_texts (ss : List String) :
    listedTypes (ss.map .text) = .ok (.list ((sortedOnce ss).map .text)) := by
  have hfind : (ss.map Value.text).find? (fun v ↦ (textOf? v).isNone) = none := by
    rw [List.find?_eq_none]
    intro v hv
    obtain ⟨t, -, rfl⟩ := List.mem_map.mp hv
    exact Bool.false_ne_true
  rw [listedTypes, hfind, filterMap_textOf?]

namespace Sent

def Typed (w : Sent) : Prop :=
  (Fields.get w.trigger "type").truthy = true → ∃ t, Fields.get w.trigger "type" = .text t

/-- A type that the trigger of a workflow, or one of its nodes, has without its being on offer. -/
def Unoffered (w : Sent) (t : String) : Prop :=
  t ≠ "" ∧ (Fields.get w.trigger "type" = .text t ∧ t ∉ Catalog.triggers.ids ∨
    ∃ n ∈ w.nodes, Fields.get n "type" = .text t ∧ t ∉ Catalog.actions.ids)

end Sent

def unoffered? (catalog : Catalog) : Value → Option String
  | .text t => if t = "" || catalog.ids.contains t then none else some t
  | _ => none

theorem unoffered?_eq_some_iff {catalog : Catalog} {v : Value} {t : String} :
    unoffered? catalog v = some t ↔ v = .text t ∧ t ≠ "" ∧ t ∉ catalog.ids := by
  cases v with
  | text u =>
    rw [unoffered?, Value.text.injEq]
    split
    · next h =>
      refine iff_of_false (fun he ↦ nomatch he) ?_
      rintro ⟨rfl, hne, hno⟩
      simp [hne, hno] at h
    · next h =>
      rw [Option.some.injEq]
      refine ⟨fun he ↦ ?_, And.left⟩
      subst he
      simpa using h
  | _ => simp [unoffered?]

def unofferedTypes (w : Sent) : List String :=
  (unoffered? Catalog.triggers (Fields.get w.trigger "type")).toList ++
    w.nodes.filterMap fun n ↦ unoffered? Catalog.actions (Fields.get n "type")

theorem mem_unofferedTypes {t : String} : t ∈ unofferedTypes w ↔ w.Unoffered t := by
  simp only [unofferedTypes, List.mem_append, Option.mem_toList, List.mem_filterMap,
    unoffered?_eq_some_iff, Sent.Unoffered]
  constructor
  · rintro (⟨ht, hne, hno⟩ | ⟨n, hn, ht, hne, hno⟩)
    · exact ⟨hne, .inl ⟨ht, hno⟩⟩
    · exact ⟨hne, .inr ⟨n, hn, ht, hno⟩⟩
  · rintro ⟨hne, ⟨ht, hno⟩ | ⟨n, hn, ht, hno⟩⟩
    · exact .inl ⟨ht, hne, hno⟩
    · exact .inr ⟨n, hn, ht, hne, hno⟩

theorem nodeTypes_eq (nodes : List Fields) :
    (nodes.filterMap fun n ↦ match Fields.get n "type" with
      | .text s => if s = "" || Catalog.actions.ids.contains s then none else some (Value.text s)
      | _ => none) =
    (nodes.filterMap fun n ↦ unoffered? Catalog.actions (Fields.get n "type")).map .text := by
  rw [List.map_filterMap]
  refine congrArg (fun f ↦ nodes.filterMap f) (funext fun n ↦ ?_)
  cases Fields.get n "type" with
  | text t =>
    simp only [unoffered?]
    split <;> rfl
  | _ => rfl

def triggerTypes (type : Value) : Except Fault (List Value) :=
  if type.truthy then (Catalog.triggers.offers type).map fun known ↦ if known then [] else [type]
  else .ok []

theorem unknownTypes_eq (w : Sent) : unknownTypes w =
    (triggerTypes (Fields.get w.trigger "type")).map fun types ↦ types ++
      (w.nodes.filterMap fun n ↦ unoffered? Catalog.actions (Fields.get n "type")).map .text := by
  unfold unknownTypes triggerTypes
  rw [← nodeTypes_eq]
  dsimp only
  split
  · cases Catalog.triggers.offers (Fields.get w.trigger "type") with
    | error f => rfl
    | ok known => cases known <;> rfl
  · rfl

theorem triggerTypes_of_typed {type : Value} (h : type.truthy = true → ∃ t, type = .text t) :
    triggerTypes type = .ok ((unoffered? Catalog.triggers type).toList.map .text) := by
  unfold triggerTypes
  cases ht : type.truthy with
  | false =>
    cases type with
    | text t =>
      obtain rfl : t = "" := by simpa [Value.truthy] using ht
      rfl
    | _ => rfl
  | true =>
    obtain ⟨t, rfl⟩ := h ht
    have hne : t ≠ "" := by simpa [Value.truthy] using ht
    simp only [if_true, Catalog.offers, unoffered?, hne, decide_false, Bool.false_or, Except.map]
    split <;> rfl

theorem triggerTypes_of_not_typed {type : Value} (ht : type.truthy = true)
    (hn : ∀ t, type ≠ .text t) :
    (∃ f, triggerTypes type = .error f) ∨ triggerTypes type = .ok [type] := by
  unfold triggerTypes
  rw [if_pos ht]
  cases type with
  | text t => exact absurd rfl (hn t)
  | list vs => exact .inl ⟨_, rfl⟩
  | object fs => exact .inl ⟨_, rfl⟩
  | _ => exact .inr rfl

theorem listedTypes_of_not_text {v : Value} (hn : ∀ t, v ≠ .text t) (vs : List Value) :
    ∃ f, listedTypes (v :: vs) = .error f := by
  have hnone : (textOf? v).isNone = true := by
    cases v with
    | text t => exact absurd rfl (hn t)
    | _ => rfl
  have hfind : (v :: vs).find? (fun v ↦ (textOf? v).isNone) = some v := List.find?_cons_of_pos hnone
  simp only [listedTypes, hfind]
  split <;> exact ⟨_, rfl⟩

theorem listed_of_typed (h : w.Typed) : ∃ names : List String,
    (unknownTypes w).bind listedTypes = .ok (.list (names.map .text)) ∧
      names.Pairwise (· < ·) ∧ ∀ t, t ∈ names ↔ w.Unoffered t := by
  refine ⟨sortedOnce (unofferedTypes w), ?_, pairwise_sortedOnce _, fun t ↦
    mem_sortedOnce.trans mem_unofferedTypes⟩
  rw [unknownTypes_eq, triggerTypes_of_typed h, ← listedTypes_texts, unofferedTypes,
    List.map_append]
  rfl

theorem listed_of_not_typed (h : ¬ w.Typed) :
    ∃ f, (unknownTypes w).bind listedTypes = .error f := by
  obtain ⟨ht, hn⟩ := Classical.not_imp.mp h
  rw [not_exists] at hn
  rw [unknownTypes_eq]
  rcases triggerTypes_of_not_typed ht hn with ⟨f, hf⟩ | hok
  · exact ⟨f, by rw [hf]; rfl⟩
  · rw [hok]
    exact listedTypes_of_not_text hn _

theorem review_outcome_eq (rules : Rules) (w : Sent) : (review rules w).outcome =
    (issuesOf rules w).bind fun issues ↦
      ((unknownTypes w).bind listedTypes).map fun types ↦ .object [
      ("valid", .bool issues.isEmpty),
      ("issues", issuesValue issues),
      ("edge_issues", issuesValue (Review.edges w.nodeValues w.edgeValues)),
      ("unknown_types", types)] := by
  simp only [review, Traced.bind_outcome, Traced.lift, Run.review_outcome]
  cases unknownTypes w <;> rfl

/-- What is told of a workflow whose review found some issues. -/
structure Told (w : Sent) (issues : List Issue) (reply : Reply) : Prop where
  status : reply.status = 200
  valid : reply.body.field "valid" = .bool issues.isEmpty
  issues : reply.body.field "issues" = issuesValue issues
  edges : reply.body.field "edge_issues" = issuesValue (Review.edges w.nodeValues w.edgeValues)
  unoffered : ∃ names : List String, reply.body.field "unknown_types" = .list (names.map .text) ∧
    names.Pairwise (· < ·) ∧ ∀ t, t ∈ names ↔ w.Unoffered t

/-- A service that is asked about a workflow which can be reviewed tells what there is to tell if
the type of the trigger is a text or does not count as given, and breaks down otherwise. -/
theorem reviews_are_told (c : Configuration) (s : State) (tag : Log.Record → Log.Record) {b : Body}
    {w : Sent} {issues : List Issue} (hb : b.parse.bind (Body.record Sent.read) = .ok w)
    (hi : issuesOf s.rules w = .ok issues) :
    (w.Typed → ∃ reply, (answer c s tag b .review).outcome = .ok reply ∧ Told w issues reply) ∧
    (¬ w.Typed → ∃ f, (answer c s tag b .review).outcome = .error f) := by
  rw [answer_review hb, review_outcome_eq, hi]
  constructor
  · intro h
    obtain ⟨names, hnames, hsorted, hmem⟩ := listed_of_typed h
    rw [hnames]
    exact ⟨_, rfl, rfl, rfl, rfl, rfl, names, rfl, hsorted, hmem⟩
  · intro h
    obtain ⟨f, hf⟩ := listed_of_not_typed h
    rw [hf]
    exact ⟨f, rfl⟩

namespace Sample

def novel : Sent where
  trigger := [("type", .text "full_moon")]
  nodes := [[("id", .text "n1"), ("type", .text "ping")], [("type", .text "")], [("type", .int 5)]]

def numbered : Sent where
  trigger := [("type", .int 5)]

end Sample

set_option maxRecDepth 10000 in
theorem reviews_are_told_sample : ∃ issues reply,
    issuesOf Rules.standard Sample.novel = .ok issues ∧ Sample.novel.Typed ∧
    (answer {} Sample.state id (Sample.reviewing Sample.novel) .review).outcome = .ok reply ∧
    Told Sample.novel issues reply := by
  obtain ⟨issues, hi⟩ : ∃ issues, issuesOf Rules.standard Sample.novel = .ok issues := ⟨_, rfl⟩
  have ht : Sample.novel.Typed := fun _ ↦ ⟨"full_moon", rfl⟩
  obtain ⟨reply, hr, htold⟩ :=
    (reviews_are_told {} Sample.state id (b := Sample.reviewing Sample.novel) rfl hi).1 ht
  exact ⟨issues, reply, hi, ht, hr, htold⟩

theorem not_reviews_are_told_of_number : ¬ ∀ (c : Configuration) (s : State)
    (tag : Log.Record → Log.Record) (b : Body) (w : Sent) (issues : List Issue),
    b.parse.bind (Body.record Sent.read) = .ok w → issuesOf s.rules w = .ok issues →
      ∃ reply, (answer c s tag b .review).outcome = .ok reply ∧ Told w issues reply := by
  intro h
  obtain ⟨reply, hr, -⟩ := h {} Sample.state id (Sample.reviewing Sample.numbered) Sample.numbered _
    rfl rfl
  cases hr

end Service

end Automation
