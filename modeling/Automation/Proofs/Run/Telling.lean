import Automation.Action.Standard
import Automation.Proofs.Run.Course

namespace Automation

def Fault.Told (f : Fault) : Prop :=
  (Run.statement f).truthy = false ∨ ∃ m, Run.statement f = .text m

/-- How a fault is told in a step: by the text that it states, or as unknown if that is empty. -/
def Run.Tells (f : Fault) (m : String) : Prop :=
  statement f = .text m ∧ m ≠ "" ∨ (statement f).truthy = false ∧ m = "Unknown error"

def Action.Branches (a : Action) : Prop :=
  ∀ n c s o, a.act n c s = .ok o → o.branch ∈ [.null, .text "YES", .text "NO"]

def Action.Tells (a : Action) : Prop := ∀ n c s, Faults Fault.Told (a.act n c s)

theorem Branch.lookup_choices_iff {name : String} {b : Branch} :
    choices.lookup name = some b ↔ name = b.name := by
  constructor
  · intro h
    by_cases hyes : name = "YES"
    · subst hyes
      cases h
      rfl
    · by_cases hno : name = "NO"
      · subst hno
        cases h
        rfl
      · simp [choices, Branch.name, List.lookup_cons, beq_false_of_ne hyes,
          beq_false_of_ne hno] at h
  · rintro rfl
    cases b <;> rfl

theorem Step.branchReader_eq_good_iff {v : Value} {b : Option Branch} :
    branchReader v = .good b ↔ v = textOrNull (b.map Branch.name) := by
  constructor
  · intro h
    cases v with
    | null =>
      obtain rfl := Schema.Checked.good.inj h
      rfl
    | text name =>
      simp only [branchReader, Schema.Reader.optional, Schema.Reader.choice] at h
      split at h
      · next x hx =>
        obtain rfl := Schema.Checked.good.inj h
        exact congrArg Value.text (Branch.lookup_choices_iff.mp hx)
      · cases h
    | _ => cases h
  · rintro rfl
    rcases b with _ | _ | _ <;> rfl

theorem Step.branchReader_good {v : Value} (h : v ∈ [Value.null, .text "YES", .text "NO"]) :
    ∃ b, branchReader v = .good b := by
  simp only [List.mem_cons, List.not_mem_nil, or_false] at h
  rcases h with rfl | rfl | rfl <;> exact ⟨_, rfl⟩

namespace Fault

theorem Told.said {f : Fault} (h : f.Told) : ∃ m, Run.said f = .text m := by
  unfold Run.said Value.orElse
  split
  · next ht =>
    rcases h with hf | hm
    · rw [ht] at hf
      cases hf
    · exact hm
  · exact ⟨_, rfl⟩

theorem said_eq_text_iff {f : Fault} {m : String} : Run.said f = .text m ↔ Run.Tells f m := by
  unfold Run.said Value.orElse Run.Tells
  cases ht : (Run.statement f).truthy with
  | false =>
    refine ⟨fun h ↦ .inr ⟨rfl, (Value.text.inj h).symm⟩, ?_⟩
    rintro (⟨hm, hne⟩ | ⟨-, rfl⟩)
    · simp [hm, Value.truthy, hne] at ht
    · rfl
  | true =>
    refine ⟨fun h ↦ .inl ⟨h, ?_⟩, ?_⟩
    · rintro rfl
      simp [show Run.statement f = .text "" from h, Value.truthy] at ht
    · rintro (⟨hm, -⟩ | ⟨⟨⟩, -⟩)
      exact hm

theorem told_iff {f : Fault} : f.Told ↔ ∃ m, Run.Tells f m := by
  constructor
  · intro h
    obtain ⟨m, hm⟩ := h.said
    exact ⟨m, said_eq_text_iff.mp hm⟩
  · rintro ⟨m, ⟨hm, -⟩ | ⟨hempty, -⟩⟩
    · exact .inr ⟨m, hm⟩
    · exact .inl hempty

theorem told_of_isFailure {f : Fault} (h : f.isFailure = false) : f.Told := by
  cases f with
  | failure f => cases h
  | _ => exact .inr ⟨_, rfl⟩

theorem Told.locate {f : Fault} (h : f.Told) (n : Node) : (n.locate f).Told := by
  unfold Node.locate
  split <;> exact h

end Fault

open Fault

theorem Value.elements_told (v : Value) : Faults Told v.elements := by
  unfold elements
  split <;> first | exact .ok _ | exact .error (told_of_isFailure rfl)

theorem Tags.distinct_told (vs : List Value) : Faults Told (distinct vs) := by
  unfold distinct
  split
  · exact .error (told_of_isFailure rfl)
  · exact .ok _

theorem Contact.write_told (c : Contact) (name v : Value) : Faults Told (c.write name v) := by
  unfold write
  split
  · exact .map (.bind v.elements_told Tags.distinct_told)
  · exact .ok _

theorem Context.revise_told (c : Context) (contact : Named) (opportunity notes : Fields) :
    Faults Told (c.revise contact opportunity notes) :=
  .map (.foldlM (fun k p ↦ .map (k.write_told p.1 p.2)) contact c.contact)

theorem Change.apply_told (k : Change) (cfg : Fields) (c : Context) :
    Faults Told (k.apply cfg c) := by
  cases k with
  | addTag =>
    simp only [apply]
    split
    · exact .ok c
    · exact c.revise_told _ _ _
  | setField =>
    simp only [apply, writeNamed]
    split
    · exact .ok c
    · split
      · exact .error (told_of_isFailure rfl)
      · split
        · exact .error (.inr ⟨_, rfl⟩)
        · exact c.revise_told _ _ _
  | openDeal =>
    refine .bind ?_ fun x ↦ c.revise_told _ _ _
    simp only [dealValue]
    split
    · exact .ok _
    · exact .error (told_of_isFailure rfl)
    · exact .error (.inr ⟨_, rfl⟩)
  | _ =>
    simp only [apply, writeContact]
    exact c.revise_told _ _ _

theorem Node.change_told (n : Node) (c : Context) : Faults Told (n.change c) := by
  unfold change
  split
  · next k _ => exact .mapError (k.apply_told n.config c) fun f hf ↦ hf.locate n
  · exact .ok c

theorem Template.fill_told (names : List String) (v : Value) (c : Context) (now : Instant) :
    Faults Told (fill names v c now) := by
  refine .map ?_
  generalize source v = s
  induction names generalizing s with
  | nil => exact .ok s
  | cons name names ih =>
    rw [passes]
    split
    · exact ih _
    · exact .error (told_of_isFailure rfl)

theorem Node.asks_told (n : Node) (c : Context) (default : Bool) :
    Faults Told (n.asks c default) := by
  have hcompare (test : Binary64 → Binary64 → Bool) (a b : Value) :
      Faults Told (Condition.compare test a b) := by
    unfold Condition.compare
    split <;> first | exact .ok _ | exact .error (told_of_isFailure rfl)
  refine .bind ?_ fun k ↦ ?_
  · unfold Condition.ofConfig?
    split
    · exact .ok _
    · split
      · exact .ok _
      · exact .error (told_of_isFailure rfl)
  · cases k with
    | none => exact .ok default
    | some k => cases k <;> first | exact .ok _ | exact hcompare _ _ _

namespace Action

theorem changing_tells (telling : Node → String) : (changing telling).Tells :=
  fun n c _ ↦ .map (n.change_told c)

theorem describing_tells {telling : Node → Context → Situation → Except Fault Value}
    (h : ∀ n c s, Faults Told (telling n c s)) : (describing telling).Tells :=
  fun n c s ↦ .map (h n c s)

theorem changing_branches (telling : Node → String) : (changing telling).Branches := by
  intro n c s o h
  simp only [changing, map_eq_ok_iff] at h
  obtain ⟨d, -, rfl⟩ := h
  exact List.mem_cons_self

theorem describing_branches (telling : Node → Context → Situation → Except Fault Value) :
    (describing telling).Branches := by
  intro n c s o h
  simp only [describing, map_eq_ok_iff] at h
  obtain ⟨output, -, rfl⟩ := h
  exact List.mem_cons_self

theorem condition_branches : condition.Branches := by
  intro n c s o h
  simp only [condition, map_eq_ok_iff] at h
  obtain ⟨passed, -, rfl⟩ := h
  cases passed <;> simp

end Action

namespace Actions

theorem standard_branches (type : String) : (standard.find type).Branches := by
  unfold find standard
  split
  case h_15 => exact Action.condition_branches
  all_goals first | exact Action.describing_branches _ | exact Action.changing_branches _

/-- Of each fault of an action known from the start a text is said. -/
theorem standard_tells (type : String) : (standard.find type).Tells := by
  unfold find standard
  split
  case h_2 =>
    refine Action.describing_tells fun n c s ↦ ?_
    exact .bind (Template.fill_told _ _ c s.now) fun _ ↦
      .bind (Template.fill_told _ _ c s.now) fun _ ↦ .ok _
  case h_3 =>
    refine Action.describing_tells fun n c s ↦ ?_
    exact .bind (Template.fill_told _ _ c s.now) fun _ ↦ .ok _
  case h_15 => exact fun n c s ↦ .map (n.asks_told c s.unknownCondition)
  all_goals first | exact Action.describing_tells fun _ _ _ ↦ .ok _ | exact Action.changing_tells _

end Actions

end Automation
