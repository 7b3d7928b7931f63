import Automation.Proofs.Context.Footprint
import Automation.Proofs.Context.Refusing
import Automation.Proofs.Context.TagSet
import Mathlib.Data.List.Nodup

namespace Automation

inductive Effect where
  | fill (v : Option Value)
  | replace (v : Option Value)
  deriving DecidableEq, Repr

namespace Effect

def on : Effect → Option Value → Option Value
  | fill v, x => x.or v
  | replace v, _ => v

def idle : Effect := fill none

def andThen : Effect → Effect → Effect
  | fill v, fill w => fill (v.or w)
  | replace v, fill w => replace (v.or w)
  | _, replace w => replace w

@[simp] theorem on_idle (x : Option Value) : idle.on x = x := Option.or_none

theorem on_andThen (e f : Effect) (x : Option Value) : (e.andThen f).on x = f.on (e.on x) := by
  cases f with
  | replace w => cases e <;> rfl
  | fill w =>
    cases e with
    | fill v => exact Option.or_assoc.symm
    | replace v => rfl

theorem on_on (e : Effect) (x : Option Value) : e.on (e.on x) = e.on x := by
  cases e with
  | fill v => rw [on, on, Option.or_assoc, Option.or_self]
  | replace v => rfl

end Effect

theorem Place.eq_tags_of_same {p : Place} (h : tags.same p = true) : p = tags := by
  obtain ⟨part, name⟩ := p
  obtain ⟨hpart, hname⟩ := Bool.and_eq_true_iff.mp h
  obtain rfl : Part.contact = part := eq_of_beq hpart
  obtain rfl : name = .text "tags" := Value.eq_text_of_same hname
  rfl

namespace Tags

def withKey (ts : List Value) (k : Key) : Option Value := ts.find? fun t ↦ t.key? == some k

variable {ts us vs : List Value} {t : Value} {k : Key}

theorem withKey_cons (t : Value) (ts : List Value) (k : Key) :
    withKey (t :: ts) k = if t.key? = some k then some t else withKey ts k := by
  rw [withKey, List.find?_cons]
  by_cases hk : t.key? = some k
  · simp [hk]
  · rw [if_neg hk, beq_false_of_ne hk]
    rfl

theorem isSome_withKey (ht : t ∈ ts) (hk : t.key? = some k) : (withKey ts k).isSome = true :=
  List.find?_isSome.mpr ⟨t, ht, by simp [hk]⟩

theorem key?_of_withKey (h : withKey ts k = some t) : t.key? = some k := by
  simpa using List.find?_some h

theorem withKey_append (ts us : List Value) (k : Key) :
    withKey (ts ++ us) k = (withKey ts k).or (withKey us k) := List.find?_append

theorem withKey_firsts (seen : List (Option Key)) (vs : List Value) (k : Key) :
    withKey (firsts seen vs) k = if some k ∈ seen then none else withKey vs k := by
  induction vs generalizing seen with
  | nil => simp [firsts, withKey]
  | cons v vs ih =>
    rw [firsts, withKey_cons]
    by_cases hv : v.key? ∈ seen
    · rw [if_pos (by simpa using hv), ih]
      split
      · rfl
      · next hk => rw [if_neg fun he : v.key? = some k ↦ hk (he ▸ hv)]
    · rw [if_neg (by simpa using hv), withKey_cons, ih]
      by_cases he : v.key? = some k
      · rw [he] at hv
        simp [he, hv]
      · simp [he, Ne.symm he]

/-- Making values distinct keeps the first one with each key. -/
theorem withKey_distinct (h : distinct vs = .ok ts) (k : Key) : withKey ts k = withKey vs k := by
  obtain ⟨-, rfl⟩ := distinct_eq_ok_iff.mp h
  rw [withKey_firsts, if_neg List.not_mem_nil]

theorem withKey_filter_equals (ts : List Value) (tag : Value) (k : Key) :
    withKey (ts.filter fun t ↦ !t.equals tag) k =
      if k ≠ .number .undefined ∧ tag.key? = some k then none else withKey ts k := by
  rw [withKey, List.find?_filter]
  split
  · next htaken =>
    refine List.find?_eq_none.mpr fun t _ ht ↦ ?_
    simp only [Bool.not_eq_true', beq_iff_eq, decide_eq_true_eq] at ht
    obtain ⟨hleft, hk⟩ := ht
    rw [(Value.equals_iff_of_key? hk).mpr htaken] at hleft
    cases hleft
  · next hleft =>
    unfold withKey
    congr 1
    funext t
    by_cases hk : t.key? = some k
    · have hne : t.equals tag = false := by
        rwa [Bool.eq_false_iff, ne_eq, Value.equals_iff_of_key? hk]
      simp [hk, hne]
    · simp [hk]

theorem IsDistinct.mem_iff (h : IsDistinct ts) (hk : t.key? = some k) :
    t ∈ ts ↔ withKey ts k = some t := by
  constructor
  · intro ht
    obtain ⟨x, hx⟩ := Option.isSome_iff_exists.mp (isSome_withKey ht hk)
    have hkey : x.key? = t.key? := (key?_of_withKey hx).trans hk.symm
    rw [hx, List.inj_on_of_nodup_map h.nodup (List.mem_of_find?_eq_some hx) ht hkey]
  · intro ht
    exact List.mem_of_find?_eq_some ht

theorem IsDistinct.perm (ht : IsDistinct ts) (hu : IsDistinct us)
    (h : ∀ k, withKey ts k = withKey us k) : ts.Perm us := by
  refine (List.perm_ext_iff_of_nodup (ht.nodup.of_map _) (hu.nodup.of_map _)).mpr fun t ↦ ?_
  cases hk : t.key? with
  | some k => rw [ht.mem_iff hk, hu.mem_iff hk, h]
  | none =>
    have hout {vs : List Value} (hvs : IsDistinct vs) : t ∉ vs := by
      intro hm
      have hkeyed := hvs.keyed t hm
      rw [hk] at hkeyed
      cases hkeyed
    exact iff_of_false (hout ht) (hout hu)

end Tags

namespace Change

variable {k : Change} {cfg : Fields} {tags : List Value} {u : Revision}

theorem writes_nil (h : k.writes cfg tags = .ok u) :
    ∃ w, k.writes cfg [] = .ok w ∧ ∀ p, p ≠ .tags → w.value? p = u.value? p := by
  have htags {w : Revision} (hk : k.places cfg = [.tags]) (hw : k.writes cfg [] = .ok w) :
      ∀ p, p ≠ .tags → w.value? p = u.value? p := by
    intro p hp
    have hnone {ts : List Value} {v : Revision} (hv : k.writes cfg ts = .ok v) :
        v.value? p = none := by
      refine Revision.value?_eq_none fun q hq ↦ ?_
      have hq : q ∈ [Place.tags] := hk ▸ places_writes hv hq
      rw [List.mem_singleton.mp hq, Bool.eq_false_iff]
      exact fun hs ↦ hp (Place.eq_tags_of_same hs)
    rw [hnone hw, hnone h]
  cases k with
  | addTag =>
    obtain ⟨w, hw⟩ : ∃ w, addTag.writes cfg [] = .ok w := by
      simp only [writes]
      split <;> exact ⟨_, rfl⟩
    exact ⟨w, hw, htags rfl hw⟩
  | removeTag => exact ⟨_, rfl, htags rfl rfl⟩
  | _ => exact ⟨u, h, fun _ _ ↦ rfl⟩

end Change

namespace Context

def tagged (c : Context) (k : Key) : Option Value := Tags.withKey c.contact.tags k

/-- The same entries with the same values, in whatever order, and tags that `R` relates. -/
structure Alike (R : List Value → List Value → Prop) (c d : Context) : Prop where
  triggerType : c.triggerType = d.triggerType
  triggeredAt : c.triggeredAt = d.triggeredAt
  aside : c.contact.aside = d.contact.aside
  value? : ∀ p, p ≠ .tags → c.value? p = d.value? p
  tags : R c.contact.tags d.contact.tags

end Context

namespace Node

variable {n : Node} {ns : List Node} {b c d e : Context} {p : Place} {tags : List Value}
  {u : Revision}

theorem writes_nil (h : n.writes tags = .ok u) :
    ∃ w, n.writes [] = .ok w ∧ ∀ p, p ≠ .tags → w.value? p = u.value? p := by
  rcases writes_eq_ok_iff.mp h with hnone | ⟨k, hk, hu⟩
  · exact ⟨u, writes_eq_ok_iff.mpr (.inl hnone), fun _ _ ↦ rfl⟩
  · obtain ⟨w, hw, hread⟩ := Change.writes_nil hu
    exact ⟨w, writes_eq_ok_iff.mpr (.inr ⟨k, hk, hw⟩), hread⟩

def effect (n : Node) (p : Place) : Effect :=
  match (n.writes []).toOption.bind fun u ↦ u.value? p with
  | some v => .replace (some v)
  | none => .idle

def tagEffect (n : Node) (k : Key) : Effect :=
  let tag := n.config.get "tag"
  match Change.ofType? n.type with
  | some .addTag => if tag.truthy = true ∧ tag.key? = some k then .fill (some tag) else .idle
  | some .removeTag => if k ≠ .number .undefined ∧ tag.key? = some k then .replace none else .idle
  | _ => .idle

def effects (f : Node → Effect) (ns : List Node) : Effect :=
  ns.foldr (fun n e ↦ (f n).andThen e) .idle

theorem value?_change_eq_on (h : n.change c = .ok d) (hp : p ≠ .tags) :
    d.value? p = (n.effect p).on (c.value? p) := by
  obtain ⟨u, hu, hd⟩ := change_eq_ok_iff.mp h
  obtain ⟨w, hw, hread⟩ := writes_nil hu
  rw [Context.value?_revised hd hp, ← hread p hp, effect, hw]
  cases hv : w.value? p with
  | none => simp [Except.toOption, hv]
  | some v => simp [Except.toOption, hv, Effect.on]

theorem tagged_change {k : Key} (h : n.change c = .ok d) :
    d.tagged k = (n.tagEffect k).on (c.tagged k) := by
  simp only [tagEffect, Context.tagged]
  split
  · next hk =>
    have hadd : n.type = "add_tag" := Change.ofType?_inj hk rfl
    cases htrue : (n.config.get "tag").truthy with
    | false =>
      obtain rfl : c = d := by
        simpa only [change, hk, mapError_eq_ok_iff, Change.apply, htrue, Bool.not_false,
          Bool.true_or, if_true, Except.ok.injEq] using h
      simp
    | true =>
      rcases change_addTag hadd h with ⟨rfl, hf | hm⟩ | hd
      · cases htrue.symm.trans hf
      · by_cases htag : (n.config.get "tag").key? = some k
        · obtain ⟨t, ht, hsame⟩ := List.any_eq_true.mp hm
          obtain ⟨x, hx⟩ := Option.isSome_iff_exists.mp
            (Tags.isSome_withKey ht ((Value.key?_eq_of_same hsame).trans htag))
          simp [hx, htag, Effect.on]
        · simp [htag]
      · rw [Tags.withKey_distinct hd, Tags.withKey_append, Tags.withKey_cons]
        by_cases htag : (n.config.get "tag").key? = some k
        · simp [htag, Effect.on]
        · simp [htag, Tags.withKey]
  · next hk =>
    rw [Tags.withKey_distinct (change_removeTag (Change.ofType?_inj hk rfl) h),
      Tags.withKey_filter_equals]
    split
    · rfl
    · exact (Effect.on_idle _).symm
  · next hadd hremove =>
    have htags : d.contact.tags = c.contact.tags := by
      apply tags_change h
      · intro ht
        exact hadd (by rw [ht]; rfl)
      · intro ht
        exact hremove (by rw [ht]; rfl)
    rw [htags, Effect.on_idle]

theorem changes_cons_eq_ok_iff :
    changes (n :: ns) c = .ok d ↔ ∃ b, n.change c = .ok b ∧ changes ns b = .ok d := by
  rw [changes, List.foldlM_cons, bind_eq_ok_iff]
  rfl

theorem changes_singleton (n : Node) (c : Context) : changes [n] c = n.change c := by
  rw [changes, List.foldlM_cons]
  cases n.change c <;> rfl

theorem read_changes {read : Context → Option Value} {f : Node → Effect}
    (hread : ∀ n c d, n.change c = .ok d → read d = (f n).on (read c)) (h : changes ns c = .ok d) :
    read d = (effects f ns).on (read c) := by
  induction ns generalizing c with
  | nil =>
    obtain rfl : c = d := Except.ok.inj h
    exact (Effect.on_idle _).symm
  | cons n ns ih =>
    obtain ⟨b, hb, h⟩ := changes_cons_eq_ok_iff.mp h
    rw [effects, List.foldr_cons, Effect.on_andThen, ← hread n c b hb]
    exact ih h

theorem value?_changes (h : changes ns c = .ok d) (hp : p ≠ .tags) :
    d.value? p = (effects (·.effect p) ns).on (c.value? p) :=
  read_changes (fun _ _ _ hn ↦ value?_change_eq_on hn hp) h

theorem tagged_changes (k : Key) (h : changes ns c = .ok d) :
    d.tagged k = (effects (·.tagEffect k) ns).on (c.tagged k) :=
  read_changes (fun _ _ _ hn ↦ tagged_change hn) h

/-- Whether a node fails does not depend on the context, as long as the tags are distinct. -/
theorem change_isOk (hc : Tags.IsDistinct c.contact.tags) (he : Tags.IsDistinct e.contact.tags)
    (h : n.change c = .ok d) : ∃ f, n.change e = .ok f := by
  rw [isOk_iff_forall_ne_error]
  intro f hf
  have hfails : n.change c = .error f :=
    (change_eq_error_iff hc).mpr ((change_eq_error_iff he).mp hf)
  cases h.symm.trans hfails

theorem changes_isOk_iff (hc : Tags.IsDistinct c.contact.tags) :
    (∃ d, changes ns c = .ok d) ↔ ∀ n ∈ ns, ∃ d, n.change c = .ok d := by
  induction ns generalizing c with
  | nil => exact iff_of_true ⟨c, rfl⟩ (by simp)
  | cons n ns ih =>
    simp only [changes_cons_eq_ok_iff, List.forall_mem_cons]
    constructor
    · intro ⟨d, b, hb, hd⟩
      have hdistinct := isDistinct_change hb hc
      refine ⟨⟨b, hb⟩, fun m hm ↦ ?_⟩
      obtain ⟨f, hf⟩ := (ih hdistinct).mp ⟨d, hd⟩ m hm
      exact change_isOk hdistinct hc hf
    · intro ⟨⟨b, hb⟩, hall⟩
      have hdistinct := isDistinct_change hb hc
      obtain ⟨d, hd⟩ := (ih hdistinct).mpr fun m hm ↦ by
        obtain ⟨f, hf⟩ := hall m hm
        exact change_isOk hc hdistinct hf
      exact ⟨d, b, hb, hd⟩

theorem isDistinct_changes (hc : Tags.IsDistinct c.contact.tags) (h : changes ns c = .ok d) :
    Tags.IsDistinct d.contact.tags :=
  foldlM_keeps (P := fun c ↦ Tags.IsDistinct c.contact.tags)
    (fun _ _ _ _ hb hs ↦ isDistinct_change hs hb) h hc

theorem keeps_changes (h : changes ns c = .ok d) : d.triggerType = c.triggerType ∧
    d.triggeredAt = c.triggeredAt ∧ d.contact.aside = c.contact.aside := by
  refine foldlM_keeps (P := fun b ↦ b.triggerType = c.triggerType ∧
    b.triggeredAt = c.triggeredAt ∧ b.contact.aside = c.contact.aside)
    (fun n _ b b' hb hn ↦ ?_) h ⟨rfl, rfl, rfl⟩
  obtain ⟨u, -, hu⟩ := change_eq_ok_iff.mp hn
  obtain ⟨htype, hat, haside⟩ := Context.keeps_revised hu
  exact ⟨htype.trans hb.1, hat.trans hb.2.1, haside.trans hb.2.2⟩

end Node

end Automation
