import Automation.Proofs.Workflow.Grammar

namespace Automation

open Schema

namespace Review

def HasNode (nodes : List Value) (id : String) : Prop :=
  ∃ v ∈ nodes, ∃ n, Node.ofValue v = .ok n ∧ n.id = some id

inductive TellsEnd (nodes : List Value) (label id : String) : List Issue → Prop
  | known (h : HasNode nodes id) : TellsEnd nodes label id []
  | unknown (h : ¬ HasNode nodes id) : TellsEnd nodes label id
      [⟨some id, "Edge " ++ label ++ " references unknown node '" ++ id ++ "'", none⟩]

/-- What is told of an edge from free data, at its position. -/
inductive TellsEdge (nodes : List Value) (position : Nat) (v : Value) : List Issue → Prop
  | unread {f : Fault} (h : ∀ id source target, ¬ Edge.Spelled v id source target)
      (hf : readEdge v = .error f) : TellsEdge nodes position v
        [⟨none, "Edge " ++ intText position ++ ": invalid edge (" ++ f.message ++ ")", none⟩]
  | read {id : Option String} {label source target : String} {atSource atTarget : List Issue}
      (h : Edge.Spelled v id source target)
      (hlabel : label = if id.getD "" = "" then intText position else id.getD "")
      (hsource : TellsEnd nodes label source atSource)
      (htarget : TellsEnd nodes label target atTarget) :
      TellsEdge nodes position v (atSource ++ atTarget)

def Joins (nodes : List Value) (v : Value) : Prop :=
  ∃ id source target, Edge.Spelled v id source target ∧ HasNode nodes source ∧ HasNode nodes target

variable {nodes es : List Value} {position : Nat} {v : Value} {e : Edge} {label id : String}
  {part : List Issue}

theorem mem_nodeIds : id ∈ nodeIds nodes ↔ HasNode nodes id := by
  simp only [nodeIds, List.mem_filterMap, HasNode]
  constructor
  · intro ⟨v, hv, h⟩
    cases hn : Node.ofValue v with
    | ok n => exact ⟨v, hv, n, hn, by simpa only [hn] using h⟩
    | error f => simp [hn] at h
  · intro ⟨v, hv, n, hn, hid⟩
    exact ⟨v, hv, by simpa only [hn] using hid⟩

theorem tellsEnd_endpoint (nodes : List Value) (label id : String) :
    TellsEnd nodes label id (endpoint (nodeIds nodes) label id) := by
  unfold endpoint
  split
  · next h => exact .known (mem_nodeIds.mp (List.contains_iff_mem.mp h))
  · next h => exact .unknown fun hn ↦ h (List.contains_iff_mem.mpr (mem_nodeIds.mpr hn))

theorem TellsEnd.eq_nil_iff (h : TellsEnd nodes label id part) : part = [] ↔ HasNode nodes id := by
  cases h with
  | known hn => exact iff_of_true rfl hn
  | unknown hn => exact iff_of_false (List.cons_ne_nil _ _) hn

theorem edgeLabel_eq (position : Nat) (e : Edge) : edgeLabel position e =
    if e.id.getD "" = "" then intText position else e.id.getD "" := by
  unfold edgeLabel
  split
  · next h => rw [h, Option.getD_none, if_pos rfl]
  · next h => rw [h, Option.getD_some, if_pos rfl]
  · next hne h => rw [h, Option.getD_some, if_neg hne]

theorem readEdge_eq_ok_iff : readEdge v = .ok e ↔
    ∃ fs, v = .object fs ∧ Edge.read fs = .good e := by
  cases v with
  | object fs => cases h : Edge.read fs <;> simp [readEdge, h, Checked.toExcept]
  | _ => simp [readEdge]

theorem spelled_of_readEdge (h : readEdge v = .ok e) : Edge.Spelled v e.id e.source e.target := by
  obtain ⟨fs, hv, hr⟩ := readEdge_eq_ok_iff.mp h
  exact Edge.spelled_iff.mpr ⟨fs, e, hv, hr, rfl, rfl, rfl⟩

theorem not_spelled_of_readEdge {f : Fault} (h : readEdge v = .error f) (id : Option String)
    (source target : String) : ¬ Edge.Spelled v id source target := by
  intro hs
  obtain ⟨fs, e, hv, hr, -⟩ := Edge.spelled_iff.mp hs
  have hok : readEdge v = .ok e := readEdge_eq_ok_iff.mpr ⟨fs, hv, hr⟩
  cases h.symm.trans hok

theorem tellsEdge_edge (nodes : List Value) (position : Nat) (v : Value) :
    TellsEdge nodes position v (edge (nodeIds nodes) position v) := by
  unfold edge
  cases h : readEdge v with
  | error f => exact .unread (not_spelled_of_readEdge h) h
  | ok e =>
    have hsource := tellsEnd_endpoint nodes (edgeLabel position e) e.source
    have htarget := tellsEnd_endpoint nodes (edgeLabel position e) e.target
    exact .read (spelled_of_readEdge h) (edgeLabel_eq position e) hsource htarget

theorem TellsEdge.eq_nil_iff (h : TellsEdge nodes position v part) : part = [] ↔ Joins nodes v := by
  cases h with
  | unread h => exact iff_of_false (List.cons_ne_nil _ _) fun ⟨id, s, t, hs, _⟩ ↦ h id s t hs
  | read h hlabel hsource htarget =>
    rw [List.append_eq_nil_iff, hsource.eq_nil_iff, htarget.eq_nil_iff]
    constructor
    · intro hn
      exact ⟨_, _, _, h, hn⟩
    · intro ⟨id, s, t, h', hn⟩
      obtain ⟨-, rfl, rfl⟩ := h.unique h'
      exact hn

theorem edgesFrom_eq (ids : List String) (position : Nat) (es : List Value) :
    edgesFrom ids position es =
      ((es.zipIdx position).map fun p ↦ edge ids p.2 p.1).flatten := by
  induction es generalizing position with
  | nil => rfl
  | cons v es ih => simp only [edgesFrom, ih, List.zipIdx_cons, List.map_cons, List.flatten_cons]

theorem edgesOfValue_list (nodes es : List Value) : edgesOfValue (.list nodes) (.list es) =
    .ok ((es.zipIdx 1).map fun p ↦ edge (nodeIds nodes) p.2 p.1).flatten := by
  simp only [edgesOfValue, Value.elementsIfGiven_list, edges, edgesFrom_eq]
  rfl

/-- The issues of edges are those of each edge in turn, and never missing: an edge that cannot be
read has one of its own, any other one for each end that is the id of no node that can be read. -/
theorem edges_are_told (nodes es : List Value) : ∃ parts,
    edgesOfValue (.list nodes) (.list es) = .ok parts.flatten ∧
      List.Forall₂ (fun p part ↦ TellsEdge nodes p.2 p.1 part) (es.zipIdx 1) parts ∧
      (parts.flatten = [] ↔ ∀ v ∈ es, Joins nodes v) := by
  have htold : List.Forall₂ (fun p part ↦ TellsEdge nodes p.2 p.1 part) (es.zipIdx 1)
      ((es.zipIdx 1).map fun p ↦ edge (nodeIds nodes) p.2 p.1) :=
    List.forall₂_map_right_iff.mpr (List.forall₂_same.mpr fun p _ ↦ tellsEdge_edge nodes p.2 p.1)
  refine ⟨_, edgesOfValue_list nodes es, htold, ?_⟩
  rw [flatten_eq_nil_iff_of_forall₂ (fun p part h ↦ h.eq_nil_iff) htold]
  exact forall_mem_zipIdx_fst (P := Joins nodes)

/-- Nodes with texts or numbers as ids, and edges without labels between them: each end of an edge
is the id of a node, both as they stand in the data. -/
structure Drawn (nodes es : List Value) : Prop where
  readable : ∀ v ∈ nodes, Node.Readable v
  given : ∀ v ∈ nodes, (Node.rawId v).truthy = true
  textual : ∀ v ∈ nodes, (∃ s, Node.rawId v = .text s) ∨ (∃ k, Node.rawId v = .int k) ∨
    ∃ x, Node.rawId v = .float x
  edges : ∀ e ∈ es, ∃ fs, e = .object fs ∧ Fields.get fs "label" = .null ∧
    (Fields.get fs "id").IsTextOrNull ∧ Fields.get fs "source" ∈ nodes.map Node.rawId ∧
    Fields.get fs "target" ∈ nodes.map Node.rawId

def TextEnds (v : Value) : Prop :=
  ∃ fs source target, v = .object fs ∧ Fields.get fs "source" = .text source ∧
    Fields.get fs "target" = .text target

theorem hasNode_of_rawId (hr : ∀ v ∈ nodes, Node.Readable v)
    (h : .text id ∈ nodes.map Node.rawId) : HasNode nodes id := by
  obtain ⟨v, hv, hid⟩ := List.mem_map.mp h
  obtain ⟨n, hn⟩ := Node.ofValue_isOk_iff.mpr (hr v hv)
  refine ⟨v, hv, n, hn, ?_⟩
  obtain ⟨fs, rfl, hread⟩ := Node.ofValue_eq_ok_iff.mp hn
  have hnull : Reader.id .null = .good none := rfl
  have hget := (field_eq_good_iff_get hnull).mp (Node.read_eq_good_iff.mp hread).1
  have hraw : Fields.get fs "id" = .text id := hid
  rw [hraw] at hget
  exact (Checked.good.inj hget).symm

theorem Drawn.ne_empty (h : Drawn nodes es) (hid : .text id ∈ nodes.map Node.rawId) : id ≠ "" := by
  obtain ⟨v, hv, hraw⟩ := List.mem_map.mp hid
  have hgiven := h.given v hv
  rw [hraw] at hgiven
  simpa [Value.truthy] using hgiven

theorem Drawn.joins (h : Drawn nodes es) (hv : v ∈ es) (ht : TextEnds v) : Joins nodes v := by
  obtain ⟨fs, source, target, rfl, hs, ht⟩ := ht
  obtain ⟨gs, hgs, hlabel, ⟨edgeId, hid⟩, hsource, htarget⟩ := h.edges _ hv
  cases hgs
  rw [hs] at hsource
  rw [ht] at htarget
  have hspelled : Edge.Spelled (.object fs) edgeId source target :=
    .object hid hs (h.ne_empty hsource) ht (h.ne_empty htarget) ⟨none, hlabel⟩
  exact ⟨edgeId, source, target, hspelled, hasNode_of_rawId h.readable hsource,
    hasNode_of_rawId h.readable htarget⟩

theorem textEnds_of_spelled {edgeId : Option String} {source target : String}
    (h : Edge.Spelled v edgeId source target) : TextEnds v := by
  cases h with
  | object hid hsource source_ne htarget target_ne label =>
    exact ⟨_, source, target, rfl, hsource, htarget⟩

/-- Edges that join nodes by their ids as these stand are told of only where an end is no text,
which is where the id is a number: such an edge cannot be read. -/
theorem drawn_edges_are_told (h : Drawn nodes es) : ∃ parts,
    edgesOfValue (.list nodes) (.list es) = .ok parts.flatten ∧
      List.Forall₂ (fun p part ↦ TextEnds p.1 ∧ part = [] ∨ ¬ TextEnds p.1 ∧ ∃ said, part =
        [⟨none, "Edge " ++ intText p.2 ++ ": invalid edge (" ++ said ++ ")", none⟩])
        (es.zipIdx 1) parts ∧
      (parts.flatten = [] ↔ ∀ v ∈ es, TextEnds v) := by
  have htold : List.Forall₂ (fun p part ↦ TextEnds p.1 ∧ part = [] ∨ ¬ TextEnds p.1 ∧ ∃ said, part =
      [⟨none, "Edge " ++ intText p.2 ++ ": invalid edge (" ++ said ++ ")", none⟩])
      (es.zipIdx 1) ((es.zipIdx 1).map fun p ↦ edge (nodeIds nodes) p.2 p.1) := by
    refine List.forall₂_map_right_iff.mpr (List.forall₂_same.mpr fun p hp ↦ ?_)
    have htells := tellsEdge_edge nodes p.2 p.1
    by_cases ht : TextEnds p.1
    · have hv : p.1 ∈ es := List.fst_mem_of_mem_zipIdx hp
      exact .inl ⟨ht, htells.eq_nil_iff.mpr (h.joins hv ht)⟩
    · refine .inr ⟨ht, ?_⟩
      generalize edge (nodeIds nodes) p.2 p.1 = part at htells
      cases htells with
      | unread => exact ⟨_, rfl⟩
      | read hs => exact absurd (textEnds_of_spelled hs) ht
  refine ⟨_, edgesOfValue_list nodes es, htold, ?_⟩
  rw [flatten_eq_nil_iff_of_forall₂ ?_ htold]
  · exact forall_mem_zipIdx_fst (P := TextEnds)
  · intro p part hpart
    rcases hpart with ⟨ht, hnil⟩ | ⟨ht, said, hpart⟩
    · exact iff_of_true hnil ht
    · exact iff_of_false (hpart ▸ List.cons_ne_nil _ _) ht

namespace Sample

def steps : List Value := [
  .object [("id", .text "start"), ("type", .text "add_tag")],
  .object [("id", .int 5), ("type", .text "wait")]]

def link (source target : Value) : Value := .object [("source", source), ("target", target)]

theorem drawn_links (ends : List (Value × Value)) (h : ∀ p ∈ ends,
    p.1 ∈ steps.map Node.rawId ∧ p.2 ∈ steps.map Node.rawId) :
    Drawn steps (ends.map fun p ↦ link p.1 p.2) where
  readable := by
    simp only [steps, List.forall_mem_cons]
    exact ⟨.object ⟨_, rfl, by decide⟩ ⟨none, rfl⟩ (.inl rfl),
      .object ⟨_, rfl, by decide⟩ ⟨none, rfl⟩ (.inl rfl), fun v hv ↦ nomatch hv⟩
  given := by decide
  textual := by
    simp only [steps, List.forall_mem_cons]
    exact ⟨.inl ⟨_, rfl⟩, .inr (.inl ⟨_, rfl⟩), fun v hv ↦ nomatch hv⟩
  edges := by
    intro e he
    obtain ⟨p, hp, rfl⟩ := List.mem_map.mp he
    exact ⟨_, rfl, rfl, ⟨none, rfl⟩, h p hp⟩

end Sample

theorem drawn_edges_are_told_sample : ∃ es, Drawn Sample.steps es ∧
    ∃ parts : List (List Issue),
      edgesOfValue (.list Sample.steps) (.list es) = .ok parts.flatten ∧ parts.flatten ≠ [] := by
  have hdrawn := Sample.drawn_links [(.text "start", .text "start"), (.text "start", .int 5)]
    (by decide)
  obtain ⟨parts, hparts, -, hnil⟩ := drawn_edges_are_told hdrawn
  refine ⟨_, hdrawn, parts, hparts, fun h ↦ ?_⟩
  obtain ⟨fs, source, target, hv, -, ht⟩ := hnil.mp h _ (List.mem_of_mem_tail List.mem_cons_self)
  cases hv
  cases ht

theorem not_drawn_edges_are_sound_of_number : ¬ ∀ nodes es, Drawn nodes es →
    edgesOfValue (.list nodes) (.list es) = .ok [] := by
  intro h
  have hdrawn := Sample.drawn_links [(.int 5, .int 5)] (by decide)
  cases h _ _ hdrawn

end Review

end Automation
