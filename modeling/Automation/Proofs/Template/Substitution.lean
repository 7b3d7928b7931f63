import Automation.Proofs.Template.Replacing

namespace Automation

theorem Instant.mem_shortDate {now : Instant} {a : Char} (h : a ∈ now.shortDate.toList) :
    a.isDigit = true ∨ a = '/' := by
  have hdigit {n : Nat} (hm : a ∈ natDigits n) : a.isDigit = true :=
    Nat.isDigit_of_mem_toDigits (by decide) (by decide) hm
  simp only [shortDate, String.toList_ofList, List.mem_append, List.mem_cons] at h
  rcases h with (hm | rfl | hd) | rfl | hy
  · exact .inl (hdigit hm)
  · exact .inr rfl
  · exact .inl (hdigit hd)
  · exact .inr rfl
  · exact .inl (hdigit hy)

theorem Instant.shortDate_eq (now : Instant) : now.shortDate =
    intText now.month ++ "/" ++ intText now.day ++ "/" ++ intText now.year := by
  have hnat (n : Nat) : (intText n).toList = natDigits n := by simp [intText]
  rw [← String.toList_inj]
  simp [shortDate, hnat]

namespace Template

def Braceless (s : String) : Prop := '\x7b' ∉ s.toList ∧ '\x7d' ∉ s.toList

instance : DecidablePred Braceless := fun s ↦
  inferInstanceAs (Decidable ('\x7b' ∉ s.toList ∧ '\x7d' ∉ s.toList))

/-- A part of a well-formed template: text, or a placeholder. -/
inductive Piece where
  | plain (s : String) (h : Braceless s)
  | hole (name : String) (h : Braceless name)

namespace Piece

def source : Piece → List Char
  | plain s _ => s.toList
  | hole name _ => placeholder name

def put (name v : String) (hv : Braceless v) : Piece → Piece
  | plain s h => plain s h
  | hole other h => if other = name then plain v hv else hole other h

def filled (names : List String) (told : String → String) : Piece → List Char
  | plain s _ => s.toList
  | hole name _ => if name ∈ names then (told name).toList else placeholder name

theorem filled_put {name : String} {told : String → String} (hv : Braceless (told name))
    (names : List String) (p : Piece) :
    (p.put name (told name) hv).filled names told = p.filled (name :: names) told := by
  cases p with
  | plain s h => rfl
  | hole other h =>
    by_cases ho : other = name
    · subst ho
      simp [put, filled]
    · simp [put, filled, ho]

end Piece

def written (ps : List Piece) : List Char := ps.flatMap Piece.source

variable {name other : String} {s t u : List Char} {a : Char}

theorem not_cons_prefix (ha : a ∉ s) (hs : s ≠ []) (u t : List Char) : ¬ a :: u <+: s ++ t := by
  cases s with
  | nil => exact absurd rfl hs
  | cons b s =>
    intro hp
    exact ha ((List.cons_prefix_cons.mp hp).1 ▸ List.mem_cons_self)

theorem eq_of_prefix_closed (hs : a ∉ s) (ht : a ∉ t) (hp : s ++ [a] <+: t ++ a :: u) : s = t := by
  obtain ⟨w, hw⟩ := hp
  have hbefore {x y : List Char} (hx : a ∉ x) : (x ++ a :: y).takeWhile (· ≠ a) = x := by
    have hne : ∀ b ∈ x, decide (b ≠ a) = true := by
      rintro b hb
      exact decide_eq_true fun he ↦ hx (he ▸ hb)
    rw [List.takeWhile_append_of_pos hne]
    simp
  calc s = (s ++ a :: w).takeWhile (· ≠ a) := (hbefore hs).symm
    _ = (t ++ a :: u).takeWhile (· ≠ a) := by rw [← hw, List.append_assoc, List.singleton_append]
    _ = t := hbefore ht

theorem placeholder_ne_nil (name : String) : placeholder name ≠ [] := List.cons_ne_nil _ _

theorem not_placeholder_prefix (hname : Braceless name) (hother : Braceless other)
    (hne : other ≠ name) (t : List Char) : ¬ placeholder name <+: placeholder other ++ t := by
  intro hp
  have hrest : name.toList ++ ['\x7d'] <+: other.toList ++ '\x7d' :: '\x7d' :: t := by
    simp only [placeholder, List.cons_append, List.cons_prefix_cons, true_and, List.append_assoc,
      List.nil_append] at hp
    refine List.IsPrefix.trans ?_ hp
    rw [List.prefix_append_right_inj]
    exact ⟨['\x7d'], rfl⟩
  exact hne (String.toList_inj.mp (eq_of_prefix_closed hname.2 hother.2 hrest).symm)

theorem replace_placeholder_other (hname : Braceless name) (hother : Braceless other)
    (hne : other ≠ name) (new t : List Char) :
    replace (placeholder name) new (placeholder other ++ t) =
      placeholder other ++ replace (placeholder name) new t := by
  have hfree : '\x7b' ∉ other.toList ++ ['\x7d', '\x7d'] := by simp [hother.1]
  have hfirst := not_placeholder_prefix hname hother hne t
  have hsecond : ¬ placeholder name <+: '\x7b' :: (other.toList ++ ['\x7d', '\x7d'] ++ t) :=
    fun hp ↦ not_cons_prefix hfree (by simp) _ t (List.cons_prefix_cons.mp hp).2
  calc replace (placeholder name) new (placeholder other ++ t)
      = '\x7b' :: replace (placeholder name) new
          ('\x7b' :: (other.toList ++ ['\x7d', '\x7d'] ++ t)) :=
        replace_cons hfirst
    _ = '\x7b' :: '\x7b' :: replace (placeholder name) new
          (other.toList ++ ['\x7d', '\x7d'] ++ t) := by
        rw [replace_cons hsecond]
    _ = placeholder other ++ replace (placeholder name) new t :=
        congrArg (fun r ↦ '\x7b' :: '\x7b' :: r) (replace_append_of_notMem hfree _ _ _)

/-- One pass over a well-formed template fills in one name, and leaves a well-formed template. -/
theorem replace_written {v : String} (hname : Braceless name) (hv : Braceless v) (ps : List Piece) :
    replace (placeholder name) v.toList (written ps) = written (ps.map (Piece.put name v hv)) := by
  unfold written
  induction ps with
  | nil => rw [List.map_nil, List.flatMap_nil, replace]
  | cons p ps ih =>
    rw [List.map_cons, List.flatMap_cons, List.flatMap_cons, ← ih]
    cases p with
    | plain s h => exact replace_append_of_notMem h.1 _ _ _
    | hole other h =>
      by_cases ho : other = name
      · subst ho
        simp only [Piece.source, Piece.put, if_true]
        exact replace_append_left (placeholder_ne_nil other) _ _
      · simp only [Piece.source, Piece.put, if_neg ho]
        exact replace_placeholder_other hname h ho _ _

theorem passes_written {names : List String} {known : String → Option String}
    {shows : String → String} (hnames : ∀ name ∈ names, Braceless name)
    (hknown : ∀ name ∈ names, known name = some (shows name))
    (hshows : ∀ name ∈ names, Braceless (shows name)) (ps : List Piece) :
    passes known names (written ps) = .ok (ps.flatMap (Piece.filled names shows)) := by
  induction names generalizing ps with
  | nil =>
    refine congrArg Except.ok (List.flatMap_congr fun p _ ↦ ?_)
    cases p <;> simp [Piece.source, Piece.filled]
  | cons name names ih =>
    obtain ⟨hname, hnames⟩ := List.forall_mem_cons.mp hnames
    obtain ⟨hfirst, hknown⟩ := List.forall_mem_cons.mp hknown
    obtain ⟨hv, hshows⟩ := List.forall_mem_cons.mp hshows
    rw [passes, hfirst]
    simp only [replace_written hname hv, ih hnames hknown hshows, List.flatMap_map,
      Piece.filled_put]

/-- What a name stands for: the first name or a word in its place, the company or the address if
there is one, and today's date. -/
def told (c : Context) (now : Instant) (name : String) : String :=
  if name = "first_name" then shownOr c.contact.firstName "there"
  else if name = "company" then shownOr c.contact.company ""
  else if name = "lead_email" then shownOr c.contact.email ""
  else intText now.month ++ "/" ++ intText now.day ++ "/" ++ intText now.year
where
  shownOr (v : Value) (s : String) : String := if v.truthy then v.shown else s

theorem shown_orElse (v : Value) (s : String) : (v.orElse (.text s)).shown = told.shownOr v s := by
  unfold Value.orElse told.shownOr
  split <;> rfl

theorem value?_eq_told (c : Context) (now : Instant) (h : name ∈ mailNames) :
    value? c now name = some (told c now name) := by
  simp only [mailNames, List.mem_cons, List.not_mem_nil, or_false] at h
  rcases h with rfl | rfl | rfl | rfl <;>
    simp [value?, told, shown_orElse, Instant.shortDate_eq]

theorem braceless_of_mailNames (h : name ∈ mailNames) : Braceless name := by
  revert name
  decide

theorem braceless_shownOr {v : Value} {s : String} (hv : Braceless v.shown) (hs : Braceless s) :
    Braceless (told.shownOr v s) := by
  unfold told.shownOr
  split
  · exact hv
  · exact hs

theorem braceless_shortDate (now : Instant) : Braceless now.shortDate := by
  constructor <;> intro h <;> rcases Instant.mem_shortDate h with h | h <;> revert h <;> decide

/-- To fill in a well-formed template is to put what each of the given names stands for in the place
of its placeholders, all at once, if nothing that is known of the contact holds a brace. -/
theorem fill_substitutes (ps : List Piece) {c : Context} (now : Instant) {names : List String}
    (hfirst : Braceless c.contact.firstName.shown) (hcompany : Braceless c.contact.company.shown)
    (hemail : Braceless c.contact.email.shown) (hnames : ∀ name ∈ names, name ∈ mailNames) :
    fill names (.text (.ofList (written ps))) c now =
      .ok (.ofList (ps.flatMap (Piece.filled names (told c now)))) := by
  have htold : ∀ name ∈ names, Braceless (told c now name) := by
    intro name _
    unfold told
    split
    · exact braceless_shownOr hfirst (by decide)
    · split
      · exact braceless_shownOr hcompany (by decide)
      · split
        · exact braceless_shownOr hemail (by decide)
        · rw [← Instant.shortDate_eq]
          exact braceless_shortDate now
  have hpasses := passes_written (fun name hm ↦ braceless_of_mailNames (hnames name hm))
    (fun name hm ↦ value?_eq_told c now (hnames name hm)) htold ps
  rw [fill, source, Value.shown_text, String.toList_ofList, hpasses]
  · rfl
  · exact Value.noConfusion

namespace Sample

def greeting : List Piece := [.plain "Hi " (by decide), .hole "first_name" (by decide),
  .hole "company" (by decide), .hole "nick name" (by decide), .plain ", it is " (by decide),
  .hole "current_date" (by decide), .plain "." (by decide)]

def reader : Context := { contact := { company := .text "Acme" } }

def today : Instant := { year := 2026, month := 3, day := 5 }

end Sample

theorem fill_substitutes_sample :
    (∀ name ∈ ["current_date", "company", "first_name", "company"], name ∈ mailNames) ∧
    fill ["current_date", "company", "first_name", "company"]
      (.text (.ofList (written Sample.greeting))) Sample.reader Sample.today =
        .ok "Hi thereAcme\x7b\x7bnick name\x7d\x7d, it is 3/5/2026." :=
  ⟨by decide, (fill_substitutes Sample.greeting Sample.today (by decide) (by decide) (by decide)
    (by decide)).trans (by decide +kernel)⟩

end Template

end Automation
