namespace Automation.Text

def isWhiteSpace (c : Char) : Bool :=
  let n := c.toNat
  (9 ≤ n && n ≤ 13) || n == 0x20 || n == 0x85 || n == 0xA0 || n == 0x1680 ||
    (0x2000 ≤ n && n ≤ 0x200A) || n == 0x2028 || n == 0x2029 || n == 0x202F || n == 0x205F ||
    n == 0x3000

/-- White space, or one of the information separators U+001C to U+001F. -/
def isBlank (c : Char) : Bool :=
  isWhiteSpace c || (0x1C ≤ c.toNat && c.toNat ≤ 0x1F)

variable (p : Char → Bool)

def trimBy (cs : List Char) : List Char :=
  ((cs.dropWhile p).reverse.dropWhile p).reverse

def trim (cs : List Char) : List Char := trimBy isBlank cs

def strip (s : String) : String := .ofList (trim s.toList)

theorem dropWhile_eq_self_of_head {cs : List Char} (h : ∀ c, cs.head? = some c → p c = false) :
    cs.dropWhile p = cs := by
  cases cs with
  | nil => rfl
  | cons c cs => simp [h c rfl]

theorem head?_dropWhile_eq_false {cs : List Char} {c : Char}
    (h : (cs.dropWhile p).head? = some c) : p c = false := by
  induction cs with
  | nil => simp at h
  | cons d ds ih =>
    rw [List.dropWhile_cons] at h
    split at h
    · exact ih h
    · simp_all

theorem getLast?_dropWhile {cs : List Char} (h : cs.dropWhile p ≠ []) :
    (cs.dropWhile p).getLast? = cs.getLast? := by
  induction cs with
  | nil => simp at h
  | cons d ds ih =>
    rw [List.dropWhile_cons] at h ⊢
    split
    · rename_i hd
      rw [if_pos hd] at h
      rw [ih h]
      cases ds with
      | nil => simp at h
      | cons e es => simp [List.getLast?_cons]
    · rfl

theorem not_isBlank_getLast_trim {cs : List Char} {c : Char} (h : (trim cs).getLast? = some c) :
    isBlank c = false := by
  rw [trim, trimBy, List.getLast?_reverse] at h
  exact head?_dropWhile_eq_false isBlank h

theorem not_isBlank_head_trim {cs : List Char} {c : Char} (h : (trim cs).head? = some c) :
    isBlank c = false := by
  rw [trim, trimBy, List.head?_reverse] at h
  by_cases hn : (cs.dropWhile isBlank).reverse.dropWhile isBlank = []
  · simp [hn] at h
  · rw [getLast?_dropWhile isBlank hn, List.getLast?_reverse] at h
    exact head?_dropWhile_eq_false isBlank h

end Automation.Text
