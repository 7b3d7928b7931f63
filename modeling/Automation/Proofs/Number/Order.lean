import Automation.Proofs.Number.Range

namespace Automation

theorem le_roundRatio (num den : Nat) : num / den ≤ roundRatio num den := by
  unfold roundRatio
  grind

theorem roundRatio_le (num den : Nat) : roundRatio num den ≤ num / den + 1 := by
  unfold roundRatio
  grind

theorem roundRatio_mono {a b : Nat} (h : a ≤ b) (den : Nat) :
    roundRatio a den ≤ roundRatio b den := by
  have hquot : a / den ≤ b / den := Nat.div_le_div_right h
  rcases Nat.lt_or_eq_of_le hquot with hlt | heq
  · have ha : roundRatio a den ≤ a / den + 1 := roundRatio_le a den
    have hb : b / den ≤ roundRatio b den := le_roundRatio b den
    omega
  · -- Above the same integer, only what is left over counts.
    have hsumA : den * (a / den) + a % den = a := Nat.div_add_mod a den
    have hsumB : den * (b / den) + b % den = b := Nat.div_add_mod b den
    have hrest : a % den ≤ b % den := by
      rw [heq] at hsumA
      omega
    unfold roundRatio
    grind

namespace Binary64

variable {x y z : Binary64} {p q : Int}

theorem lt_iff_of_quanta? (hx : x.quanta? = some p) (hy : y.quanta? = some q) :
    x.lt y = true ↔ p < q := by
  cases x <;> cases y <;> simp_all [lt, quanta?]

theorem le_iff_of_quanta? (hx : x.quanta? = some p) (hy : y.quanta? = some q) :
    x.le y = true ↔ p ≤ q := by
  have hxnan : x ≠ .nan := by
    rintro rfl
    cases hx
  have hynan : y ≠ .nan := by
    rintro rfl
    cases hy
  rw [le_iff_lt_false hxnan hynan, Bool.not_eq_true', ← Bool.not_eq_true, lt_iff_of_quanta? hy hx,
    Int.not_lt]

theorem quanta?_of_isZero (h : x.isZero = true) : x.quanta? = some 0 := by
  cases x with
  | finite s m e =>
    obtain rfl : m = 0 := by simpa [isZero] using h
    simp [quanta?]
  | _ => cases h

theorem le_refl (h : x ≠ .nan) : x.le x = true := by
  rw [le_iff_lt_false h h]
  cases x <;> simp [lt]

theorem not_lt_iff {x y : Binary64} (hy : y ≠ .nan) :
    (!x.lt y) = true ↔ x = .nan ∨ y.le x = true := by
  by_cases hx : x = .nan
  · rw [hx, (not_lt_nan y).2]
    exact iff_of_true rfl (.inl rfl)
  · rw [le_iff_lt_false hy hx]
    exact ⟨.inr, fun h ↦ h.resolve_left hx⟩

theorem not_le_iff {x y : Binary64} (hy : y ≠ .nan) :
    (!x.le y) = true ↔ x = .nan ∨ y.lt x = true := by
  by_cases hx : x = .nan
  · rw [hx, (not_le_nan y).2]
    exact iff_of_true rfl (.inl rfl)
  · rw [le_iff_lt_false hx hy, Bool.not_not]
    exact ⟨.inr, fun h ↦ h.resolve_left hx⟩

theorem le_trans (hxy : x.le y = true) (hyz : y.le z = true) : x.le z = true := by
  cases x <;> cases y <;> cases z <;> simp_all [le, lt]
  case infinite.infinite.infinite => grind
  case finite.finite.finite => exact Int.le_trans hxy hyz

theorem lt_of_le_of_lt (hxy : x.le y = true) (hyz : y.lt z = true) : x.lt z = true := by
  cases x <;> cases y <;> cases z <;> simp_all [le, lt]
  case finite.finite.finite => exact Int.lt_of_le_of_lt hxy hyz

theorem lt_of_lt_of_le (hxy : x.lt y = true) (hyz : y.le z = true) : x.lt z = true := by
  cases x <;> cases y <;> cases z <;> simp_all [le, lt]
  case finite.finite.finite => exact Int.lt_of_lt_of_le hxy hyz

theorem exponentFor_mono {a b : Nat} (h : a ≤ b) : exponentFor a 1 ≤ exponentFor b 1 := by
  unfold exponentFor
  rw [Nat.div_one, Nat.div_one]
  rcases Nat.eq_zero_or_pos a with rfl | ha
  · simp
  · have hpow : Nat.pow 2 a.log2 ≤ b := Nat.le_trans (Nat.log2_self_le (by omega)) h
    have hlog : a.log2 ≤ b.log2 := (Nat.le_log2 (by omega)).mpr hpow
    omega

def rounded (num : Nat) : Nat :=
  roundRatio num (Nat.pow 2 (exponentFor num 1)) * Nat.pow 2 (exponentFor num 1)

theorem rounded_mono {a b : Nat} (h : a ≤ b) : rounded a ≤ rounded b := by
  obtain ⟨hbelow, -⟩ := exponentFor_bounds a
  obtain ⟨-, habove⟩ := exponentFor_bounds b
  have hexp : exponentFor a 1 ≤ exponentFor b 1 := exponentFor_mono h
  unfold rounded
  generalize exponentFor a 1 = d at hbelow hexp ⊢
  generalize exponentFor b 1 = e at habove hexp ⊢
  rcases Nat.lt_or_eq_of_le hexp with hlt | rfl
  · -- The least number of the higher exponent stands between the two.
    have hdpos : 0 < Nat.pow 2 d := Nat.pow_pos (by decide)
    have hepos : 0 < Nat.pow 2 e := Nat.pow_pos (by decide)
    have habove : Nat.pow 2 52 * Nat.pow 2 e ≤ b := habove.resolve_left (by omega)
    have hupper : roundRatio a (Nat.pow 2 d) ≤ Nat.pow 2 53 := by
      have hm := roundRatio_mono (Nat.le_of_lt hbelow) (Nat.pow 2 d)
      rwa [roundRatio_mul hdpos] at hm
    have hlower : Nat.pow 2 52 ≤ roundRatio b (Nat.pow 2 e) := by
      have hm := roundRatio_mono habove (Nat.pow 2 e)
      rwa [roundRatio_mul hepos] at hm
    calc roundRatio a (Nat.pow 2 d) * Nat.pow 2 d
        ≤ Nat.pow 2 53 * Nat.pow 2 d := Nat.mul_le_mul_right _ hupper
      _ = Nat.pow 2 (53 + d) := (Nat.pow_add 2 53 d).symm
      _ ≤ Nat.pow 2 (52 + e) := Nat.pow_le_pow_right (by decide) (by omega)
      _ = Nat.pow 2 52 * Nat.pow 2 e := Nat.pow_add 2 52 e
      _ ≤ roundRatio b (Nat.pow 2 e) * Nat.pow 2 e := Nat.mul_le_mul_right _ hlower
  · exact Nat.mul_le_mul_right _ (roundRatio_mono h _)

theorem quanta?_pack {m e : Nat} (h : (pack false m e).isFinite = true) :
    (pack false m e).quanta? = some ((m * Nat.pow 2 e : Nat) : Int) := by
  have he : e ≤ maxExponent := (isFinite_pack_iff false m e).mp h
  rw [pack, if_neg (Nat.not_lt.mpr he)]
  rfl

theorem quanta?_ofQuanta {num : Nat} (h : (ofQuanta false num 1).isFinite = true) :
    (ofQuanta false num 1).quanta? = some (rounded num : Int) := by
  unfold ofQuanta at h ⊢
  simp only [Nat.one_mul] at h ⊢
  unfold rounded
  generalize exponentFor num 1 = e at h ⊢
  split at h
  · next hm =>
    -- A significand that has come up to `2^53` is halved, at the next exponent.
    have hcarry : Nat.pow 2 52 * Nat.pow 2 (e + 1) = Nat.pow 2 53 * Nat.pow 2 e := by
      calc Nat.pow 2 52 * Nat.pow 2 (e + 1)
          = Nat.pow 2 (52 + (e + 1)) := (Nat.pow_add 2 52 (e + 1)).symm
        _ = Nat.pow 2 (53 + e) := by rw [show 52 + (e + 1) = 53 + e by omega]
        _ = Nat.pow 2 53 * Nat.pow 2 e := Nat.pow_add 2 53 e
    rw [if_pos hm, quanta?_pack h, hm, hcarry]
  · next hm => rw [if_neg hm, quanta?_pack h]

theorem quanta?_of_ofInt? {n : Nat} (h : ofInt? n = some x) :
    x.quanta? = some (rounded (n * scale) : Int) := by
  have hguard : Option.guard isFinite (ofRatio false n 1) = some x := h
  obtain ⟨rfl, hfinite⟩ := Option.guard_eq_some_iff.mp hguard
  exact quanta?_ofQuanta hfinite

/-- Reading natural numbers as floating-point numbers keeps their order. -/
theorem le_of_ofInt? {m n : Nat} (h : m ≤ n) (hx : ofInt? m = some x) (hy : ofInt? n = some y) :
    x.le y = true := by
  have hrounded : rounded (m * scale) ≤ rounded (n * scale) :=
    rounded_mono (Nat.mul_le_mul_right scale h)
  have hiff := le_iff_of_quanta? (quanta?_of_ofInt? hx) (quanta?_of_ofInt? hy)
  exact hiff.mpr (Int.ofNat_le.mpr hrounded)

end Binary64

end Automation
