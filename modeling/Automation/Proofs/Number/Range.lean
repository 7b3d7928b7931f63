import Automation.Proofs.Value.Given
import Automation.Value.Number

namespace Automation

/-- A ratio below an even number is rounded up to it from half a unit below it on. -/
theorem roundRatio_eq_even_iff {num den k : Nat} (hden : 0 < den) (h : num < 2 * k * den) :
    roundRatio num den = 2 * k ↔ (4 * k - 1) * den ≤ 2 * num := by
  have hsum : den * (num / den) + num % den = num := Nat.div_add_mod num den
  have hrest : num % den < den := Nat.mod_lt num hden
  have hquot : num / den < 2 * k := Nat.div_lt_of_lt_mul (Nat.mul_comm den (2 * k) ▸ h)
  unfold roundRatio
  dsimp only
  generalize num / den = q at hsum hquot ⊢
  generalize num % den = r at hsum hrest ⊢
  by_cases hq : q + 1 = 2 * k
  · -- The number is odd that stands just below, so a tie goes up.
    have hodd : q % 2 = 1 := by omega
    have hcoeff : (4 * k - 1) * den = 2 * (den * q) + den := by
      rw [show 4 * k - 1 = 2 * q + 1 by omega, Nat.add_mul, Nat.one_mul, Nat.mul_assoc,
        Nat.mul_comm q den]
    rw [hcoeff]
    split
    · omega
    · split <;> omega
  · have hnear : den * (q + 1) ≤ den * (2 * k - 1) := Nat.mul_le_mul_left den (by omega)
    have hcoeff : (4 * k - 1) * den = 2 * (den * (2 * k - 1)) + den := by
      rw [show 4 * k - 1 = 2 * (2 * k - 1) + 1 by omega, Nat.add_mul, Nat.one_mul, Nat.mul_assoc,
        Nat.mul_comm (2 * k - 1) den]
    rw [Nat.mul_succ] at hnear
    rw [hcoeff]
    split
    · omega
    · split <;> omega

namespace Binary64

theorem isFinite_pack_iff (s : Bool) (m e : Nat) :
    (pack s m e).isFinite = true ↔ e ≤ maxExponent := by
  unfold pack
  split
  · exact iff_of_false (by simp [isFinite]) (by omega)
  · exact iff_of_true rfl (by omega)

theorem exponentFor_bounds (num : Nat) : num < Nat.pow 2 53 * Nat.pow 2 (exponentFor num 1) ∧
    (exponentFor num 1 = 0 ∨ Nat.pow 2 52 * Nat.pow 2 (exponentFor num 1) ≤ num) := by
  have hbelow : num < Nat.pow 2 (num.log2 + 1) := Nat.lt_log2_self
  unfold exponentFor
  rw [Nat.div_one]
  rcases Nat.lt_or_ge num.log2 53 with hlog | hlog
  · have he : num.log2 - 52 = 0 := by omega
    have hpow : Nat.pow 2 (num.log2 + 1) ≤ Nat.pow 2 53 := Nat.pow_le_pow_right (by decide) hlog
    rw [he]
    exact ⟨by simpa using Nat.lt_of_lt_of_le hbelow hpow, .inl rfl⟩
  · obtain ⟨e, he⟩ : ∃ e, num.log2 = 52 + e := ⟨num.log2 - 52, by omega⟩
    have hne : num ≠ 0 := by
      rintro rfl
      simp at hlog
    have habove : Nat.pow 2 num.log2 ≤ num := Nat.log2_self_le hne
    have hup : Nat.pow 2 (53 + e) = Nat.pow 2 53 * Nat.pow 2 e := Nat.pow_add 2 53 e
    have hdown : Nat.pow 2 (52 + e) = Nat.pow 2 52 * Nat.pow 2 e := Nat.pow_add 2 52 e
    rw [he, hdown] at habove
    rw [he, Nat.add_right_comm, hup] at hbelow
    rw [he, Nat.add_sub_cancel_left]
    exact ⟨hbelow, .inr habove⟩

/-- Half a unit of the highest exponent below `2^53` of them, rounding leaves the finite numbers. -/
theorem isFinite_ofQuanta_iff (s : Bool) (num : Nat) {top : Nat} (htop : maxExponent = top + 1) :
    (ofQuanta s num 1).isFinite = true ↔ num < (Nat.pow 2 54 - 1) * Nat.pow 2 top := by
  obtain ⟨hbelow, habove⟩ := exponentFor_bounds num
  simp only [ofQuanta, Nat.one_mul]
  generalize exponentFor num 1 = e at hbelow habove ⊢
  have h₅₂ : Nat.pow 2 52 = 4503599627370496 := rfl
  have h₅₃ : Nat.pow 2 53 = 2 * 4503599627370496 := rfl
  have h₅₄ : Nat.pow 2 54 - 1 = 4 * 4503599627370496 - 1 := rfl
  rw [h₅₃] at hbelow
  rw [h₅₂] at habove
  rw [h₅₂, h₅₃, h₅₄]
  have hdouble (i : Nat) : Nat.pow 2 (i + 1) = Nat.pow 2 i * 2 := Nat.pow_succ 2 i
  rcases Nat.lt_trichotomy e (top + 1) with he | rfl | he
  · have hpow : Nat.pow 2 e ≤ Nat.pow 2 top := Nat.pow_le_pow_right (by decide) (by omega)
    refine iff_of_true ?_ (by omega)
    split <;> exact (isFinite_pack_iff ..).mpr (by omega)
  · -- The exponent of the largest numbers: to round up is to leave them.
    have hpos : 0 < Nat.pow 2 (top + 1) := Nat.pow_pos (by decide)
    have hround := roundRatio_eq_even_iff hpos hbelow
    rw [hdouble] at hround ⊢
    split
    · next hm =>
      have := hround.mp hm
      rw [isFinite_pack_iff]
      omega
    · next hm =>
      have := mt hround.mpr hm
      rw [isFinite_pack_iff]
      omega
  · have hpow : Nat.pow 2 (top + 1 + 1) ≤ Nat.pow 2 e := Nat.pow_le_pow_right (by decide) he
    rw [hdouble, hdouble] at hpow
    refine iff_of_false ?_ (by omega)
    split <;> exact fun hf ↦ absurd ((isFinite_pack_iff ..).mp hf) (by omega)

/-- The least natural number that is nearest to no finite number. -/
def limit : Nat := Nat.pow 2 1024 - Nat.pow 2 970

theorem ofInt?_eq_none_iff {n : Int} : ofInt? n = none ↔ limit ≤ n.natAbs := by
  obtain ⟨top, htop, hlimit⟩ : ∃ top, maxExponent = top + 1 ∧
      limit * scale = (Nat.pow 2 54 - 1) * Nat.pow 2 top := ⟨2044, rfl, by decide +kernel⟩
  have hnat (s : Bool) (k : Nat) : Option.guard isFinite (ofRatio s k 1) = none ↔ limit ≤ k := by
    rw [Option.guard_eq_none_iff, ← Bool.not_eq_true, ofRatio, isFinite_ofQuanta_iff s _ htop,
      ← hlimit, Nat.mul_lt_mul_right scale_pos, Nat.not_lt]
  cases n with
  | ofNat k => exact hnat false k
  | negSucc k => exact hnat true (k + 1)

theorem exists_ofInt?_iff {n : Int} : (∃ x, ofInt? n = some x) ↔ n.natAbs < limit := by
  rw [← Option.isSome_iff_exists, ← Option.ne_none_iff_isSome, ne_eq, ofInt?_eq_none_iff,
    Nat.not_le]

end Binary64

end Automation
