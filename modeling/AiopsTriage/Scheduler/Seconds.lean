import AiopsTriage.Peak.Sustained
import Mathlib.Tactic.Linarith

/-!
# Whole seconds of a time

`int(t.timestamp())` and `int(delta.total_seconds())` divide microseconds by a million, and
the quotient is a double: it is rounded to a multiple of a power of two before the fraction is
cut off. So the result is the whole seconds of the time, or one more when the time is so late
that the last microseconds of a second are rounded up. It never lies beyond a whole second
that the time does not cross (`seconds_le`, `le_seconds`), and it grows with the time
(`seconds_mono`).
-/

namespace AiopsTriage

/-! ## Rounding to the nearest -/

section Rounding

variable {n n' d k : Nat}

/-- Rounding does not cross a whole number from below. -/
theorem roundHalfEven_le (hd : 0 < d) (h : n ≤ k * d) : roundHalfEven n d ≤ k := by
  have hdiv := Nat.div_add_mod n d
  have hmod := Nat.mod_lt n hd
  unfold roundHalfEven
  split
  · exact Nat.div_le_of_le_mul (by rw [Nat.mul_comm]; exact h)
  · next hup =>
    -- something is left over, so the quotient is not yet `k`
    have hrest : 0 < n % d := by
      rcases Nat.eq_zero_or_pos (n % d) with h0 | h0
      · exact absurd (Or.inl (by omega)) hup
      · exact h0
    have hlt : d * (n / d) < d * k := by
      rw [Nat.mul_comm d k]
      omega
    exact Nat.lt_of_mul_lt_mul_left hlt

/-- Nor from above. -/
theorem le_roundHalfEven (hd : 0 < d) (h : k * d ≤ n) : k ≤ roundHalfEven n d := by
  have hk : k ≤ n / d := (Nat.le_div_iff_mul_le hd).mpr h
  unfold roundHalfEven
  split
  · exact hk
  · exact Nat.le_succ_of_le hk

/-- Rounding keeps the order. -/
theorem roundHalfEven_mono (hd : 0 < d) (h : n ≤ n') : roundHalfEven n d ≤ roundHalfEven n' d := by
  rcases Nat.lt_or_ge (n / d) (n' / d) with hlt | hge
  · -- a whole number lies between the two
    have hbelow : n ≤ (n / d + 1) * d := by
      have hdiv := Nat.div_add_mod n d
      have hmod := Nat.mod_lt n hd
      rw [Nat.add_mul, Nat.one_mul, Nat.mul_comm (n / d) d]
      omega
    have habove : n' / d * d ≤ n' := Nat.div_mul_le_self n' d
    exact (roundHalfEven_le hd hbelow).trans (hlt.trans_le (le_roundHalfEven hd habove))
  · have hsame : n / d = n' / d := le_antisymm (Nat.div_le_div_right h) hge
    have hrest : n % d ≤ n' % d := by
      have hn := Nat.div_add_mod n d
      have hn' := Nat.div_add_mod n' d
      rw [hsame] at hn
      omega
    unfold roundHalfEven
    rw [hsame]
    split
    · split
      · exact le_refl _
      · exact Nat.le_succ _
    · next hup =>
      rw [if_neg]
      rintro (hless | ⟨heven, hparity⟩)
      · exact hup (.inl (by omega))
      · exact hup ((Nat.lt_or_ge (2 * (n % d)) d).imp id fun hge => ⟨by omega, hparity⟩)

/-- Rounding up goes at most half a step. -/
theorem roundHalfEven_error (hd : 0 < d) : 2 * (roundHalfEven n d * d) ≤ 2 * n + d := by
  have hdiv := Nat.div_add_mod n d
  have hmod := Nat.mod_lt n hd
  unfold roundHalfEven
  split
  · rw [Nat.mul_comm (n / d) d]
    omega
  · next hup =>
    have hhalf : d ≤ 2 * (n % d) := by
      by_contra hless
      exact hup (.inl (by omega))
    rw [Nat.add_mul, Nat.one_mul, Nat.mul_comm (n / d) d]
    omega

/-- What lies at most half a step below an even number is rounded to it. -/
theorem roundHalfEven_of_near (heven : k % 2 = 0) (hlt : n < k * d) (hnear : 2 * (k * d) ≤ 2 * n + d) :
    k ≤ roundHalfEven n d := by
  obtain ⟨j, rfl⟩ : ∃ j, k = j + 1 := by
    cases k with
    | zero => simp at hlt
    | succ j => exact ⟨j, rfl⟩
  rw [Nat.add_mul, Nat.one_mul] at hlt hnear
  have hd : 0 < d := by omega
  have hquotient : n / d = j := by
    refine Nat.div_eq_of_lt_le ?_ ?_
    · omega
    · rw [Nat.add_mul, Nat.one_mul]
      exact hlt
  have hdiv := Nat.div_add_mod n d
  rw [hquotient, Nat.mul_comm d j] at hdiv
  unfold roundHalfEven
  rw [hquotient, if_neg]
  rintro (hless | ⟨-, hparity⟩)
  · omega
  · omega

end Rounding

/-! ## Seconds -/

/-- How many binary places the seconds have. -/
def secondBits (micros : Nat) : Nat := 52 - Nat.log2 (micros / 1000000)

/-- The seconds of a time after the epoch. -/
theorem timestampSeconds_ofNat (micros : Nat) :
    timestampSeconds micros =
      (roundHalfEven (micros * 2 ^ secondBits micros) 1000000 / 2 ^ secondBits micros : Nat) := by
  rw [timestampSeconds, Int.natAbs_natCast]
  exact if_pos (Int.natCast_nonneg micros)

/-- Before the epoch the seconds are those of the time to it. -/
theorem timestampSeconds_neg (micros : Nat) :
    timestampSeconds (-(micros : Int)) = -timestampSeconds micros := by
  unfold timestampSeconds
  rw [Int.natAbs_neg, Int.natAbs_natCast, if_pos (Int.natCast_nonneg micros)]
  split
  · next hnonneg =>
    have hnonneg : (0 : Int) ≤ -(micros : Int) := hnonneg
    have hzero : micros = 0 := by omega
    subst hzero
    rfl
  · rfl

section Seconds

variable {t u : Nat} {k : Nat}

/-- A time up to a whole second has at most its seconds. -/
theorem seconds_le (h : t ≤ k * 1000000) : timestampSeconds t ≤ k := by
  rw [timestampSeconds_ofNat, Int.ofNat_le]
  have hround : roundHalfEven (t * 2 ^ secondBits t) 1000000 ≤ k * 2 ^ secondBits t := by
    refine roundHalfEven_le (by decide) ?_
    rw [Nat.mul_right_comm]
    exact Nat.mul_le_mul_right _ h
  exact Nat.div_le_of_le_mul (hround.trans (Nat.mul_comm _ _).le)

/-- A time from a whole second on has at least its seconds. -/
theorem le_seconds (h : k * 1000000 ≤ t) : (k : Int) ≤ timestampSeconds t := by
  rw [timestampSeconds_ofNat, Int.ofNat_le]
  refine (Nat.le_div_iff_mul_le (Nat.two_pow_pos _)).mpr (le_roundHalfEven (by decide) ?_)
  rw [Nat.mul_right_comm]
  exact Nat.mul_le_mul_right _ h

/-- A whole number of seconds is what it is. -/
theorem seconds_whole (k : Nat) : timestampSeconds (k * 1000000 : Nat) = k :=
  le_antisymm (seconds_le le_rfl) (le_seconds le_rfl)

/-- Seconds of a time after the epoch are not negative. -/
theorem seconds_nonneg : 0 ≤ timestampSeconds t := by
  have hzero := le_seconds (t := t) (k := 0) (by omega)
  exact hzero

/-- Later times have no fewer seconds. -/
theorem seconds_mono (h : t ≤ u) : timestampSeconds t ≤ timestampSeconds u := by
  rcases Nat.lt_or_ge (t / 1000000) (u / 1000000) with hlt | hge
  · calc timestampSeconds t ≤ (t / 1000000 + 1 : Nat) := seconds_le (by omega)
      _ ≤ (u / 1000000 : Nat) := by exact_mod_cast hlt
      _ ≤ timestampSeconds u := le_seconds (by omega)
  · -- within one second both are rounded to the same places
    have hbits : secondBits t = secondBits u := by
      rw [secondBits, secondBits, le_antisymm (Nat.div_le_div_right h) hge]
    rw [timestampSeconds_ofNat, timestampSeconds_ofNat, Int.ofNat_le, hbits]
    exact Nat.div_le_div_right (roundHalfEven_mono (by decide) (Nat.mul_le_mul_right _ h))

/-- What is rounded up to a second lies at most half a step below it. -/
theorem near_of_le_seconds (h : (k : Int) ≤ timestampSeconds t) :
    2 * (k * 1000000) * 2 ^ secondBits t ≤ 2 * t * 2 ^ secondBits t + 1000000 := by
  rw [timestampSeconds_ofNat, Int.ofNat_le] at h
  have hround := (Nat.le_div_iff_mul_le (Nat.two_pow_pos _)).mp h
  have herror := roundHalfEven_error (n := t * 2 ^ secondBits t) (d := 1000000) (by decide)
  have hscaled := Nat.mul_le_mul_right 1000000 hround
  linarith

/-- Conversely, what lies at most half a step below a second is rounded up to it, before the
year in which seconds have no binary places any more. -/
theorem le_seconds_of_near (hplaces : 0 < secondBits t) (hlt : t < k * 1000000)
    (h : 2 * (k * 1000000) * 2 ^ secondBits t ≤ 2 * t * 2 ^ secondBits t + 1000000) :
    (k : Int) ≤ timestampSeconds t := by
  have heven : k * 2 ^ secondBits t % 2 = 0 := by
    obtain ⟨b, hb⟩ := Nat.exists_eq_succ_of_ne_zero hplaces.ne'
    rw [hb, Nat.pow_succ, ← Nat.mul_assoc, Nat.mul_mod_left]
  rw [timestampSeconds_ofNat, Int.ofNat_le]
  refine (Nat.le_div_iff_mul_le (Nat.two_pow_pos _)).mpr (roundHalfEven_of_near heven ?_ ?_)
  · rw [Nat.mul_right_comm]
    exact Nat.mul_lt_mul_of_pos_right hlt (Nat.two_pow_pos _)
  · linarith

/-- Half a second has no whole ones. -/
theorem seconds_half (h : t ≤ 500000) : timestampSeconds t = 0 := by
  have hbits : secondBits t = 52 := by
    rw [secondBits, Nat.div_eq_of_lt (by omega)]
    rfl
  rw [timestampSeconds_ofNat, hbits]
  have hround : roundHalfEven (t * 2 ^ 52) 1000000 ≤ 2 ^ 51 := roundHalfEven_le (by decide) (by omega)
  have hdiv : roundHalfEven (t * 2 ^ 52) 1000000 / 2 ^ 52 = 0 := Nat.div_eq_of_lt (by omega)
  rw [hdiv]
  rfl

/-- Every time a `datetime` can hold has binary places. -/
theorem secondBits_pos (h : (t : Int) ≤ maxInstant) : 0 < secondBits t := by
  have hseconds : t / 1000000 < 2 ^ 38 := by
    rw [maxInstant] at h
    omega
  have hlog : Nat.log2 (t / 1000000) < 38 := by
    rcases Nat.eq_zero_or_pos (t / 1000000) with hzero | hpos
    · rw [hzero]
      decide
    · exact (Nat.log2_lt hpos.ne').mpr hseconds
  rw [secondBits]
  omega

/-- Earlier times have no fewer places. -/
theorem secondBits_anti (h : t ≤ u) : secondBits u ≤ secondBits t := by
  have hlog : Nat.log2 (t / 1000000) ≤ Nat.log2 (u / 1000000) := by
    rw [Nat.log2_eq_log_two, Nat.log2_eq_log_two]
    exact Nat.log_mono_right (Nat.div_le_div_right h)
  rw [secondBits, secondBits]
  omega

end Seconds

end AiopsTriage
