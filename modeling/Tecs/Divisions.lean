import Tecs.Filters

/-!
# Time steps and divisions

Both time steps of a step lie in `[DT_MIN, DT_MAX]` whatever the clock reads, a clock that runs
backwards and wraps the unsigned difference included: the speed filter clamps its own, and the
one the two laws use is bounded below by `fmaxf` and above by the reset of `_initialize_states`
(**`step_dt_mem`**).

`TECS.cpp` divides in five places.  Four of them have a divisor that cannot be zero for any
state or tuning: the speed filter's time step `speedDt` is clamped to `[DT_MIN, DT_MAX]`, the
airspeed-rate limits and the underspeed ramp divide by `math::max(·, FLT_EPSILON)`
(`tasRateDivisor`, `underspeedRampDivisor`), and `_update_STE_rate_lim`
keeps `_STE_rate_max` above and `_STE_rate_min` below zero.  The pitch law is different: it
divides by `_tas_state · g` and by `_tas_state`, unguarded, and the speed filter clips the
estimate to exactly zero.  The source says as much next to the rate limit ("at zero airspeed,
the pitch increment is unbounded").

**`step_divisors`** states the four guards and that the pitch law's divisor vanishes exactly
when the estimate does; **`zero_airspeed_divides_by_zero`** is a first step at zero airspeed.
-/

namespace Tecs

open Flt

variable {A V : Type} (G : Generators A V)

/-- The speed filter's time step is never zero. -/
lemma speedDt_ne_zero (now : UInt64) (s : TECS A V) : speedDt now s ≠ 0 := by
  obtain ⟨q, hq, hq0⟩ := pos_of_DT_MIN_le (speedDt_mem now s).1
  rw [hq, num_ofNat, ne_eq, num_inj]
  exact hq0.ne'

/-- **Both time steps lie in `[DT_MIN, DT_MAX]`**, for every pair of clock readings and every
prior state: the one the throttle and pitch laws use after the initializer, and the speed
filter's. -/
theorem step_dt_mem :
    (∀ (p : Param) (now ns : UInt64) (i : PitchThrottleInputs) (s : TECS A V),
      DT_MIN ≤ (estimateStates G p now ns i s).dt ∧ (estimateStates G p now ns i s).dt ≤ DT_MAX) ∧
    ∀ (now : UInt64) (s : TECS A V), DT_MIN ≤ speedDt now s ∧ speedDt now s ≤ DT_MAX :=
  ⟨fun p now ns i s => ⟨estimateStates_dt_ge G p now ns i s, estimateStates_dt_le G p now ns i s⟩,
    speedDt_mem⟩

/-- `math::max(x, FLT_EPSILON)` is never zero, whatever `x` is, `nan` included. -/
lemma mathMax_FLT_EPSILON_ne_zero (x : Flt) : mathMax x FLT_EPSILON ≠ 0 := by
  cases x with
  | nan => simp [FLT_EPSILON]
  | num a =>
      obtain ⟨q, hq, hq0⟩ := mathMax_FLT_EPSILON_pos a
      rw [hq]
      simpa using hq0.ne'

/-- The rate limits the control laws see are the ones `_update_STE_rate_lim` computed, from the
tuning alone. -/
lemma updateEstimates_STERateLim (p : Param) (ns : UInt64) (i : PitchThrottleInputs)
    (s : TECS A V) :
    (updateEstimates G p ns i s).STERateMax = (updateSTERateLim p s).STERateMax ∧
      (updateEstimates G p ns i s).STERateMin = (updateSTERateLim p s).STERateMin := by
  simp only [updateEstimates, calculateHeightRateSetpoint_eq]; exact ⟨rfl, rfl⟩

/-- **The energy-rate limits the control laws see straddle zero**, on every step. -/
lemma estimateStates_STERateLim_sign (p : Param) (now ns : UInt64) (i : PitchThrottleInputs)
    (s : TECS A V) :
    ∃ a b, (estimateStates G p now ns i s).STERateMax = num a ∧ 0 < a ∧
      (estimateStates G p now ns i s).STERateMin = num b ∧ b < 0 := by
  obtain ⟨⟨a, ha, ha0⟩, ⟨b, hb, hb0⟩⟩ := updateSTERateLim_sign p s
  obtain ⟨hmax, hmin⟩ := updateEstimates_STERateLim G p ns i
    (initializeStates G p i.pitch i.throttleTrim i.baroAltitude i.pitchMinClimbout i.easToTas
      (beginPitchThrottle now i s))
  exact ⟨a, b, hmax.trans ha, ha0, hmin.trans hb, hb0⟩

/-- `climb_angle_to_SEB_rate` vanishes exactly when the airspeed estimate does. -/
lemma climbAngleToSEBRate_eq_zero (s : TECS A V) : climbAngleToSEBRate s = 0 ↔ s.tasState = 0 := by
  unfold climbAngleToSEBRate
  cases s.tasState with
  | nan => simp
  | num q => simp only [CONSTANTS_ONE_G_eq, num_mul_num, num_ofNat, num_inj]; norm_num

/-- **Every division of a step has a nonzero divisor, except the pitch law's.**  The speed
filter's time step, the divisors of the airspeed-rate limits and of the underspeed ramp, and the
energy-rate limits (and their difference) are nonzero for every state and tuning; the pitch
law's `_tas_state · g` is zero exactly when `_tas_state` is. -/
theorem step_divisors :
    (∀ (now : UInt64) (s : TECS A V), speedDt now s ≠ 0) ∧
    (∀ s : TECS A V, tasRateDivisor s ≠ 0) ∧
    (∀ (k : Flt) (p : Param) (s : TECS A V), underspeedRampDivisor k p s ≠ 0) ∧
    (∀ (p : Param) (now ns : UInt64) (i : PitchThrottleInputs) (s : TECS A V),
      let e := estimateStates G p now ns i s
      e.STERateMax ≠ 0 ∧ e.STERateMin ≠ 0 ∧ e.STERateMax - e.STERateMin ≠ 0) ∧
    (∀ s : TECS A V, climbAngleToSEBRate s = 0 ↔ s.tasState = 0) := by
  refine ⟨speedDt_ne_zero, fun s => mathMax_FLT_EPSILON_ne_zero _,
    fun k p s => mathMax_FLT_EPSILON_ne_zero _, fun p now ns i s => ?_, climbAngleToSEBRate_eq_zero⟩
  obtain ⟨a, b, hmax, ha0, hmin, hb0⟩ := estimateStates_STERateLim_sign G p now ns i s
  simp only [hmax, hmin, num_sub_num, num_ofNat, ne_eq, num_inj]
  exact ⟨ha0.ne', hb0.ne, (sub_pos.mpr (hb0.trans ha0)).ne'⟩

/-- The first step, at zero airspeed with every other input finite, `EAS2TAS = 1` and a
positive tuning: the speed filter leaves the estimate at zero, and the pitch law divides by
zero. -/
theorem zero_airspeed_divides_by_zero :
    let e : TECS (Flt × Flt) (Flt × Flt) := estimateStates atRest tuning 1000 1000
      { cruise with equivalentAirspeed := num 0 } (TECS.initial atRest)
    e.tasState = 0 ∧ climbAngleToSEBRate (updateThrottleSetpoint tuning e) = 0 := by
  with_unfolding_all decide

end Tecs
