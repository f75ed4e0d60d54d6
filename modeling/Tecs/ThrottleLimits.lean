import Tecs.Divisions

/-!
# The throttle: integrator, slew limit and range

`_update_throttle_setpoint` clamps the proportional demand to `[_throttle_setpoint_min,
_throttle_setpoint_max]`, integrates with back-calculation anti-windup against the band that
demand leaves, slews the blended demand around the last published throttle, and clamps the
result to the limits once more.  The limits are those in force after the initializer, whose
climbout branch replaces the lower one by `_throttle_setpoint_max - 0.01`.

* **`throttleSetpointPD_mem`** — if the integrator input is a number, so is everything it is
  computed from, and the proportional demand lies within the limits;
* **`throttleIntegStateNext_mem`** — one step of the integrator keeps it within
  `[lo - hi - δ, hi - lo + δ]`;
* **`throttleIntegState_bounded`** — hence so does every run whose limits lie within `[lo, hi]` and
  whose integrator inputs are at most `δ` in magnitude, after every step;
* **`updatePitchThrottle_throttle_slew`** — the published throttle moves by at most the slew
  increment, if the previous one lies within this step's limits;
* **`updatePitchThrottle_throttle_reinit`** — on a step that re-initialises, the slew limit
  starts from `throttle_trim`, so the published throttle lies within one slew increment of the
  trim, whatever the previous output was;
* **`updatePitchThrottle_throttle_mem`** — the published throttle lies within the limits in force.

`throttle_jumps_at_climbout` and `climbout_throttle_below_min` are the two ways in which the
climbout override breaks the slew bound and the caller's range.
-/

namespace Tecs

open Flt

variable {A V : Type} (G : Generators A V)

/-! ## One step of the throttle law -/

section Law
variable (p : Param) (t : TECS A V)

/-- **If the integrator input is a number, the proportional demand is a number within the
limits**: the filtered error, the raw error and the energy-rate setpoints behind the input are
numbers, and so are the feedforward and the gain, the rate limits being numbers on either side of
zero. -/
lemma throttleSetpointPD_mem {m M : ℚ} (hmin : t.throttleSetpointMin = num m)
    (hmax : t.throttleSetpointMax = num M) (hmM : m ≤ M) (htrim : ∃ q, t.throttleTrim = num q)
    (hrate : ∃ a b, t.STERateMax = num a ∧ 0 < a ∧ t.STERateMin = num b ∧ b < 0)
    (hin : throttleIntegInput p t ≠ nan) :
    ∃ c, throttleSetpointPD p t = num c ∧ m ≤ c ∧ c ≤ M := by
  obtain ⟨q, hq⟩ := htrim
  obtain ⟨a, b, ha, ha0, hb, hb0⟩ := hrate
  have hF : (STERateErrorFilterNext t).getState ≠ nan := fun h =>
    hin (by rw [throttleIntegInput, h]; simp)
  have hraw : STERateErrorRaw t ≠ nan := fun h => hF (by simp [STERateErrorFilterNext, h])
  have hsp : t.SPERateSetpoint + t.SKERateSetpoint +
      (p.loadFactorCorrection * (p.loadFactor - 1) : ℚ) ≠ nan := by
    simp only [STERateErrorRaw, ne_eq, add_eq_nan, sub_eq_nan, neg_eq_nan, not_or] at hraw
    simp [hraw]
  obtain ⟨σ, hσ⟩ : ∃ σ, STERateSetpointNext p t = num σ := by
    rw [STERateSetpointNext, ha, hb]
    obtain ⟨σ, hσ, -⟩ := eq_num_of_le (constrain_mem hsp (by linarith : b ≤ a)).1
    exact ⟨σ, hσ⟩
  obtain ⟨π, hπ⟩ : ∃ π, throttlePredicted p t = num π := by
    unfold throttlePredicted
    rw [hσ, ha, hb, hq, hmax, hmin]
    split_ifs <;>
      simp only [num_div_num ha0.ne', num_div_num hb0.ne, num_mul_num, num_add_num, num_sub_num,
        num_inj, exists_eq']
  obtain ⟨f, hf⟩ := exists_num_of_ne_nan hF
  have hS : STERateToThrottle t = num (1 / (a - b)) := by
    rw [STERateToThrottle, ha, hb, num_sub_num, num_ofNat, num_div_num (by linarith)]
  rw [throttleSetpointPD, hf, hS, hπ, hmin, hmax, num_mul_num, num_mul_num, num_add_num]
  exact constrain_num_mem hmM

/-- **One step of the integrator keeps it within `[lo - hi - δ, hi - lo + δ]`**, when the
limits lie within `[lo, hi]` and the input is at most `δ` in magnitude: back-calculation only
lets the integrator move towards the band `[min - throttle, max - throttle] ⊆ [lo - hi, hi - lo]`,
by at most `δ`, and climbout pins it inside the band. -/
lemma throttleIntegStateNext_mem {m M lo hi δ x : ℚ} (hmin : t.throttleSetpointMin = num m)
    (hmax : t.throttleSetpointMax = num M) (hmM : m ≤ M) (hlo : lo ≤ m) (hhi : M ≤ hi)
    (htrim : ∃ q, t.throttleTrim = num q)
    (hrate : ∃ a b, t.STERateMax = num a ∧ 0 < a ∧ t.STERateMin = num b ∧ b < 0)
    (hin : fabsf (throttleIntegInput p t) ≤ num δ)
    (hx : t.throttleIntegState = num x) (hxb : lo - hi - δ ≤ x ∧ x ≤ hi - lo + δ) :
    ∃ y, throttleIntegStateNext p t = num y ∧ lo - hi - δ ≤ y ∧ y ≤ hi - lo + δ := by
  obtain ⟨u, hu, hu1, hu2⟩ := eq_num_of_fabsf_le hin
  obtain ⟨c, hc, hmc, hcM⟩ := throttleSetpointPD_mem p t hmin hmax hmM htrim hrate (by simp [hu])
  unfold throttleIntegStateNext
  simp only [hc, hmin, hmax, hx, hu, num_sub_num, num_add_num, num_ofNat, mathMin_num, mathMax_num,
    gt_iff_lt, num_lt_num]
  by_cases hair : p.airspeedEnabled = true
  swap
  · -- without an airspeed sensor the integrator is left alone
    rw [if_neg hair]
    exact ⟨x, rfl, hxb⟩
  rw [if_pos hair]
  by_cases hgain : 0 < p.integratorGainThrottle
  swap
  · rw [if_neg hgain]
    exact ⟨0, rfl, by linarith, by linarith⟩
  rw [if_pos hgain]
  by_cases hclimb : t.climboutModeActive = true
  · -- climbout pins the integrator at the top of the band
    rw [if_pos hclimb]
    exact ⟨M - c, rfl, by linarith, by linarith⟩
  rw [if_neg hclimb]
  by_cases hA : M - c < x
  · -- above the band: the input may only bring it down
    rw [if_pos hA, num_add_num]
    refine ⟨_, rfl, ?_, ?_⟩ <;> split_ifs <;> linarith
  rw [if_neg hA]
  by_cases hB : x < m - c
  · -- below the band: the input may only bring it up
    rw [if_pos hB, num_add_num]
    refine ⟨_, rfl, ?_, ?_⟩ <;> split_ifs <;> linarith
  rw [if_neg hB, num_add_num]
  exact ⟨_, rfl, by linarith, by linarith⟩

/-- **One step of the throttle law moves the published throttle by at most the slew
increment**, from a last throttle within the limits, when the slew limit is active and the
blended demand is a number: the slew clamp keeps the demand within the increment of the last
throttle, and the final range clamp only moves it towards that throttle. -/
lemma updateThrottleSetpoint_slew {m M l : ℚ} (hmin : t.throttleSetpointMin = num m)
    (hmax : t.throttleSetpointMax = num M) (hlast : t.lastThrottleSetpoint = num l)
    (hl : m ≤ l ∧ l ≤ M) (hdt : DT_MIN ≤ t.dt) (hslew : 0.01 < p.throttleSlewrate)
    (hblend : throttleSetpointBlended p t ≠ nan) :
    fabsf ((updateThrottleSetpoint p t).lastThrottleSetpoint - num l) ≤
      throttleIncrementLimit p t := by
  obtain ⟨d, hd, hd0⟩ := pos_of_DT_MIN_le hdt
  obtain ⟨v, hv⟩ := exists_num_of_ne_nan hblend
  have hactive : fabsf p.throttleSlewrate > 0.01 := by
    rw [fabsf_num, gt_iff_lt, num_ofScientific, num_lt_num]
    exact lt_of_lt_of_le hslew (le_abs_self _)
  set k := d * (M - m) * p.throttleSlewrate
  have hk : 0 ≤ k := mul_nonneg (mul_nonneg hd0.le (sub_nonneg.mpr (hl.1.trans hl.2)))
    (le_of_lt (lt_trans (by norm_num) hslew))
  -- a decimal literal in the context makes every later `linarith` normalise it again
  clear hslew
  have hinc : throttleIncrementLimit p t = num k := by
    rw [throttleIncrementLimit, hd, hmax, hmin, num_sub_num, num_mul_num, num_mul_num]
  obtain ⟨w₁, hw₁, h1, h2⟩ :=
    constrain_num_mem (v := v) ((sub_le_self l hk).trans (le_add_of_nonneg_right hk))
  obtain ⟨w₂, hw₂, h3, h4⟩ := constrain_between (v := w₁) hl.1 hl.2
  have hslewed : throttleSetpointSlewed p t = num w₁ := by
    rw [throttleSetpointSlewed, if_pos hactive, hv, hlast, hinc, num_sub_num, num_add_num, hw₁]
  show fabsf (constrain (throttleSetpointSlewed p t) t.throttleSetpointMin
    t.throttleSetpointMax - num l) ≤ _
  rw [hslewed, hmin, hmax, hw₂, hinc, num_sub_num, fabsf_num, num_le_num, abs_le]
  constructor
  · rcases min_le_iff.mp h3 with h | h <;> linarith
  · rcases le_max_iff.mp h4 with h | h <;> linarith

end Law

/-! ## The integrator over runs -/

/-- The assumption of the integrator bound on one call: on `update_pitch_throttle`, the limits
in force lie within `[lo, hi]`, the lower one not above the upper one, and the integrator input
is at most `δ` in magnitude. -/
def throttleStepBounded (lo hi δ : ℚ) (p : Param) : Call → TECS A V → Prop
  | .updateVehicleStateEstimates _ _, _ => True
  | .updatePitchThrottle now ns i, s =>
      num lo ≤ (estimateStates G p now ns i s).throttleSetpointMin ∧
      (estimateStates G p now ns i s).throttleSetpointMin ≤
        (estimateStates G p now ns i s).throttleSetpointMax ∧
      (estimateStates G p now ns i s).throttleSetpointMax ≤ num hi ∧
      fabsf (throttleIntegInput p (estimateStates G p now ns i s)) ≤ num δ

section Run
variable {lo hi δ : ℚ} (p : Param) (now ns : UInt64) (i : PitchThrottleInputs) (s : TECS A V)

/-- A step of `update_pitch_throttle` under the assumption keeps the integrator within
`[lo - hi - δ, hi - lo + δ]`; a re-initialising step starts it from zero, which lies there. -/
lemma updatePitchThrottle_throttleIntegState_mem (hlh : lo ≤ hi) (hδ : 0 ≤ δ)
    (hH : throttleStepBounded G lo hi δ p (.updatePitchThrottle now ns i) s)
    (hx : ∃ x, s.throttleIntegState = num x ∧ lo - hi - δ ≤ x ∧ x ≤ hi - lo + δ) :
    ∃ y, (updatePitchThrottle G p now ns i s).throttleIntegState = num y ∧
      lo - hi - δ ≤ y ∧ y ≤ hi - lo + δ := by
  obtain ⟨hlo, hmM, hhi, hin⟩ := hH
  obtain ⟨m, M, hm, hM, hmM'⟩ := exists_num_of_le hmM
  obtain ⟨x, hx', hxb⟩ : ∃ x, (estimateStates G p now ns i s).throttleIntegState = num x ∧
      lo - hi - δ ≤ x ∧ x ≤ hi - lo + δ := by
    rw [(estimateStates_throttle G p now ns i s).2]
    split_ifs
    · exact ⟨0, rfl, by linarith, by linarith⟩
    · exact hx
  rw [(updatePitchThrottle_throttle G p now ns i s).1]
  exact throttleIntegStateNext_mem p _ hm hM hmM' (num_le_num.mp (hm ▸ hlo))
    (num_le_num.mp (hM ▸ hhi)) ⟨_, estimateStates_throttleTrim G p now ns i s⟩
    (estimateStates_STERateLim_sign G p now ns i s) hin hx' hxb

end Run

/-- **The throttle integrator stays within `[lo - hi - δ, hi - lo + δ]`** over every run in which,
at every step, the throttle limits in force lie within `[lo, hi]` (the lower not above the upper)
and the integrator input is at most `δ` in magnitude. -/
theorem throttleIntegState_bounded (lo hi δ : ℚ) (hlh : lo ≤ hi) (hδ : 0 ≤ δ) {s : TECS A V}
    (hs : ReachableUnder G (throttleStepBounded G lo hi δ) s) :
    ∃ x, s.throttleIntegState = num x ∧ lo - hi - δ ≤ x ∧ x ≤ hi - lo + δ := by
  induction hs with
  | initial => exact ⟨0, rfl, by linarith, by linarith⟩
  | call p c _ hH ih =>
      cases c with
      | updateVehicleStateEstimates now i => exact ih
      | updatePitchThrottle now ns i =>
          exact updatePitchThrottle_throttleIntegState_mem G p now ns i _ hlh hδ hH ih

/-- A cruise step from the initial state, with limits `[0, 1]` and inputs bounded by 1. -/
theorem cruise_throttleIntegState_bounded :
    ∃ x, (updatePitchThrottle atRest tuning 1000 1000 cruise
      (TECS.initial atRest)).throttleIntegState = num x ∧ 0 - 1 - 1 ≤ x ∧ x ≤ 1 - 0 + 1 :=
  throttleIntegState_bounded atRest 0 1 1 (by norm_num) (by norm_num)
    (.call tuning (.updatePitchThrottle 1000 1000 cruise) .initial
      (by unfold throttleStepBounded; with_unfolding_all decide))

/-! ## The published throttle -/

section Published
variable (p : Param) (now ns : UInt64) (i : PitchThrottleInputs) (s : TECS A V)

/-- **The published throttle moves by at most the slew increment** of this step, on a step that
does not re-initialise, with the slew limit active, from a previous throttle within this step's
limits in force, when the blended demand is a number. -/
theorem updatePitchThrottle_throttle_slew (hr : resetsStates (beginPitchThrottle now i s) = false)
    (hslew : 0.01 < p.throttleSlewrate)
    (hprev : (updatePitchThrottle G p now ns i s).throttleSetpointMin ≤ s.lastThrottleSetpoint ∧
      s.lastThrottleSetpoint ≤ (updatePitchThrottle G p now ns i s).throttleSetpointMax)
    (hblend : throttleSetpointBlended p (estimateStates G p now ns i s) ≠ nan) :
    fabsf ((updatePitchThrottle G p now ns i s).lastThrottleSetpoint - s.lastThrottleSetpoint) ≤
      (updatePitchThrottle G p now ns i s).dt *
        ((updatePitchThrottle G p now ns i s).throttleSetpointMax -
          (updatePitchThrottle G p now ns i s).throttleSetpointMin) * p.throttleSlewrate := by
  simp only [updatePitchThrottle_throttleSetpointMin, updatePitchThrottle_throttleSetpointMax,
    updatePitchThrottle_dt, (updatePitchThrottle_throttle G p now ns i s).2] at hprev ⊢
  obtain ⟨m, l, hm, hl, hml⟩ := exists_num_of_le hprev.1
  obtain ⟨M, hM, hlM⟩ := eq_num_of_le (hl ▸ hprev.2)
  have hlast : (estimateStates G p now ns i s).lastThrottleSetpoint = num l := by
    rw [(estimateStates_throttle G p now ns i s).1, if_neg (by simp [hr]), hl]
  rw [hl]
  exact updateThrottleSetpoint_slew p _ hm hM hlast ⟨hml, hlM⟩
    (estimateStates_dt_ge G p now ns i s) hslew hblend

/-- **A re-initialising step starts the throttle from `throttle_trim`**: with the slew limit
active and `throttle_min ≤ throttle_trim ≤ throttle_max`, the published throttle differs from the
trim by at most the slew increment, whatever the state before the step. -/
theorem updatePitchThrottle_throttle_reinit (hr : resetsStates (beginPitchThrottle now i s) = true)
    (hslew : 0.01 < p.throttleSlewrate)
    (htrim : i.throttleMin ≤ i.throttleTrim ∧ i.throttleTrim ≤ i.throttleMax)
    (hblend : throttleSetpointBlended p (estimateStates G p now ns i s) ≠ nan) :
    fabsf ((updatePitchThrottle G p now ns i s).lastThrottleSetpoint - i.throttleTrim) ≤
      (updatePitchThrottle G p now ns i s).dt *
        ((updatePitchThrottle G p now ns i s).throttleSetpointMax -
          (updatePitchThrottle G p now ns i s).throttleSetpointMin) * p.throttleSlewrate := by
  simp only [updatePitchThrottle_throttleSetpointMin, updatePitchThrottle_throttleSetpointMax,
    updatePitchThrottle_dt, (updatePitchThrottle_throttle G p now ns i s).2]
  obtain ⟨hm, hM⟩ := estimateStates_throttleSetpoint G p now ns i s
  rw [if_pos hr] at hm
  have hlast := (estimateStates_throttle G p now ns i s).1
  rw [if_pos hr] at hlast
  exact updateThrottleSetpoint_slew p _ hm hM hlast htrim (estimateStates_dt_ge G p now ns i s)
    hslew hblend

/-- A first cruise step, which re-initialises, with the slew limit at 1 per second. -/
theorem cruise_throttle_reinit :
    let q : Param := { tuning with throttleSlewrate := 1 }
    let s₁ : TECS (Flt × Flt) (Flt × Flt) :=
      updatePitchThrottle atRest q 1000 1000 cruise (TECS.initial atRest)
    fabsf (s₁.lastThrottleSetpoint - cruise.throttleTrim) ≤
      s₁.dt * (s₁.throttleSetpointMax - s₁.throttleSetpointMin) * q.throttleSlewrate :=
  updatePitchThrottle_throttle_reinit atRest _ 1000 1000 cruise _ (by with_unfolding_all decide)
    (by norm_num) (by norm_num [cruise]) (by with_unfolding_all decide)

/-- Two cruise steps with the slew limit at 1 per second. -/
theorem cruise_throttle_slew :
    let q : Param := { tuning with throttleSlewrate := 1 }
    let s₁ : TECS (Flt × Flt) (Flt × Flt) :=
      updatePitchThrottle atRest q 1000 1000 cruise (TECS.initial atRest)
    let s₂ : TECS (Flt × Flt) (Flt × Flt) := updatePitchThrottle atRest q 21000 21000 cruise s₁
    fabsf (s₂.lastThrottleSetpoint - s₁.lastThrottleSetpoint) ≤
      s₂.dt * (s₂.throttleSetpointMax - s₂.throttleSetpointMin) * q.throttleSlewrate :=
  updatePitchThrottle_throttle_slew atRest _ 21000 21000 cruise _ (by with_unfolding_all decide)
    (by norm_num) (by with_unfolding_all decide) (by with_unfolding_all decide)

/-- Cruise with the slew limit at 1 per second, then a climbout step that does not
re-initialise: the lower limit in force jumps to `0.99`, the final range clamp lifts the throttle
there from `0.5`, far beyond the slew increment `0.02 · 0.01 · 1`. -/
theorem throttle_jumps_at_climbout :
    let q : Param := { tuning with throttleSlewrate := 1 }
    let c : PitchThrottleInputs := { cruise with climbOutSetpoint := true }
    let s₁ : TECS (Flt × Flt) (Flt × Flt) :=
      updatePitchThrottle atRest q 1000 1000 cruise (TECS.initial atRest)
    let s₂ : TECS (Flt × Flt) (Flt × Flt) := updatePitchThrottle atRest q 21000 21000 c s₁
    resetsStates (beginPitchThrottle 21000 c s₁) = false ∧
      s₂.dt * (s₂.throttleSetpointMax - s₂.throttleSetpointMin) * q.throttleSlewrate <
        fabsf (s₂.lastThrottleSetpoint - s₁.lastThrottleSetpoint) := by
  with_unfolding_all decide

/-- **The published throttle lies within the limits in force**, whenever those are not empty
and the slewed demand is a number: the final clamp of `_update_throttle_setpoint`. -/
theorem updatePitchThrottle_throttle_mem
    (hlim : (estimateStates G p now ns i s).throttleSetpointMin ≤
      (estimateStates G p now ns i s).throttleSetpointMax)
    (hslewed : throttleSetpointSlewed p (estimateStates G p now ns i s) ≠ nan) :
    (estimateStates G p now ns i s).throttleSetpointMin ≤
        (updatePitchThrottle G p now ns i s).lastThrottleSetpoint ∧
      (updatePitchThrottle G p now ns i s).lastThrottleSetpoint ≤
        (estimateStates G p now ns i s).throttleSetpointMax := by
  obtain ⟨m, M, hm, hM, hmM⟩ := exists_num_of_le hlim
  rw [(updatePitchThrottle_throttle G p now ns i s).2, hm, hM]
  exact constrain_mem hslewed hmM

end Published

/-- Throttle limits `[0.5, 0.5]` and trim `0.5`, without an airspeed sensor, in a steep turn
(load factor 0 with correction 100, so the energy-rate demand sits at its lower limit): after a
first step, a climbout step that does not re-initialise publishes `0.49`, below `throttle_min`.
The climbout branch of the initializer set the lower limit to `throttle_max - 0.01`. -/
theorem climbout_throttle_below_min :
    let q : Param :=
      { tuning with airspeedEnabled := false, loadFactor := 0, loadFactorCorrection := 100 }
    let i₀ : PitchThrottleInputs := { cruise with throttleMin := 1 / 2, throttleMax := 1 / 2 }
    let i : PitchThrottleInputs := { i₀ with climbOutSetpoint := true }
    let s₁ : TECS (Flt × Flt) (Flt × Flt) :=
      updatePitchThrottle atRest q 1000 1000 i₀ (TECS.initial atRest)
    let s₂ : TECS (Flt × Flt) (Flt × Flt) := updatePitchThrottle atRest q 21000 21000 i s₁
    resetsStates (beginPitchThrottle 21000 i s₁) = false ∧ i.throttleMin ≤ i.throttleMax ∧
      s₂.lastThrottleSetpoint < (i.throttleMin : Flt) := by
  with_unfolding_all decide

end Tecs
