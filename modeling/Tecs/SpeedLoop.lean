import Mathlib.Tactic.Ring
import Tecs.Descent

/-!
# The speed loop: the underspeed ramp, the weights and the demands

The stages of `update_pitch_throttle` that shape what the two laws are asked for, each bounded
for every state and every tuning.

* **`underspeedRamp_antitone`** — `_detect_underspeed` ramps `_percent_undersped` from `1` at
  `tas_fully_undersped` down to `0` at `tas_starting_to_underspeed`.  For every value of
  `_TAS_min`, of the trim airspeed and of the error percentage, degenerate ramps included, the
  ratio lies in `[0, 1]`, does not increase with the airspeed estimate, and is `1` up to
  `tas_fully_undersped`: `math::max` against `0` and against `FLT_EPSILON` turns every
  degenerate ramp into a step.
* **`speedHeightWeights_mem_mono`** — `_update_speed_height_weights` leaves both weights in
  `[0, 1]` with one of them `1`, whatever the tuned weight and the underspeed ratio are; with the
  sensor enabled and outside climbout, the kinetic weight grows and the potential one falls as
  the ratio grows.
* **`updatePitchThrottle_TASRateSetpoint`** — the airspeed-rate demand points towards the speed
  setpoint and is at most the proportional demand, because `_update_STE_rate_lim` keeps the rate
  limits on either side of zero for every tuning.  This needs a finite airspeed estimate, which a
  step that re-initialises on a `nan` reading does not have
  (`TASRateSetpoint_nan_after_dropout`).
* **`updatePitchThrottle_TASSetpointAdj`** — the published speed setpoint lies between
  `_TAS_min` and the commanded setpoint clamped to the speed limits, and is `_TAS_min` under the
  descent latch: neither the underspeed blend nor the latch raises the speed demand.
-/

namespace Tecs

open Flt

variable {A V : Type} (G : Generators A V)

/-! ## The underspeed ramp -/

/-- With detection enabled, `_detect_underspeed()` is the ramp at `kTASErrorPercentage`. -/
lemma detectUnderspeed_percentUndersped (p : Param) (s : TECS A V) :
    (detectUnderspeed p s).percentUndersped =
      if !p.detectUnderspeedEnabled then 0 else underspeedRamp kTASErrorPercentage p s := rfl

/-- The two error bounds subtracted one after the other, as the source does, are twice the
bound subtracted once. -/
lemma sub_sub_eq_sub_two_mul (x k e : Flt) : x - k * e - k * e = x - 2 * k * e := by
  cases x <;> cases k <;> cases e <;> simp only [num_sub_num, num_mul_num, num_ofNat, nan_sub,
    sub_nan, nan_mul, mul_nan, num_inj]
  ring

/-- **The ramp's corners do not depend on the airspeed estimate, and its slope is finite**:
`tas_fully_undersped` is a number `F`, the denominator a positive number `D`, whatever `k`, the
trim and `_TAS_min` are. -/
lemma underspeedRamp_corners (k : Flt) (p : Param) (s : TECS A V) :
    ∃ F D : ℚ, 0 < D ∧ mathMax (s.TASMin - 2 * k * p.equivalentAirspeedTrim) 0 = num F ∧
      ∀ t, underspeedRamp k p { s with tasState := t } = 1 - constrain ((t - num F) / num D) 0 1 := by
  obtain ⟨F, hF, -⟩ :=
    mathMax_num_right (s.TASMin - k * p.equivalentAirspeedTrim - k * p.equivalentAirspeedTrim) 0
  obtain ⟨S, hS, -⟩ := mathMax_num_right (s.TASMin - k * p.equivalentAirspeedTrim) F
  obtain ⟨D, hD, hεD⟩ := mathMax_num_right (num S - num F) (1 / 8388608)
  refine ⟨F, D, lt_of_lt_of_le (by norm_num) hεD, by rwa [← sub_sub_eq_sub_two_mul], fun t => ?_⟩
  simp only [underspeedRamp, underspeedRampDivisor, tasStartingToUnderspeed, tasFullyUndersped,
    num_ofNat] at hF ⊢
  rw [hF, hS]
  exact congrArg (fun d => 1 - constrain ((t - num F) / d) 0 1) hD

/-- `1 - constrain(x, 0, 1)` of a number lies in `[0, 1]`. -/
lemma one_sub_constrain_mem {x : Flt} (hx : x ≠ nan) :
    0 ≤ 1 - constrain x 0 1 ∧ 1 - constrain x 0 1 ≤ 1 := by
  obtain ⟨c, hc, hc0, hc1⟩ : ∃ c, constrain x 0 1 = num c ∧ 0 ≤ c ∧ c ≤ 1 := by
    obtain ⟨h0, h1⟩ := constrain_mem (l := 0) (h := 1) hx zero_le_one
    obtain ⟨c, hc, hc0⟩ := eq_num_of_le h0
    exact ⟨c, hc, hc0, num_le_num.mp (hc ▸ h1)⟩
  rw [hc]
  simp only [num_ofNat, num_sub_num, num_le_num]
  constructor <;> linarith

/-- `1 - constrain(x, 0, 1)` is `nan` or lies in `[0, 1]`. -/
lemma one_sub_constrain_cases (x : Flt) :
    1 - constrain x 0 1 = nan ∨ (0 ≤ 1 - constrain x 0 1 ∧ 1 - constrain x 0 1 ≤ 1) := by
  by_cases hx : x = nan
  · left; simp [hx]
  · exact .inr (one_sub_constrain_mem hx)

/-- `_percent_undersped` after `_detect_underspeed` is `0`, `nan`, or in `[0, 1]`. -/
lemma detectUnderspeed_percentUndersped_cases (p : Param) (s : TECS A V) :
    (detectUnderspeed p s).percentUndersped = nan ∨
      (0 ≤ (detectUnderspeed p s).percentUndersped ∧ (detectUnderspeed p s).percentUndersped ≤ 1) := by
  rw [detectUnderspeed_percentUndersped]
  cases p.detectUnderspeedEnabled
  · exact .inr ⟨num_le_num.mpr le_rfl, num_le_num.mpr zero_le_one⟩
  · exact one_sub_constrain_cases _

/-- The local `pitch_speed_weight` of `_update_speed_height_weights()`: the tuned weight clamped
to `[0, 2]`, then `2` during climbout, blended towards `2` when undersped, and `0` without an
airspeed sensor. -/
def pitchSpeedWeight (p : Param) (s : TECS A V) : Flt :=
  let pitchSpeedWeight := constrain p.pitchSpeedWeight 0 2
  if s.climboutModeActive && p.airspeedEnabled then 2
  else if s.percentUndersped > FLT_EPSILON && p.airspeedEnabled then
    2 * s.percentUndersped + (1 - s.percentUndersped) * pitchSpeedWeight
  else if !p.airspeedEnabled then 0
  else pitchSpeedWeight

lemma updateSpeedHeightWeights_weighting (p : Param) (s : TECS A V) :
    (updateSpeedHeightWeights p s).SPEWeighting = constrain (2 - pitchSpeedWeight p s) 0 1 ∧
      (updateSpeedHeightWeights p s).SKEWeighting = constrain (pitchSpeedWeight p s) 0 1 :=
  ⟨rfl, rfl⟩

/-- The tuned weight clamped to `[0, 2]`. -/
lemma constrain_pitchSpeedWeight (p : Param) :
    ∃ w, constrain (num p.pitchSpeedWeight) 0 2 = num w ∧ 0 ≤ w ∧ w ≤ 2 :=
  constrain_num_mem (by norm_num)

/-- **The weight before the clamps is a number at least zero**, for every tuned weight and every
underspeed ratio, `nan` included: the blend `2·r + (1 − r)·w` is only taken for `r > ε`, where it
lies between `w` and `2`. -/
lemma pitchSpeedWeight_nonneg (p : Param) (s : TECS A V) :
    ∃ q, pitchSpeedWeight p s = num q ∧ 0 ≤ q := by
  obtain ⟨w, hw, hw0, hw2⟩ := constrain_pitchSpeedWeight p
  simp only [pitchSpeedWeight, hw]
  split_ifs with h₁ h₂ h₃
  · exact ⟨2, rfl, by norm_num⟩
  · obtain ⟨h₂, -⟩ := Bool.and_eq_true_iff.mp h₂
    obtain ⟨e, u, he, hpu, hu⟩ := exists_num_of_lt (decide_eq_true_iff.mp h₂)
    have he0 : e = 1 / 8388608 := num_inj.mp he.symm
    have hu0 : 0 ≤ u := by linarith
    simp only [hpu, num_ofNat, num_mul_num, num_sub_num, num_add_num]
    exact ⟨_, rfl, by linarith [mul_nonneg hu0 (sub_nonneg.mpr hw2)]⟩
  · exact ⟨0, rfl, le_rfl⟩
  · exact ⟨w, rfl, hw0⟩

/-- The two clamps of a weight `q ≥ 0`: both in `[0, 1]`, one of them `1`. -/
lemma weightings_of_nonneg {q : ℚ} (hq : 0 ≤ q) :
    (0 ≤ constrain (2 - num q) 0 1 ∧ constrain (2 - num q) 0 1 ≤ 1) ∧
      (0 ≤ constrain (num q) 0 1 ∧ constrain (num q) 0 1 ≤ 1) ∧
      (constrain (2 - num q) 0 1 = 1 ∨ constrain (num q) 0 1 = 1) ∧
      (1 ≤ constrain (2 - num q) 0 1 + constrain (num q) 0 1 ∧
        constrain (2 - num q) 0 1 + constrain (num q) 0 1 ≤ 2) := by
  simp only [num_ofNat, num_sub_num]
  rcases le_total q 1 with h | h
  · rw [constrain_eq_hi (show 1 ≤ 2 - q by linarith) zero_le_one, constrain_of_mem hq h]
    simp only [num_add_num, num_le_num]
    exact ⟨⟨zero_le_one, le_rfl⟩, ⟨hq, h⟩, .inl trivial, by linarith, by linarith⟩
  · obtain ⟨c, hc, hc0, hc1⟩ := constrain_num_mem (v := 2 - q) zero_le_one
    rw [hc, constrain_eq_hi h zero_le_one]
    simp only [num_add_num, num_le_num]
    exact ⟨⟨hc0, hc1⟩, ⟨zero_le_one, le_rfl⟩, .inr trivial, by linarith, by linarith⟩

/-- With the sensor enabled and outside climbout, the weight before the clamps does not
decrease as the underspeed ratio grows, across the jump at `FLT_EPSILON` included. -/
lemma pitchSpeedWeight_mono (p : Param) (s : TECS A V) (hen : p.airspeedEnabled = true)
    (hclimb : s.climboutModeActive = false) {pu₁ pu₂ : Flt} (hpu : pu₁ ≤ pu₂) :
    pitchSpeedWeight p { s with percentUndersped := pu₁ } ≤
      pitchSpeedWeight p { s with percentUndersped := pu₂ } := by
  obtain ⟨w, hw, hw0, hw2⟩ := constrain_pitchSpeedWeight p
  obtain ⟨u₁, u₂, rfl, rfl, hu⟩ := exists_num_of_le hpu
  simp only [pitchSpeedWeight, hw]
  simp only [hen, hclimb, Bool.false_and, Bool.and_true, Bool.not_true, Bool.false_eq_true,
    if_false, FLT_EPSILON, gt_iff_lt, num_lt_num, decide_eq_true_eq, num_ofNat, num_mul_num,
    num_sub_num, num_add_num]
  have hgap := mul_nonneg (sub_nonneg.mpr hu) (sub_nonneg.mpr hw2)
  by_cases h₂ : 1 / 8388608 < u₂
  · by_cases h₁ : 1 / 8388608 < u₁
    · rw [if_pos h₁, if_pos h₂, num_le_num]; linarith
    · rw [if_neg h₁, if_pos h₂, num_le_num]
      linarith [mul_nonneg (show (0 : ℚ) ≤ u₂ by linarith) (sub_nonneg.mpr hw2)]
  · rw [if_neg (fun h₁ => h₂ (h₁.trans_le hu)), if_neg h₂]
    exact num_le_num.mpr le_rfl

/-- **Both weights lie in `[0, 1]`, one of them is `1`, and their sum lies in `[1, 2]`**, for
every state, every tuned weight and every underspeed ratio.  **With the sensor enabled and
outside climbout, the kinetic weight does not decrease and the potential weight does not
increase as the underspeed ratio grows.** -/
theorem speedHeightWeights_mem_mono (p : Param) (s : TECS A V) :
    let w : TECS A V := updateSpeedHeightWeights p s
    ((0 ≤ w.SPEWeighting ∧ w.SPEWeighting ≤ 1) ∧ (0 ≤ w.SKEWeighting ∧ w.SKEWeighting ≤ 1) ∧
      (w.SPEWeighting = 1 ∨ w.SKEWeighting = 1) ∧
      (1 ≤ w.SPEWeighting + w.SKEWeighting ∧ w.SPEWeighting + w.SKEWeighting ≤ 2)) ∧
    (p.airspeedEnabled = true → s.climboutModeActive = false → ∀ pu₁ pu₂ : Flt, pu₁ ≤ pu₂ →
      let w₁ : TECS A V := updateSpeedHeightWeights p { s with percentUndersped := pu₁ }
      let w₂ : TECS A V := updateSpeedHeightWeights p { s with percentUndersped := pu₂ }
      w₁.SKEWeighting ≤ w₂.SKEWeighting ∧ w₂.SPEWeighting ≤ w₁.SPEWeighting) := by
  refine ⟨?_, fun hen hclimb pu₁ pu₂ hpu => ?_⟩
  · obtain ⟨q, hq, hq0⟩ := pitchSpeedWeight_nonneg p s
    simp only [(updateSpeedHeightWeights_weighting p s).1, (updateSpeedHeightWeights_weighting p s).2, hq]
    exact weightings_of_nonneg hq0
  · have hw := pitchSpeedWeight_mono p s hen hclimb hpu
    simp only [(updateSpeedHeightWeights_weighting p _).1, (updateSpeedHeightWeights_weighting p _).2]
    exact ⟨constrain_mono hw (by simp), constrain_mono (Flt.sub_le_sub (by simp) hw) (by simp)⟩

/-- The concrete tuning, from the initial state: the bounds, and the monotonicity between the
ratios 0 and 1/2. -/
theorem tuning_weights_mono :
    let w₁ : TECS (Flt × Flt) (Flt × Flt) :=
      updateSpeedHeightWeights tuning { TECS.initial atRest with percentUndersped := 0 }
    let w₂ : TECS (Flt × Flt) (Flt × Flt) :=
      updateSpeedHeightWeights tuning { TECS.initial atRest with percentUndersped := 1 / 2 }
    w₁.SKEWeighting ≤ w₂.SKEWeighting ∧ w₂.SPEWeighting ≤ w₁.SPEWeighting :=
  (speedHeightWeights_mem_mono tuning (TECS.initial atRest)).2 rfl rfl 0 (1 / 2)
    (by with_unfolding_all decide)

/-! ## The airspeed-rate demand -/

section Demand
variable (p : Param) (now ns : UInt64) (i : PitchThrottleInputs) (s : TECS A V)

/-- The speed demand the control laws see is the one `_update_speed_setpoint` computed, from the
state the descent detector leaves. -/
lemma updateEstimates_speedDemand :
    (updateEstimates G p ns i s).TASRateSetpoint =
        (updateSpeedSetpoint p (detectUncommandedDescent (detectorInput G p ns i s))).TASRateSetpoint ∧
      (updateEstimates G p ns i s).TASSetpointAdj =
        (updateSpeedSetpoint p (detectUncommandedDescent (detectorInput G p ns i s))).TASSetpointAdj ∧
      (updateEstimates G p ns i s).tasState = (detectorInput G p ns i s).tasState := by
  rw [updateEstimates, calculateHeightRateSetpoint_eq]; exact ⟨rfl, rfl, rfl⟩

/-- The speed filter sets the speed setpoint and the speed limits from the inputs and the
tuning, and the stages up to the descent detector leave them. -/
lemma detectorInput_speedSetpoints :
    (detectUncommandedDescent (detectorInput G p ns i s)).TASSetpoint =
        num (i.EASSetpoint * i.easToTas) ∧
      (detectUncommandedDescent (detectorInput G p ns i s)).TASMin =
        num (p.equivalentAirspeedMin * i.easToTas) ∧
      (detectUncommandedDescent (detectorInput G p ns i s)).TASMax =
        num (p.equivalentAirspeedMax * i.easToTas) := by
  unfold detectorInput; exact ⟨rfl, rfl, rfl⟩

/-- A step publishes the speed demand the control laws saw. -/
lemma updatePitchThrottle_speedDemand :
    (updatePitchThrottle G p now ns i s).TASRateSetpoint =
        (estimateStates G p now ns i s).TASRateSetpoint ∧
      (updatePitchThrottle G p now ns i s).TASSetpointAdj =
        (estimateStates G p now ns i s).TASSetpointAdj := by
  unfold updatePitchThrottle updatePitchSetpoint updateThrottleSetpoint; exact ⟨rfl, rfl⟩

end Demand

/-- **The airspeed-rate demand points towards the setpoint and is at most the proportional
demand**, for every state whose rate limits straddle zero and whose airspeed estimate and speed
setpoints are numbers, whatever the latch and the underspeed ratio are. -/
lemma updateSpeedSetpoint_TASRateSetpoint (p : Param) (u : TECS A V)
    (hgain : 0 ≤ p.airspeedErrorGain) {a b : ℚ} (hmax : u.STERateMax = num a) (ha : 0 < a)
    (hmin : u.STERateMin = num b) (hb : b < 0) (htas : u.tasState ≠ nan)
    (hsp : u.TASSetpoint ≠ nan) (hlo : u.TASMin ≠ nan) (hhi : u.TASMax ≠ nan) :
    let v : TECS A V := updateSpeedSetpoint p u
    0 ≤ v.TASRateSetpoint * (v.TASSetpointAdj - v.tasState) ∧
      fabsf v.TASRateSetpoint ≤ p.airspeedErrorGain * fabsf (v.TASSetpointAdj - v.tasState) := by
  obtain ⟨τ, hτ⟩ := exists_num_of_ne_nan htas
  obtain ⟨m, hm, hm0⟩ := mathMax_FLT_EPSILON_pos τ
  have hX : (if u.uncommandedDescentRecovery then u.TASMin
      else if u.percentUndersped > FLT_EPSILON then
        u.TASMin * u.percentUndersped + (1 - u.percentUndersped) * u.TASSetpoint
      else u.TASSetpoint) ≠ nan := by
    split_ifs with _ hpu
    · exact hlo
    · cases hr : u.percentUndersped with
      | nan => simp [hr] at hpu
      | num r => simp [hlo, hsp]
    · exact hsp
  obtain ⟨A', hA⟩ := exists_num_of_ne_nan
    (constrain_ne_nan (constrain_ne_nan hX hlo hhi) hlo hhi)
  intro v
  have hadj : v.TASSetpointAdj = num A' := hA
  have hv : v.tasState = num τ := hτ
  rw [hadj, hv, num_sub_num]
  by_cases hen : p.airspeedEnabled
  · have hrate : v.TASRateSetpoint = constrain (num ((A' - τ) * p.airspeedErrorGain))
        (num (0.5 * b / m)) (num (0.5 * a / m)) := by
      show (if p.airspeedEnabled then _ else _) = _
      rw [if_pos hen, hA, tasRateDivisor, hτ, hmax, hmin, hm, num_sub_num, num_mul_num,
        num_ofScientific, num_mul_num, num_mul_num, num_div_num hm0.ne', num_div_num hm0.ne']
    have hlo' : 0.5 * b / m ≤ 0 :=
      div_nonpos_of_nonpos_of_nonneg (mul_nonpos_of_nonneg_of_nonpos (by norm_num) hb.le) hm0.le
    have hhi' : 0 ≤ 0.5 * a / m := div_nonneg (mul_nonneg (by norm_num) ha.le) hm0.le
    obtain ⟨w, hw, hw1, hw2⟩ := constrain_between (v := (A' - τ) * p.airspeedErrorGain) hlo' hhi'
    rw [hrate, hw, num_mul_num, fabsf_num, fabsf_num, num_mul_num, num_ofNat, num_le_num,
      num_le_num]
    rcases le_total 0 (A' - τ) with hd | hd
    · have hv0 : 0 ≤ (A' - τ) * p.airspeedErrorGain := mul_nonneg hd hgain
      rw [min_eq_right hv0] at hw1
      rw [max_eq_left hv0] at hw2
      rw [abs_of_nonneg hw1, abs_of_nonneg hd]
      exact ⟨mul_nonneg hw1 hd, hw2.trans_eq (mul_comm _ _)⟩
    · have hv0 : (A' - τ) * p.airspeedErrorGain ≤ 0 := mul_nonpos_of_nonpos_of_nonneg hd hgain
      rw [min_eq_left hv0] at hw1
      rw [max_eq_right hv0] at hw2
      rw [abs_of_nonpos hw2, abs_of_nonpos hd]
      exact ⟨mul_nonneg_of_nonpos_of_nonpos hw2 hd, (neg_le_neg hw1).trans_eq (by ring)⟩
  · have hrate : v.TASRateSetpoint = 0 := by
      show (if p.airspeedEnabled then _ else _) = _
      rw [if_neg hen]
    rw [hrate]
    simp only [num_ofNat, num_mul_num, fabsf_num, num_le_num, zero_mul, abs_zero, le_refl,
      true_and]
    exact mul_nonneg hgain (abs_nonneg _)

/-- **On every step, the published airspeed-rate demand points towards the published speed
setpoint and is at most the proportional demand**, for every tuning with a gain at least zero,
whatever the climb and sink rates are, provided the airspeed estimate is finite. -/
theorem updatePitchThrottle_TASRateSetpoint (p : Param) (now ns : UInt64)
    (i : PitchThrottleInputs) (s : TECS A V) (hgain : 0 ≤ p.airspeedErrorGain)
    (htas : (updatePitchThrottle G p now ns i s).tasState ≠ nan) :
    let s' : TECS A V := updatePitchThrottle G p now ns i s
    0 ≤ s'.TASRateSetpoint * (s'.TASSetpointAdj - s'.tasState) ∧
      fabsf s'.TASRateSetpoint ≤ p.airspeedErrorGain * fabsf (s'.TASSetpointAdj - s'.tasState) := by
  intro s'
  set t := initializeStates G p i.pitch i.throttleTrim i.baroAltitude i.pitchMinClimbout
    i.easToTas (beginPitchThrottle now i s)
  set u := detectUncommandedDescent (detectorInput G p ns i t)
  obtain ⟨⟨a, ha, ha0⟩, ⟨b, hb, hb0⟩⟩ := updateSTERateLim_sign p t
  obtain ⟨hrate, hadj, htas'⟩ := updateEstimates_speedDemand G p ns i t
  obtain ⟨hrate', hadj'⟩ := updatePitchThrottle_speedDemand G p now ns i s
  have hts : s'.tasState = u.tasState := (updatePitchThrottle_tasState G p now ns i s).trans htas'
  have hsame : s'.TASRateSetpoint = (updateSpeedSetpoint p u).TASRateSetpoint ∧
      s'.TASSetpointAdj = (updateSpeedSetpoint p u).TASSetpointAdj ∧
      s'.tasState = (updateSpeedSetpoint p u).tasState :=
    ⟨hrate'.trans hrate, hadj'.trans hadj, hts⟩
  rw [hsame.1, hsame.2.1, hsame.2.2]
  obtain ⟨hsp, hlo, hhi⟩ := detectorInput_speedSetpoints G p ns i t
  exact updateSpeedSetpoint_TASRateSetpoint p u hgain ha ha0 hb hb0 (hts ▸ htas)
    (hsp ▸ num_ne_nan) (hlo ▸ num_ne_nan) (hhi ▸ num_ne_nan)

/-- A step from the initial state asking for 5 m/s more airspeed. -/
theorem cruise_TASRateSetpoint :
    let s' : TECS (Flt × Flt) (Flt × Flt) := updatePitchThrottle atRest tuning 1000 1000
      { cruise with EASSetpoint := 25 } (TECS.initial atRest)
    0 ≤ s'.TASRateSetpoint * (s'.TASSetpointAdj - s'.tasState) ∧
      fabsf s'.TASRateSetpoint ≤ tuning.airspeedErrorGain * fabsf (s'.TASSetpointAdj - s'.tasState) :=
  updatePitchThrottle_TASRateSetpoint atRest tuning 1000 1000 _ _ (by norm_num [tuning])
    (by with_unfolding_all decide)

/-- Cruise, then the altitude lock is lost while the airspeed reading is `nan`: the step that
re-initialises seeds the estimate with `nan`, and the published demand is `nan`, so its product
with the speed error is not at least zero. -/
theorem TASRateSetpoint_nan_after_dropout :
    let s : TECS (Flt × Flt) (Flt × Flt) := run atRest
      [(tuning, .updateVehicleStateEstimates 1000 (level (num 20) 0 true)),
       (tuning, .updatePitchThrottle 1000 1000 cruise),
       (tuning, .updateVehicleStateEstimates 21000 (level nan 0 false)),
       (tuning, .updatePitchThrottle 21000 21000 { cruise with equivalentAirspeed := nan })]
      (TECS.initial atRest)
    s.tasState = nan ∧ s.TASRateSetpoint = nan ∧
      ¬ (0 ≤ s.TASRateSetpoint * (s.TASSetpointAdj - s.tasState)) := by
  with_unfolding_all decide

/-! ## The speed setpoint

`_update_speed_setpoint()` commands the minimum airspeed while the descent latch is set and
blends the setpoint towards it by the underspeed ratio while undersped, then clamps the result
to `[_TAS_min, _TAS_max]` twice, once into `_TAS_setpoint` and once into `_TAS_setpoint_adj`. -/

/-- The speed setpoint `_update_speed_setpoint()` computes before it clamps it. -/
def speedSetpointCommand (s : TECS A V) : Flt :=
  if s.uncommandedDescentRecovery then s.TASMin
  else if s.percentUndersped > FLT_EPSILON then
    s.TASMin * s.percentUndersped + (1 - s.percentUndersped) * s.TASSetpoint
  else s.TASSetpoint

lemma updateSpeedSetpoint_TASSetpointAdj_eq (p : Param) (s : TECS A V) :
    (updateSpeedSetpoint p s).TASSetpointAdj =
      constrain (constrain (speedSetpointCommand s) s.TASMin s.TASMax) s.TASMin s.TASMax := rfl

/-- The command is a blend `lo · q + (1 − q) · sp` with `q ∈ [0, 1]`: `q = 1` under the latch,
the ratio while undersped, `0` otherwise. -/
lemma speedSetpointCommand_blend (s : TECS A V) {lo sp : ℚ} (hlo : s.TASMin = num lo)
    (hsp : s.TASSetpoint = num sp)
    (hpu : s.percentUndersped = nan ∨ (0 ≤ s.percentUndersped ∧ s.percentUndersped ≤ 1)) :
    ∃ q, 0 ≤ q ∧ q ≤ 1 ∧ speedSetpointCommand s = num (lo * q + (1 - q) * sp) := by
  unfold speedSetpointCommand
  split_ifs with hr hu
  · exact ⟨1, zero_le_one, le_rfl, hlo.trans (congrArg num (by ring))⟩
  · rcases hpu with hn | ⟨h0, h1⟩
    · simp [hn] at hu
    · obtain ⟨q, hq, hq0⟩ := eq_num_of_le h0
      rw [hq] at h1
      refine ⟨q, hq0, num_le_num.mp h1, ?_⟩
      rw [hlo, hsp, hq, num_ofNat, num_mul_num, num_sub_num, num_mul_num, num_add_num]
  · exact ⟨0, le_rfl, zero_le_one, hsp.trans (congrArg num (by ring))⟩

/-- A blend towards the lower bound never clamps above the setpoint itself. -/
lemma constrain_blend_le {lo hi sp q : ℚ} (hle : lo ≤ hi) (hq0 : 0 ≤ q) (hq1 : q ≤ 1) :
    constrain (num (lo * q + (1 - q) * sp)) (num lo) (num hi) ≤ constrain (num sp) (num lo) (num hi) := by
  rcases le_total lo sp with h | h
  · have hq : q * (lo - sp) ≤ 0 := mul_nonpos_of_nonneg_of_nonpos hq0 (sub_nonpos.mpr h)
    exact constrain_mono (num_le_num.mpr (by linarith)) (num_le_num.mpr hle)
  · have hq : (1 - q) * (sp - lo) ≤ 0 :=
      mul_nonpos_of_nonneg_of_nonpos (sub_nonneg.mpr hq1) (sub_nonpos.mpr h)
    rw [constrain_eq_lo (by linarith) hle, constrain_eq_lo h hle]
    exact Flt.le_refl num_ne_nan

/-- `_update_speed_setpoint()` keeps the adjusted setpoint between the minimum and the clamped
setpoint, and at the minimum under the latch, when the ratio is `nan` or in `[0, 1]`. -/
lemma updateSpeedSetpoint_TASSetpointAdj (p : Param) (u : TECS A V) {lo hi sp : ℚ}
    (hlo : u.TASMin = num lo) (hhi : u.TASMax = num hi) (hsp : u.TASSetpoint = num sp)
    (hle : lo ≤ hi)
    (hpu : u.percentUndersped = nan ∨ (0 ≤ u.percentUndersped ∧ u.percentUndersped ≤ 1)) :
    num lo ≤ (updateSpeedSetpoint p u).TASSetpointAdj ∧
      (updateSpeedSetpoint p u).TASSetpointAdj ≤ constrain (num sp) (num lo) (num hi) ∧
      (u.uncommandedDescentRecovery = true → (updateSpeedSetpoint p u).TASSetpointAdj = num lo) := by
  obtain ⟨q, hq0, hq1, hc⟩ := speedSetpointCommand_blend u hlo hsp hpu
  obtain ⟨w, hw, hlw, hwh⟩ := constrain_num_mem (v := lo * q + (1 - q) * sp) hle
  have hadj : (updateSpeedSetpoint p u).TASSetpointAdj = num w := by
    rw [updateSpeedSetpoint_TASSetpointAdj_eq, hc, hlo, hhi, hw, constrain_of_mem hlw hwh]
  rw [hadj]
  refine ⟨num_le_num.mpr hlw, hw ▸ constrain_blend_le hle hq0 hq1, fun hr => ?_⟩
  have hmin : speedSetpointCommand u = num lo := by simp only [speedSetpointCommand, hr, hlo, if_true]
  rw [← hw, ← hc, hmin, constrain_of_mem le_rfl hle]

/-- **The published speed setpoint never leaves `[_TAS_min, _TAS_max]` and is never above the
commanded one**: on every step from every state, with `EAS_min ≤ EAS_max` and `EAS2TAS ≥ 0`,
`_TAS_setpoint_adj` lies between `_TAS_min` and the commanded setpoint clamped to the limits,
and is `_TAS_min` whenever the step ends with the descent latch set.  Neither the underspeed
blend nor the latch can raise the speed demand. -/
theorem updatePitchThrottle_TASSetpointAdj (p : Param) (now ns : UInt64)
    (i : PitchThrottleInputs) (s : TECS A V)
    (hmin : p.equivalentAirspeedMin ≤ p.equivalentAirspeedMax) (hr : 0 ≤ i.easToTas) :
    let s' : TECS A V := updatePitchThrottle G p now ns i s
    num (p.equivalentAirspeedMin * i.easToTas) ≤ s'.TASSetpointAdj ∧
      s'.TASSetpointAdj ≤ constrain (num (i.EASSetpoint * i.easToTas))
        (num (p.equivalentAirspeedMin * i.easToTas)) (num (p.equivalentAirspeedMax * i.easToTas)) ∧
      (s'.uncommandedDescentRecovery = true →
        s'.TASSetpointAdj = num (p.equivalentAirspeedMin * i.easToTas)) := by
  intro s'
  set t := initializeStates G p i.pitch i.throttleTrim i.baroAltitude i.pitchMinClimbout
    i.easToTas (beginPitchThrottle now i s)
  set u := detectUncommandedDescent (detectorInput G p ns i t)
  have hadj : s'.TASSetpointAdj = (updateSpeedSetpoint p u).TASSetpointAdj :=
    (updatePitchThrottle_speedDemand G p now ns i s).2.trans (updateEstimates_speedDemand G p ns i t).2.1
  have hrec : s'.uncommandedDescentRecovery = u.uncommandedDescentRecovery :=
    (updatePitchThrottle_uncommandedDescentRecovery G p now ns i s).trans
      (updateEstimates_descent G p ns i t).1
  obtain ⟨hsp, hlo, hhi⟩ := detectorInput_speedSetpoints G p ns i t
  rw [hadj, hrec]
  exact updateSpeedSetpoint_TASSetpointAdj p u hlo hhi hsp (mul_le_mul_of_nonneg_right hmin hr)
    (detectUnderspeed_percentUndersped_cases p _)

/-- A cruise step from the initial state asking for 25 m/s. -/
theorem cruise_TASSetpointAdj :
    let s' : TECS (Flt × Flt) (Flt × Flt) := updatePitchThrottle atRest tuning 1000 1000
      { cruise with EASSetpoint := 25 } (TECS.initial atRest)
    num (tuning.equivalentAirspeedMin * cruise.easToTas) ≤ s'.TASSetpointAdj ∧
      s'.TASSetpointAdj ≤ constrain (num (25 * cruise.easToTas))
        (num (tuning.equivalentAirspeedMin * cruise.easToTas))
        (num (tuning.equivalentAirspeedMax * cruise.easToTas)) ∧
      (s'.uncommandedDescentRecovery = true →
        s'.TASSetpointAdj = num (tuning.equivalentAirspeedMin * cruise.easToTas)) :=
  updatePitchThrottle_TASSetpointAdj atRest tuning 1000 1000 { cruise with EASSetpoint := 25 } _
    (by norm_num [tuning]) (by norm_num [cruise])

end Tecs
