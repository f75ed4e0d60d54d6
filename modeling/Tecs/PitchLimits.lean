import Tecs.Filters

/-!
# The published pitch and its limits

`_update_pitch_setpoint` clamps the unclamped setpoint to `[_pitch_setpoint_min,
_pitch_setpoint_max]` and then limits its rate around the last published pitch: the rate limit
comes last.  At zero airspeed both divisions by `_tas_state` divide by zero.  A nonzero
correction gives an infinite setpoint, which the range clamp turns into a limit, and the
increment is `+∞`, which voids the rate limit ("at zero airspeed, the pitch increment is
unbounded").  A zero correction gives `0 / 0 = nan`, and `nan` passes both clamps.

**One step.**  `updatePitchSetpoint_mem`: the published pitch lies in an envelope `[lo, hi]`
that holds both limits in force and the point the rate limit starts from (or that point is
`nan`), unless the unclamped setpoint is `nan`, and then the published pitch is `nan`
(`updatePitchSetpoint_of_nan`).  `updatePitchThrottle_pitch_envelope` lifts both to a step of
`update_pitch_throttle`, whose rate limit starts from the input pitch clamped to the limits on a
step that re-initialises, and from the previous output otherwise.

**The limits in force.**  **`updatePitchThrottle_pitch_mem`**: a step whose limits are in order,
and which re-initialises or starts from a previous output within them or `nan`, publishes a
pitch within them exactly when its unclamped setpoint is not `nan`, zero airspeed included.
`pitch_outside_limits` is a climbout step that raises the lower limit above the previous output,
and a first step at zero airspeed, where the correction is zero and the pitch `nan`.

**Runs.**  **`reachable_pitch_envelope`**: in every run whose limits in force all lie in one
envelope `[lo, hi]`, every published pitch lies in it or is `nan`.  The rate limit can hold the
output behind a limit that moved, but never outside the envelope.
-/

namespace Tecs

open Flt

variable {A V : Type} (G : Generators A V)

/-! ## One step of the pitch law -/

section
variable (p : Param) (t : TECS A V)

/-- `pitch_increment` is `nan` (at a `nan` airspeed, or `0 / 0`), `+∞` (at zero airspeed) or a
number at least zero; the rate limit is void in the first two cases. -/
lemma pitchIncrement_cases (hacc : 0 ≤ p.vertAccelLimit) (hdt : DT_MIN ≤ t.dt)
    (htas : t.tasState = nan ∨ ∃ q, t.tasState = num q ∧ 0 ≤ q) :
    pitchIncrement p t = .fin nan ∨ pitchIncrement p t = .posInf ∨
      ∃ d, pitchIncrement p t = .fin (num d) ∧ 0 ≤ d := by
  obtain ⟨dt, hdt', hdt0⟩ := pos_of_DT_MIN_le hdt
  have hda : 0 ≤ dt * p.vertAccelLimit := mul_nonneg hdt0.le hacc
  rw [pitchIncrement, hdt', num_mul_num]
  rcases htas with h | ⟨q, h, hq⟩
  · exact .inl (by rw [h]; rfl)
  rw [h]
  rcases hq.eq_or_lt with rfl | hq
  · rcases hda.eq_or_lt with h0 | h0
    · exact .inl (by rw [← h0, XFlt.zero_div_zero])
    · exact .inr (.inl (XFlt.div_zero_of_pos h0))
  · exact .inr (.inr ⟨_, by rw [XFlt.div_of_ne_zero hq.ne', num_div_num hq.ne'],
      div_nonneg hda hq.le⟩)

/-- **One step of the pitch law keeps the published pitch in an envelope** `[lo, hi]` that holds
both limits in force and the point the rate limit starts from, or whose starting point is `nan`,
when the unclamped setpoint is not `nan`: the range clamp lands in the envelope, an infinite
setpoint on a limit, and a rate limit around a point of the envelope keeps it there. -/
lemma updatePitchSetpoint_mem {lo hi m M : ℚ} (hacc : 0 ≤ p.vertAccelLimit)
    (hdt : DT_MIN ≤ t.dt) (htas : t.tasState = nan ∨ ∃ q, t.tasState = num q ∧ 0 ≤ q)
    (hmin : t.pitchSetpointMin = num m) (hmax : t.pitchSetpointMax = num M)
    (hm : lo ≤ m ∧ m ≤ hi) (hM : lo ≤ M ∧ M ≤ hi)
    (hlast : t.lastPitchSetpoint = .fin nan ∨
      ∃ l, t.lastPitchSetpoint = .fin (num l) ∧ lo ≤ l ∧ l ≤ hi)
    (hunc : pitchSetpointUncNext p t ≠ .fin nan) :
    .fin (num lo) ≤ (updatePitchSetpoint p t).lastPitchSetpoint ∧
      (updatePitchSetpoint p t).lastPitchSetpoint ≤ .fin (num hi) := by
  obtain ⟨w, hw, hlw, hwh⟩ := XFlt.constrain_num_mem hunc hm hM
  rw [updatePitchSetpoint_lastPitchSetpoint, hmin, hmax, hw]
  exact XFlt.constrain_rate_mem ⟨num_le_num.mpr hlw, num_le_num.mpr hwh⟩ hlast
    (pitchIncrement_cases p t hacc hdt htas)

/-- A `nan` unclamped setpoint passes both clamps: the published pitch is `nan`. -/
lemma updatePitchSetpoint_of_nan (hunc : pitchSetpointUncNext p t = .fin nan) :
    (updatePitchSetpoint p t).lastPitchSetpoint = .fin nan := by
  rw [updatePitchSetpoint_lastPitchSetpoint, hunc, XFlt.constrain_fin_nan, XFlt.constrain_fin_nan]

end

/-! ## One step of `update_pitch_throttle` -/

section Step
variable (p : Param) (now ns : UInt64) (i : PitchThrottleInputs) (s : TECS A V)

/-- **A step keeps the published pitch in an envelope** `[lo, hi]` that holds both limits in
force, for a pitch rate limit at least zero and a step that re-initialises (the rate limit then
starts from the input pitch clamped to this step's limits) or starts from a previous output that
is `nan` or lies in the envelope: the pitch lies in the envelope when the unclamped setpoint is
not `nan`, and is `nan` when it is. -/
lemma updatePitchThrottle_pitch_envelope {lo hi : ℚ} (hacc : 0 ≤ p.vertAccelLimit)
    (hmin : num lo ≤ (updatePitchThrottle G p now ns i s).pitchSetpointMin ∧
      (updatePitchThrottle G p now ns i s).pitchSetpointMin ≤ num hi)
    (hmax : num lo ≤ (updatePitchThrottle G p now ns i s).pitchSetpointMax ∧
      (updatePitchThrottle G p now ns i s).pitchSetpointMax ≤ num hi)
    (hprev : resetsStates (beginPitchThrottle now i s) = true ∨ s.lastPitchSetpoint = .fin nan ∨
      (.fin (num lo) ≤ s.lastPitchSetpoint ∧ s.lastPitchSetpoint ≤ .fin (num hi))) :
    ((updatePitchThrottle G p now ns i s).pitchSetpointUnc ≠ .fin nan →
        .fin (num lo) ≤ (updatePitchThrottle G p now ns i s).lastPitchSetpoint ∧
          (updatePitchThrottle G p now ns i s).lastPitchSetpoint ≤ .fin (num hi)) ∧
      ((updatePitchThrottle G p now ns i s).pitchSetpointUnc = .fin nan →
        (updatePitchThrottle G p now ns i s).lastPitchSetpoint = .fin nan) := by
  simp only [updatePitchThrottle_pitchSetpointMin, updatePitchThrottle_pitchSetpointMax,
    (updatePitchThrottle_pitch G p now ns i s).1, (updatePitchThrottle_pitch G p now ns i s).2]
    at hmin hmax ⊢
  obtain ⟨m, hm, hlm⟩ := eq_num_of_le hmin.1
  obtain ⟨M, hM, hlM⟩ := eq_num_of_le hmax.1
  have hmh : m ≤ hi := num_le_num.mp (hm ▸ hmin.2)
  have hMh : M ≤ hi := num_le_num.mp (hM ▸ hmax.2)
  -- the point the rate limit starts from
  have hlast : (estimateStates G p now ns i s).lastPitchSetpoint = .fin nan ∨
      ∃ l, (estimateStates G p now ns i s).lastPitchSetpoint = .fin (num l) ∧ lo ≤ l ∧ l ≤ hi := by
    rw [estimateStates_lastPitchSetpoint]
    split_ifs with hr
    · obtain ⟨hmin', hmax'⟩ := estimateStates_pitchSetpoint G p now ns i s
      rw [if_pos hr] at hmin'
      rw [hmin'.symm.trans hm, hmax'.symm.trans hM, ← XFlt.constrain_fin]
      exact .inr (XFlt.constrain_num_mem (by simp) ⟨hlm, hmh⟩ ⟨hlM, hMh⟩)
    · rcases hprev.resolve_left hr with h | ⟨h₁, h₂⟩
      · exact .inl h
      · exact .inr (XFlt.eq_num_of_mem h₁ h₂)
  exact ⟨updatePitchSetpoint_mem p _ hacc (estimateStates_dt_ge G p now ns i s)
    (estimateStates_tasState_cases G p now ns i s) hm hM ⟨hlm, hmh⟩ ⟨hlM, hMh⟩ hlast,
    updatePitchSetpoint_of_nan p _⟩

/-- **A step publishes a pitch within its limits in force exactly when its unclamped setpoint is
not `nan`**, for limits in order, a pitch rate limit at least zero, and a step that
re-initialises or starts from a previous output within its limits or `nan`.  Zero airspeed is
included: an infinite unclamped setpoint is clamped to a limit. -/
theorem updatePitchThrottle_pitch_mem (hacc : 0 ≤ p.vertAccelLimit)
    (hlim : (updatePitchThrottle G p now ns i s).pitchSetpointMin ≤
      (updatePitchThrottle G p now ns i s).pitchSetpointMax)
    (hprev : resetsStates (beginPitchThrottle now i s) = true ∨ s.lastPitchSetpoint = .fin nan ∨
      (.fin (updatePitchThrottle G p now ns i s).pitchSetpointMin ≤ s.lastPitchSetpoint ∧
        s.lastPitchSetpoint ≤ .fin (updatePitchThrottle G p now ns i s).pitchSetpointMax)) :
    (.fin (updatePitchThrottle G p now ns i s).pitchSetpointMin ≤
        (updatePitchThrottle G p now ns i s).lastPitchSetpoint ∧
      (updatePitchThrottle G p now ns i s).lastPitchSetpoint ≤
        .fin (updatePitchThrottle G p now ns i s).pitchSetpointMax) ↔
      (updatePitchThrottle G p now ns i s).pitchSetpointUnc ≠ .fin nan := by
  obtain ⟨lo, hi, hlo, hhi, hlh⟩ := exists_num_of_le hlim
  rw [hlo, hhi] at hprev ⊢
  have hin : num lo ≤ num lo ∧ num lo ≤ num hi := ⟨num_le_num.mpr le_rfl, num_le_num.mpr hlh⟩
  have hin' : num lo ≤ num hi ∧ num hi ≤ num hi := ⟨num_le_num.mpr hlh, num_le_num.mpr le_rfl⟩
  obtain ⟨hmem, hnan⟩ := updatePitchThrottle_pitch_envelope G p now ns i s hacc
    (hlo ▸ hin) (hhi ▸ hin') hprev
  refine ⟨fun h hu => ?_, hmem⟩
  rw [hnan hu] at h
  exact Bool.false_ne_true h.1

/-- Two steps at zero airspeed with underspeed detection off, the aircraft climbing at 1 m/s
before the second: the correction is negative, the unclamped setpoint `-∞`, and the published
pitch the lower limit. -/
theorem zero_airspeed_pitch_mem :
    let q : Param := { tuning with detectUnderspeedEnabled := false }
    let i : PitchThrottleInputs := { cruise with equivalentAirspeed := num 0 }
    let s₁ : TECS (Flt × Flt) (Flt × Flt) := updateVehicleStateEstimates q 11000
      { level (num 0) 0 true with vz := -1 } (updatePitchThrottle atRest q 1000 1000 i
        (updateVehicleStateEstimates q 1000 (level (num 0) 0 true) (TECS.initial atRest)))
    let s₂ : TECS (Flt × Flt) (Flt × Flt) := updatePitchThrottle atRest q 21000 21000 i s₁
    s₂.tasState = 0 ∧ s₂.pitchSetpointUnc = .negInf ∧
      ((.fin s₂.pitchSetpointMin ≤ s₂.lastPitchSetpoint ∧
          s₂.lastPitchSetpoint ≤ .fin s₂.pitchSetpointMax) ↔ s₂.pitchSetpointUnc ≠ .fin nan) :=
  ⟨by with_unfolding_all decide, by with_unfolding_all decide,
    updatePitchThrottle_pitch_mem atRest _ 21000 21000 _ _ (by norm_num [tuning])
      (by with_unfolding_all decide) (.inr (.inl (by with_unfolding_all decide)))⟩

/-- Two runs that leave the limits in force.  Cruise, then a climbout step with
`pitch_min_climbout = 0.3` that does not re-initialise: the lower limit in force rises to 0.3,
and the rate limit holds the published pitch below it.  And a first step at zero airspeed with
every other input finite: the estimate stays at zero, the underspeed ramp sets the
potential-energy weight to zero, the correction is zero, and `0 / 0` is published. -/
theorem pitch_outside_limits :
    let i : PitchThrottleInputs :=
      { cruise with climbOutSetpoint := true, pitchMinClimbout := 3 / 10 }
    let s₁ : TECS (Flt × Flt) (Flt × Flt) :=
      updatePitchThrottle atRest tuning 1000 1000 cruise (TECS.initial atRest)
    let s₂ : TECS (Flt × Flt) (Flt × Flt) := updatePitchThrottle atRest tuning 21000 21000 i s₁
    let z : TECS (Flt × Flt) (Flt × Flt) := updatePitchThrottle atRest tuning 1000 1000
      { cruise with equivalentAirspeed := num 0 } (TECS.initial atRest)
    (resetsStates (beginPitchThrottle 21000 i s₁) = false ∧
        s₂.pitchSetpointMin ≤ s₂.pitchSetpointMax ∧ s₂.lastPitchSetpoint < .fin s₂.pitchSetpointMin) ∧
      (z.tasState = 0 ∧ z.pitchSetpointMin ≤ z.pitchSetpointMax ∧
        z.pitchSetpointUnc = .fin nan ∧ z.lastPitchSetpoint = .fin nan) := by
  with_unfolding_all decide

end Step

/-! ## Runs -/

/-- The calls of a run whose pitch limits in force all lie in `[lo, hi]`: every
`update_pitch_throttle` passes `pitch_limit_min`, `pitch_limit_max` and, in climbout,
`pitch_min_climbout` in `[lo, hi]`, under a vertical acceleration limit at least zero. -/
def limitsWithin (lo hi : ℚ) : Param → Call → TECS A V → Prop
  | _, .updateVehicleStateEstimates _ _, _ => True
  | p, .updatePitchThrottle _ _ i, _ =>
      (lo ≤ i.pitchLimitMin ∧ i.pitchLimitMin ≤ hi) ∧ (lo ≤ i.pitchLimitMax ∧ i.pitchLimitMax ≤ hi) ∧
        (i.climbOutSetpoint = true → lo ≤ i.pitchMinClimbout ∧ i.pitchMinClimbout ≤ hi) ∧
        0 ≤ p.vertAccelLimit

/-- The last published pitch lies in `[lo, hi]` or is `nan`, or no `update_pitch_throttle` has
stamped the state yet (the next one re-initialises). -/
def PitchInEnvelope (lo hi : ℚ) (s : TECS A V) : Prop :=
  s.pitchUpdateTimestamp = 0 ∨ s.lastPitchSetpoint = .fin nan ∨
    (.fin (num lo) ≤ s.lastPitchSetpoint ∧ s.lastPitchSetpoint ≤ .fin (num hi))

/-- **A step keeps the envelope**, from a state in it: the limits it puts in force lie in the
envelope, and it re-initialises on an unstamped state, or starts the rate limit from a previous
output that the envelope holds or that is `nan`. -/
lemma PitchInEnvelope.updatePitchThrottle {lo hi : ℚ} (p : Param) (now ns : UInt64)
    (i : PitchThrottleInputs) {s : TECS A V} (hs : PitchInEnvelope lo hi s)
    (hH : limitsWithin lo hi p (.updatePitchThrottle now ns i) s) :
    PitchInEnvelope lo hi (Tecs.updatePitchThrottle G p now ns i s) := by
  obtain ⟨hmin, hmax, hclimb, hacc⟩ := hH
  have hin : ∀ x : ℚ, lo ≤ x ∧ x ≤ hi → num lo ≤ num x ∧ num x ≤ num hi :=
    fun x hx => ⟨num_le_num.mpr hx.1, num_le_num.mpr hx.2⟩
  have hprev : resetsStates (beginPitchThrottle now i s) = true ∨ s.lastPitchSetpoint = .fin nan ∨
      (.fin (num lo) ≤ s.lastPitchSetpoint ∧ s.lastPitchSetpoint ≤ .fin (num hi)) := by
    rcases hs with h0 | h
    · exact .inl (by simp [resetsStates, beginPitchThrottle, h0])
    · exact .inr h
  have hmin' : num lo ≤ (Tecs.updatePitchThrottle G p now ns i s).pitchSetpointMin ∧
      (Tecs.updatePitchThrottle G p now ns i s).pitchSetpointMin ≤ num hi := by
    rw [updatePitchThrottle_pitchSetpointMin, (estimateStates_pitchSetpoint G p now ns i s).1]
    split_ifs with _ hc
    · exact hin _ hmin
    · exact hin _ (hclimb hc)
    · exact hin _ hmin
  have hmax' : num lo ≤ (Tecs.updatePitchThrottle G p now ns i s).pitchSetpointMax ∧
      (Tecs.updatePitchThrottle G p now ns i s).pitchSetpointMax ≤ num hi := by
    rw [updatePitchThrottle_pitchSetpointMax, (estimateStates_pitchSetpoint G p now ns i s).2]
    exact hin _ hmax
  obtain ⟨hmem, hnan⟩ := updatePitchThrottle_pitch_envelope G p now ns i s hacc hmin' hmax' hprev
  by_cases hu : (Tecs.updatePitchThrottle G p now ns i s).pitchSetpointUnc = .fin nan
  · exact .inr (.inl (hnan hu))
  · exact .inr (.inr (hmem hu))

/-- **Every published pitch stays in the envelope of the limits**: in every run whose limits in
force all lie in `[lo, hi]`, under a vertical acceleration limit at least zero, the last
published pitch lies in `[lo, hi]` or is `nan`, once an `update_pitch_throttle` has stamped the
state.  The estimate calls leave the pitch alone. -/
theorem reachable_pitch_envelope {lo hi : ℚ} {s : TECS A V}
    (h : ReachableUnder G (limitsWithin lo hi) s) : PitchInEnvelope lo hi s := by
  induction h with
  | initial => exact .inl rfl
  | call p c _ hH ih =>
      cases c with
      | updateVehicleStateEstimates now i => exact ih
      | updatePitchThrottle now ns i => exact ih.updatePitchThrottle G p now ns i hH

/-- The climbout run above, whose limits lie in `[-1/2, 1/2]`: its pitch, below the climbout
limit, lies in the envelope. -/
theorem climbout_pitch_envelope :
    let i : PitchThrottleInputs :=
      { cruise with climbOutSetpoint := true, pitchMinClimbout := 3 / 10 }
    let s : TECS (Flt × Flt) (Flt × Flt) := Call.apply atRest tuning (.updatePitchThrottle 21000 21000 i)
      (Call.apply atRest tuning (.updatePitchThrottle 1000 1000 cruise) (TECS.initial atRest))
    ReachableUnder atRest (limitsWithin (-1 / 2) (1 / 2)) s ∧ PitchInEnvelope (-1 / 2) (1 / 2) s :=
  have h : ReachableUnder atRest (limitsWithin (-1 / 2) (1 / 2))
      (Call.apply atRest tuning (.updatePitchThrottle 21000 21000
        { cruise with climbOutSetpoint := true, pitchMinClimbout := 3 / 10 })
        (Call.apply atRest tuning (.updatePitchThrottle 1000 1000 cruise) (TECS.initial atRest))) :=
    .call _ _ (.call _ _ .initial (by norm_num [limitsWithin, cruise, tuning]))
      (by norm_num [limitsWithin, cruise, tuning])
  ⟨h, reachable_pitch_envelope atRest h⟩

end Tecs
