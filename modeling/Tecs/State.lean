import Tecs.Flt

/-!
# The controller's data

The members of class `TECS` that `TECS.cpp` reads or writes, its tuning parameters, the
arguments of its two entry points, and the interface of the collaborators whose code is not
under `src/`.

* `Param` — the tuning of §3 together with the setter-held inputs (`_load_factor`, the airspeed
  flag).  The host may change it between steps, so every step takes the `Param` in force.
* `VehicleInputs`, `PitchThrottleInputs` — the arguments of `update_vehicle_state_estimates` and
  `update_pitch_throttle`.
* `Generators` — the two S-curve generators and the two `lib/mathlib` helpers of the altitude
  law, as parameters: every result of the development holds for every implementation.
* `AlphaFilter` — the first-order IIR of `lib/mathlib`, modelled from §3.
* `TECS` — the runtime state, one field per member, and `TECS.initial`, the state the host creates.

The finite inputs are typed `ℚ`.  §6 and §7 let exactly three arguments be non-finite: the
measured airspeed, the height-rate setpoint and the altitude setpoint.  Those three are `Flt`, and
so is every member the controller computes, except the two the pitch law's divisions by
`_tas_state` write: `_pitch_setpoint_unc` and `_last_pitch_setpoint` are `XFlt`, which keeps `±∞`.
-/

namespace Tecs

open Flt

/-! ## Constants -/

/-- `DT_MIN`, the smallest time step in seconds. -/
def DT_MIN : Flt := 0.001

/-- A time step of at least `DT_MIN` is a positive number. -/
lemma pos_of_DT_MIN_le {x : Flt} (h : DT_MIN ≤ x) : ∃ d, x = num d ∧ 0 < d := by
  obtain ⟨d, rfl, hd⟩ := eq_num_of_le h
  exact ⟨d, rfl, lt_of_lt_of_le (by norm_num) hd⟩

/-- `DT_MAX`, the largest time step before a filter reset, in seconds. -/
def DT_MAX : Flt := 1

/-- Modelled from the spec: `DT_DEFAULT` of `TECS.hpp` (not under `src/`), 0.02 s (§4.10). -/
def DT_DEFAULT : Flt := 0.02

/-- `FLT_EPSILON` of `<float.h>`, `2⁻²³`. -/
def FLT_EPSILON : Flt := num (1 / 8388608)

/-- Modelled from the spec: `CONSTANTS_ONE_G` of `lib/geo` (not under `src/`), the `g` of §4.5,
standard gravity in m/s². -/
def CONSTANTS_ONE_G : Flt := 9.80665

/-- Modelled from the spec: `kTASErrorPercentage` of `TECS.hpp` (not under `src/`), 0.1 (§4.4). -/
def kTASErrorPercentage : Flt := 0.1

/-! ## Tuning and arguments -/

/-- The tuning parameters and setter-held inputs that `TECS.cpp` reads (§3, §6). -/
structure Param where
  equivalentAirspeedMin : ℚ
  equivalentAirspeedMax : ℚ
  equivalentAirspeedTrim : ℚ
  maxClimbRate : ℚ
  maxSinkRate : ℚ
  minSinkRate : ℚ
  vertAccelLimit : ℚ
  jerkMax : ℚ
  pitchDampingGain : ℚ
  throttleDampingGain : ℚ
  integratorGainPitch : ℚ
  integratorGainThrottle : ℚ
  airspeedErrorGain : ℚ
  heightErrorGain : ℚ
  heightSetpointGainFf : ℚ
  pitchSpeedWeight : ℚ
  loadFactorCorrection : ℚ
  throttleSlewrate : ℚ
  tasEstimateFreq : ℚ
  speedDerivativeTimeConst : ℚ
  STERateTimeConst : ℚ
  SEBRateFf : ℚ
  detectUnderspeedEnabled : Bool
  /-- The flag behind `airspeed_sensor_enabled()`. -/
  airspeedEnabled : Bool
  loadFactor : ℚ

/-- The arguments of `update_vehicle_state_estimates`. -/
structure VehicleInputs where
  equivalentAirspeed : Flt
  speedDerivForward : ℚ
  altitudeLock : Bool
  altitude : ℚ
  vz : ℚ

/-- The arguments of `update_pitch_throttle`.  `hgtSetpoint` is the altitude setpoint. -/
structure PitchThrottleInputs where
  pitch : ℚ
  baroAltitude : ℚ
  hgtSetpoint : Flt
  EASSetpoint : ℚ
  equivalentAirspeed : Flt
  easToTas : ℚ
  climbOutSetpoint : Bool
  pitchMinClimbout : ℚ
  throttleMin : ℚ
  throttleMax : ℚ
  throttleTrim : ℚ
  pitchLimitMin : ℚ
  pitchLimitMax : ℚ
  targetClimbrate : ℚ
  targetSinkrate : ℚ
  hgtRateSp : Flt

/-! ## Collaborators -/

/-- The calls `TECS.cpp` makes on `_alt_control_traj_generator` (a `VelocitySmoothing`), with
`reset accel vel pos` in the argument order of the source, and the state it starts in. -/
structure VelocitySmoothing (A : Type) where
  setMaxJerk : Flt → A → A
  setMaxAccel : Flt → A → A
  setMaxVel : Flt → A → A
  updateDurations : Flt → A → A
  updateTraj : Flt → A → A
  getCurrentPosition : A → Flt
  getCurrentVelocity : A → Flt
  setCurrentPosition : Flt → A → A
  setCurrentVelocity : Flt → A → A
  reset : Flt → Flt → Flt → A → A
  initial : A

/-- The calls `TECS.cpp` makes on `_velocity_control_traj_generator` (a
`ManualVelocitySmoothingZ`), and the state it starts in. -/
structure ManualVelocitySmoothingZ (V : Type) where
  setMaxJerk : Flt → V → V
  setMaxAccelUp : Flt → V → V
  setMaxAccelDown : Flt → V → V
  setMaxVelUp : Flt → V → V
  setMaxVelDown : Flt → V → V
  setVelSpFeedback : Flt → V → V
  setCurrentPositionEstimate : Flt → V → V
  update : Flt → Flt → V → V
  getCurrentPosition : V → Flt
  getCurrentVelocity : V → Flt
  reset : Flt → Flt → Flt → V → V
  initial : V

/-- Everything the controller calls whose code is not under `src/`: the two generators, and
`math::signNoZero` and `math::trajectory::computeMaxSpeedFromDistance`. -/
structure Generators (A V : Type) where
  alt : VelocitySmoothing A
  vel : ManualVelocitySmoothingZ V
  signNoZero : Flt → Flt
  computeMaxSpeedFromDistance : Flt → Flt → Flt → Flt → Flt

/-- Modelled from the spec: `AlphaFilter<float>` of `lib/mathlib` (not under `src/`), the
first-order IIR of §3 and §4.8: `y ← y + α (x − y)`, with `α = Δt / (τ + Δt)` for sample interval
`Δt` and time constant `τ`. -/
structure AlphaFilter where
  alpha : Flt
  filterState : Flt
  deriving DecidableEq, Repr

namespace AlphaFilter

/-- `setParameters(sample_interval, time_constant)`. -/
def setParameters (sampleInterval timeConstant : Flt) (f : AlphaFilter) : AlphaFilter :=
  { f with alpha := sampleInterval / (timeConstant + sampleInterval) }

/-- `reset(sample)`. -/
def reset (sample : Flt) (f : AlphaFilter) : AlphaFilter := { f with filterState := sample }

/-- `update(sample)`. -/
def update (sample : Flt) (f : AlphaFilter) : AlphaFilter :=
  { f with filterState := f.filterState + f.alpha * (sample - f.filterState) }

/-- `getState()`. -/
def getState (f : AlphaFilter) : Flt := f.filterState

@[simp] lemma reset_filterState (v : Flt) (f : AlphaFilter) : (f.reset v).filterState = v := rfl
@[simp] lemma reset_alpha (v : Flt) (f : AlphaFilter) : (f.reset v).alpha = f.alpha := rfl
@[simp] lemma setParameters_filterState (dt τ : Flt) (f : AlphaFilter) :
    (f.setParameters dt τ).filterState = f.filterState := rfl
@[simp] lemma setParameters_alpha (dt τ : Flt) (f : AlphaFilter) :
    (f.setParameters dt τ).alpha = dt / (τ + dt) := rfl
@[simp] lemma update_filterState (v : Flt) (f : AlphaFilter) :
    (f.update v).filterState = f.filterState + f.alpha * (v - f.filterState) := rfl
@[simp] lemma update_alpha (v : Flt) (f : AlphaFilter) : (f.update v).alpha = f.alpha := rfl
@[simp] lemma getState_eq (f : AlphaFilter) : f.getState = f.filterState := rfl

end AlphaFilter

/-! ## The runtime state -/

/-- `tecs_mode`, published at the end of each step. -/
inductive TecsMode where
  | ECL_TECS_MODE_NORMAL
  | ECL_TECS_MODE_UNDERSPEED
  | ECL_TECS_MODE_BAD_DESCENT
  | ECL_TECS_MODE_CLIMBOUT
  deriving DecidableEq, Repr

/-- The members of class `TECS` that `TECS.cpp` reads or writes, grouped as in §3.  `A` and `V`
are the states of the two generators. -/
structure TECS (A V : Type) where
  stateUpdateTimestamp : UInt64
  speedUpdateTimestamp : UInt64
  pitchUpdateTimestamp : UInt64
  dt : Flt
  statesInitialized : Bool
  EAS : Flt
  vertPosState : Flt
  vertVelState : Flt
  tasRateRaw : Flt
  tasRateFiltered : Flt
  TASRateFilter : AlphaFilter
  tasState : Flt
  tasRateState : Flt
  tasInnov : Flt
  EASSetpoint : Flt
  TASSetpoint : Flt
  TASMax : Flt
  TASMin : Flt
  TASSetpointAdj : Flt
  TASRateSetpoint : Flt
  TASSetpointLast : Flt
  hgtSetpoint : Flt
  hgtRateSetpoint : Flt
  altControlTrajGenerator : A
  velocityControlTrajGenerator : V
  SPESetpoint : Flt
  SKESetpoint : Flt
  SPERateSetpoint : Flt
  SKERateSetpoint : Flt
  SPEEstimate : Flt
  SKEEstimate : Flt
  SPERate : Flt
  SKERate : Flt
  STEError : Flt
  SEBError : Flt
  STERateSetpoint : Flt
  STERateError : Flt
  STERateErrorFilter : AlphaFilter
  STERateMin : Flt
  STERateMax : Flt
  SEBRateError : Flt
  SPEWeighting : Flt
  SKEWeighting : Flt
  percentUndersped : Flt
  throttleSetpointMax : Flt
  throttleSetpointMin : Flt
  throttleTrim : Flt
  pitchSetpointMax : Flt
  pitchSetpointMin : Flt
  throttleIntegState : Flt
  pitchIntegState : Flt
  lastThrottleSetpoint : Flt
  lastPitchSetpoint : XFlt
  pitchSetpointUnc : XFlt
  climboutModeActive : Bool
  uncommandedDescentRecovery : Bool
  tecsMode : TecsMode

variable {A V : Type}

/-- Modelled from the spec: the state the host creates (§3, Lifecycle).  Every scalar member is
zero, no clock has been read, nothing is initialised or latched, the mode is `NORMAL`, and the
generators are in their initial states. -/
def TECS.initial (G : Generators A V) : TECS A V where
  stateUpdateTimestamp := 0
  speedUpdateTimestamp := 0
  pitchUpdateTimestamp := 0
  dt := 0
  statesInitialized := false
  EAS := 0
  vertPosState := 0
  vertVelState := 0
  tasRateRaw := 0
  tasRateFiltered := 0
  TASRateFilter := ⟨0, 0⟩
  tasState := 0
  tasRateState := 0
  tasInnov := 0
  EASSetpoint := 0
  TASSetpoint := 0
  TASMax := 0
  TASMin := 0
  TASSetpointAdj := 0
  TASRateSetpoint := 0
  TASSetpointLast := 0
  hgtSetpoint := 0
  hgtRateSetpoint := 0
  altControlTrajGenerator := G.alt.initial
  velocityControlTrajGenerator := G.vel.initial
  SPESetpoint := 0
  SKESetpoint := 0
  SPERateSetpoint := 0
  SKERateSetpoint := 0
  SPEEstimate := 0
  SKEEstimate := 0
  SPERate := 0
  SKERate := 0
  STEError := 0
  SEBError := 0
  STERateSetpoint := 0
  STERateError := 0
  STERateErrorFilter := ⟨0, 0⟩
  STERateMin := 0
  STERateMax := 0
  SEBRateError := 0
  SPEWeighting := 0
  SKEWeighting := 0
  percentUndersped := 0
  throttleSetpointMax := 0
  throttleSetpointMin := 0
  throttleTrim := 0
  pitchSetpointMax := 0
  pitchSetpointMin := 0
  throttleIntegState := 0
  pitchIntegState := 0
  lastThrottleSetpoint := 0
  lastPitchSetpoint := 0
  pitchSetpointUnc := 0
  climboutModeActive := false
  uncommandedDescentRecovery := false
  tecsMode := .ECL_TECS_MODE_NORMAL

end Tecs
