import Tecs.State

/-!
# The throttle law

`_update_throttle_setpoint()` (§4.8), cut at the locals of the source so that each can be
named: the filtered energy-rate error, the clamped energy-rate demand, the feedforward
`throttle_predicted`, the proportional `throttle_setpoint`, the integrator input and state, the
blended demand and the slew limit.  `updateThrottleSetpoint` is their composition, in the order
of the source.
-/

namespace Tecs

open Flt

variable {A V : Type}

/-- The raw total-energy rate error, `-_SPE_rate - _SKE_rate + _SPE_rate_setpoint +
_SKE_rate_setpoint`, that the throttle law feeds to its filter. -/
def STERateErrorRaw (s : TECS A V) : Flt :=
  -s.SPERate - s.SKERate + s.SPERateSetpoint + s.SKERateSetpoint

/-- `_STE_rate_error_filter` after this step's update. -/
def STERateErrorFilterNext (s : TECS A V) : AlphaFilter :=
  s.STERateErrorFilter.update (STERateErrorRaw s)

/-- `_STE_rate_setpoint`: the demanded total-energy rate, turn-compensated and clamped to the
rate limits. -/
def STERateSetpointNext (p : Param) (s : TECS A V) : Flt :=
  constrain (s.SPERateSetpoint + s.SKERateSetpoint + p.loadFactorCorrection * (p.loadFactor - 1))
    s.STERateMin s.STERateMax

/-- `throttle_predicted`: the feedforward, linear from trim to the maximum for a climbing demand
and from trim to the minimum for a sinking one. -/
def throttlePredicted (p : Param) (s : TECS A V) : Flt :=
  if STERateSetpointNext p s ≥ 0 then
    s.throttleTrim +
      STERateSetpointNext p s / s.STERateMax * (s.throttleSetpointMax - s.throttleTrim)
  else
    s.throttleTrim +
      STERateSetpointNext p s / s.STERateMin * (s.throttleSetpointMin - s.throttleTrim)

/-- `STE_rate_to_throttle`. -/
def STERateToThrottle (s : TECS A V) : Flt := 1 / (s.STERateMax - s.STERateMin)

/-- `throttle_setpoint` after the proportional term and the first clamp to the limits. -/
def throttleSetpointPD (p : Param) (s : TECS A V) : Flt :=
  constrain ((STERateErrorFilterNext s).getState * p.throttleDampingGain * STERateToThrottle s +
    throttlePredicted p s) s.throttleSetpointMin s.throttleSetpointMax

/-- `throttle_integ_input` before the anti-windup clamp. -/
def throttleIntegInput (p : Param) (s : TECS A V) : Flt :=
  (STERateErrorFilterNext s).getState * p.integratorGainThrottle * s.dt * STERateToThrottle s *
    (1 - s.percentUndersped)

/-- `_throttle_integ_state` after this step: back-calculation anti-windup against the band
`[integ_state_min, integ_state_max]`, forced to `integ_state_max` during climbout, zero without
gain, and left alone without an airspeed sensor. -/
def throttleIntegStateNext (p : Param) (s : TECS A V) : Flt :=
  let integStateMax := s.throttleSetpointMax - throttleSetpointPD p s
  let integStateMin := s.throttleSetpointMin - throttleSetpointPD p s
  let throttleIntegInput :=
    if s.throttleIntegState > integStateMax then mathMin 0 (throttleIntegInput p s)
    else if s.throttleIntegState < integStateMin then mathMax 0 (throttleIntegInput p s)
    else throttleIntegInput p s
  if p.airspeedEnabled then
    if p.integratorGainThrottle > 0 then
      if s.climboutModeActive then integStateMax else s.throttleIntegState + throttleIntegInput
    else 0
  else s.throttleIntegState

/-- `throttle_setpoint` with the integrator (or, without an airspeed sensor, the feedforward
alone) and the underspeed blend towards the maximum, before the slew limit. -/
def throttleSetpointBlended (p : Param) (s : TECS A V) : Flt :=
  let throttleSetpoint :=
    if p.airspeedEnabled then throttleSetpointPD p s + throttleIntegStateNext p s
    else throttlePredicted p s
  s.percentUndersped * s.throttleSetpointMax + (1 - s.percentUndersped) * throttleSetpoint

/-- `throttle_increment_limit`. -/
def throttleIncrementLimit (p : Param) (s : TECS A V) : Flt :=
  s.dt * (s.throttleSetpointMax - s.throttleSetpointMin) * p.throttleSlewrate

/-- `throttle_setpoint` after the slew limit around the last published throttle. -/
def throttleSetpointSlewed (p : Param) (s : TECS A V) : Flt :=
  if fabsf p.throttleSlewrate > 0.01 then
    constrain (throttleSetpointBlended p s) (s.lastThrottleSetpoint - throttleIncrementLimit p s)
      (s.lastThrottleSetpoint + throttleIncrementLimit p s)
  else throttleSetpointBlended p s

/-- `_update_throttle_setpoint()`. -/
def updateThrottleSetpoint (p : Param) (s : TECS A V) : TECS A V :=
  { s with
    STERateSetpoint := STERateSetpointNext p s
    STERateErrorFilter := STERateErrorFilterNext s
    STERateError := (STERateErrorFilterNext s).getState
    throttleIntegState := throttleIntegStateNext p s
    lastThrottleSetpoint :=
      constrain (throttleSetpointSlewed p s) s.throttleSetpointMin s.throttleSetpointMax }

end Tecs
