import Tecs.State

/-!
# The pitch law

`_update_pitch_setpoint()` (§4.9), cut at the locals of the source as the throttle law is: the
energy-balance rate demand and error, the integrator with its anti-windup against the previous
unclamped setpoint, the correction with the climbout bias, the unclamped setpoint, and the rate
limit `pitch_increment`, which the source applies after the range clamp.  The two divisions by
`_tas_state` are IEEE divisions (`XFlt.div`): at zero airspeed they give `±∞`, and the two clamps
turn an infinite setpoint into a limit and an infinite increment into no rate limit.
-/

namespace Tecs

open Flt

variable {A V : Type}

/-- `SEB_rate_setpoint`, the weighted specific energy balance rate demand. -/
def SEBRateSetpoint (s : TECS A V) : Flt :=
  s.SPERateSetpoint * s.SPEWeighting - s.SKERateSetpoint * s.SKEWeighting

/-- `_SEB_rate_error`. -/
def SEBRateErrorNext (s : TECS A V) : Flt :=
  SEBRateSetpoint s - (s.SPERate * s.SPEWeighting - s.SKERate * s.SKEWeighting)

/-- `climb_angle_to_SEB_rate`. -/
def climbAngleToSEBRate (s : TECS A V) : Flt := s.tasState * CONSTANTS_ONE_G

/-- `_pitch_integ_state` after this step: the input is cut to zero in the direction that would
drive the previous `_pitch_setpoint_unc` further past a limit. -/
def pitchIntegStateNext (p : Param) (s : TECS A V) : Flt :=
  if p.integratorGainPitch > 0 then
    let pitchIntegInput := SEBRateErrorNext s * p.integratorGainPitch
    let pitchIntegInput :=
      if s.pitchSetpointUnc > .fin s.pitchSetpointMax then mathMin pitchIntegInput 0
      else if s.pitchSetpointUnc < .fin s.pitchSetpointMin then mathMax pitchIntegInput 0
      else pitchIntegInput
    s.pitchIntegState + pitchIntegInput * s.dt
  else 0

/-- `SEB_rate_correction`, with the climbout bias. -/
def SEBRateCorrection (p : Param) (s : TECS A V) : Flt :=
  let SEBRateCorrection := SEBRateErrorNext s * p.pitchDampingGain + pitchIntegStateNext p s +
    p.SEBRateFf * SEBRateSetpoint s
  if s.climboutModeActive then SEBRateCorrection + s.pitchSetpointMin * climbAngleToSEBRate s
  else SEBRateCorrection

/-- `_pitch_setpoint_unc`: `±∞` when the airspeed estimate is zero. -/
def pitchSetpointUncNext (p : Param) (s : TECS A V) : XFlt :=
  XFlt.div (SEBRateCorrection p s) (climbAngleToSEBRate s)

/-- `pitch_increment`, the pitch rate limit of one step: `±∞` when the airspeed estimate is
zero. -/
def pitchIncrement (p : Param) (s : TECS A V) : XFlt := XFlt.div (s.dt * p.vertAccelLimit) s.tasState

/-- `_update_pitch_setpoint()`. -/
def updatePitchSetpoint (p : Param) (s : TECS A V) : TECS A V :=
  let pitchSetpoint :=
    XFlt.constrain (pitchSetpointUncNext p s) (.fin s.pitchSetpointMin) (.fin s.pitchSetpointMax)
  { s with
    SEBRateError := SEBRateErrorNext s
    pitchIntegState := pitchIntegStateNext p s
    pitchSetpointUnc := pitchSetpointUncNext p s
    lastPitchSetpoint := XFlt.constrain pitchSetpoint (s.lastPitchSetpoint - pitchIncrement p s)
      (s.lastPitchSetpoint + pitchIncrement p s) }

section Outputs
variable (p : Param) (s : TECS A V)

@[simp] lemma updatePitchSetpoint_pitchIntegState :
    (updatePitchSetpoint p s).pitchIntegState = pitchIntegStateNext p s := rfl

@[simp] lemma updatePitchSetpoint_pitchSetpointUnc :
    (updatePitchSetpoint p s).pitchSetpointUnc = pitchSetpointUncNext p s := rfl

/-- The published pitch: the range clamp, then the rate limit around the last output. -/
lemma updatePitchSetpoint_lastPitchSetpoint :
    (updatePitchSetpoint p s).lastPitchSetpoint =
      XFlt.constrain
        (XFlt.constrain (pitchSetpointUncNext p s) (.fin s.pitchSetpointMin) (.fin s.pitchSetpointMax))
        (s.lastPitchSetpoint - pitchIncrement p s) (s.lastPitchSetpoint + pitchIncrement p s) := rfl

end Outputs

end Tecs
