import LateralTorque.Params.Reader
import LateralTorque.Scenario

/-!
# Scenarios from parameter files

The parameter file of a simulation: the vehicle and the road, the actuator, and the script of
curvatures as a list of tables.  Pacing by the clock, the roll of the road, the tuning store and the
neural model are optional: a simulation has none of them unless it says so.

The script stands in the order of the file, and no value is checked beyond its kind.
-/

set_option autoImplicit false

namespace LateralTorque

open ParameterFile

/-- The simulated vehicle of a parameter file. -/
def BicycleModel.read? (d : Data) : Option (BicycleModel Float) := do
  let r ← d.record? ["steer_ratio", "wheelbase_m", "slip_factor"]
  return {
    steerRatio := ← r.required? "steer_ratio" number?
    wheelbase := ← r.required? "wheelbase_m" number?
    slipFactor := ← r.required? "slip_factor" number? }

/-- One stretch of the script of curvatures. -/
def ProfileSegment.read? (d : Data) : Option (ProfileSegment Float) := do
  let r ← d.record? ["start_s", "curvature_m"]
  return {
    start := ← r.required? "start_s" number?
    curvature := ← r.required? "curvature_m" number? }

namespace Scenario

/-- The names of the parameters in a file. -/
def fieldNames : List String :=
  ["duration_s", "engage_s", "realtime", "speed_ms", "roll_rad", "actuator_time_constant_s",
    "torque_to_lat_accel", "rack_friction", "tuning_store_dir", "nn_model_path", "vehicle",
    "profile"]

/-- The scenario in a parameter file. -/
def read? (d : Data) : Option (Scenario Float) := do
  let r ← d.record? fieldNames
  return {
    duration := ← r.required? "duration_s" number?
    engageTime := ← r.required? "engage_s" number?
    realtime := ← r.optional? "realtime" false Data.flag?
    speed := ← r.required? "speed_ms" number?
    roll := ← r.optional? "roll_rad" 0 number?
    actuatorTimeConstant := ← r.required? "actuator_time_constant_s" number?
    torqueToAccel := ← r.required? "torque_to_lat_accel" number?
    rackFriction := ← r.required? "rack_friction" number?
    tuningDirectory := ← r.optional? "tuning_store_dir" none fun d => d.text?.map some
    networkFile := ← r.optional? "nn_model_path" none fun d => d.text?.map some
    vehicle := ← r.required? "vehicle" BicycleModel.read?
    profile := ← r.required? "profile" (Data.list? ProfileSegment.read?) }

end Scenario

end LateralTorque
