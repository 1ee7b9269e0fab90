import LateralTorque.Controller

/-!
# Structured dump of a controller

The text with which a controller is announced in the log: parameters, tuning, kind of torque model,
cycle count and output.  Fields stand in the order of the record and under the names that they have
in a parameter file; numbers are written with the fewest digits that read back.

What a controller remembers beyond that, and the models themselves, are left out.
-/

set_option autoImplicit false

namespace LateralTorque.Dump

/-- Named fields behind the name of a structure. -/
def structureText (name : String) (fields : List (String × String)) : String :=
  name ++ " \x7b " ++ ", ".intercalate (fields.map fun (field, value) => field ++ ": " ++ value)
    ++ " \x7d"

/-- A number. -/
def number (x : Float) : String := Decimal.format .structured x

/-- A list of numbers. -/
def numbers (xs : List Float) : String := "[" ++ ", ".intercalate (xs.map number) ++ "]"

/-- A truth value. -/
def flag (b : Bool) : String := toString b

/-- A gain schedule. -/
def gainSchedule (g : GainSchedule Float) : String :=
  structureText "GainSchedule" [("speed_bp_ms", numbers g.speeds), ("gain", numbers g.gains)]

/-- A tuning. -/
def tuning (t : Tuning Float) : String :=
  structureText "TuningParams"
    [("lat_accel_factor", number t.accelFactor), ("lat_accel_offset", number t.accelOffset),
      ("friction", number t.friction), ("use_steering_angle", flag t.useSteeringAngle),
      ("steering_angle_deadzone_deg", number t.angleDeadzone),
      ("override_enabled", flag t.overridden)]

/-- The parameters of a controller. -/
def params (p : Params Float) : String :=
  structureText "Params"
    [("steer_max", number p.steerMax), ("rate_hz", number p.rate),
      ("k_p", gainSchedule p.proportionalGain), ("k_i", gainSchedule p.integralGain),
      ("k_d", gainSchedule p.derivativeGain), ("k_f", gainSchedule p.feedforwardGain),
      ("steer_actuator_delay_s", number p.actuatorDelay), ("enable_dsad", flag p.estimateDelay),
      ("steer_limit_timer_s", number p.saturationLimit),
      ("use_lateral_jerk", flag p.useLateralJerk),
      ("lat_jerk_friction_factor", number p.jerkFrictionFactor),
      ("lat_accel_friction_factor", number p.accelFrictionFactor), ("tuning", tuning p.tuning)]

/-- The kind of a torque model. -/
def torqueModel : TorqueModel Float → String
  | .analytic model => structureText "AnalyticLinear" [("linear", flag model.isLinear)]
  | .neural network _ =>
    structureText "NeuralFeedforward" [("input_size", toString network.inputSize)]

/-- A controller. -/
def controller (c : Controller Float) : String :=
  structureText "TorqueCtrl"
    [("params", params c.params), ("tuning", tuning c.tuning),
      ("torque_model", torqueModel c.capabilities.torqueModel), ("tick", toString c.tick),
      ("output", number c.output)]

end LateralTorque.Dump
