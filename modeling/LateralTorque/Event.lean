import LateralTorque.TorqueModel
import LateralTorque.Tuning.Store

/-!
# What the controller reports while it runs

A cycle hands out the events worth a line in a log.  They are values; the text of a line is made
here, in one place, so that the controller itself knows nothing of logs.

* `Event` — the events of a cycle, in the order in which they happened;
* `Event.ofRefresh`, `ofFactor`, `ofDelayReport` — the events of the parts of a cycle;
* `Event.toLogRecord` — the line of an event, with its level.
-/

set_option autoImplicit false

namespace LateralTorque

/-- How important a line of a log is, most important first. -/
inductive Level where
  | error
  | warn
  | info
  | debug
  | trace
deriving DecidableEq

namespace Level

/-- Position among the levels: the more important, the smaller. -/
def rank : Level → Nat
  | .error => 1
  | .warn => 2
  | .info => 3
  | .debug => 4
  | .trace => 5

/-- The name in capitals. -/
def name : Level → String
  | .error => "ERROR"
  | .warn => "WARN"
  | .info => "INFO"
  | .debug => "DEBUG"
  | .trace => "TRACE"

/-- The name with a capital first letter. -/
def title : Level → String
  | .error => "Error"
  | .warn => "Warn"
  | .info => "Info"
  | .debug => "Debug"
  | .trace => "Trace"

end Level

/-- One line of a log; `target` is the part of the program that wrote it. -/
structure LogRecord where
  level : Level
  target : String
  message : String

/-- An event of a cycle: the tuning store gave another tuning or could not be read, the low speed
law gave a factor that is not finite, the torque model gave torques that are not finite or could not
be evaluated, the delay of the actuator was estimated, or the cycle has ended. -/
inductive Event (α : Type) where
  | tuningRefreshed (tuning : Tuning α)
  | tuningKept (cause : StoreError α)
  | lowSpeedNotFinite (factor : α)
  | torqueNotFinite (error feedforward : α)
  | modelFailed (cause : ModelError)
  | delayEstimated (delay realised commanded : α)
  | cycleDone (tick : Nat) (active : Bool) (torque error feedforward : α)

namespace Event

variable {α : Type} [Scalar α]

/-- What there is to report about a look at the tuning store. -/
def ofRefresh : Refresh α → List (Event α)
  | .keep | .replace _ => []
  | .adopt tuning => [.tuningRefreshed tuning]
  | .failed cause => [.tuningKept cause]

/-- What there is to report about a low speed factor. -/
def ofFactor (factor : α) : List (Event α) :=
  if Scalar.isFinite factor then [] else [.lowSpeedNotFinite factor]

/-- What there is to report about the estimate of the actuator delay. -/
def ofDelayReport : Option (α × α × α) → List (Event α)
  | some (delay, realised, commanded) => [.delayEstimated delay realised commanded]
  | none => []

end Event

/-- The line of a log for an event. -/
def Event.toLogRecord : Event Float → LogRecord
  | .tuningRefreshed t =>
    ⟨.debug, "steer_lib::torque_ctrl::tuning",
      s!"Tuning refreshed: override {t.overridden}, lat accel factor "
        ++ Decimal.fixed 3 t.accelFactor ++ ", friction " ++ Decimal.fixed 3 t.friction⟩
  | .tuningKept cause =>
    ⟨.warn, "steer_lib::torque_ctrl::tuning",
      "Could not refresh tuning, keeping previous values: " ++ cause.message⟩
  | .lowSpeedNotFinite factor =>
    ⟨.warn, "steer_lib::torque_ctrl::low_speed",
      "Low speed factor law returned " ++ Decimal.format .plain factor ++ ", using zero"⟩
  | .torqueNotFinite error feedforward =>
    ⟨.warn, "steer_lib::torque_ctrl::state",
      "Torque model gave a non-finite error (" ++ Decimal.format .plain error
        ++ ") or feedforward (" ++ Decimal.format .plain feedforward
        ++ "), holding the previous output"⟩
  | .modelFailed cause =>
    ⟨.warn, "steer_lib::torque_ctrl::state",
      "Torque model evaluation failed, holding the previous output: " ++ cause.message⟩
  | .delayEstimated delay realised commanded =>
    ⟨.debug, "steer_lib::torque_ctrl::dsad",
      "DSAD: delay " ++ Decimal.fixed 3 delay ++ " s (realised torque "
        ++ Decimal.fixed 3 realised ++ ", commanded " ++ Decimal.fixed 3 commanded ++ ")"⟩
  | .cycleDone tick active torque error feedforward =>
    ⟨.trace, "steer_lib::torque_ctrl::state",
      s!"TorqueCtrl {tick}: active {active}, torque " ++ Decimal.fixed 4 torque ++ ", error "
        ++ Decimal.fixed 4 error ++ ", ff " ++ Decimal.fixed 4 feedforward⟩

end LateralTorque
