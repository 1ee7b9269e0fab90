import LateralTorque.Delay
import LateralTorque.Diagnostics
import LateralTorque.Event
import LateralTorque.Features
import LateralTorque.Lookahead
import LateralTorque.LowSpeed
import LateralTorque.Params
import LateralTorque.Pid
import LateralTorque.Saturation
import LateralTorque.Signals

/-!
# The torque controller

Each cycle the controller turns the planner's curvature into a torque demand for the steering
actuator.  It works in lateral acceleration, which at speed goes with the torque on the rack, and
leaves the step to torque to a torque model.

* `Controller.create` — a controller from parameters and capabilities;
* `Controller.step` — one cycle, which never fails: where the torque model does, the previous output
  is held;
* `Controller.reset`, `Controller.retune` — clearing the memory, and a live change of the tuning.

A cycle is a function from state and input to state and events, and a run is a fold over it.  Time
is not read from a clock: it passes by one period in each cycle, whether the cycle is active or not.

The `Capabilities` are parameters.  Vehicle, torque models, low speed law and source of tuning may
be any functions, and the inputs of a cycle any values.  The transport of inputs and torques,
threads and pacing are left out.
-/

set_option autoImplicit false

namespace LateralTorque

variable {α : Type} [Scalar α]

/-! ## State and input -/

/-- The vehicle specific parts of a controller. -/
structure Capabilities (α : Type) where
  curvatureModel : CurvatureModel α
  torqueModel : TorqueModel α
  lowSpeedLaw : LowSpeedLaw α
  tuningSource : TuningSource α

/-- A controller and its memory: the tuning in use, the state of its parts, and count, torque and
record of the latest cycle.  The count is unbounded; a counter of 64 bits shows the same below
`2 ^ 64` cycles. -/
structure Controller (α : Type) where
  params : Params α
  capabilities : Capabilities α
  tuning : Tuning α
  pid : Pid α
  lowSpeed : LowSpeedScheduler α
  delay : DelayEstimator α
  context : FeatureContext α
  saturation : SaturationMonitor α
  tick : Nat
  /-- Torque of the latest cycle, in the actuator's direction. -/
  output : α
  report : Diagnostics α

/-- What a cycle is given: whether the controller is engaged, what is sensed and asked for, the plan
and the torque that the actuator reports, where there are such, and whether the host limits the
actuator. -/
structure CycleInput (α : Type) where
  active : Bool
  vehicle : VehicleState α
  road : RoadGeometry α
  desired : DesiredMotion α
  trajectory : Option (Trajectory α)
  actuatorTorque : Option α
  steerLimited : Bool

/-- What the torque model makes of a cycle, with the feature vectors if the neural model was
used. -/
structure ModelTorques (α : Type) where
  error : α
  feedforward : α
  frictionInput : α
  features : Option (List α)

/-- Whether the PID controller can be driven with the torques: neither error nor feedforward is
infinite or NaN. -/
def ModelTorques.areFinite (t : ModelTorques α) : Bool :=
  Scalar.isFinite t.error && Scalar.isFinite t.feedforward

namespace CycleInput

/-- Speed below which the integrator is frozen, in m/s. -/
def freezeSpeed : α := 0.5

/-- Whether the integrator is frozen this cycle. -/
def freezesIntegrator (input : CycleInput α) : Bool :=
  input.steerLimited || input.vehicle.steeringPressed || input.vehicle.speed < freezeSpeed

/-- The plan, if it can be used. -/
def usableTrajectory (input : CycleInput α) : Option (Trajectory α) :=
  input.trajectory.filter Trajectory.isGood

end CycleInput

namespace Controller

/-! ## Setting up -/

/-- A controller at its first cycle, for parameters and capabilities already checked. -/
def initial (params : Params α) (capabilities : Capabilities α) : Controller α where
  params := params
  capabilities := capabilities
  tuning := params.tuning
  pid := Pid.create params.proportionalGain params.integralGain params.derivativeGain
    params.feedforwardGain params.steerMax params.period
  lowSpeed := LowSpeedScheduler.initial
  delay := DelayEstimator.create params.estimateDelay params.actuatorDelay params.period
  context := FeatureContext.create params.period
  saturation := SaturationMonitor.create params.saturationLimit params.period
  tick := 0
  output := 0
  report := Diagnostics.initial

/-- A controller, if the parameters are valid and a neural model takes the features that there
are. -/
def create (params : Params α) (capabilities : Capabilities α) :
    Except (SetupError α) (Controller α) := do
  params.validate.mapError .param
  match capabilities.torqueModel.neuralModel? with
  | some network =>
    if network.inputSize = featureCount then return initial params capabilities
    else throw (.modelInputSize featureCount network.inputSize)
  | none => return initial params capabilities

/-! ## Outside the cycle -/

/-- Clears integrator, derivative and histories; delay estimate and tuning are kept. -/
def reset (c : Controller α) : Controller α :=
  { c with
    pid := c.pid.reset
    lowSpeed := LowSpeedScheduler.initial
    context := c.context.reset
    saturation := c.saturation.reset
    output := 0 }

/-- Replaces the torque response in use by a live estimate. -/
def retune (c : Controller α) (factor offset friction : α) :
    Except (InvalidParam α) (Controller α) :=
  if ¬ 0 < factor ∨ !Scalar.isFinite offset ∨ !Scalar.isFinite friction then
    .error (.liveTuning factor offset friction)
  else .ok { c with
    tuning := { c.tuning with accelFactor := factor, accelOffset := offset, friction := friction } }

/-- Gives the controller another source of tuning. -/
def withTuningSource (c : Controller α) (source : TuningSource α) : Controller α :=
  { c with capabilities := { c.capabilities with tuningSource := source } }

/-! ## Parts of a cycle -/

/-- The look at the tuning source that opens a cycle. -/
def refreshTuning (c : Controller α) : Controller α × List (Event α) :=
  let refresh := c.capabilities.tuningSource.refresh c.tick c.tuning
  (match refresh with
    | .adopt tuning | .replace tuning => { c with tuning := tuning }
    | .keep | .failed _ => c,
    Event.ofRefresh refresh)

/-- The record with which a cycle starts: tuning, delay and low speed factor as they are. -/
def openRecord (c : Controller α) : Diagnostics α :=
  { Diagnostics.initial with
    tick := c.tick
    accelFactor := c.tuning.accelFactor
    accelOffset := c.tuning.accelOffset
    friction := c.tuning.friction
    actuatorDelay := c.delay.delay
    lowSpeedFactor := c.lowSpeed.lastFactor }

/-- Whether the low speed factor is suppressed, because something else shapes the response at low
speed. -/
def suppressesLowSpeed (c : Controller α) : Bool :=
  c.capabilities.torqueModel.neuralModel?.isSome || c.params.useLateralJerk
    || !c.capabilities.torqueModel.analyticModel.isLinear

/-- The signals of a cycle. -/
def signals (c : Controller α) (input : CycleInput α) : LateralSignals α :=
  LateralSignals.build input.vehicle input.road input.desired c.tuning
    c.capabilities.curvatureModel

/-- What the low speed law is asked in a cycle. -/
def lowSpeedInputs (c : Controller α) (input : CycleInput α) (sig : LateralSignals α) :
    LowSpeedInputs α where
  previousFactor := 0
  desiredAccel := sig.desiredAccel
  actualAccel := sig.actualAccel
  speed := input.vehicle.speed
  actualJerk := sig.actualJerk
  suppress := c.suppressesLowSpeed
  freezeIntegrator := input.freezesIntegrator

/-- Asks the low speed law, and reports a factor that is not finite. -/
def scheduleLowSpeed (c : Controller α) (inputs : LowSpeedInputs α) :
    LowSpeedScheduler α × List (Event α) :=
  (c.lowSpeed.update c.capabilities.lowSpeedLaw c.tuning inputs,
    Event.ofFactor (c.lowSpeed.demand c.capabilities.lowSpeedLaw c.tuning inputs))

/-- The look along the plan, with nothing to see if there is no usable plan or no use for it. -/
def lookAhead (c : Controller α) (input : CycleInput α) (sig : LateralSignals α) :
    JerkEstimate α :=
  match input.usableTrajectory with
  | some t =>
    if c.capabilities.torqueModel.neuralModel?.isSome || c.params.useLateralJerk then
      JerkEstimate.ofTrajectory t input.vehicle.speed sig.desiredAccel sig.actualJerk
        c.delay.delay c.tuning.useSteeringAngle c.params.jerkFrictionFactor
        c.params.accelFrictionFactor
    else JerkEstimate.none c.params.accelFrictionFactor
  | none => JerkEstimate.none c.params.accelFrictionFactor

/-- What the analytic model is asked about an acceleration in a cycle. -/
def analyticInputs (input : CycleInput α) (sig : LateralSignals α) (lateralAccel : α) :
    AnalyticInputs α :=
  ⟨lateralAccel, sig.rollCompensation, input.vehicle.speed, input.vehicle.longitudinalAccel⟩

/-- The torque error of the analytic model: setpoint against measurement. -/
def analyticError (c : Controller α) (input : CycleInput α) (sig : LateralSignals α)
    (jerk : JerkEstimate α) (setpoint measurement : α) : Except ModelError α := do
  let model := c.capabilities.torqueModel.analyticModel
  let fromSetpoint ← model.torque (analyticInputs input sig setpoint) c.tuning jerk.setpoint
    sig.accelDeadzone c.params.useLateralJerk false
  let fromMeasurement ← model.torque (analyticInputs input sig measurement) c.tuning
    jerk.measurement sig.accelDeadzone c.params.useLateralJerk false
  return fromSetpoint - fromMeasurement

/-- What drives the friction of the analytic feedforward. -/
def analyticFrictionInput (c : Controller α) (sig : LateralSignals α) (jerk : JerkEstimate α) : α :=
  let accelError := sig.desiredAccel - sig.actualAccel
  if c.params.useLateralJerk then
    jerk.accelFrictionFactor * accelError + c.params.jerkFrictionFactor * jerk.lookahead
  else accelError

/-- The feedforward torque of the analytic model. -/
def analyticFeedforward (c : Controller α) (input : CycleInput α) (sig : LateralSignals α)
    (frictionInput : α) : Except ModelError α :=
  c.capabilities.torqueModel.analyticModel.torque
    (analyticInputs input sig (sig.desiredAccel - sig.rollCompensation)) c.tuning frictionInput
    sig.accelDeadzone true true

/-- The torques of the analytic model, also used where there is no usable plan. -/
def analyticTorques (c : Controller α) (input : CycleInput α) (sig : LateralSignals α)
    (jerk : JerkEstimate α) (setpoint measurement : α) : Except ModelError (ModelTorques α) := do
  let error ← c.analyticError input sig jerk setpoint measurement
  let frictionInput := c.analyticFrictionInput sig jerk
  let feedforward ← c.analyticFeedforward input sig frictionInput
  return {
    error := error
    feedforward := feedforward
    frictionInput := frictionInput
    features := none }

/-- The features of a cycle for the neural model. -/
def featureInputs (c : Controller α) (network : NeuralModel α) (input : CycleInput α)
    (sig : LateralSignals α) (jerk : JerkEstimate α) (setpoint measurement : α) :
    FeatureInputs α where
  speed := input.vehicle.speed
  longitudinalAccel := input.vehicle.longitudinalAccel
  setpoint := setpoint
  measurement := measurement
  jerkSetpoint := jerk.setpoint
  jerkMeasurement := jerk.measurement
  desiredAccel := sig.desiredAccel
  frictionInput :=
    (jerk.accelFrictionFactor * (setpoint - measurement)
      + c.params.jerkFrictionFactor * jerk.lookahead) * network.frictionFactor
  roll := input.road.roll
  pitch := input.road.pitch
  timeOffset := c.delay.delay + futureMargin

/-- The analytic friction on top of the learned one, where the model or the tuning asks for it. -/
def overrideTorque (c : Controller α) (network : NeuralModel α) (input : CycleInput α)
    (sig : LateralSignals α) (frictionInput : α) : Except ModelError (Option α) :=
  if network.frictionOverride || c.tuning.overridden then
    (c.capabilities.torqueModel.analyticModel.torque
      ⟨0, 0, input.vehicle.speed, input.vehicle.longitudinalAccel⟩ c.tuning frictionInput
      sig.accelDeadzone true false).map some
  else .ok none

/-- The torques of the neural model for assembled features. -/
def neuralTorques (c : Controller α) (network : NeuralModel α) (input : CycleInput α)
    (sig : LateralSignals α) (frictionInput : α) (features : Features α) :
    Except ModelError (ModelTorques α) := do
  let fromSetpoint ← network.evaluate features.setpoint
  let fromMeasurement ← network.evaluate features.measurement
  let feedforward ← network.evaluate features.feedforward
  let friction ← c.overrideTorque network input sig frictionInput
  let error := fromSetpoint - fromMeasurement
  return {
    error := match friction with
      | some torque => error + torque
      | none => error
    feedforward := feedforward
    frictionInput := frictionInput
    features := some features.toList }

/-- The torques of a cycle, the feature context after it, and whether the neural model was used:
that takes a usable plan. -/
def modelTorques (c : Controller α) (input : CycleInput α) (sig : LateralSignals α)
    (jerk : JerkEstimate α) (setpoint measurement : α) :
    Except ModelError (ModelTorques α) × FeatureContext α × Bool :=
  match input.usableTrajectory, c.capabilities.torqueModel.neuralModel? with
  | some t, some network =>
    let inputs := c.featureInputs network input sig jerk setpoint measurement
    let (context, features) := c.context.assemble inputs t
    (c.neuralTorques network input sig inputs.frictionInput features, context, true)
  | _, _ => (c.analyticTorques input sig jerk setpoint measurement, c.context, false)

/-- Ends a cycle in which the torque model failed: the previous output is held, and neither PID
controller nor delay estimate nor saturation count moves. -/
def hold (c : Controller α) : Controller α :=
  { c with
    report := { c.report with
      modelFault := true
      error := 0
      frictionInput := 0
      output := c.output
      p := c.pid.p
      i := c.pid.i
      d := c.pid.d
      f := c.pid.f
      saturated := isSaturated c.output c.params.steerMax } }

/-- Ends a cycle with the torques of the model: PID controller, delay estimate, saturation and
record. -/
def drive (c : Controller α) (input : CycleInput α) (torques : ModelTorques α) :
    Controller α × List (Event α) :=
  let speed := input.vehicle.speed
  let pid := c.pid.update torques.error torques.feedforward speed input.freezesIntegrator
  let delay := c.delay.update input.actuatorTorque pid.control
  let saturated := isSaturated pid.control c.params.steerMax
  let saturation := c.saturation.update
    (SaturationMonitor.counts saturated speed input.steerLimited input.vehicle.steeringPressed)
  let output := -pid.control
  ({ c with
    pid := pid
    delay := delay
    saturation := saturation
    output := output
    report := { c.report with
      actuatorDelay := delay.delay
      p := pid.p
      i := pid.i
      d := pid.d
      f := pid.f
      error := torques.error
      frictionInput := torques.frictionInput
      output := output
      saturated := saturated
      saturationTimeout := saturation.timedOut
      features := torques.features } },
    Event.ofDelayReport (c.delay.report? input.actuatorTorque pid.control c.tick))

/-- Ends an active cycle with what the torque model made of it. -/
def settle (c : Controller α) (input : CycleInput α)
    (result : Except ModelError (ModelTorques α)) : Controller α × List (Event α) :=
  match result with
  | .ok torques =>
    if torques.areFinite then c.drive input torques
    else (c.hold, [.torqueNotFinite torques.error torques.feedforward])
  | .error cause => (c.hold, [.modelFailed cause])

/-- An active cycle up to the torque model: the controller with everything but the output settled,
what the model made of the cycle, and the events so far. -/
def prepare (c : Controller α) (input : CycleInput α) :
    Controller α × Except ModelError (ModelTorques α) × List (Event α) :=
  let sig := c.signals input
  let (lowSpeed, events) := c.scheduleLowSpeed (c.lowSpeedInputs input sig)
  let factor := lowSpeed.lastFactor
  let setpoint := sig.desiredAccel + factor * input.desired.curvature
  let measurement := sig.actualAccel + factor * sig.actualCurvature
  let jerk := c.lookAhead input sig
  let (result, context, usedNeural) := c.modelTorques input sig jerk setpoint measurement
  ({ c with
    lowSpeed := lowSpeed
    context := context
    report := { c.report with
      active := true
      actualAccel := sig.actualAccel
      desiredAccel := sig.desiredAccel
      lowSpeedFactor := factor
      desiredJerk := jerk.desired
      lookaheadJerk := jerk.lookahead
      usedNeural := usedNeural } },
    result, events)

/-- An active cycle, from signals to output. -/
def stepActive (c : Controller α) (input : CycleInput α) : Controller α × List (Event α) :=
  let (prepared, result, lowSpeedEvents) := c.prepare input
  let (settled, events) := prepared.settle input result
  (settled, lowSpeedEvents ++ events)

/-! ## A cycle -/

/-- The start of every cycle: it is counted, the tuning is looked up and a record is opened. -/
def openCycle (c : Controller α) : Controller α × List (Event α) :=
  let (refreshed, events) := { c with tick := c.tick + 1 }.refreshTuning
  ({ refreshed with report := refreshed.openRecord }, events)

/-- One cycle.  The torque is in `output`, and `report` is the record of the cycle. -/
def step (c : Controller α) (input : CycleInput α) : Controller α × List (Event α) :=
  let (opened, tuningEvents) := c.openCycle
  let (done, events) :=
    if input.active then opened.stepActive input else ({ opened with output := 0 }, [])
  (done, tuningEvents ++ events
    ++ [.cycleDone done.tick done.report.active done.output done.report.error done.report.f])

end Controller

end LateralTorque
