import LateralTorque.Network.Reader
import LateralTorque.Proofs.NaN
import LateralTorque.Proofs.PastFeatures

/-!
# Controllers with a network

A controller takes a network only with as many inputs as there are features, and shows it vectors of
that length only.  So no size ever stops a cycle: what stops one is a value that is not finite, or
an analytic friction that is not answered.

This holds of any number system, of every description or text of a network, and of every run of a
controller that took the network, beside any analytic model.

* `RunCycle.answers_of_features?` — a network is asked about the features of the cycle;
* `RunCycle.modelFault_of_error`, `RunCycle.not_fault_iff` — when such a cycle stops, and when it
  goes through;
* `Network.sizes_fit_throughout` — from the description of a network to the cycles of a run;
* `fitting_network_stops_cycle` — a network whose sizes fit, and a speed that is NaN.

A cycle that stops is not an accident of the network: it is how the controller treats an answer that
is not finite, and `Fault` says what becomes of it.
-/

set_option autoImplicit false

namespace LateralTorque

variable {α : Type} [Scalar α]

/-- A text that can be read is refused only for what it describes. -/
theorem Network.ofText_eq_ok_iff {d : NetworkDescription α} {n : Network α} {text : String}
    (h : (Json.read? text).bind NetworkDescription.read? = some d) :
    ofText text = .ok n ↔ ofDescription d = .ok n := by
  unfold ofText
  rw [h]
  show (ofDescription d).mapError ModelError.malformed = .ok n ↔ ofDescription d = .ok n
  cases ofDescription d <;> simp [Except.mapError]

/-! ## Cycles -/

/-- An active cycle goes through where all answers are there and come to finite torques. -/
theorem Controller.not_fault_iff_answers (c : Controller α) {input : CycleInput α}
    (hactive : input.active = true) :
    (c.step input).1.report.modelFault = false ↔ ∃ error feedforward,
      (c.openCycle.1.answers input).Gives error feedforward ∧
        Scalar.isFinite error = true ∧ Scalar.isFinite feedforward = true := by
  rw [← Bool.not_eq_true, c.modelFault_iff_answers hactive]
  constructor
  · intro hsound
    rcases (c.openCycle.1.answers input).failed_or_gives with
      ⟨hfailed, -⟩ | ⟨error, feedforward, hgives⟩
    · exact absurd (.inl hfailed) hsound
    · have hfinite : ¬ (Scalar.isFinite error = false ∨ Scalar.isFinite feedforward = false) :=
        fun hinfinite => hsound (.inr ⟨_, _, hgives, hinfinite⟩)
      rw [not_or, Bool.not_eq_false, Bool.not_eq_false] at hfinite
      exact ⟨error, feedforward, hgives, hfinite⟩
  · rintro ⟨error, feedforward, hgives, herror, hforward⟩
    rintro (hfailed | ⟨_, _, hother, hinfinite⟩)
    · exact hgives.not_failed hfailed
    · have hsame := hgives.torques_eq.symm.trans hother.torques_eq
      cases hsame
      simp [herror, hforward] at hinfinite

namespace RunCycle

variable {s : RunCycle α} {network : NeuralModel α} {f : Features α}

/-- What the torque models answer in a cycle. -/
def answers (s : RunCycle α) : Answers α := s.before.openCycle.1.answers s.input

theorem exists_features?_of_neural (h : s.usedNeural = true) : ∃ f, s.features? = some f := by
  obtain ⟨t, network, -, -, hfeatures⟩ := record_of_neural h
  exact ⟨_, hfeatures⟩

/-- The speed of a cycle is the first of the features of its setpoint. -/
theorem speed_mem_setpoint (h : s.features? = some f) :
    s.input.vehicle.speed ∈ f.setpoint := by
  unfold features? at h
  split at h
  · split at h
    · cases h
      exact List.mem_cons_self
    · cases h
  · cases h

theorem features_full (h : s.features? = some f) : f.Full := by
  unfold features? at h
  split at h
  · split at h
    · cases h
      exact FeatureContext.features_full _ _ _
    · cases h
  · cases h

/-- The network answers about the features that the cycle shows it. -/
theorem answers_of_features?
    (hmodel : s.before.capabilities.torqueModel.neuralModel? = some network)
    (h : s.features? = some f) : s.input.active = true ∧
      s.answers.setpoint = network.evaluate f.setpoint ∧
      s.answers.measurement = network.evaluate f.measurement ∧
      s.answers.feedforward = network.evaluate f.feedforward := by
  unfold features? at h
  rw [hmodel] at h
  unfold answers Controller.answers
  rw [Controller.openCycle_capabilities, Controller.openCycle_context, hmodel]
  cases htrajectory : s.input.usableTrajectory with
  | none =>
    rw [htrajectory] at h
    cases h
  | some t =>
    rw [htrajectory] at h
    dsimp only at h
    split at h
    · rename_i hactive
      cases h
      exact ⟨hactive, rfl, rfl, rfl⟩
    · cases h

/-- A cycle stops where the network refuses one of the vectors. -/
theorem modelFault_of_error
    (hmodel : s.before.capabilities.torqueModel.neuralModel? = some network)
    (h : s.features? = some f) {x : List α} (hx : x ∈ [f.setpoint, f.measurement, f.feedforward])
    {cause : ModelError} (herror : network.evaluate x = .error cause) :
    s.after.report.modelFault = true := by
  obtain ⟨hactive, hset, hmeasured, hforward⟩ := answers_of_features? hmodel h
  refine (s.before.modelFault_iff_answers hactive).mpr (.inl ?_)
  show s.answers.Failed
  refine Answers.failed_of_mem cause (List.mem_append_left _ ?_)
  rw [hset, hmeasured, hforward, ← herror]
  exact List.mem_map_of_mem hx

/-- A cycle that shows its features to a network goes through where the outputs of the lists and
what comes of them are finite, and the analytic friction is answered if it is asked for. -/
theorem not_fault_iff {d : NetworkDescription α} {n : Network α}
    (haccepted : Network.ofDescription d = .ok n)
    (hmodel : s.before.capabilities.torqueModel.neuralModel? = some n.toNeuralModel)
    (h : s.features? = some f) {setpoint measurement feedforward : α}
    (hsetpoint : d.output? f.setpoint = some setpoint)
    (hmeasurement : d.output? f.measurement = some measurement)
    (hfeedforward : d.output? f.feedforward = some feedforward) :
    s.after.report.modelFault = false ↔ Scalar.isFinite setpoint = true ∧
      Scalar.isFinite measurement = true ∧ Scalar.isFinite feedforward = true ∧
      ((s.answers.friction = none ∧ Scalar.isFinite (setpoint - measurement) = true) ∨
        ∃ torque, s.answers.friction = some (.ok torque) ∧
          Scalar.isFinite (setpoint - measurement + torque) = true) := by
  obtain ⟨hactive, hset, hmeasured, hforward⟩ := answers_of_features? hmodel h
  have hanswer : ∀ {x : List α} {output value : α}, d.output? x = some output →
      (n.toNeuralModel.evaluate x = .ok value ↔
        value = output ∧ Scalar.isFinite output = true) :=
    fun houtput => Network.evaluate_eq_ok_iff haccepted houtput
  show (s.before.step s.input).1.report.modelFault = false ↔ _
  rw [Controller.not_fault_iff_answers _ hactive]
  show (∃ error forward, s.answers.Gives error forward ∧ _) ↔ _
  simp only [Answers.Gives, hset, hmeasured, hforward, hanswer hsetpoint, hanswer hmeasurement,
    hanswer hfeedforward]
  constructor
  · rintro ⟨_, _, ⟨_, _, ⟨rfl, hs⟩, ⟨rfl, hm⟩, ⟨rfl, hf⟩, hfriction⟩, herror, -⟩
    refine ⟨hs, hm, hf, ?_⟩
    rcases hfriction with ⟨hnone, rfl⟩ | ⟨torque, hsome, rfl⟩
    · exact .inl ⟨hnone, herror⟩
    · exact .inr ⟨torque, hsome, herror⟩
  · rintro ⟨hs, hm, hf, hfriction⟩
    rcases hfriction with ⟨hnone, herror⟩ | ⟨torque, hsome, herror⟩
    · exact ⟨_, _, ⟨_, _, ⟨rfl, hs⟩, ⟨rfl, hm⟩, ⟨rfl, hf⟩, .inl ⟨hnone, rfl⟩⟩, herror, hf⟩
    · exact ⟨_, _, ⟨_, _, ⟨rfl, hs⟩, ⟨rfl, hm⟩, ⟨rfl, hf⟩, .inr ⟨torque, hsome, rfl⟩⟩, herror, hf⟩

end RunCycle

namespace Network

/-- A controller that took a network has it throughout a run, and shows it as many features as it
takes inputs. -/
theorem network_of_create {d : NetworkDescription α} {n : Network α}
    (haccepted : ofDescription d = .ok n) {params : Params α} {capabilities : Capabilities α}
    {fallback : AnalyticModel α}
    (hmodel : capabilities.torqueModel = .neural n.toNeuralModel fallback) {c₀ : Controller α}
    (hcreate : Controller.create params capabilities = .ok c₀) (commands : List (Command α)) :
    d.inputMean.length = featureCount ∧
      (c₀.run commands).capabilities.torqueModel.neuralModel? = some n.toNeuralModel := by
  obtain ⟨-, hfeatures, rfl⟩ := Controller.create_eq_ok_iff.mp hcreate
  have hneural : capabilities.torqueModel.neuralModel? = some n.toNeuralModel := by
    rw [hmodel]
    rfl
  constructor
  · rw [← inputSize_of_ofDescription haccepted]
    exact hfeatures n.toNeuralModel hneural
  · rw [Controller.run_torqueModel]
    exact hneural

/-- **Sizes fit throughout.**  A description is accepted exactly where its sizes fit, and a text
exactly where it reads as such a description.  What an accepted network answers is what the lists
give, which meet no size that does not fit and are refused only if there is another number of
inputs.  In a run of a controller that took the network, no cycle shows it another number: the lists
have an output for each vector of features, and the cycle goes through where these outputs and the
error that comes of them are finite and the analytic friction is answered if it is asked for. -/
theorem sizes_fit_throughout (d : NetworkDescription α) :
    ((∃ n : Network α, ofDescription d = .ok n) ↔ d.WellSized) ∧
    (∀ text, (Json.read? text).bind NetworkDescription.read? = some d →
      ∀ n : Network α, ofText text = .ok n ↔ ofDescription d = .ok n) ∧
    ∀ n : Network α, ofDescription d = .ok n →
      (∀ x, d.evaluate? x = some (n.evaluate x)) ∧
      (∀ x, (∃ expected found, n.evaluate x = .error (.inputSize expected found)) ↔
        x.length ≠ d.inputMean.length) ∧
      ∀ (params : Params α) (capabilities : Capabilities α) (fallback : AnalyticModel α)
        (c₀ : Controller α), capabilities.torqueModel = .neural n.toNeuralModel fallback →
        Controller.create params capabilities = .ok c₀ →
        ∀ (commands : List (Command α)) (input : CycleInput α) (f : Features α),
          let now : RunCycle α := ⟨c₀.run commands, input⟩
          now.features? = some f → ∃ setpoint measurement feedforward,
            d.output? f.setpoint = some setpoint ∧ d.output? f.measurement = some measurement ∧
            d.output? f.feedforward = some feedforward ∧
            (now.after.report.modelFault = false ↔ Scalar.isFinite setpoint = true ∧
              Scalar.isFinite measurement = true ∧ Scalar.isFinite feedforward = true ∧
              ((now.answers.friction = none ∧ Scalar.isFinite (setpoint - measurement) = true) ∨
                ∃ torque, now.answers.friction = some (.ok torque) ∧
                  Scalar.isFinite (setpoint - measurement + torque) = true)) := by
  refine ⟨exists_ofDescription_iff, fun text hparsed n => ofText_eq_ok_iff hparsed,
    fun n haccepted => ?_⟩
  have hsize := inputSize_of_ofDescription haccepted
  refine ⟨evaluate?_of_ofDescription haccepted, fun x => ?_, ?_⟩
  · rw [← hsize]
    exact n.evaluate_eq_inputSize_iff x
  · intro params capabilities fallback c₀ hmodel hcreate commands input f now hf
    obtain ⟨hcount, hneural⟩ := network_of_create haccepted hmodel hcreate commands
    have hfull := RunCycle.features_full hf
    obtain ⟨setpoint, hset⟩ := exists_output? haccepted (hfull.setpoint.trans hcount.symm)
    obtain ⟨measurement, hmeasured⟩ :=
      exists_output? haccepted (hfull.measurement.trans hcount.symm)
    obtain ⟨feedforward, hforward⟩ :=
      exists_output? haccepted (hfull.feedforward.trans hcount.symm)
    exact ⟨setpoint, measurement, feedforward, hset, hmeasured, hforward,
      RunCycle.not_fault_iff haccepted hneural hf hset hmeasured hforward⟩

/-- A network that asks for half the acceleration among its features, in the actuator's direction. -/
def gainDescription : NetworkDescription Float where
  inputMean := List.replicate featureCount 0.0
  inputDeviation := List.replicate featureCount 1.0
  layers := [{
    weights := [(List.replicate featureCount 0.0).set 1 (-0.5)]
    bias := [0.0]
    activation := .linear }]
  frictionOverride := false
  frictionFactor := 1.0

theorem wellSized_gainDescription : gainDescription.WellSized := by
  rw [NetworkDescription.wellSized_iff]
  refine ⟨by simp [gainDescription, featureCount], rfl, by simp [gainDescription], ?_, rfl⟩
  refine ⟨by simp, rfl, fun row hrow => ?_⟩
  obtain rfl := List.mem_singleton.mp hrow
  simp [gainDescription]

/-- The capabilities of a vehicle with a network. -/
def drivenBy (n : Network Float) : Capabilities Float :=
  { Capabilities.standard with torqueModel := .neural n.toNeuralModel .linear }

theorem create_drivenBy {n : Network Float} (h : n.inputSize = featureCount) :
    Controller.create Params.standard (drivenBy n)
      = .ok (Controller.initial Params.standard (drivenBy n)) := by
  refine Controller.create_eq_ok_iff.mpr ⟨Params.validate_standard, ?_, rfl⟩
  rintro network ⟨⟩
  exact h

/-- A turn along a plan, after another one at 20 m/s. -/
def plannedTurnAt (n : Network Float) (speed : Float) : RunCycle Float :=
  ⟨(Controller.initial Params.standard (drivenBy n)).run [.cycle (Controller.plannedTurn 0.002)],
    { CycleInput.turn speed 0.001 with trajectory := some Controller.straightPlan }⟩

theorem neuralModel?_plannedTurnAt (n : Network Float) (speed : Float) :
    (plannedTurnAt n speed).before.capabilities.torqueModel.neuralModel?
      = some n.toNeuralModel := by
  have hmodel : (plannedTurnAt n speed).before.capabilities.torqueModel
      = (drivenBy n).torqueModel := Controller.run_torqueModel _ _
  rw [hmodel]
  rfl

theorem exists_features?_plannedTurnAt (n : Network Float) (speed : Float) :
    ∃ f, (plannedTurnAt n speed).features? = some f := by
  have hgood : Controller.straightPlan.isGood = true := by decide +kernel
  exact RunCycle.exists_features?_of_neural (RunCycle.usedNeural_iff.mpr
    ⟨rfl, Controller.straightPlan, n.toNeuralModel, Option.filter_some_pos hgood,
      neuralModel?_plannedTurnAt n speed⟩)

/-- In a turn along a plan, the lists of a network that fits come to torques. -/
theorem sizes_fit_throughout_turn : ∃ n f,
    ofDescription gainDescription = .ok n ∧
      Controller.create Params.standard (drivenBy n)
        = .ok (Controller.initial Params.standard (drivenBy n)) ∧
      (plannedTurnAt n 20.0).features? = some f ∧
      ∃ setpoint measurement feedforward,
        gainDescription.output? f.setpoint = some setpoint ∧
        gainDescription.output? f.measurement = some measurement ∧
        gainDescription.output? f.feedforward = some feedforward := by
  obtain ⟨haccepted, -, hruns⟩ := sizes_fit_throughout gainDescription
  obtain ⟨n, hn⟩ := haccepted.mpr wellSized_gainDescription
  obtain ⟨f, hf⟩ := exists_features?_plannedTurnAt n 20.0
  have hcreate := create_drivenBy (inputSize_of_ofDescription hn)
  obtain ⟨setpoint, measurement, feedforward, hset, hmeasured, hforward, -⟩ :=
    (hruns n hn).2.2 _ _ _ _ rfl hcreate _ _ f hf
  exact ⟨n, f, hn, hcreate, hf, setpoint, measurement, feedforward, hset, hmeasured, hforward⟩

/-- A network that fits still stops a cycle, for a speed that is no number. -/
theorem fitting_network_stops_cycle : ∃ n,
    ofDescription gainDescription = .ok n ∧
      Controller.create Params.standard (drivenBy n)
        = .ok (Controller.initial Params.standard (drivenBy n)) ∧
      (plannedTurnAt n (0.0 / 0.0)).after.report.modelFault = true := by
  obtain ⟨n, hn⟩ := exists_ofDescription_iff.mpr wellSized_gainDescription
  obtain ⟨f, hf⟩ := exists_features?_plannedTurnAt n (0.0 / 0.0)
  obtain ⟨value, hvalue⟩ := exists_output? hn (RunCycle.features_full hf).setpoint
  have hspeed : Scalar.isNaN (0.0 / 0.0 : Float) = true := by decide +kernel
  have hlinear : ∀ l ∈ gainDescription.layers, l.activation = .linear := by
    simp [gainDescription]
  have hout : Scalar.isNaN value = true := by
    rcases output?_of_nan Double.nanArithmetic hn
        (fun l hl _ => hlinear l hl ▸ Activation.keepsNaN_linear)
        ⟨_, RunCycle.speed_mem_setpoint hf, hspeed⟩ hvalue with ⟨-, hout⟩ | hunseen
    · exact hout
    · cases hunseen
  have hrefused := (evaluate_eq_notFinite_iff hn hvalue).mpr
    (Double.nanArithmetic.not_finite value hout)
  exact ⟨n, hn, create_drivenBy (inputSize_of_ofDescription hn),
    RunCycle.modelFault_of_error (neuralModel?_plannedTurnAt n _) hf List.mem_cons_self hrefused⟩

end Network

end LateralTorque
