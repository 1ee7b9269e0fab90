import LateralTorque.Proofs.NaN
import LateralTorque.Proofs.PastFeatures

/-!
# The layout of the feature vectors

A learned model knows its features by their places alone.  Which value stands in which place is said
here for any number of calls, with the calls counted from one: the histories hold the last 30 of
them, and an offset beyond their end reads the newest.

The calls may have any inputs and plans.  The layout holds of any number system; that equal answers
cancel to an error of zero is said in double precision, where the difference of a finite number with
itself is zero, and of an infinite one NaN.

* `History.Records.getOrNewest?_eq_getElem?` — what a history reads, by the place of the sample;
* `Features.LaidOut` — the layout, with `LaidOut.getElem?_setpoint` and `LaidOut.setpoint_eq`;
* `Controller.levelTorques` — the torques where setpoint and measurement are one vector;
* `FeatureContext.vectors_laid_out` — the vectors of any call since the start or a reset;
* `infinite_answer_not_cancelled` — a model that answers infinity, and no error of zero.

How a model was trained on such vectors, and at which rate of cycles, is not known here.
-/

set_option autoImplicit false

namespace LateralTorque

/-! ## Reading by number -/

namespace History

variable {α : Type} {capacity : Nat}

/-- The place among all samples ever pushed, `count` of them, of the one that an index reads: the
oldest of those held comes first, and beyond the newest one it is the newest. -/
def readPlace (capacity count index : Nat) : Nat :=
  let held := min count capacity
  count - held + min index (held - 1)

theorem readPlace_lt {count : Nat} (hcapacity : 0 < capacity) (hcount : 0 < count) (index : Nat) :
    readPlace capacity count index < count := by
  simp only [readPlace]
  omega

theorem Records.getOrNewest?_eq_getElem? {h : History α capacity} {samples : List α}
    (hr : h.Records samples) (hne : samples ≠ []) (index : Nat) :
    h.getOrNewest? index = samples[readPlace capacity samples.length index]? := by
  have hlength : (samples.rtake capacity).length = min samples.length capacity := by
    rw [List.rtake, List.length_drop]
    omega
  have hfirst : samples.length - capacity = samples.length - min samples.length capacity := by
    omega
  rw [hr.getOrNewest?_eq hne, hlength, List.rtake, List.getElem?_drop, hfirst]
  rfl

end History

/-- Of a curve over fewer breakpoints than values only as many values count. -/
theorem interp_take {α : Type} [Scalar α] (x : α) (breakpoints values : List α) (n : Nat) :
    interp x (breakpoints.take n) values = interp x (breakpoints.take n) (values.take n) := by
  have hpoints : (breakpoints.take n).zip values = (breakpoints.take n).zip (values.take n) := by
    induction breakpoints generalizing values n with
    | nil => simp
    | cons first rest ih =>
      cases n with
      | zero => simp
      | succ n =>
        cases values with
        | nil => rfl
        | cons value others =>
          simp only [List.take_succ_cons, List.zip_cons_cons]
          rw [ih]
  rw [interp, interp, hpoints]

/-! ## The layout -/

variable {α : Type}

/-- What stands where in the vectors of a call: `now` is its sample, `past` the three that it
recalls, `planned` and `ahead` the accelerations and rolls of the plan. -/
structure Features.LaidOut (f : Features α) (inputs : FeatureInputs α) (now : FeatureSample α)
    (past : List (FeatureSample α)) (planned ahead : List α) : Prop where
  roll : f.roll = now.roll
  feedforward : f.feedforward =
    [inputs.speed, now.desiredAccel, inputs.frictionInput, now.roll]
      ++ past.map FeatureSample.desiredAccel ++ planned ++ past.map FeatureSample.roll ++ ahead
  setpoint : f.setpoint =
    [inputs.speed, inputs.setpoint, inputs.jerkSetpoint, now.roll]
      ++ List.replicate 7 inputs.setpoint ++ past.map FeatureSample.roll ++ ahead
  measurement : f.measurement =
    [inputs.speed, inputs.measurement, inputs.jerkMeasurement, now.roll]
      ++ List.replicate 7 inputs.measurement ++ past.map FeatureSample.roll ++ ahead

namespace Features.LaidOut

variable {f : Features α} {inputs : FeatureInputs α} {now : FeatureSample α}
  {past : List (FeatureSample α)} {planned ahead : List α}

/-- The vectors of setpoint and measurement share the speed, the roll and all that is past or
planned. -/
theorem getElem?_setpoint (h : f.LaidOut inputs now past planned ahead) {i : Nat}
    (hi : i = 0 ∨ i = 3 ∨ 11 ≤ i) : f.setpoint[i]? = f.measurement[i]? := by
  rw [h.setpoint, h.measurement]
  rcases hi with rfl | rfl | hi
  · rfl
  · rfl
  · have htail : ∀ value jerk : α, ([inputs.speed, value, jerk, now.roll]
        ++ List.replicate 7 value ++ past.map FeatureSample.roll ++ ahead)[i]?
          = (past.map FeatureSample.roll ++ ahead)[i - 11]? := by
      intro value jerk
      rw [List.append_assoc, List.getElem?_append_right (by simp; omega)]
      simp
    rw [htail, htail]

/-- With nothing to correct there is one vector for both. -/
theorem setpoint_eq (h : f.LaidOut inputs now past planned ahead)
    (hlevel : inputs.setpoint = inputs.measurement)
    (hjerk : inputs.jerkSetpoint = inputs.jerkMeasurement) : f.setpoint = f.measurement := by
  rw [h.setpoint, h.measurement, hlevel, hjerk]

end Features.LaidOut

/-! ## Contexts -/

variable [Scalar α]

namespace FeatureContext

variable {context : FeatureContext α} {samples past : List (FeatureSample α)}

omit [Scalar α] in
/-- Once there is a sample, there is one to read at every offset. -/
theorem exists_past (hne : samples ≠ []) :
    ∃ past : List (FeatureSample α), past.map some = historyOffsets.map fun offset =>
      samples[History.readPlace historyLength samples.length offset]? := by
  have hplace : ∀ offset,
      History.readPlace historyLength samples.length offset < samples.length :=
    History.readPlace_lt (by decide) (List.length_pos_iff.mpr hne)
  refine ⟨historyOffsets.map fun offset => samples.get ⟨_, hplace offset⟩, ?_⟩
  rw [List.map_map]
  refine List.map_congr_left fun offset _ => ?_
  exact (List.getElem?_eq_getElem (hplace offset)).symm

omit [Scalar α] in
/-- The past features of one component are those of the samples read. -/
theorem pastSamples_eq {h : History α historyLength} {f : FeatureSample α → α}
    (hrecords : h.Records (samples.map f)) (hne : samples ≠ [])
    (hpast : past.map some = historyOffsets.map fun offset =>
      samples[History.readPlace historyLength samples.length offset]?)
    (current : α) : pastSamples h current = past.map f := by
  have hread : ∀ offset, h.getOrNewest? offset
      = samples[History.readPlace historyLength samples.length offset]?.map f := by
    intro offset
    rw [hrecords.getOrNewest?_eq_getElem? (by simpa using hne), List.length_map,
      List.getElem?_map]
  calc pastSamples h current
      = (historyOffsets.map fun offset =>
          samples[History.readPlace historyLength samples.length offset]?).map
            fun sample => (sample.map f).getD current := by
        rw [pastSamples, List.map_map]
        exact List.map_congr_left fun offset _ => by rw [hread]; rfl
    _ = past.map f := by
        rw [← hpast, List.map_map]
        rfl

/-- **The layout of a cycle** in a context that records samples. -/
theorem features_laidOut (h : context.Records samples) (hne : samples ≠ [])
    (hpast : past.map some = historyOffsets.map fun offset =>
      samples[History.readPlace historyLength samples.length offset]?)
    (inputs : FeatureInputs α) (t : Trajectory α) :
    let roll := context.cycleRoll inputs
    let times := futureTimes inputs.timeOffset inputs.longitudinalAccel inputs.speed
    (context.features inputs t).LaidOut inputs ⟨roll, inputs.desiredAccel⟩ past
      (futureAccels t times) (futureRolls t roll context.pitch times) := by
  intro roll times
  have hrolls : pastSamples context.rolls roll = past.map FeatureSample.roll :=
    pastSamples_eq h.rolls hne hpast roll
  have haccels : pastSamples context.desiredAccels inputs.desiredAccel
      = past.map FeatureSample.desiredAccel := pastSamples_eq h.desiredAccels hne hpast _
  constructor
  · rfl
  · rw [← hrolls, ← haccels, List.append_assoc]
    rfl
  · rw [← hrolls, List.append_assoc]
    rfl
  · rw [← hrolls, List.append_assoc]
    rfl

/-! ## Calls -/

/-- The sample of a call, counted from one. -/
def callSample? (context : FeatureContext α) (calls : List (FeatureInputs α × Trajectory α))
    (number : Nat) : Option (FeatureSample α) :=
  calls[number - 1]?.map fun call => (context.afterCalls (calls.take (number - 1))).sample call.1

theorem getElem?_callSamples (context : FeatureContext α)
    (calls : List (FeatureInputs α × Trajectory α)) (i : Nat) :
    (context.callSamples calls)[i]? = context.callSample? calls (i + 1) := by
  induction calls generalizing context i with
  | nil => rfl
  | cons call rest ih =>
    cases i with
    | zero => rfl
    | succ i => exact ih (context.record call.1) i

end FeatureContext

/-! ## Torques -/

/-- The torques of a cycle that shows setpoint and measurement in one vector. -/
theorem Controller.neuralTorques_of_same_eq_ok_iff {c : Controller α} {network : NeuralModel α}
    {input : CycleInput α} {sig : LateralSignals α} {frictionInput : α} {f : Features α}
    {torques : ModelTorques α} (hsame : f.setpoint = f.measurement) :
    c.neuralTorques network input sig frictionInput f = .ok torques ↔
      ∃ answer feedforward friction, network.evaluate f.setpoint = .ok answer ∧
        network.evaluate f.feedforward = .ok feedforward ∧
        c.overrideTorque network input sig frictionInput = .ok friction ∧
        torques = {
          error := friction.elim (answer - answer) (answer - answer + ·)
          feedforward := feedforward
          frictionInput := frictionInput
          features := some f.toList } := by
  rw [neuralTorques_eq_ok_iff, ← hsame]
  constructor
  · rintro ⟨answer, again, feedforward, friction, hanswer, hagain, hfeedforward, hfriction, rfl⟩
    obtain rfl := Except.ok.inj (hanswer.symm.trans hagain)
    exact ⟨answer, feedforward, friction, hanswer, hfeedforward, hfriction, rfl⟩
  · rintro ⟨answer, feedforward, friction, hanswer, hfeedforward, hfriction, rfl⟩
    exact ⟨answer, answer, feedforward, friction, hanswer, hanswer, hfeedforward, hfriction, rfl⟩

/-- A difference of a double that is not finite from itself is NaN. -/
theorem Double.isNaN_sub_self {x : Float} (h : x.isFinite = false) :
    Scalar.isNaN (x - x) = true := by
  rw [isFinite_eq] at h
  rw [scalar_isNaN_iff]
  refine unpack_pack_notANumber
    (u := Float.Model.UnpackedFloat.sub .binary64 (parts x) (parts x)) ?_
  rw [sub_self_parts, h]
  rfl

/-- What comes of one vector for setpoint and measurement: torques, where the model answers and the
override does; with a finite answer the error is the override alone, but for the sign of a zero; an
answer that is not finite leaves NaN, and the cycle is held. -/
structure Controller.LevelTorques (c : Controller Float) (network : NeuralModel Float)
    (input : CycleInput Float) (sig : LateralSignals Float) (frictionInput : Float)
    (f : Features Float) : Prop where
  given_iff : (∃ torques, c.neuralTorques network input sig frictionInput f = .ok torques) ↔
    (∃ answer, network.evaluate f.setpoint = .ok answer) ∧
      (∃ feedforward, network.evaluate f.feedforward = .ok feedforward) ∧
      ∃ friction, c.overrideTorque network input sig frictionInput = .ok friction
  error_eq : ∀ torques answer friction,
    c.neuralTorques network input sig frictionInput f = .ok torques →
    network.evaluate f.setpoint = .ok answer →
    c.overrideTorque network input sig frictionInput = .ok friction → answer.isFinite = true →
    torques.error = friction.getD 0.0 ∨ friction = some (-0.0) ∧ torques.error = 0.0
  held : ∀ torques answer, c.neuralTorques network input sig frictionInput f = .ok torques →
    network.evaluate f.setpoint = .ok answer → answer.isFinite = false →
    Scalar.isNaN torques.error = true ∧ ∀ prepared : Controller Float,
      prepared.settle input (.ok torques)
        = (prepared.hold, [.torqueNotFinite torques.error torques.feedforward])

/-- A cycle with an error of NaN is held. -/
theorem Controller.settle_of_isNaN {c : Controller Float} {input : CycleInput Float}
    {torques : ModelTorques Float} (h : Scalar.isNaN torques.error = true) :
    c.settle input (.ok torques)
      = (c.hold, [.torqueNotFinite torques.error torques.feedforward]) := by
  have hguard : torques.areFinite = false := by
    rw [ModelTorques.areFinite, Double.nanArithmetic.not_finite _ h, Bool.false_and]
  simp [settle, hguard]

theorem Controller.levelTorques {c : Controller Float} {network : NeuralModel Float}
    {input : CycleInput Float} {sig : LateralSignals Float} {frictionInput : Float}
    {f : Features Float} (hsame : f.setpoint = f.measurement) :
    c.LevelTorques network input sig frictionInput f := by
  constructor
  · simp only [neuralTorques_of_same_eq_ok_iff hsame]
    constructor
    · rintro ⟨_, answer, feedforward, friction, hanswer, hfeedforward, hfriction, -⟩
      exact ⟨⟨answer, hanswer⟩, ⟨feedforward, hfeedforward⟩, friction, hfriction⟩
    · rintro ⟨⟨answer, hanswer⟩, ⟨feedforward, hfeedforward⟩, friction, hfriction⟩
      exact ⟨_, answer, feedforward, friction, hanswer, hfeedforward, hfriction, rfl⟩
  · intro torques answer friction htorques hanswer hfriction hfinite
    obtain ⟨_, _, _, hset, -, hadded, rfl⟩ := (neuralTorques_of_same_eq_ok_iff hsame).mp htorques
    obtain rfl := Except.ok.inj (hanswer.symm.trans hset)
    obtain rfl := Except.ok.inj (hfriction.symm.trans hadded)
    show friction.elim (answer - answer) (answer - answer + ·) = friction.getD 0.0 ∨
      friction = some (-0.0) ∧ friction.elim (answer - answer) (answer - answer + ·) = 0.0
    rw [Double.sub_self_of_isFinite hfinite]
    cases friction with
    | none => exact .inl rfl
    | some torque =>
      rcases Double.zero_add_eq torque with hsum | ⟨rfl, hsum⟩
      · exact .inl hsum
      · exact .inr ⟨rfl, hsum⟩
  · intro torques answer htorques hanswer hinfinite
    have hnan : Scalar.isNaN torques.error = true := by
      obtain ⟨_, _, friction, hset, -, -, rfl⟩ := (neuralTorques_of_same_eq_ok_iff hsame).mp htorques
      obtain rfl := Except.ok.inj (hanswer.symm.trans hset)
      have hdifference := Double.isNaN_sub_self hinfinite
      cases friction with
      | none => exact hdifference
      | some torque => exact Double.nanArithmetic.add _ _ (.inl hdifference)
    exact ⟨hnan, fun prepared => settle_of_isNaN hnan⟩

namespace FeatureContext

/-- A call adds its sample to those of the earlier ones, and is laid out by all of them. -/
theorem assemble_laidOut {start : FeatureContext α} (hstart : start.Records [])
    (earlier : List (FeatureInputs α × Trajectory α)) (inputs : FeatureInputs α)
    (t : Trajectory α) :
    let samples := start.callSamples (earlier ++ [(inputs, t)])
    let assembled := (start.afterCalls earlier).assemble inputs t
    let context := assembled.1
    let f := assembled.2
    let roll := context.cycleRoll inputs
    let times := futureTimes inputs.timeOffset inputs.longitudinalAccel inputs.speed
    samples.getLast? = some ⟨roll, inputs.desiredAccel⟩ ∧
    ∃ past, (past.map some = historyOffsets.map fun offset =>
        samples[History.readPlace historyLength samples.length offset]?) ∧
      f.LaidOut inputs ⟨roll, inputs.desiredAccel⟩ past (futureAccels t times)
        (futureRolls t roll context.pitch times) := by
  intro samples
  have hsamples : samples
      = start.callSamples earlier ++ [(start.afterCalls earlier).sample inputs] :=
    start.callSamples_append earlier [(inputs, t)]
  have hne : samples ≠ [] := by simp [hsamples]
  have hrecords : ((start.afterCalls earlier).record inputs).Records samples := by
    have hbefore := records_afterCalls hstart earlier
    rw [List.nil_append] at hbefore
    rw [hsamples]
    exact hbefore.record inputs
  obtain ⟨past, hpast⟩ := exists_past hne
  refine ⟨?_, past, hpast, features_laidOut hrecords hne hpast inputs t⟩
  rw [hsamples, List.getLast?_concat]
  rfl

/-- **The layout of every call.**  In call `k` since the start or a reset, with at most 30 samples
held, a past feature is that of the call its offset reads, oldest first and never beyond the newest;
the other places are those of `LaidOut`, with the planned acceleration over the first 17 samples of
the plan only.  So setpoint and measurement that agree, with jerk terms that agree, are one vector
for the model, and the error is that of the friction override as far as the answer is finite. -/
theorem vectors_laid_out {start : FeatureContext Float} {period : Float}
    (hstart : start = create period ∨ ∃ earlier : FeatureContext Float, start = earlier.reset)
    (earlier : List (FeatureInputs Float × Trajectory Float)) (inputs : FeatureInputs Float)
    (t : Trajectory Float) :
    let calls := earlier ++ [(inputs, t)]
    let k := calls.length
    let len := min k 30
    let assembled := (start.afterCalls earlier).assemble inputs t
    let context := assembled.1
    let f := assembled.2
    let times := futureTimes inputs.timeOffset inputs.longitudinalAccel inputs.speed
    let planned := times.map fun time =>
      interp time (t.times.take 17) (t.lateralAccels.take 17)
    ∃ now past ahead, start.callSample? calls k = some now ∧
      now.desiredAccel = inputs.desiredAccel ∧
      now.roll = (inputs.pitch.elim inputs.roll fun _ => pitchedRoll inputs.roll context.pitch) ∧
      past.map some = [0, 10, 20].map (fun offset =>
        start.callSample? calls (k - len + 1 + min offset (len - 1))) ∧
      ahead = times.map (fun time => pitchedRoll (interp time t.times t.rolls + now.roll)
        (interp time t.times t.pitches + context.pitch)) ∧
      planned.length = 4 ∧ ahead.length = 4 ∧
      f.LaidOut inputs now past planned ahead ∧
      (∀ i, i = 0 ∨ i = 3 ∨ 11 ≤ i → f.setpoint[i]? = f.measurement[i]?) ∧
      f.toList = f.feedforward ++ f.setpoint ++ f.measurement ∧
      (inputs.setpoint = inputs.measurement → inputs.jerkSetpoint = inputs.jerkMeasurement →
        f.setpoint = f.measurement ∧
        ∀ (c : Controller Float) (network : NeuralModel Float) (input : CycleInput Float)
          (sig : LateralSignals Float),
          c.LevelTorques network input sig inputs.frictionInput f) := by
  intro calls k len
  have hcleared : start.Records [] := by
    rcases hstart with rfl | ⟨before, rfl⟩
    · exact records_create period
    · exact records_create before.period
  obtain ⟨hlast, past, hpast, hlaid⟩ := assemble_laidOut hcleared earlier inputs t
  intro assembled context f times planned
  have hsample : ∀ i, (start.callSamples calls)[i]? = start.callSample? calls (i + 1) :=
    start.getElem?_callSamples calls
  have hlength : (start.callSamples calls).length = k := start.length_callSamples calls
  have hk : 0 < k := by simp [k, calls]
  have hplanned : futureAccels t times = planned :=
    List.map_congr_left fun time _ => interp_take time t.times t.lateralAccels 17
  rw [hplanned] at hlaid
  refine ⟨_, past, _, ?_, rfl, ?_, ?_, rfl, rfl, rfl, hlaid, fun i => hlaid.getElem?_setpoint, rfl,
    fun hlevel hjerk => ?_⟩
  · rw [List.getLast?_eq_getElem?, hsample, start.length_callSamples, Nat.sub_add_cancel hk]
      at hlast
    exact hlast
  · show context.cycleRoll inputs = _
    unfold cycleRoll
    cases inputs.pitch <;> rfl
  · rw [hpast]
    refine List.map_congr_left fun offset _ => ?_
    rw [hsample, hlength, History.readPlace, historyLength, Nat.add_right_comm]
  · have hsame : f.setpoint = f.measurement := hlaid.setpoint_eq hlevel hjerk
    exact ⟨hsame, fun c network input sig => Controller.levelTorques hsame⟩

/-- In a full history that was reset once, with 35 calls before this one, the past features are
those of calls 7, 17 and 27; and where setpoint and measurement agree there is no error. -/
theorem vectors_laid_out_of_ramp :
    let call (accel : Float) : FeatureInputs Float :=
      ⟨20.0, 0.0, 0.5, 0.5, 0.1, 0.1, accel, 0.2, 0.02, none, 0.4⟩
    let start := ((create 0.01).record (call 50.0)).reset
    let earlier := (List.range 35).map fun (i : Nat) =>
      (call (Float.ofNat i), Controller.straightPlan)
    let f := ((start.afterCalls earlier).assemble (call 100.0) Controller.straightPlan).2
    let c := Controller.initial Params.standard Capabilities.standard
    (start = create 0.01 ∨ ∃ before : FeatureContext Float, start = before.reset) ∧
      (call 100.0).setpoint = (call 100.0).measurement ∧
      (call 100.0).jerkSetpoint = (call 100.0).jerkMeasurement ∧
      f.feedforward.take 7 = [20.0, 100.0, 0.2, 0.02, 6.0, 16.0, 26.0] ∧
      ∀ (input : CycleInput Float) (sig : LateralSignals Float),
        ∃ torques, c.neuralTorques Controller.quietModel input sig 0.2 f = .ok torques ∧
          torques.error = 0.0 := by
  intro call start earlier f c
  have hstart : start = create 0.01 ∨ ∃ before : FeatureContext Float, start = before.reset :=
    .inr ⟨_, rfl⟩
  obtain ⟨now, past, ahead, hnow, -, -, hpast, -, -, -, hlaid, -, -, hlevel⟩ :=
    vectors_laid_out hstart earlier (call 100.0) Controller.straightPlan
  obtain rfl : now = ⟨0.02, 100.0⟩ := (Option.some.inj hnow).symm
  obtain rfl : past = [⟨0.02, 6.0⟩, ⟨0.02, 16.0⟩, ⟨0.02, 26.0⟩] :=
    List.map_injective_iff.mpr (Option.some_injective _) hpast
  refine ⟨hstart, rfl, rfl, ?_, fun input sig => ?_⟩
  · rw [hlaid.feedforward]
    rfl
  · have htorques := (hlevel rfl rfl).2 c Controller.quietModel input sig
    obtain ⟨torques, hgiven⟩ := htorques.given_iff.mpr ⟨⟨0.0, rfl⟩, ⟨0.0, rfl⟩, none, rfl⟩
    rcases htorques.error_eq torques 0.0 none hgiven rfl rfl rfl with herror | ⟨hsome, -⟩
    · exact ⟨torques, hgiven, herror⟩
    · cases hsome

end FeatureContext

namespace Controller

/-- A model that answers with one of the features: with the setpoint or the measurement, or with a
planned acceleration for the feedforward. -/
def readingModel : NeuralModel Float where
  inputSize := featureCount
  evaluate features := .ok (features[7]?.getD 0.0)
  frictionOverride := false
  frictionFactor := 1.0

/-- A plan whose acceleration rises by one each second. -/
def risingPlan : Trajectory Float :=
  let times := (List.range Trajectory.controlLength).map fun (i : Nat) => Float.ofNat i / 8.0
  ⟨times, times, times.map fun _ => 0.0, times.map fun _ => 0.0⟩

/-- A turn beyond all measure, asked for and measured alike: setpoint and measurement agree, so do
their jerk terms, and no override is asked for, but the model answers with infinity.  The error is
NaN and the cycle is held. -/
theorem infinite_answer_not_cancelled :
    let tuning : Tuning Float := { Tuning.standard with useSteeringAngle := false }
    let params := { Params.standard with tuning := tuning }
    let capabilities : Capabilities Float :=
      { Capabilities.standard with torqueModel := .neural readingModel .linear }
    let turn : CycleInput Float := CycleInput.turn 20.0 1e308
    let input := { turn with
      vehicle := { turn.vehicle with yawRate := 1e308 }
      trajectory := some risingPlan }
    let c := initial params capabilities
    let now : RunCycle Float := ⟨c, input⟩
    let inputs := now.featureInputs readingModel
    create params capabilities = .ok c ∧ risingPlan.isGood = true ∧ now.usedNeural = true ∧
      inputs.setpoint = inputs.measurement ∧ inputs.jerkSetpoint = inputs.jerkMeasurement ∧
      c.openCycle.1.overrideTorque readingModel input (c.openCycle.1.signals input)
        inputs.frictionInput = .ok none ∧
      (∃ torques, (c.openCycle.1.outcome input).1 = .ok torques ∧ torques.error ≠ 0.0 ∧
        Scalar.isNaN torques.error = true ∧ torques.feedforward = 0.7) ∧
      now.after.report.modelFault = true := by
  intro tuning params capabilities turn input c now inputs
  have hcreate : create params capabilities = .ok c := by
    refine create_eq_ok_iff.mpr ⟨Params.validate_standard, ?_, rfl⟩
    rintro network ⟨⟩
    rfl
  have hlevel : inputs.setpoint = inputs.measurement ∧
      inputs.jerkSetpoint = inputs.jerkMeasurement := by decide +kernel
  refine ⟨hcreate, by decide +kernel, by decide +kernel, hlevel.1, hlevel.2, rfl,
    ⟨_, rfl, ?_⟩, by decide +kernel⟩
  decide +kernel

end Controller

end LateralTorque
