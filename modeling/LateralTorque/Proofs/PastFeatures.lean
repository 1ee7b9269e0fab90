import LateralTorque.Proofs.Fault
import LateralTorque.Proofs.Recording

/-!
# The past features of the neural model

The neural model is shown the desired acceleration and the roll of three earlier cycles.  They come
from histories of 30 cycles, which only the cycles that ask the model enter: with a dropout of the
plan among them a history reaches further back than its places say.

This holds of any number system, and of every run of a controller that was accepted.  What a cycle
records is told by the state and the input that it starts from (`RunCycle`), so that the run as a
whole says from which cycles the features come.

* `usedNeural_iff`, `record_of_neural` — which cycles ask the model, and what they record;
* `records_run` — a context records the cycles since the last reset that asked the model;
* `past_features_recall_neural` — from which cycles the past features of any cycle come, and when
  they are those 29, 19 and 9 cycles before it;
* `dropout_shifts_past_features` — a run in which they are not.

Places are told by counts of cycles.  What they are in seconds follows from the rate: a tenth of a
second for ten cycles holds at 100 cycles per second only.
-/

set_option autoImplicit false

namespace LateralTorque

variable {α : Type} [Scalar α]

/-! ## What a cycle shows the model -/

namespace Controller

/-- The torques of the neural model are there where each of its three answers is, and the friction
that is asked for. -/
theorem neuralTorques_eq_ok_iff {c : Controller α} {network : NeuralModel α}
    {input : CycleInput α} {sig : LateralSignals α} {frictionInput : α} {features : Features α}
    {torques : ModelTorques α} :
    c.neuralTorques network input sig frictionInput features = .ok torques ↔
      ∃ fromSetpoint fromMeasurement feedforward friction,
        network.evaluate features.setpoint = .ok fromSetpoint ∧
        network.evaluate features.measurement = .ok fromMeasurement ∧
        network.evaluate features.feedforward = .ok feedforward ∧
        c.overrideTorque network input sig frictionInput = .ok friction ∧
        torques = {
          error := friction.elim (fromSetpoint - fromMeasurement)
            (fromSetpoint - fromMeasurement + ·)
          feedforward := feedforward
          frictionInput := frictionInput
          features := some features.toList } := by
  unfold neuralTorques
  constructor
  · intro h
    obtain ⟨fromSetpoint, hset, h⟩ := exists_of_bind_eq_ok h
    obtain ⟨fromMeasurement, hmeasured, h⟩ := exists_of_bind_eq_ok h
    obtain ⟨feedforward, hforward, h⟩ := exists_of_bind_eq_ok h
    obtain ⟨friction, hfriction, h⟩ := exists_of_bind_eq_ok h
    refine ⟨fromSetpoint, fromMeasurement, feedforward, friction, hset, hmeasured, hforward,
      hfriction, ?_⟩
    cases h
    cases friction <;> rfl
  · rintro ⟨fromSetpoint, fromMeasurement, feedforward, friction, hset, hmeasured, hforward,
      hfriction, rfl⟩
    rw [hset, hmeasured, hforward, hfriction]
    cases friction <;> rfl

/-- The torques of the neural model come with the features that it was shown. -/
theorem features_of_neuralTorques {c : Controller α} {network : NeuralModel α}
    {input : CycleInput α} {sig : LateralSignals α} {frictionInput : α} {features : Features α}
    {torques : ModelTorques α}
    (h : c.neuralTorques network input sig frictionInput features = .ok torques) :
    torques.features = some features.toList := by
  obtain ⟨_, _, _, _, -, -, -, -, rfl⟩ := neuralTorques_eq_ok_iff.mp h
  rfl

end Controller

/-- A cycle of a controller: the controller before it and what the cycle is given. -/
structure RunCycle (α : Type) where
  before : Controller α
  input : CycleInput α

namespace RunCycle

def after (s : RunCycle α) : Controller α := (s.before.step s.input).1

def tick (s : RunCycle α) : Nat := s.after.tick

/-- Whether a cycle asked the neural model. -/
def usedNeural (s : RunCycle α) : Bool := s.after.report.usedNeural

/-- What a cycle leaves in the histories if it asks the neural model: its roll, adjusted for the
smoothed pitch if the pitch is known, and the desired acceleration in its record. -/
def sample (s : RunCycle α) : FeatureSample α where
  roll := match s.input.road.pitch with
    | some pitch =>
      pitchedRoll s.input.road.roll (s.before.context.pitchFilter.update pitch).value
    | none => s.input.road.roll
  desiredAccel := s.after.report.desiredAccel

/-- The values from which the features of a cycle are made. -/
def featureInputs (s : RunCycle α) (network : NeuralModel α) : FeatureInputs α :=
  s.before.openCycle.1.cycleFeatures network s.input

/-- The feature vectors that a cycle shows to the neural model, if it asks it. -/
def features? (s : RunCycle α) : Option (Features α) :=
  match s.input.usableTrajectory, s.before.capabilities.torqueModel.neuralModel? with
  | some t, some network =>
    if s.input.active then some (s.before.context.assemble (s.featureInputs network) t).2 else none
  | _, _ => none

variable {s : RunCycle α}

/-- The neural model is asked in active cycles, where there is one and a plan that can be used. -/
theorem usedNeural_iff : s.usedNeural = true ↔ s.input.active = true ∧
    ∃ t network, s.input.usableTrajectory = some t ∧
      s.before.capabilities.torqueModel.neuralModel? = some network := by
  unfold usedNeural after
  rw [Controller.step_report_usedNeural, Bool.and_eq_true]
  refine and_congr_right fun _ => ?_
  unfold Controller.outcome Controller.modelTorques
  rw [Controller.openCycle_capabilities]
  cases s.input.usableTrajectory with
  | none => simp
  | some t =>
    cases s.before.capabilities.torqueModel.neuralModel? with
    | none => simp
    | some network => simp

theorem context_of_not_neural (h : s.usedNeural = false) : s.after.context = s.before.context := by
  have hunused : ¬ s.usedNeural = true := by simp [h]
  rw [usedNeural_iff] at hunused
  unfold after
  rw [Controller.step_context]
  split
  · rename_i hactive
    unfold Controller.nextContext
    rw [Controller.openCycle_capabilities]
    split
    · rename_i t network htrajectory hnetwork
      exact absurd ⟨hactive, t, network, htrajectory, hnetwork⟩ hunused
    · exact s.before.openCycle_context
  · rfl

/-- A cycle that asks the neural model is recorded, and its features are read off the record. -/
theorem record_of_neural (h : s.usedNeural = true) : ∃ t network,
    s.after.context = s.before.context.record (s.featureInputs network) ∧
    s.sample = s.before.context.sample (s.featureInputs network) ∧
    s.features? = some (s.after.context.features (s.featureInputs network) t) := by
  obtain ⟨hactive, t, network, htrajectory, hnetwork⟩ := usedNeural_iff.mp h
  have hcontext : s.after.context = s.before.context.record (s.featureInputs network) := by
    unfold after
    rw [Controller.step_context, if_pos hactive]
    unfold Controller.nextContext
    rw [Controller.openCycle_capabilities, htrajectory, hnetwork, Controller.openCycle_context]
    rfl
  have haccel : s.after.report.desiredAccel = (s.featureInputs network).desiredAccel :=
    s.before.step_report_desiredAccel hactive
  have hpitch : (s.featureInputs network).pitch = s.input.road.pitch := rfl
  refine ⟨t, network, hcontext, ?_, ?_⟩
  · unfold sample FeatureContext.sample FeatureContext.cycleRoll FeatureContext.takePitch
    rw [haccel, hpitch]
    cases s.input.road.pitch <;> rfl
  · rw [features?, htrajectory, hnetwork, hcontext]
    simp [hactive, FeatureContext.assemble]

theorem records_of_neural (h : s.usedNeural = true) {samples : List (FeatureSample α)}
    (hrecords : s.before.context.Records samples) :
    s.after.context.Records (samples ++ [s.sample]) := by
  obtain ⟨_, network, hcontext, hsample, _⟩ := record_of_neural h
  rw [hcontext, hsample]
  exact hrecords.record _

/-- Unless it reports a fault, the record of a cycle has its features. -/
theorem report_features (h : s.usedNeural = true) (hsound : s.after.report.modelFault = false) :
    s.after.report.features = s.features?.map Features.toList := by
  obtain ⟨hactive, t, network, htrajectory, hnetwork⟩ := usedNeural_iff.mp h
  obtain ⟨torques, hresult, -, -, -, hfeatures⟩ := s.before.step_driven hactive hsound
  unfold Controller.outcome Controller.modelTorques at hresult
  rw [Controller.openCycle_capabilities, Controller.openCycle_context, htrajectory, hnetwork]
    at hresult
  unfold after
  rw [hfeatures, Controller.features_of_neuralTorques hresult, features?, htrajectory, hnetwork]
  simp [hactive]
  rfl

end RunCycle

/-! ## Runs -/

/-- The cycles of a list are numbered one after the other, the first one by `base`. -/
def Numbered (base : Nat) (cycles : List (RunCycle α)) : Prop :=
  ∀ k s, cycles[k]? = some s → s.tick = base + k

namespace Controller

/-- The cycles of a run. -/
def trace (c : Controller α) : List (Command α) → List (RunCycle α)
  | [] => []
  | command :: rest =>
    match command with
    | .cycle input => ⟨c, input⟩ :: (c.obey command).trace rest
    | .reset | .retune .. | .supply _ => (c.obey command).trace rest

theorem trace_concat (c : Controller α) (commands : List (Command α)) (input : CycleInput α) :
    c.trace (commands ++ [.cycle input]) = c.trace commands ++ [⟨c.run commands, input⟩] := by
  induction commands generalizing c with
  | nil => rfl
  | cons command rest ih =>
    cases command with
    | cycle _ => exact congrArg _ (ih _)
    | reset | retune _ _ _ | supply _ => exact ih _

/-- The cycles of a run are given what the host gives, and all have the same torque model. -/
theorem mem_trace {c : Controller α} {commands : List (Command α)} {s : RunCycle α}
    (h : s ∈ c.trace commands) : .cycle s.input ∈ commands ∧
      s.before.capabilities.torqueModel = c.capabilities.torqueModel := by
  induction commands generalizing c with
  | nil => cases h
  | cons command rest ih =>
    have hlater : s ∈ (c.obey command).trace rest → .cycle s.input ∈ command :: rest ∧
        s.before.capabilities.torqueModel = c.capabilities.torqueModel := by
      intro hmem
      obtain ⟨hinput, hmodel⟩ := ih hmem
      rw [obey_torqueModel] at hmodel
      exact ⟨List.mem_cons_of_mem command hinput, hmodel⟩
    cases command with
    | cycle input =>
      rcases List.mem_cons.mp h with rfl | hmem
      · exact ⟨List.mem_cons_self, rfl⟩
      · exact hlater hmem
    | reset | retune _ _ _ | supply _ => exact hlater h

theorem numbered_trace (c : Controller α) (commands : List (Command α)) :
    Numbered (c.tick + 1) (c.trace commands) := by
  induction commands generalizing c with
  | nil =>
    intro k s hs
    cases hs
  | cons command rest ih =>
    have hrest := ih (c.obey command)
    rw [obey_tick] at hrest
    cases command with
    | cycle input =>
      intro k s hs
      cases k with
      | zero =>
        cases hs
        exact c.obey_tick (.cycle input)
      | succ k =>
        rw [hrest k s hs, Nat.add_right_comm]
        rfl
    | reset | retune _ _ _ | supply _ => exact hrest

/-- The context after commands without a reset records the cycles among them that asked the neural
model, after what it recorded before. -/
theorem records_run {c : Controller α} {old : List (FeatureSample α)} (h : c.context.Records old)
    {commands : List (Command α)} (hkept : ∀ command ∈ commands, command.isReset = false) :
    (c.run commands).context.Records
      (old ++ ((c.trace commands).filter RunCycle.usedNeural).map RunCycle.sample) := by
  induction commands generalizing c old with
  | nil => simpa [trace, run] using h
  | cons command rest ih =>
    have hrest : ∀ other ∈ rest, other.isReset = false :=
      fun other hmem => hkept other (List.mem_cons_of_mem command hmem)
    cases command with
    | cycle input =>
      show ((c.obey (.cycle input)).run rest).context.Records (old ++
        ((⟨c, input⟩ :: (c.obey (.cycle input)).trace rest).filter RunCycle.usedNeural).map
          RunCycle.sample)
      cases hneural : (⟨c, input⟩ : RunCycle α).usedNeural with
      | true =>
        rw [List.filter_cons_of_pos hneural, List.map_cons, List.append_cons]
        exact ih (RunCycle.records_of_neural hneural h) hrest
      | false =>
        rw [List.filter_cons_of_neg (by simp [hneural])]
        exact ih (RunCycle.context_of_not_neural hneural ▸ h) hrest
    | reset => cases hkept .reset List.mem_cons_self
    | retune factor offset friction =>
      have hcontext : (c.obey (.retune factor offset friction)).context = c.context := by
        rw [obey_retune_eq]
      exact ih (hcontext ▸ h) hrest
    | supply source => exact ih h hrest

end Controller

/-! ## Places and times -/

section Alignment

variable {cycles earlier later : List (RunCycle α)} {s : RunCycle α} {base n last : Nat}

theorem Numbered.tick_eq (h : Numbered base (earlier ++ s :: later)) :
    s.tick = base + earlier.length :=
  h earlier.length s (by simp)

theorem Numbered.before_split (h : Numbered base (earlier ++ s :: later)) :
    Numbered base earlier := fun k q hq =>
  h k q (by rw [List.getElem?_append_left (List.getElem?_eq_some_iff.mp hq).1, hq])

theorem Numbered.after_split (h : Numbered base (earlier ++ s :: later)) :
    Numbered (base + earlier.length + 1) later := by
  intro k q hq
  have hplace : (earlier ++ s :: later)[earlier.length + (k + 1)]? = some q := by
    simpa [List.getElem?_append_right] using hq
  rw [h _ q hplace]
  omega

/-- Where each of the last `n` cycles asked the neural model, at least `n` did. -/
theorem Numbered.le_length_filter (h : Numbered base cycles) (hn : n ≤ cycles.length)
    (hneural : ∀ q ∈ cycles, base + cycles.length ≤ q.tick + n → q.usedNeural = true) :
    n ≤ (cycles.filter RunCycle.usedNeural).length := by
  have hrecent : ∀ q ∈ cycles.drop (cycles.length - n), q.usedNeural = true := by
    intro q hq
    obtain ⟨k, hk⟩ := List.mem_iff_getElem?.mp hq
    rw [List.getElem?_drop] at hk
    refine hneural q (List.mem_of_getElem? hk) ?_
    rw [h _ q hk]
    omega
  calc n = (cycles.drop (cycles.length - n)).length := by rw [List.length_drop]; omega
    _ = ((cycles.drop (cycles.length - n)).filter RunCycle.usedNeural).length := by
      rw [List.filter_eq_self.mpr hrecent]
    _ ≤ (cycles.filter RunCycle.usedNeural).length :=
      ((List.drop_sublist _ _).filter RunCycle.usedNeural).length_le

/-- A cycle with `n` cycles after it that asked the neural model is `n` places or more before the
last one, and `n` places exactly where every cycle in these places asked the model. -/
theorem Numbered.tick_add_iff (h : Numbered base (earlier ++ s :: later))
    (hs : s.usedNeural = true) (hn : (later.filter RunCycle.usedNeural).length = n)
    (hlast : last = s.tick + later.length) :
    s.tick + n ≤ last ∧ (s.tick + n = last ↔
      ∀ q ∈ earlier ++ s :: later, last ≤ q.tick + n → q.usedNeural = true) := by
  have hle : n ≤ later.length := hn ▸ List.length_filter_le _ _
  have htick := h.tick_eq
  refine ⟨by omega, fun hexact q hq hrecent => ?_, fun hall => ?_⟩
  · have hlater : ∀ r ∈ later, r.usedNeural = true := by
      rw [← List.length_filter_eq_length_iff]
      omega
    rw [List.mem_append, List.mem_cons] at hq
    rcases hq with hq | rfl | hq
    · -- A cycle before `s` is further back than `n` places.
      obtain ⟨first, rest, rfl⟩ := List.append_of_mem hq
      rw [List.append_assoc, List.cons_append] at h
      have hqtick := h.tick_eq
      rw [List.length_append, List.length_cons] at htick
      omega
    · exact hs
    · exact hlater q hq
  · by_contra hinexact
    -- With more than `n` cycles after `s`, the last `n + 1` of them would all have asked the model.
    have hmore : n + 1 ≤ (later.filter RunCycle.usedNeural).length := by
      refine h.after_split.le_length_filter (by omega) fun q hq hrecent => hall q ?_ (by omega)
      exact List.mem_append_right _ (List.mem_cons_of_mem _ hq)
    omega

/-- The sampled one of at least 30 cycles has a known number of cycles after it. -/
theorem split_of_pastSample? {β : Type} {samples : List β} {i : Nat} (hi : i < 3) {x : β}
    (hx : pastSample? samples i = some x) (hfull : 30 ≤ samples.length) :
    ∃ first rest, samples = first ++ x :: rest ∧ rest.length = 29 - 10 * i := by
  have hlength : (samples.rtake historyLength).length = 30 := by
    simp only [List.rtake, List.length_drop, historyLength]
    omega
  have hindex : min (10 * i) 29 = 10 * i := by omega
  unfold pastSample? at hx
  rw [hlength, hindex, List.rtake, List.getElem?_drop] at hx
  obtain ⟨hplace, hget⟩ := List.getElem?_eq_some_iff.mp hx
  refine ⟨samples.take (samples.length - historyLength + 10 * i),
    samples.drop (samples.length - historyLength + 10 * i + 1), ?_, ?_⟩
  · rw [← hget, ← List.drop_eq_getElem_cons hplace, List.take_append_drop]
  · rw [List.length_drop, historyLength]
    omega

variable {past : List (RunCycle α)} {now : RunCycle α}

/-- **Where a sampled cycle stands.**  With 29 cycles that asked the neural model before this one,
the one sampled for a past feature is in its place or further back. -/
theorem Numbered.place_of_pastSample? (h : Numbered base (past ++ [now]))
    (hnow : now.usedNeural = true) {i : Nat} (hi : i < 3)
    (hs : pastSample? (past.filter RunCycle.usedNeural ++ [now]) i = some s)
    (hfull : 29 ≤ (past.filter RunCycle.usedNeural).length) :
    s ∈ past ∧ s.tick + (29 - 10 * i) ≤ now.tick ∧ (s.tick + (29 - 10 * i) = now.tick ↔
      ∀ q ∈ past, now.tick ≤ q.tick + (29 - 10 * i) → q.usedNeural = true) := by
  have hfilter : (past ++ [now]).filter RunCycle.usedNeural
      = past.filter RunCycle.usedNeural ++ [now] := by
    rw [List.filter_append, List.filter_cons_of_pos hnow, List.filter_nil]
  have hlength : 30 ≤ (past.filter RunCycle.usedNeural ++ [now]).length := by
    rw [List.length_append, List.length_singleton]
    omega
  obtain ⟨first, rest, hsampled, hrest⟩ := split_of_pastSample? hi hs hlength
  rw [← hfilter, List.filter_eq_append_iff] at hsampled
  obtain ⟨earlier, others, hcut, -, hothers⟩ := hsampled
  obtain ⟨between, later, rfl, -, hneural, hlater⟩ := List.filter_eq_cons_iff.mp hothers
  rw [← List.append_assoc] at hcut
  -- This cycle is the last one, so the sampled one is among those before it.
  obtain rfl | ⟨others, last, rfl⟩ := later.eq_nil_or_concat
  · rw [List.filter_nil] at hlater
    rw [← hlater, List.length_nil] at hrest
    omega
  rw [List.concat_eq_append] at hcut hlater
  have hend : past ++ [now] = (earlier ++ between ++ s :: others) ++ [last] := by
    rw [hcut, List.append_assoc (earlier ++ between), List.cons_append]
  obtain ⟨hpast, hnowlast⟩ := List.append_inj' hend rfl
  obtain rfl : now = last := List.singleton_injective hnowlast
  have hticks := h.tick_eq
  have hcounted := hlater ▸ hrest
  rw [hcut] at h
  have hlast : now.tick = s.tick + (others ++ [now]).length := by
    have htick := h.tick_eq
    rw [hticks, htick, hpast]
    simp only [List.length_append, List.length_cons, List.length_nil]
    omega
  have hplace := h.tick_add_iff hneural hcounted hlast
  refine ⟨hpast ▸ by simp, hplace.1, hplace.2.trans ?_⟩
  rw [← hcut, List.forall_mem_append, List.forall_mem_singleton]
  exact and_iff_left fun _ => hnow

end Alignment

namespace Controller

/-- The cycles of a run since the last reset, or since its start if there is none. -/
def recentCycles (c : Controller α) (commands : List (Command α)) : List (RunCycle α) :=
  (c.run (commands.rdropWhile fun command => !command.isReset)).trace
    (commands.rtakeWhile fun command => !command.isReset)

theorem run_since_reset (c : Controller α) (commands : List (Command α)) :
    (c.run (commands.rdropWhile fun command => !command.isReset)).run
      (commands.rtakeWhile fun command => !command.isReset) = c.run commands := by
  rw [run, run, ← List.foldl_append, List.rdropWhile_append_rtakeWhile]
  rfl

theorem numbered_recentCycles (c : Controller α) (commands : List (Command α))
    (input : CycleInput α) :
    ∃ base, Numbered base (c.recentCycles commands ++ [⟨c.run commands, input⟩]) := by
  have htrace := (c.run (commands.rdropWhile fun command => !command.isReset)).numbered_trace
    ((commands.rtakeWhile fun command => !command.isReset) ++ [.cycle input])
  rw [trace_concat, run_since_reset] at htrace
  exact ⟨_, htrace⟩

/-- The context after a run records the cycles since the last reset that asked the neural model. -/
theorem records_recentCycles {params : Params α} {capabilities : Capabilities α}
    {c₀ : Controller α} (h : create params capabilities = .ok c₀) (commands : List (Command α)) :
    (c₀.run commands).context.Records
      (((c₀.recentCycles commands).filter RunCycle.usedNeural).map RunCycle.sample) := by
  have hstart : (c₀.run (commands.rdropWhile fun command => !command.isReset)).context.Records
      [] := by
    obtain ⟨-, -, rfl⟩ := create_eq_ok_iff.mp h
    exact run_upto_reset (P := fun d => d.context.Records []) (FeatureContext.records_create _)
      (fun _ => FeatureContext.records_create _) commands
  have hrecords := records_run hstart (Command.isReset_of_mem_rtakeWhile commands)
  rw [run_since_reset] at hrecords
  exact hrecords

/-- **The past features come from cycles that asked the neural model**, and no others.  A cycle of a
run that asks it shows it the desired acceleration and the roll of three of the last 30 such cycles
since the start or the last reset, itself included.  With 29 of them before it, these are the cycles
29, 19 and 9 before it or earlier ones: one is in its place exactly where every cycle from then on
asked the model too.  So they are in their places after 29 cycles that all asked it. -/
theorem past_features_recall_neural {params : Params α} {capabilities : Capabilities α}
    {c₀ : Controller α} (h : create params capabilities = .ok c₀) (commands : List (Command α))
    {input : CycleInput α} (hneural : (⟨c₀.run commands, input⟩ : RunCycle α).usedNeural = true) :
    let now : RunCycle α := ⟨c₀.run commands, input⟩
    let past := c₀.recentCycles commands
    let recorded := past.filter RunCycle.usedNeural
    ∃ f, now.features? = some f ∧
      (now.after.report.modelFault = false → now.after.report.features = some f.toList) ∧
      (∀ i < 3, ∃ s, pastSample? (recorded ++ [now]) i = some s ∧ f.Recalls i s.sample ∧
        (29 ≤ recorded.length → s.tick + (29 - 10 * i) ≤ now.tick ∧
          (s.tick + (29 - 10 * i) = now.tick ↔
            ∀ q ∈ past, now.tick ≤ q.tick + (29 - 10 * i) → q.usedNeural = true))) ∧
      (29 ≤ past.length → (∀ q ∈ past, now.tick ≤ q.tick + 29 → q.usedNeural = true) →
        ∀ i < 3, ∃ s ∈ past, s.tick + (29 - 10 * i) = now.tick ∧ f.Recalls i s.sample) := by
  intro now past recorded
  have hbefore : now.before.context.Records (recorded.map RunCycle.sample) :=
    records_recentCycles h commands
  obtain ⟨base, hnumbered⟩ := c₀.numbered_recentCycles commands input
  obtain ⟨t, network, -, -, hfeatures⟩ := RunCycle.record_of_neural hneural
  have hrecall : ∀ i < 3, ∃ s, pastSample? (recorded ++ [now]) i = some s ∧
      (now.after.context.features (now.featureInputs network) t).Recalls i s.sample := by
    intro i hi
    have hnow := RunCycle.records_of_neural hneural hbefore
    rw [← List.map_singleton, ← List.map_append] at hnow
    obtain ⟨sample, hsample, hrecalls⟩ := FeatureContext.features_recall hnow (by simp)
      (now.featureInputs network) t hi
    rw [pastSample?_map, Option.map_eq_some_iff] at hsample
    obtain ⟨s, hs, rfl⟩ := hsample
    exact ⟨s, hs, hrecalls⟩
  refine ⟨_, hfeatures, fun hsound => ?_, fun i hi => ?_, fun hlong hall i hi => ?_⟩
  · rw [RunCycle.report_features hneural hsound, hfeatures]
    rfl
  · obtain ⟨s, hs, hrecalls⟩ := hrecall i hi
    exact ⟨s, hs, hrecalls, fun hfull =>
      (hnumbered.place_of_pastSample? hneural hi hs hfull).2⟩
  · obtain ⟨s, hs, hrecalls⟩ := hrecall i hi
    have hfull : 29 ≤ recorded.length :=
      hnumbered.before_split.le_length_filter hlong fun q hq hrecent =>
        hall q hq (hnumbered.tick_eq ▸ hrecent)
    obtain ⟨hmem, -, hplace⟩ := hnumbered.place_of_pastSample? hneural hi hs hfull
    refine ⟨s, hmem, hplace.mpr fun q hq hrecent => hall q hq ?_, hrecalls⟩
    exact hrecent.trans (Nat.add_le_add_left (Nat.sub_le 29 (10 * i)) q.tick)

/-- A neural model that asks for no torque. -/
def quietModel : NeuralModel Float where
  inputSize := featureCount
  evaluate _ := .ok 0.0
  frictionOverride := false
  frictionFactor := 1.0

theorem create_quietModel :
    let capabilities : Capabilities Float :=
      { Capabilities.standard with torqueModel := .neural quietModel .linear }
    create Params.standard capabilities = .ok (initial Params.standard capabilities) := by
  refine create_eq_ok_iff.mpr ⟨Params.validate_standard, ?_, rfl⟩
  rintro network ⟨⟩
  rfl

/-- A plan to go straight on. -/
def straightPlan : Trajectory Float :=
  let zeros : List Float := List.replicate Trajectory.controlLength 0.0
  ⟨(List.range Trajectory.controlLength).map Float.ofNat, zeros, zeros, zeros⟩

/-- A curvature that is asked for at 20 m/s along a plan. -/
def plannedTurn (curvature : Float) : CycleInput Float :=
  { CycleInput.turn 20.0 curvature with trajectory := some straightPlan }

theorem usedNeural_plannedTurn {c : Controller Float}
    (hmodel : c.capabilities.torqueModel = .neural quietModel .linear) (curvature : Float) :
    (⟨c, plannedTurn curvature⟩ : RunCycle Float).usedNeural = true := by
  have hgood : straightPlan.isGood = true := by decide +kernel
  have hnetwork : c.capabilities.torqueModel.neuralModel? = some quietModel := by
    rw [hmodel]
    rfl
  exact RunCycle.usedNeural_iff.mpr
    ⟨rfl, straightPlan, quietModel, Option.filter_some_pos hgood, hnetwork⟩

/-- After a reset and 29 cycles along a plan, the past features are in their places. -/
theorem past_features_in_place_after_reset :
    let capabilities : Capabilities Float :=
      { Capabilities.standard with torqueModel := .neural quietModel .linear }
    let c₀ := initial Params.standard capabilities
    let commands : List (Command Float) :=
      [.cycle (.turn 20.0 0.002), .reset] ++ List.replicate 29 (.cycle (plannedTurn 0.001))
    let now : RunCycle Float := ⟨c₀.run commands, plannedTurn 0.003⟩
    create Params.standard capabilities = .ok c₀ ∧ now.usedNeural = true ∧
      ∃ f, now.features? = some f ∧ ∀ i < 3, ∃ s ∈ c₀.recentCycles commands,
        s.tick + (29 - 10 * i) = now.tick ∧ f.Recalls i s.sample := by
  intro capabilities c₀ commands now
  have hcreate : create Params.standard capabilities = .ok c₀ := create_quietModel
  have hmodel : (c₀.run commands).capabilities.torqueModel = .neural quietModel .linear := by
    rw [run_torqueModel]
    rfl
  have hneural : now.usedNeural = true := usedNeural_plannedTurn hmodel 0.003
  have hrecent : commands.rtakeWhile (fun command => !command.isReset)
      = List.replicate 29 (.cycle (plannedTurn 0.001)) := rfl
  have hpast : ∀ q ∈ c₀.recentCycles commands, q.usedNeural = true := by
    intro q hq
    obtain ⟨before, input⟩ := q
    obtain ⟨hinput, hkept⟩ := mem_trace hq
    rw [hrecent, List.mem_replicate, Command.cycle.injEq] at hinput
    rw [run_torqueModel] at hkept
    obtain ⟨-, rfl⟩ := hinput
    exact usedNeural_plannedTurn hkept 0.001
  obtain ⟨f, hfeatures, -, -, hplaces⟩ := past_features_recall_neural hcreate commands hneural
  exact ⟨hcreate, hneural, f, hfeatures, hplaces (by decide +kernel) fun q hq _ => hpast q hq⟩

/-- After one cycle along a plan, 29 cycles without one leave no sample: the feature that stands for
the cycle 29 before is the one of the cycle 30 before. -/
theorem dropout_shifts_past_features :
    let capabilities : Capabilities Float :=
      { Capabilities.standard with torqueModel := .neural quietModel .linear }
    let c₀ := initial Params.standard capabilities
    let commands : List (Command Float) :=
      .cycle (plannedTurn 0.002) :: List.replicate 29 (.cycle (.turn 20.0 0.001))
    let now : RunCycle Float := ⟨c₀.run commands, plannedTurn 0.001⟩
    create Params.standard capabilities = .ok c₀ ∧ now.usedNeural = true ∧
      (c₀.recentCycles commands).map (·.input.active) = List.replicate 30 true ∧
      (c₀.recentCycles commands)[1]?.map (fun s => (s.tick + 29, s.sample.desiredAccel))
        = some (now.tick, 0.4) ∧
      now.features?.bind (fun f => f.feedforward[4]?) = some 0.8 := by
  intro capabilities c₀ commands now
  exact ⟨create_quietModel, by decide +kernel⟩

end Controller

end LateralTorque
