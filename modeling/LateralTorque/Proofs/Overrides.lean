import LateralTorque.Proofs.Idle

/-!
# Changes of the tuning

Two writers share the tuning of a running controller: a key/value store that is read on schedule,
and a live estimate that the host hands over between cycles.  Each of them either writes all of its
fields or none.

This holds of any number system and of every run.  A store is a function from keys to what a read of
them gives, failures included, and may be exchanged for another one between any two cycles; a change
in the middle of a read is left out.  The tuning of a store that agrees with the one in use is not
exchanged for it: `Tuning.agrees_iff` says what that leaves open, and in double precision it is the
sign of a zero (`Double.eq_or_zeros_of_beq`).

* `Tuning.Overrides`, `KeyValueStore.Unsets`, `Tuning.Unreadable` — what a store can say;
* `overrides_cases` — what it says comes to overrides, to no overrides, or to a failure;
* `nextTuning_of_overrides`, `nextTuning_of_unsets`, `nextTuning_of_unreadable` — what a cycle on
  schedule makes of each;
* `tuning_changes_scheduled` — the same after every run, with what a live estimate changes and what
  nothing changes.

Whether the numbers that get in use are of any use is the matter of `UsableTuning`.
-/

set_option autoImplicit false

namespace LateralTorque

/-! ## What a store says -/

namespace KeyValueStore

variable {α : Type}

/-- The flag under a key is set: its text is `1`, blanks around it aside. -/
def Sets (s : KeyValueStore) (key : String) : Prop :=
  ∃ text, s key = .ok (some text) ∧ Text.trim text.toList = ['1']

/-- The flag under a key is not set: the key is absent or its text is another one. -/
def Unsets (s : KeyValueStore) (key : String) : Prop :=
  s key = .ok none ∨ ∃ text, s key = .ok (some text) ∧ Text.trim text.toList ≠ ['1']

theorem readFlag_of_sets {s : KeyValueStore} {key : String} (h : s.Sets key) :
    (s.readFlag key : Except (StoreError α) Bool) = .ok true := by
  obtain ⟨text, htext, htrim⟩ := h
  simp [readFlag, readText, htext, htrim, Except.mapError, bind, Except.bind, pure, Except.pure]

theorem readFlag_of_unsets {s : KeyValueStore} {key : String} (h : s.Unsets key) :
    (s.readFlag key : Except (StoreError α) Bool) = .ok false := by
  rcases h with habsent | ⟨text, htext, htrim⟩
  · simp [readFlag, readText, habsent, Except.mapError, bind, Except.bind, pure, Except.pure]
  · simp [readFlag, readText, htext, htrim, Except.mapError, bind, Except.bind, pure, Except.pure]

theorem readFlag_of_error {s : KeyValueStore} {key : String} {cause : FileError}
    (h : s key = .error cause) :
    (s.readFlag key : Except (StoreError α) Bool) = .error (.read key cause) := by
  simp [readFlag, readText, h, Except.mapError, bind, Except.bind]

/-- Either a flag is set, or it is not, or it cannot be read. -/
theorem sets_or_unsets_or_error (s : KeyValueStore) (key : String) :
    s.Sets key ∨ s.Unsets key ∨ ∃ cause, s key = .error cause := by
  cases h : s key with
  | error cause => exact .inr (.inr ⟨cause, rfl⟩)
  | ok text =>
    cases text with
    | none => exact .inr (.inl (.inl h))
    | some text =>
      by_cases htrim : Text.trim text.toList = ['1']
      · exact .inl ⟨text, h, htrim⟩
      · exact .inr (.inl (.inr ⟨text, h, htrim⟩))

variable [Scalar α]

/-- A key holds a finite number: it is present, and its text reads as the number, blanks around it
aside. -/
def Holds (s : KeyValueStore) (key : String) (value : α) : Prop :=
  ∃ text numeral, s key = .ok (some text) ∧
    Decimal.Numeral.read? (Text.trim text.toList) = some numeral ∧
    numeral.toScalar? = some value ∧ Scalar.isFinite value = true

theorem finiteNumber?_eq_some_iff {text : String} {value : α} :
    finiteNumber? text = some value ↔
      ∃ numeral, Decimal.Numeral.read? (Text.trim text.toList) = some numeral ∧
        numeral.toScalar? = some value ∧ Scalar.isFinite value = true := by
  simp [finiteNumber?, Option.bind_eq_some_iff, Option.filter_eq_some_iff]

/-- A number that has to be there is read exactly where the key holds one. -/
theorem requireNumber_eq_ok_iff {s : KeyValueStore} {key : String} {value : α} :
    s.requireNumber key = .ok value ↔ s.Holds key value := by
  unfold requireNumber readNumber readText Holds
  cases s key with
  | error cause => simp [Except.mapError, bind, Except.bind]
  | ok text =>
    cases text with
    | none =>
      simp [Except.mapError, bind, Except.bind, pure, Except.pure, throw, throwThe,
        MonadExceptOf.throw]
    | some text =>
      have hnumber : finiteNumber? text = some value ↔ _ := finiteNumber?_eq_some_iff
      cases hread : (finiteNumber? text : Option α) with
      | none =>
        rw [hread] at hnumber
        simp only [reduceCtorEq, false_iff] at hnumber
        simpa [Except.mapError, bind, Except.bind, hread, throw, throwThe, MonadExceptOf.throw]
          using hnumber
      | some found =>
        rw [hread, Option.some.injEq] at hnumber
        simpa [Except.mapError, bind, Except.bind, hread, pure, Except.pure] using hnumber

/-- A key holds one number at most. -/
theorem holds_unique {s : KeyValueStore} {key : String} {a b : α} (ha : s.Holds key a)
    (hb : s.Holds key b) : a = b := by
  have hread := requireNumber_eq_ok_iff.mpr ha
  rw [requireNumber_eq_ok_iff.mpr hb] at hread
  exact (Except.ok.inj hread).symm

end KeyValueStore

namespace Tuning

variable {α : Type} [Scalar α]

/-- A store puts overrides in force: the flag is set, and both numbers are there, the factor a
positive one. -/
structure Overrides (store : KeyValueStore) (factor friction : α) : Prop where
  sets : store.Sets overrideKey
  holdsFactor : store.Holds accelFactorKey factor
  holdsFriction : store.Holds frictionKey friction
  positive : 0 < factor

/-- A read of the overrides fails: the flag is unreadable, or it is set and a number is unreadable,
missing or not finite, or the factor not positive. -/
def Unreadable (α : Type) [Scalar α] (store : KeyValueStore) : Prop :=
  (∃ cause, store overrideKey = .error cause) ∨
    store.Sets overrideKey ∧
      ((∀ value : α, ¬ store.Holds accelFactorKey value) ∨
        (∀ value : α, ¬ store.Holds frictionKey value) ∨
        ∃ value : α, store.Holds accelFactorKey value ∧ ¬ 0 < value)

/-- A tuning under overrides in percent. -/
def overriddenBy (t : Tuning α) (factor friction : α) : Tuning α :=
  { t with accelFactor := factor * 0.01, friction := friction * 0.01, overridden := true }

/-- A tuning without overrides in force, its numbers as they are. -/
def withoutOverrides (t : Tuning α) : Tuning α := { t with overridden := false }

theorem readOverrides_of_overrides {store : KeyValueStore} {factor friction : α}
    (h : Overrides store factor friction) (current : Tuning α) :
    current.readOverrides store = .ok (current.overriddenBy factor friction) := by
  have hflag := KeyValueStore.readFlag_of_sets (α := α) h.sets
  have hfactor := KeyValueStore.requireNumber_eq_ok_iff.mpr h.holdsFactor
  have hfriction := KeyValueStore.requireNumber_eq_ok_iff.mpr h.holdsFriction
  simp [readOverrides, hflag, hfactor, hfriction, h.positive, bind, Except.bind, pure, Except.pure,
    overriddenBy]

/-- Where the flag is not set the other keys are of no account. -/
theorem readOverrides_of_unsets {store : KeyValueStore} (h : store.Unsets overrideKey)
    (current : Tuning α) : current.readOverrides store = .ok current.withoutOverrides := by
  have hflag := KeyValueStore.readFlag_of_unsets (α := α) h
  simp [readOverrides, hflag, bind, Except.bind, pure, Except.pure, withoutOverrides]

theorem readOverrides_of_unreadable {store : KeyValueStore} (h : Unreadable α store)
    (current : Tuning α) : ∃ cause, current.readOverrides store = .error cause := by
  rcases h with ⟨cause, hflag⟩ | ⟨hset, hnumbers⟩
  · have hread := KeyValueStore.readFlag_of_error (α := α) hflag
    exact ⟨_, by simp [readOverrides, hread, bind, Except.bind]; rfl⟩
  · have hflag := KeyValueStore.readFlag_of_sets (α := α) hset
    cases hfactor : store.requireNumber (α := α) accelFactorKey with
    | error cause => exact ⟨cause, by simp [readOverrides, hflag, hfactor, bind, Except.bind]⟩
    | ok factor =>
      have hholds := KeyValueStore.requireNumber_eq_ok_iff.mp hfactor
      cases hfriction : store.requireNumber (α := α) frictionKey with
      | error cause =>
        exact ⟨cause, by simp [readOverrides, hflag, hfactor, hfriction, bind, Except.bind]⟩
      | ok friction =>
        -- Both numbers are there, so it is the sign of the factor.
        rcases hnumbers with hnone | hnone | ⟨value, hvalue, hsign⟩
        · exact absurd hholds (hnone _)
        · exact absurd (KeyValueStore.requireNumber_eq_ok_iff.mp hfriction) (hnone _)
        · obtain rfl := KeyValueStore.holds_unique hholds hvalue
          exact ⟨_, by simp [readOverrides, hflag, hfactor, hfriction, hsign, bind, Except.bind,
            throw, throwThe, MonadExceptOf.throw]; rfl⟩

/-- A store that puts overrides in force has its flag set. -/
theorem Overrides.not_unsets {store : KeyValueStore} {factor friction : α}
    (h : Overrides store factor friction) : ¬ store.Unsets overrideKey := by
  intro hunset
  have hflag := KeyValueStore.readFlag_of_sets (α := α) h.sets
  rw [KeyValueStore.readFlag_of_unsets hunset] at hflag
  cases hflag

theorem Overrides.not_unreadable {store : KeyValueStore} {factor friction : α}
    (h : Overrides store factor friction) : ¬ Unreadable α store := by
  intro hunreadable
  obtain ⟨cause, hfailed⟩ := readOverrides_of_unreadable hunreadable .standard
  rw [readOverrides_of_overrides h] at hfailed
  cases hfailed

/-- **What a store says** is one of three: overrides, no overrides, or nothing that can be read. -/
theorem overrides_cases (α : Type) [Scalar α] (store : KeyValueStore) :
    (∃ factor friction : α, Overrides store factor friction) ∨
      store.Unsets overrideKey ∨ Unreadable α store := by
  rcases store.sets_or_unsets_or_error overrideKey with hset | hunset | hunreadable
  · by_cases hfactor : ∃ value : α, store.Holds accelFactorKey value
    · by_cases hfriction : ∃ value : α, store.Holds frictionKey value
      · obtain ⟨factor, hfactor⟩ := hfactor
        obtain ⟨friction, hfriction⟩ := hfriction
        by_cases hpositive : 0 < factor
        · exact .inl ⟨factor, friction, hset, hfactor, hfriction, hpositive⟩
        · exact .inr (.inr (.inr ⟨hset, .inr (.inr ⟨factor, hfactor, hpositive⟩)⟩))
      · exact .inr (.inr (.inr ⟨hset, .inr (.inl (not_exists.mp hfriction))⟩))
    · exact .inr (.inr (.inr ⟨hset, .inl (not_exists.mp hfactor)⟩))
  · exact .inr (.inl hunset)
  · exact .inr (.inr (.inl hunreadable))

end Tuning

/-! ## What a cycle makes of it -/

namespace Controller

variable {α : Type} [Scalar α] {c : Controller α} {store : KeyValueStore}

/-- On schedule, the tuning that a read comes to is put in use, unless it agrees with the one that
is. -/
theorem nextTuning_of_due (hsource : c.capabilities.tuningSource = .keyed store)
    (hdue : Tuning.refreshPeriod ∣ c.tick + 1) :
    c.nextTuning = match c.tuning.readOverrides store with
      | .ok tuning => if tuning.agrees c.tuning then c.tuning else tuning
      | .error _ => c.tuning := by
  unfold nextTuning TuningSource.refresh
  rw [hsource]
  simp only [Nat.mod_eq_zero_of_dvd hdue, if_true]
  cases c.tuning.readOverrides store with
  | error cause => rfl
  | ok tuning => cases htuning : tuning.agrees c.tuning <;> simp [htuning]

theorem nextTuning_of_overrides (hsource : c.capabilities.tuningSource = .keyed store)
    (hdue : Tuning.refreshPeriod ∣ c.tick + 1) {factor friction : α}
    (h : Tuning.Overrides store factor friction) :
    c.nextTuning = c.tuning.overriddenBy factor friction ∨
      (c.tuning.overriddenBy factor friction).agrees c.tuning = true ∧ c.nextTuning = c.tuning := by
  rw [nextTuning_of_due hsource hdue, Tuning.readOverrides_of_overrides h]
  dsimp only
  split
  · exact .inr ⟨‹_›, rfl⟩
  · exact .inl rfl

theorem nextTuning_of_unsets (hsource : c.capabilities.tuningSource = .keyed store)
    (hdue : Tuning.refreshPeriod ∣ c.tick + 1) (h : store.Unsets Tuning.overrideKey) :
    c.nextTuning = c.tuning.withoutOverrides := by
  rw [nextTuning_of_due hsource hdue, Tuning.readOverrides_of_unsets h]
  dsimp only
  split
  · rename_i hagrees
    -- Two tunings that agree have the same flag, and here nothing else can differ.
    have hflag : c.tuning.overridden = false := by
      obtain ⟨-, -, -, -, -, hcleared⟩ := Tuning.agrees_iff.mp hagrees
      exact hcleared.symm
    rw [Tuning.withoutOverrides, ← hflag]
  · rfl

theorem nextTuning_of_unreadable (hsource : c.capabilities.tuningSource = .keyed store)
    (hdue : Tuning.refreshPeriod ∣ c.tick + 1) (h : Tuning.Unreadable α store) :
    c.nextTuning = c.tuning := by
  obtain ⟨cause, hfailed⟩ := Tuning.readOverrides_of_unreadable h c.tuning
  rw [nextTuning_of_due hsource hdue, hfailed]

theorem nextTuning_of_not_dvd (hsource : c.capabilities.tuningSource = .keyed store)
    (hdue : ¬ Tuning.refreshPeriod ∣ c.tick + 1) : c.nextTuning = c.tuning := by
  refine nextTuning_of_not_due ?_
  rw [hsource]
  simpa [TuningSource.isDue, Nat.dvd_iff_mod_eq_zero] using hdue

/-- A live estimate is refused and changes nothing, or accepted and changes its three numbers. -/
theorem retune_cases (c : Controller α) (factor offset friction : α) :
    ((∃ flaw, c.retune factor offset friction = .error flaw) ∧
      c.obey (.retune factor offset friction) = c) ∨
    (c.retune factor offset friction = .ok (c.obey (.retune factor offset friction)) ∧
      c.obey (.retune factor offset friction) = { c with
        tuning := { c.tuning with
          accelFactor := factor
          accelOffset := offset
          friction := friction } }) := by
  cases hretune : c.retune factor offset friction with
  | error flaw =>
    have hkept : c.obey (.retune factor offset friction) = c := by rw [obey, hretune]
    exact .inl ⟨⟨flaw, rfl⟩, hkept⟩
  | ok retuned =>
    have htaken : c.obey (.retune factor offset friction) = retuned := by rw [obey, hretune]
    rw [htaken]
    unfold retune at hretune
    split at hretune
    · cases hretune
    · exact .inr ⟨rfl, (Except.ok.inj hretune).symm⟩

/-! ## Runs -/

/-- A controller whose tuning comes from a key/value store, and what a run keeps of the tuning it
started with. -/
structure Keyed (start : Tuning α) (c : Controller α) : Prop where
  source : ∃ store, c.capabilities.tuningSource = .keyed store
  useSteeringAngle : c.tuning.useSteeringAngle = start.useSteeringAngle
  angleDeadzone : c.tuning.angleDeadzone = start.angleDeadzone

variable {start : Tuning α}

theorem keyed_step (h : Keyed start c) (input : CycleInput α) : Keyed start (c.step input).1 := by
  obtain ⟨store, hsource⟩ := h.source
  have hkept : (c.step input).1.tuning.useSteeringAngle = c.tuning.useSteeringAngle ∧
      (c.step input).1.tuning.angleDeadzone = c.tuning.angleDeadzone := by
    rw [step_tuning]
    by_cases hdue : Tuning.refreshPeriod ∣ c.tick + 1
    · rcases Tuning.overrides_cases α store with ⟨_, _, h⟩ | h | h
      · rcases nextTuning_of_overrides hsource hdue h with hn | ⟨_, hn⟩ <;> rw [hn] <;>
          exact ⟨rfl, rfl⟩
      · rw [nextTuning_of_unsets hsource hdue h]
        exact ⟨rfl, rfl⟩
      · rw [nextTuning_of_unreadable hsource hdue h]
        exact ⟨rfl, rfl⟩
    · rw [nextTuning_of_not_dvd hsource hdue]
      exact ⟨rfl, rfl⟩
  exact ⟨⟨store, by rw [step_capabilities, hsource]⟩, hkept.1.trans h.useSteeringAngle,
    hkept.2.trans h.angleDeadzone⟩

theorem keyed_obey (h : Keyed start c) {command : Command α}
    (hsupply : ∀ source, command = .supply source → ∃ store, source = .keyed store) :
    Keyed start (c.obey command) := by
  cases command with
  | cycle input => exact keyed_step h input
  | reset => exact ⟨h.source, h.useSteeringAngle, h.angleDeadzone⟩
  | retune factor offset friction =>
    rcases c.retune_cases factor offset friction with ⟨_, hr⟩ | ⟨_, hr⟩ <;> rw [hr] <;>
      exact ⟨h.source, h.useSteeringAngle, h.angleDeadzone⟩
  | supply source => exact ⟨hsupply source rfl, h.useSteeringAngle, h.angleDeadzone⟩

theorem keyed_run (h : Keyed start c) {commands : List (Command α)}
    (hsupply : ∀ source, .supply source ∈ commands → ∃ store, source = .keyed store) :
    Keyed start (c.run commands) :=
  run_induction_of_mem (P := Keyed start) (fun _ _ hmem hd =>
    keyed_obey hd fun source hs => hsupply source (hs ▸ hmem)) h

/-- **The tuning changes on schedule, all of an entry or nothing of it.**  After any run of a
controller with a key/value store, whose contents may be exchanged in between, a cycle changes the
tuning only where its count is a multiple of 250.  There overrides replace factor, friction and flag
(a tuning that agrees with the one in use is not exchanged for it, but by `Tuning.agrees_iff` all its
numbers compare as equal and its flags are the same); a flag that is not set clears the flag in use
and nothing else, whatever is under the other keys; and a read that fails changes nothing.  A live
estimate replaces its three numbers or, where it is refused, nothing.  How curvature is measured,
and its deadzone, stay as they were. -/
theorem tuning_changes_scheduled {params : Params α} {capabilities : Capabilities α}
    {c₀ : Controller α} (h : create params capabilities = .ok c₀)
    (hsource : ∃ store, capabilities.tuningSource = .keyed store) {commands : List (Command α)}
    (hsupply : ∀ source, .supply source ∈ commands → ∃ store, source = .keyed store) :
    let c := c₀.run commands
    (∃ store, c.capabilities.tuningSource = .keyed store ∧ ∀ input,
      let d := (c.step input).1
      (d.tick = c.tick + 1 ∧ (¬ 250 ∣ d.tick → d.tuning = c.tuning)) ∧
      (250 ∣ d.tick →
        (∀ factor friction, Tuning.Overrides store factor friction →
          let overridden := { c.tuning with
            accelFactor := factor * 0.01
            friction := friction * 0.01
            overridden := true }
          d.tuning = overridden ∨ overridden.agrees c.tuning = true ∧ d.tuning = c.tuning) ∧
        (store.Unsets Tuning.overrideKey → d.tuning = { c.tuning with overridden := false }) ∧
        (Tuning.Unreadable α store → d.tuning = c.tuning))) ∧
    (∀ factor offset friction,
      ((∃ flaw, c.retune factor offset friction = .error flaw) ∧
        c.obey (.retune factor offset friction) = c) ∨
      (c.retune factor offset friction = .ok (c.obey (.retune factor offset friction)) ∧
        c.obey (.retune factor offset friction) = { c with
          tuning := { c.tuning with
            accelFactor := factor
            accelOffset := offset
            friction := friction } })) ∧
    c.tuning.useSteeringAngle = params.tuning.useSteeringAngle ∧
    c.tuning.angleDeadzone = params.tuning.angleDeadzone := by
  intro c
  have hstart : Keyed params.tuning c₀ := by
    obtain ⟨-, -, rfl⟩ := create_eq_ok_iff.mp h
    exact ⟨hsource, rfl, rfl⟩
  have hkeyed : Keyed params.tuning c := keyed_run hstart hsupply
  obtain ⟨store, hstore⟩ := hkeyed.source
  refine ⟨⟨store, hstore, fun input => ?_⟩, c.retune_cases, hkeyed.useSteeringAngle,
    hkeyed.angleDeadzone⟩
  intro d
  have htick : d.tick = c.tick + 1 := c.step_tick input
  have htuning : d.tuning = c.nextTuning := c.step_tuning input
  rw [htick, htuning]
  exact ⟨⟨rfl, nextTuning_of_not_dvd hstore⟩, fun hdue =>
    ⟨fun _ _ => nextTuning_of_overrides hstore hdue, nextTuning_of_unsets hstore hdue,
      nextTuning_of_unreadable hstore hdue⟩⟩

/-- A store with overrides in percent. -/
def overrideStore (factor friction : String) : KeyValueStore :=
  .ofList [(Tuning.overrideKey, "1"), (Tuning.accelFactorKey, factor),
    (Tuning.frictionKey, friction)]

theorem overrides_overrideStore :
    Tuning.Overrides (overrideStore " 300" "12\n") (300.0 : Float) 12.0 where
  sets := ⟨"1", rfl, rfl⟩
  holdsFactor := ⟨" 300", .finite false 300 0, rfl, rfl, by decide +kernel, by decide +kernel⟩
  holdsFriction := ⟨"12\n", .finite false 12 0, rfl, rfl, by decide +kernel, by decide +kernel⟩
  positive := by decide +kernel

/-- Overrides that are stored after 249 cycles are put in use by the next one. -/
theorem tuning_changes_scheduled_at_250 :
    let capabilities : Capabilities Float :=
      { Capabilities.standard with tuningSource := .keyed (.ofList []) }
    let c₀ := initial Params.standard capabilities
    let idle : CycleInput Float := { CycleInput.turn 20.0 0.0 with active := false }
    let commands : List (Command Float) :=
      List.replicate 249 (.cycle idle) ++ [.supply (.keyed (overrideStore " 300" "12\n"))]
    let d := ((c₀.run commands).step idle).1
    create Params.standard capabilities = .ok c₀ ∧ d.tick = 250 ∧
      d.tuning.accelFactor = 300.0 * 0.01 ∧ d.tuning.friction = 12.0 * 0.01 := by
  intro capabilities c₀ idle commands d
  have hcreate : create Params.standard capabilities = .ok c₀ :=
    create_standard Params.validate_standard rfl
  have hsupply : ∀ source, .supply source ∈ commands → ∃ store, source = .keyed store := by
    intro source hmem
    simp only [commands, List.mem_append, List.mem_replicate, reduceCtorEq, and_false, false_or,
      List.mem_singleton, Command.supply.injEq] at hmem
    exact ⟨_, hmem⟩
  have hsource : (c₀.run commands).capabilities.tuningSource
      = .keyed (overrideStore " 300" "12\n") := by
    rw [run, List.foldl_append]
    rfl
  obtain ⟨⟨store, hstore, hcycles⟩, -⟩ := tuning_changes_scheduled hcreate ⟨_, rfl⟩ hsupply
  rw [hsource] at hstore
  cases hstore
  obtain ⟨⟨hcounted, -⟩, hdue⟩ := hcycles idle
  have htick : d.tick = 250 := by
    rw [hcounted, run_tick]
    decide +kernel
  have hmultiple : 250 ∣ d.tick := Dvd.intro_left 1 htick.symm
  rcases (hdue hmultiple).1 300.0 12.0 overrides_overrideStore with hnew | ⟨hagrees, -⟩
  · exact ⟨hcreate, htick, congrArg Tuning.accelFactor hnew, congrArg Tuning.friction hnew⟩
  · -- No overrides were in force before, so the flags differ.
    have hbefore : (c₀.run commands).tuning.overridden = false := by decide +kernel
    obtain ⟨-, -, -, -, -, hflag⟩ := Tuning.agrees_iff.mp hagrees
    rw [hbefore] at hflag
    cases hflag

end Controller

end LateralTorque
