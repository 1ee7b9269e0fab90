import LateralTorque.Decimal.Format
import LateralTorque.Decimal.Numeral
import LateralTorque.FileError
import LateralTorque.Text.Blank
import LateralTorque.Text.Quoted
import LateralTorque.Tuning

/-!
# Tuning overrides from a key/value store

A store maps keys to texts.  Every 250th cycle the controller reads the override keys from it; a
read that fails, or one with a value missing, leaves the tuning as it is.

* `KeyValueStore` with `readText`, `readFlag` and `readNumber`;
* `Tuning.readOverrides` — the tuning under the overrides of a store, or why there is none;
* `TuningSource.refresh` — what a cycle makes of its source.

A store is a function of the key, so that one look at it sees one state of it: changes while it is
read are left out, and changes between cycles are another store.  How the texts come from files is
said in `KeyValueStore.ofFile`.
-/

set_option autoImplicit false

namespace LateralTorque

/-- A store of texts under keys.  A key may be absent, and reading one may fail. -/
abbrev KeyValueStore := String → Except FileError (Option String)

/-- Why a key could not be read: it cannot be read at all, its text is not a finite number (a
missing text counts as empty), or the number is not positive where it has to be. -/
inductive StoreError (α : Type) where
  | read (key : String) (cause : FileError)
  | notANumber (key text : String)
  | notPositive (key : String) (value : α)

/-- The text shown for a key that could not be read. -/
def StoreError.message : StoreError Float → String
  | .read key cause => s!"Cannot read key {key}: " ++ cause.message
  | .notANumber key text => s!"Key {key} has an invalid value " ++ Text.quoted text
  | .notPositive key value =>
    s!"Key {key} has an invalid value " ++ Text.quoted (Decimal.format .plain value)

namespace KeyValueStore

variable {α : Type}

/-- The store that holds the given pairs. -/
def ofList (pairs : List (String × String)) : KeyValueStore := fun key => .ok (pairs.lookup key)

/-- The store that answers as a list of reads did; keys that were not read are absent. -/
def ofReads (reads : List (String × Except FileError (Option String))) : KeyValueStore := fun key =>
  (reads.lookup key).getD (.ok none)

/-- What a file that stands for a key says about it: a missing file is an absent key. -/
def ofFile (text : Except FileError String) : Except FileError (Option String) :=
  match text with
  | .ok text => .ok (some text)
  | .error .notFound => .ok none
  | .error cause => .error cause

/-- The text under a key. -/
def readText (s : KeyValueStore) (key : String) : Except (StoreError α) (Option String) :=
  (s key).mapError (.read key)

/-- The flag under a key: set only if the text is `1`, blanks around it aside. -/
def readFlag (s : KeyValueStore) (key : String) : Except (StoreError α) Bool := do
  let text ← s.readText key
  return text.any fun t => Text.trim t.toList == ['1']

variable [Scalar α]

/-- The finite number that a text stands for, blanks around it aside. -/
def finiteNumber? (text : String) : Option α :=
  (Decimal.Numeral.read? (Text.trim text.toList)).bind fun numeral =>
    numeral.toScalar?.filter Scalar.isFinite

/-- The number under a key. -/
def readNumber (s : KeyValueStore) (key : String) : Except (StoreError α) (Option α) := do
  match ← s.readText key with
  | none => return none
  | some text =>
    match finiteNumber? text with
    | some value => return some value
    | none => throw (.notANumber key text)

/-- The number under a key that has to be there. -/
def requireNumber (s : KeyValueStore) (key : String) : Except (StoreError α) α := do
  match ← s.readNumber key with
  | some value => return value
  | none => throw (.notANumber key "")

end KeyValueStore

namespace Tuning

/-- Key of the flag that puts the overrides in force. -/
def overrideKey : String := "TorquedOverride"

/-- Key of the lateral acceleration factor in percent. -/
def accelFactorKey : String := "TorqueMaxLatAccel"

/-- Key of the friction in percent. -/
def frictionKey : String := "TorqueFriction"

/-- The keys that a refresh may read. -/
def keys : List String := [overrideKey, accelFactorKey, frictionKey]

variable {α : Type} [Scalar α]

/-- The tuning under the overrides of a store.  Unless the flag is set the other keys are not
read. -/
def readOverrides (store : KeyValueStore) (current : Tuning α) :
    Except (StoreError α) (Tuning α) := do
  if ← store.readFlag overrideKey then
    let accelFactor ← store.requireNumber accelFactorKey
    let friction ← store.requireNumber frictionKey
    if 0 < accelFactor then
      return { current with
        accelFactor := accelFactor * 0.01
        friction := friction * 0.01
        overridden := true }
    else throw (.notPositive accelFactorKey accelFactor)
  else return { current with overridden := false }

/-- Number of cycles between two reads of the store. -/
def refreshPeriod : Nat := 250

end Tuning

/-- Where the tuning may change from while the controller runs: it stays as it is, is overridden
from a store, or comes from the host.  In double precision unless said otherwise. -/
inductive TuningSource (α : Type := Float) where
  | fixed
  | keyed (store : KeyValueStore)
  /-- A source of the host's own, which may hand over any tuning in any cycle. -/
  | hosted (refresh : (tick : Nat) → (current : Tuning α) → Option (Tuning α))

/-- What a cycle's look at the source comes to.  A tuning from a store is adopted, one from the
host's own source replaces the old one with nothing to report, and where the read failed the tuning
is kept. -/
inductive Refresh (α : Type) where
  | keep
  | adopt (tuning : Tuning α)
  | replace (tuning : Tuning α)
  | failed (cause : StoreError α)

/-- The look at the source in cycle `tick`. -/
def TuningSource.refresh {α : Type} [Scalar α] (source : TuningSource α) (tick : Nat)
    (current : Tuning α) : Refresh α :=
  match source with
  | .fixed => .keep
  | .keyed store =>
    if tick % Tuning.refreshPeriod = 0 then
      match current.readOverrides store with
      | .ok tuning => if tuning.agrees current then .keep else .adopt tuning
      | .error cause => .failed cause
    else .keep
  | .hosted refresh =>
    match refresh tick current with
    | some tuning => .replace tuning
    | none => .keep

end LateralTorque
