import Mathlib
import LateralTorque.Session

/-!
# Starting the session of a process

A process has one session, and an attempt to start it sets the epoch of the process before it makes
the directories of the session.  So it is the first attempt that uses the session up, and not the
first one that succeeds: where the directories of the first attempt cannot be made, the process is
left with an epoch and without a session, and every later attempt is refused.

The file system is any, over any state of files: its operations may fail for any cause, and the
files may change in any way between two attempts.  Attempts come one after the other in one process;
attempts that overlap are left out, and so is a new process, which has an epoch of its own.

* `attempt_of_begun`, `attempt_of_fresh` — an attempt in a process with an epoch and in one without;
* `answers_of_begun` — once there is an epoch, nothing but refusals follows;
* `SparesSession` — the session is kept for an attempt that succeeds;
* `sparesSession_iff` — it is so exactly where the first attempt can make its directories;
* `full_disk_uses_up_session` — an attempt that fails for want of space, and one after it.
-/

set_option autoImplicit false

namespace LateralTorque.Session

variable {σ : Type}

/-! ## Attempts -/

/-- An attempt of a process to start its session in a directory of sessions, and what becomes of the
files from the attempt before to this one (`meanwhile`). -/
structure Attempt (σ : Type) where
  now : Epoch
  name : String
  directory : String
  meanwhile : σ → σ

/-- What an attempt finds and leaves. -/
structure Process (σ : Type) where
  epoch : Option Epoch
  files : σ

namespace Process

variable (files : FileSystem (StateM σ))

/-- The answer to an attempt, and the process after it. -/
def attempt (p : Process σ) (a : Attempt σ) : Except SessionError Session × Process σ :=
  let ((answer, epoch), state) :=
    (startIn files p.epoch a.now a.name a.directory).run (a.meanwhile p.files)
  (answer, ⟨epoch, state⟩)

/-- The answers to attempts one after the other. -/
def answers (p : Process σ) : List (Attempt σ) → List (Except SessionError Session)
  | [] => []
  | a :: later => (p.attempt files a).1 :: (p.attempt files a).2.answers later

/-- The process after attempts one after the other. -/
def after (p : Process σ) (attempts : List (Attempt σ)) : Process σ :=
  attempts.foldl (fun p a => (p.attempt files a).2) p

/-- Whether the directories of an attempt can be made. -/
def CanCreate (p : Process σ) (a : Attempt σ) : Prop :=
  ((files.createDirectories (ofEpoch a.directory a.name a.now).archives).run
    (a.meanwhile p.files)).1 = .ok ()

variable {p : Process σ}

/-- A process with an epoch refuses every attempt and leaves the files alone. -/
theorem attempt_of_begun {epoch : Epoch} (h : p.epoch = some epoch) (a : Attempt σ) :
    p.attempt files a = (.error .alreadyStarted, ⟨some epoch, a.meanwhile p.files⟩) := by
  rw [attempt, h]
  rfl

/-- A process without an epoch gets it from an attempt, whatever becomes of the attempt. -/
theorem attempt_of_fresh (h : p.epoch = none) (a : Attempt σ) :
    (p.attempt files a).2.epoch = some a.now ∧
      ((p.CanCreate files a ∧
          (p.attempt files a).1 = .ok (ofEpoch a.directory a.name a.now)) ∨
        (¬ p.CanCreate files a ∧ ∃ cause, (p.attempt files a).1 = .error (.directory cause))) := by
  unfold attempt CanCreate
  rw [h]
  simp only [startIn, StateT.run_bind]
  cases hmade : (files.createDirectories (ofEpoch a.directory a.name a.now).archives).run
    (a.meanwhile p.files) with
  | mk answer left =>
    cases answer with
    | ok made => exact ⟨rfl, .inl ⟨rfl, rfl⟩⟩
    | error cause => exact ⟨rfl, .inr ⟨nofun, cause, rfl⟩⟩

/-- Without an epoch, an attempt succeeds exactly where its directories can be made. -/
theorem succeeds_iff_canCreate (h : p.epoch = none) (a : Attempt σ) :
    (∃ session, (p.attempt files a).1 = .ok session) ↔ p.CanCreate files a := by
  rcases attempt_of_fresh files h a with ⟨-, ⟨hcan, hok⟩ | ⟨hcannot, cause, herror⟩⟩
  · exact ⟨fun _ => hcan, fun _ => ⟨_, hok⟩⟩
  · refine ⟨fun ⟨session, hok⟩ => ?_, fun hcan => absurd hcan hcannot⟩
    rw [herror] at hok
    cases hok

/-! ## Attempts one after the other -/

/-- Once there is an epoch it stays. -/
theorem epoch_after_of_begun {epoch : Epoch} (h : p.epoch = some epoch)
    (attempts : List (Attempt σ)) : (p.after files attempts).epoch = some epoch := by
  induction attempts generalizing p with
  | nil => exact h
  | cons a later ih =>
    have hrefused := attempt_of_begun files h a
    exact ih (congrArg (fun refused => refused.2.epoch) hrefused)

/-- Once there is an epoch, nothing but refusals follows. -/
theorem answers_of_begun {epoch : Epoch} (h : p.epoch = some epoch)
    (attempts : List (Attempt σ)) :
    p.answers files attempts = List.replicate attempts.length (.error .alreadyStarted) := by
  induction attempts generalizing p with
  | nil => rfl
  | cons a later ih =>
    rw [answers, attempt_of_begun files h, ih rfl]
    rfl

/-- What the first attempt leaves is for good: the epoch is its own, and all others are refused. -/
theorem answers_of_fresh (h : p.epoch = none) (first : Attempt σ) (later : List (Attempt σ)) :
    p.answers files (first :: later)
        = (p.attempt files first).1 :: List.replicate later.length (.error .alreadyStarted) ∧
      (p.after files (first :: later)).epoch = some first.now := by
  have hepoch := (attempt_of_fresh files h first).1
  exact ⟨congrArg _ (answers_of_begun files hepoch later),
    epoch_after_of_begun files hepoch later⟩

/-- A process keeps its one session for an attempt that succeeds: it refuses none as long as no
attempt has succeeded, an attempt after failures for want of directories succeeds if its own can be
made, and there is no epoch as long as there is no session. -/
structure SparesSession (files : FileSystem (StateM σ)) (p : Process σ)
    (attempts : List (Attempt σ)) : Prop where
  refusal : ∀ earlier a later, attempts = earlier ++ a :: later →
    ((p.after files earlier).attempt files a).1 = .error .alreadyStarted →
    ∃ session, .ok session ∈ p.answers files earlier
  retry : ∀ earlier a later, attempts = earlier ++ a :: later →
    (∀ answer ∈ p.answers files earlier, ∃ cause, answer = .error (.directory cause)) →
    (p.after files earlier).CanCreate files a →
    ∃ session, ((p.after files earlier).attempt files a).1 = .ok session
  epoch : ∀ earlier later, attempts = earlier ++ later →
    (p.after files earlier).epoch ≠ none → ∃ session, .ok session ∈ p.answers files earlier

/-- Attempts that begin with one that succeeds have a success among them. -/
theorem exists_ok_mem_answers {first : Attempt σ}
    (h : ∃ session, (p.attempt files first).1 = .ok session) (later : List (Attempt σ)) :
    ∃ session, .ok session ∈ p.answers files (first :: later) := by
  obtain ⟨session, hok⟩ := h
  rw [answers, hok]
  exact ⟨session, List.mem_cons_self⟩

theorem sparesSession_of_success (h : p.epoch = none) {attempts : List (Attempt σ)}
    (hfirst : ∀ first ∈ attempts.head?, ∃ session, (p.attempt files first).1 = .ok session) :
    p.SparesSession files attempts := by
  refine ⟨?_, ?_, ?_⟩
  · rintro (_ | ⟨first, rest⟩) a later rfl hrefused
    · obtain ⟨session, hok⟩ := hfirst a rfl
      cases hok.symm.trans hrefused
    · exact exists_ok_mem_answers files (hfirst first rfl) rest
  · rintro (_ | ⟨first, rest⟩) a later rfl hfailed -
    · exact hfirst a rfl
    · obtain ⟨session, hmem⟩ := exists_ok_mem_answers files (hfirst first rfl) rest
      obtain ⟨cause, hcause⟩ := hfailed _ hmem
      cases hcause
  · rintro (_ | ⟨first, rest⟩) later rfl hepoch
    · exact absurd h hepoch
    · exact exists_ok_mem_answers files (hfirst first rfl) rest

/-- **The first attempt uses up the session of a process**, whether it succeeds or not.  So a process
keeps its session for an attempt that succeeds exactly where the first one does; where its
directories cannot be made, all later attempts are refused and the epoch is set all the same. -/
theorem sparesSession_iff (files : FileSystem (StateM σ)) (state : σ)
    (attempts : List (Attempt σ)) :
    let fresh : Process σ := ⟨none, state⟩
    (fresh.SparesSession files attempts ↔ ∀ first ∈ attempts.head?, fresh.CanCreate files first) ∧
      ∀ first later, attempts = first :: later → ¬ fresh.CanCreate files first →
        (∃ cause, fresh.answers files attempts = .error (.directory cause) ::
          List.replicate later.length (.error .alreadyStarted)) ∧
        (fresh.after files attempts).epoch = some first.now := by
  intro fresh
  have hfresh : fresh.epoch = none := rfl
  simp only [← succeeds_iff_canCreate files hfresh]
  refine ⟨⟨fun hspares first hfirst => ?_, sparesSession_of_success files hfresh⟩, ?_⟩
  · -- There is an epoch after the first attempt, so that attempt has to have succeeded.
    obtain ⟨later, rfl⟩ := List.head?_eq_some_iff.mp hfirst
    have hepoch : (fresh.after files [first]).epoch ≠ none := by
      rw [(answers_of_fresh files hfresh first []).2]
      exact nofun
    obtain ⟨session, hmem⟩ := hspares.epoch [first] later rfl hepoch
    exact ⟨session, (List.mem_singleton.mp hmem).symm⟩
  · rintro first later rfl hfails
    obtain ⟨hanswers, hepoch⟩ := answers_of_fresh files hfresh first later
    rcases attempt_of_fresh files hfresh first with
      ⟨-, ⟨-, hok⟩ | ⟨-, cause, hcause⟩⟩
    · exact absurd ⟨_, hok⟩ hfails
    · exact ⟨⟨cause, by rw [hanswers, hcause]⟩, hepoch⟩

/-! ## A disk without space -/

/-- What a full disk answers. -/
def noSpace : FileError := .other "No space left on device (os error 28)"

/-- A disk on which directories can be made as long as there is space.  Its state says whether there
is any. -/
def disk : FileSystem (StateM Bool) where
  readText _ := pure (.error .notFound)
  isDirectory _ := pure false
  createDirectory _ := fun space => (if space then .ok () else .error noSpace, space)
  createFile _ := pure (.error noSpace)
  append _ _ := pure (.error noSpace)
  copy _ _ := pure (.error .notFound)

theorem createDirectories_disk {path : String} (h : Path.steps path ≠ []) (space : Bool) :
    (disk.createDirectories path).run space = (if space then .ok () else .error noSpace, space) := by
  have hreversed : (Path.steps path).reverse ≠ [] := mt List.reverse_eq_nil_iff.mp h
  unfold FileSystem.createDirectories
  generalize (Path.steps path).reverse = names at hreversed
  cases names with
  | nil => exact absurd rfl hreversed
  | cons name above => cases space <;> rfl

/-- An attempt to start a session in the directory at hand. -/
def noonAttempt (meanwhile : Bool → Bool) : Attempt Bool :=
  ⟨⟨"120000", "12:00:00"⟩, "exec", "", meanwhile⟩

theorem archives_noon :
    (ofEpoch "" "exec" ⟨"120000", "12:00:00"⟩).archives = "exec_120000/arch" := by
  cbv

theorem splitOn_noon : "exec_120000/arch".splitOn "/" = ["exec_120000", "arch"] := by
  -- Character by character, since to decide the whole split at once takes far too long.
  rw [String.splitOn, if_neg (by decide)]
  iterate 11 rw [String.splitOnAux, if_neg (by decide +kernel), if_neg (by decide +kernel)]
  rw [String.splitOnAux, if_neg (by decide +kernel), if_pos (by decide +kernel),
    if_pos (by decide +kernel)]
  iterate 4 rw [String.splitOnAux, if_neg (by decide +kernel), if_neg (by decide +kernel)]
  rw [String.splitOnAux, if_pos (by decide +kernel)]
  decide +kernel

theorem steps_noon : Path.steps "exec_120000/arch" ≠ [] := by
  refine List.ne_nil_of_mem (a := "arch") ?_
  unfold Path.steps Path.names
  rw [splitOn_noon]
  dsimp only
  split <;> decide +kernel

theorem createDirectories_noon (space : Bool) :
    (disk.createDirectories (ofEpoch "" "exec" ⟨"120000", "12:00:00"⟩).archives).run space
      = (if space then .ok () else .error noSpace, space) := by
  rw [archives_noon]
  exact createDirectories_disk steps_noon space

/-- An attempt makes its directories where there is space by then. -/
theorem canCreate_disk_iff (p : Process Bool) (meanwhile : Bool → Bool) :
    p.CanCreate disk (noonAttempt meanwhile) ↔ meanwhile p.files = true := by
  have hmade := createDirectories_noon (meanwhile p.files)
  simp only [CanCreate, noonAttempt, hmade]
  cases meanwhile p.files
  · exact ⟨nofun, nofun⟩
  · exact ⟨fun _ => rfl, fun _ => rfl⟩

/-- An attempt that finds no space leaves the epoch. -/
theorem attempt_full_disk {p : Process Bool} (h : p.epoch = none) {meanwhile : Bool → Bool}
    (hfull : meanwhile p.files = false) :
    p.attempt disk (noonAttempt meanwhile)
      = (.error (.directory noSpace), ⟨some (noonAttempt meanwhile).now, false⟩) := by
  simp only [attempt, noonAttempt, h, hfull, startIn, StateT.run_bind, createDirectories_noon]
  rfl

/-- An attempt that finds no space, and one after space was made: the second is refused, though its
directories could be made and the process has no session. -/
theorem full_disk_uses_up_session :
    let fresh : Process Bool := ⟨none, false⟩
    let early := noonAttempt id
    let late := noonAttempt fun _ => true
    fresh.answers disk [early, late] = [.error (.directory noSpace), .error .alreadyStarted] ∧
      (fresh.after disk [early]).epoch = some early.now ∧
      (fresh.after disk [early]).CanCreate disk late ∧
      ¬ fresh.SparesSession disk [early, late] := by
  intro fresh early late
  have hearly : (fresh.attempt disk early).1 = .error (.directory noSpace) :=
    congrArg Prod.fst (attempt_full_disk rfl rfl)
  obtain ⟨hanswers, -⟩ := answers_of_fresh disk (p := fresh) rfl early [late]
  have hepoch : (fresh.after disk [early]).epoch = some early.now :=
    (attempt_of_fresh disk (p := fresh) rfl early).1
  refine ⟨?_, hepoch, (canCreate_disk_iff _ _).mpr rfl, fun hspares => ?_⟩
  · rw [hanswers, hearly]
    rfl
  · have hrefused := congrArg Prod.fst (attempt_of_begun disk hepoch late)
    obtain ⟨session, hmem⟩ := hspares.refusal [early] late [] rfl hrefused
    have hok := List.mem_singleton.mp hmem
    cases hok.trans hearly

/-- On a disk with space the first of two attempts succeeds; on a full one it fails, and the second
is refused. -/
theorem sparesSession_with_space :
    let attempts := [noonAttempt id, noonAttempt id]
    let full : Process Bool := ⟨none, false⟩
    SparesSession disk ⟨none, true⟩ attempts ∧
      ¬ full.CanCreate disk (noonAttempt id) ∧
      (∃ cause, full.answers disk attempts
        = .error (.directory cause) :: List.replicate 1 (.error .alreadyStarted)) ∧
      (full.after disk attempts).epoch = some (noonAttempt id).now := by
  intro attempts full
  have hfails : ¬ full.CanCreate disk (noonAttempt id) :=
    mt (canCreate_disk_iff full id).mp Bool.false_ne_true
  refine ⟨(sparesSession_iff disk true attempts).1.mpr ?_, hfails,
    (sparesSession_iff disk false attempts).2 _ _ rfl hfails⟩
  intro first hfirst
  cases hfirst
  exact (canCreate_disk_iff _ id).mpr rfl

end Process

end LateralTorque.Session
