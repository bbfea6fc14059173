import SgmDevice.Utils.SharedMemory

/-!
# Repeated calls of `init()`

One process calls `init()` any number of times, and each of its system calls may fail.
`isInitialized` is set before the attaching path has done its work and never on the creating path,
and no failing path closes what it has opened (`init_consistent_iff`).
-/

namespace SgmDevice

namespace SharedMemory

open Concurrency

/-- How the system calls of one `init()` end: `shm_open` with `O_EXCL` and without, `ftruncate`, and
the address that `mmap` returns. -/
structure Outcomes where
  create : Except Errno ℕ := .ok 3
  attach : Option ℕ := some 3
  truncated : Bool := true
  mappedMem : Option ℕ := some 4096

/-- The statics of the class with the pointer of `sharedDataInstance`, the descriptors that are
open, and the segment. -/
structure Statics where
  isInitialized : Bool := false
  fileDescriptor : Int := -1
  descriptors : List ℕ := []
  sharedMemory : Option ℕ := none
  segment : Segment Unit := { creator := () }
  deriving DecidableEq

/-- `fileDescriptor = shm_open(…)`. -/
def Statics.opened (s : Statics) (descriptor : ℕ) : Statics :=
  { s with fileDescriptor := descriptor, descriptors := descriptor :: s.descriptors }

def Outcomes.exec (outcomes : Outcomes) : (o : Op) → Statics → o.Res × Statics
  | .alreadyInitialized, s | .attached, s => (s.isInitialized, s)
  | .setInitialized, s => ((), { s with isInitialized := true })
  | .shmOpen true, s =>
    match outcomes.create with
    | .ok descriptor => (none, s.opened descriptor)
    | .error errno => (some errno, { s with fileDescriptor := -1 })
  | .shmOpen false, s =>
    match outcomes.attach with
    | some descriptor => (none, s.opened descriptor)
    | none => (some .other, { s with fileDescriptor := -1 })
  | .fileDescriptor, s => (s.fileDescriptor, s)
  | .ftruncate, s => (if outcomes.truncated then 0 else -1, s)
  | .mmap, s => (outcomes.mappedMem.elim (-1) fun address => address, s)
  | .setData, s => ((), { s with sharedMemory := outcomes.mappedMem })
  | .initData st, s => ((), { s with segment := st.exec s.segment })

/-- One call of `init()`. -/
def Outcomes.call (outcomes : Outcomes) (s : Statics) : Result × Statics :=
  init.eval outcomes.exec s

/-- The statics, and whether a call has returned `INIT_OK`. -/
structure Calls where
  statics : Statics := {}
  returnedOk : Bool := false
  deriving DecidableEq

def repeatedInit : System Calls Outcomes where
  step s outcomes :=
    let (result, statics) := outcomes.call s.statics
    some ⟨statics, s.returnedOk || result = .initOk⟩

/-- What a call owes to the object: the flag stands for a success, a failure changes nothing, and
after a success nothing is done any more. -/
structure Consistent (s : Calls) (outcomes : Outcomes) : Prop where
  initialized_of_ok : s.statics.isInitialized = true → s.returnedOk = true
  unchanged_of_error : (outcomes.call s.statics).1 = .initError →
    (outcomes.call s.statics).2.isInitialized = s.statics.isInitialized ∧
      (outcomes.call s.statics).2.sharedMemory = s.statics.sharedMemory ∧
      (outcomes.call s.statics).2.descriptors = s.statics.descriptors
  finished : s.returnedOk = true →
    s.statics.isInitialized = true ∧ outcomes.call s.statics = (.initError, s.statics)

/-- The segment is opened, one way or the other. -/
def Outcomes.Opens (outcomes : Outcomes) : Prop :=
  match outcomes.create with
  | .ok _ => True
  | .error .eexist => outcomes.attach.isSome
  | .error .other => False

/-- The flag is set already, or nothing is mapped yet and either everything succeeds or the first
`shm_open` fails with another error than `EEXIST`. -/
def MapsOnce (s : Calls) (outcomes : Outcomes) : Prop :=
  s.statics.isInitialized = true ∨ s.statics.sharedMemory = none ∧
    (outcomes.create = .error .other ∨
      outcomes.Opens ∧ outcomes.truncated = true ∧ outcomes.mappedMem.isSome = true)

/-! ## What a call does -/

section Call

variable (outcomes : Outcomes) (s : Statics)

theorem fileDescriptor_opened (descriptor : ℕ) : (s.opened descriptor).fileDescriptor ≠ -1 := by
  change (descriptor : Int) ≠ -1
  omega

theorem call_of_initialized (h : s.isInitialized = true) :
    outcomes.call s = (.initError, s) := by
  simp [Outcomes.call, init, Program.perform, Outcomes.exec, h]

theorem mapAndInit_of_closed (h : s.fileDescriptor = -1) :
    mapAndInit.eval outcomes.exec s = (.initError, s) := by
  simp [mapAndInit, Program.perform, Outcomes.exec, h]

/-- Without a segment of the right size that is mapped, the call gives up and leaves everything as
it stands. -/
theorem mapAndInit_of_unmapped (h : outcomes.truncated = false ∨ outcomes.mappedMem = none) :
    mapAndInit.eval outcomes.exec s = (.initError, s) := by
  by_cases hclosed : s.fileDescriptor = -1
  · exact mapAndInit_of_closed outcomes s hclosed
  · rcases h with htruncated | hmapped
    · simp [mapAndInit, Program.perform, Outcomes.exec, hclosed, htruncated]
    · by_cases htruncated : outcomes.truncated <;>
        simp [mapAndInit, Program.perform, Outcomes.exec, hclosed, htruncated, hmapped]

/-- With everything in place the segment is mapped, and the flag is not looked at again. -/
theorem mapAndInit_of_mapped (hopen : s.fileDescriptor ≠ -1)
    (htruncated : outcomes.truncated = true) (hmapped : outcomes.mappedMem.isSome = true) :
    ∃ s', mapAndInit.eval outcomes.exec s = (.initOk, s') ∧
      s'.sharedMemory = outcomes.mappedMem := by
  obtain ⟨address, haddress⟩ := Option.isSome_iff_exists.1 hmapped
  have hvalid : ¬ (address : Int) = -1 := by omega
  by_cases hattached : s.isInitialized = true
  · exact ⟨_, by simp [mapAndInit, Program.perform, Outcomes.exec, hopen, htruncated, haddress,
      hvalid, hattached]; rfl, haddress.symm⟩
  · exact ⟨_, by simp [mapAndInit, initData, Program.perform, Outcomes.exec, hopen, htruncated,
      haddress, hvalid, hattached]; rfl, haddress.symm⟩

variable {outcomes s} (hfirst : s.isInitialized = false)

include hfirst

theorem call_of_error (h : outcomes.create = .error .other) :
    outcomes.call s = (.initError, { s with fileDescriptor := -1 }) := by
  simp [Outcomes.call, init, Program.perform, Outcomes.exec, hfirst, h]

theorem call_of_created {descriptor : ℕ} (h : outcomes.create = .ok descriptor) :
    outcomes.call s = mapAndInit.eval outcomes.exec (s.opened descriptor) := by
  simp [Outcomes.call, init, Program.perform, Outcomes.exec, hfirst, h]

/-- The flag is set before the descriptor is looked at. -/
theorem call_of_exists (h : outcomes.create = .error .eexist) :
    outcomes.call s = mapAndInit.eval outcomes.exec
      { outcomes.attach.elim { s with fileDescriptor := -1 } fun descriptor => s.opened descriptor
        with isInitialized := true } := by
  cases hattach : outcomes.attach <;>
    simp [Outcomes.call, init, Program.perform, Outcomes.exec, hfirst, h, hattach, Statics.opened]

theorem call_of_success (hopens : outcomes.Opens) (htruncated : outcomes.truncated = true)
    (hmapped : outcomes.mappedMem.isSome = true) :
    ∃ s', outcomes.call s = (.initOk, s') ∧ s'.sharedMemory = outcomes.mappedMem := by
  unfold Outcomes.Opens at hopens
  cases hcreate : outcomes.create with
  | ok descriptor =>
    rw [call_of_created hfirst hcreate]
    exact mapAndInit_of_mapped _ _ (fileDescriptor_opened s descriptor) htruncated hmapped
  | error errno =>
    rw [hcreate] at hopens
    cases errno with
    | other => exact hopens.elim
    | eexist =>
      obtain ⟨descriptor, hattach⟩ := Option.isSome_iff_exists.1 hopens
      rw [call_of_exists hfirst hcreate, hattach]
      exact mapAndInit_of_mapped _ _ (fileDescriptor_opened s descriptor) htruncated hmapped

/-- A call that gives up behind the first `shm_open` leaves a descriptor open or the flag set. -/
theorem call_of_failure (hcreate : outcomes.create ≠ .error .other)
    (h : ¬ (outcomes.Opens ∧ outcomes.truncated = true ∧ outcomes.mappedMem.isSome = true)) :
    (outcomes.call s).1 = .initError ∧
      ((outcomes.call s).2.isInitialized = true ∨
        (outcomes.call s).2.descriptors ≠ s.descriptors) := by
  have hunmapped : outcomes.Opens → outcomes.truncated = false ∨ outcomes.mappedMem = none := by
    intro hopens
    by_contra hboth
    rw [not_or, Bool.not_eq_false, ← Option.not_isSome_iff_eq_none, not_not] at hboth
    exact h ⟨hopens, hboth⟩
  unfold Outcomes.Opens at hunmapped
  match hfailed : outcomes.create with
  | .ok descriptor =>
    rw [hfailed] at hunmapped
    rw [call_of_created hfirst hfailed, mapAndInit_of_unmapped _ _ (hunmapped trivial)]
    exact ⟨rfl, .inr (List.cons_ne_self descriptor s.descriptors)⟩
  | .error .eexist =>
    rw [hfailed] at hunmapped
    rw [call_of_exists hfirst hfailed]
    cases hattach : outcomes.attach with
    | none =>
      rw [mapAndInit_of_closed]
      · exact ⟨rfl, .inl rfl⟩
      · rfl
    | some descriptor =>
      rw [mapAndInit_of_unmapped _ _ (hunmapped (by rw [hattach]; rfl))]
      exact ⟨rfl, .inl rfl⟩
  | .error .other => exact absurd hfailed hcreate

end Call

/-! ## Any number of calls -/

/-- The flag stands for a success, and so does the pointer. -/
structure Told (s : Calls) : Prop where
  initialized : s.statics.isInitialized = true → s.returnedOk = true
  mapped : s.returnedOk = true ↔ s.statics.sharedMemory.isSome = true

theorem consistent_iff {s : Calls} (told : Told s) (outcomes : Outcomes) :
    Consistent s outcomes ↔ MapsOnce s outcomes := by
  by_cases hfirst : s.statics.isInitialized = true
  · have hcall := call_of_initialized outcomes s.statics hfirst
    refine iff_of_true ⟨told.initialized, fun _ => ?_, fun _ => ⟨hfirst, hcall⟩⟩ (.inl hfirst)
    rw [hcall]
    exact ⟨rfl, rfl, rfl⟩
  by_cases hok : s.returnedOk = true
  · -- the creating path has left the flag down
    refine iff_of_false (fun h => hfirst (h.finished hok).1) ?_
    rintro (hflag | ⟨hnone, -⟩)
    · exact hfirst hflag
    · have hmapped := told.mapped.1 hok
      rw [hnone] at hmapped
      cases hmapped
  have hnone : s.statics.sharedMemory = none := by
    rwa [told.mapped, Option.not_isSome_iff_eq_none] at hok
  rw [MapsOnce, or_iff_right hfirst, and_iff_right hnone]
  rw [Bool.not_eq_true] at hfirst
  constructor
  · intro h
    by_contra hfailure
    rw [not_or] at hfailure
    obtain ⟨herror, hleft⟩ := call_of_failure hfirst hfailure.1 hfailure.2
    obtain ⟨hflag, -, hdescriptors⟩ := h.unchanged_of_error herror
    rcases hleft with hset | hopen
    · rw [hset, hfirst] at hflag
      cases hflag
    · exact hopen hdescriptors
  · intro h
    refine ⟨fun hflag => ?_, fun herror => ?_, fun hreturned => absurd hreturned hok⟩
    · rw [hfirst] at hflag
      cases hflag
    · rcases h with hother | ⟨hopens, htruncated, hmapped⟩
      · rw [call_of_error hfirst hother]
        exact ⟨rfl, rfl, rfl⟩
      · obtain ⟨s', hcall, -⟩ := call_of_success hfirst hopens htruncated hmapped
        rw [hcall] at herror
        cases herror

theorem Told.step {s s' : Calls} {outcomes : Outcomes} (told : Told s)
    (honce : MapsOnce s outcomes) (hs : repeatedInit.step s outcomes = some s') : Told s' := by
  have hafter : s' = ⟨(outcomes.call s.statics).2,
      s.returnedOk || decide ((outcomes.call s.statics).1 = .initOk)⟩ := (Option.some.inj hs).symm
  rw [hafter]
  by_cases hfirst : s.statics.isInitialized = true
  · rw [call_of_initialized outcomes s.statics hfirst]
    exact ⟨fun h => by simpa using told.initialized h, by simpa using told.mapped⟩
  rw [MapsOnce, or_iff_right hfirst] at honce
  rw [Bool.not_eq_true] at hfirst
  obtain ⟨-, hother | ⟨hopens, htruncated, hmapped⟩⟩ := honce
  · rw [call_of_error hfirst hother]
    exact ⟨fun h => by simpa using told.initialized h, by simpa using told.mapped⟩
  · obtain ⟨statics, hcall, haddress⟩ := call_of_success hfirst hopens htruncated hmapped
    rw [hcall]
    exact ⟨fun _ => by simp, by simpa [haddress] using hmapped⟩

/-- Every call keeps the object consistent if and only if each one finds the flag set, or finds
nothing mapped and either succeeds altogether or fails at its first `shm_open`, with another error
than `EEXIST`. -/
theorem init_consistent_iff (calls : List Outcomes) :
    repeatedInit.Obeys {} calls Consistent ↔ repeatedInit.Obeys {} calls MapsOnce :=
  System.obeys_iff_obeys (fun _ outcomes _ told _ => consistent_iff told outcomes)
    (fun _ _ _ told honce hs => Told.step told honce hs)
    ⟨fun h => absurd h (by decide), by decide⟩ calls

/-- A segment that exists and cannot be opened leaves the flag set; and behind a creation a second
call maps the segment once more. -/
theorem init_inconsistent :
    ¬ repeatedInit.Obeys {} [{ create := .error .eexist, attach := none }] Consistent ∧
      ¬ repeatedInit.Obeys {} [{}, { create := .error .eexist, mappedMem := some 8192 }]
        Consistent := by
  constructor
  · intro h
    have hfailed := h _ List.mem_cons_self
    exact absurd (hfailed.unchanged_of_error (by decide)).1 (by decide)
  · intro h
    have hsecond := h _ (List.mem_cons_of_mem _ List.mem_cons_self)
    exact absurd (hsecond.finished (by decide)).1 (by decide)

end SharedMemory

end SgmDevice
