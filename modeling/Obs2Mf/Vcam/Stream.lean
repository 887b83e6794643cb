import Obs2Mf.Vcam.State

set_option autoImplicit false

/- `MediaStream::Start`, `Stop`, `SetAllocator`, `RequestSample` and `SetStreamState`.
Position `i` is the round of the caller's loop, `index` the stream in the source's
vector. -/
namespace Obs2Mf.Vcam

open Method

namespace MediaStream

/-- `_queue->QueueEventParam..`. -/
def queueEventParam (hr : HRESULT) (index : Nat) (event : MediaEvent) : SourceMethod Unit := do
  let s ← read
  let _ ← deref (s.streams index).queue
  returnIfFailed hr
  modify fun s => s.modifyStream index (queued event)

def setState (index : Nat) (state : MF_STREAM_STATE) : SourceMethod Unit :=
  modify fun s => s.modifyStream index (entered state)

/-- `if (type)`: the subtype is read into `_format`. -/
def readFormat (calls : Calls) (i : Nat) (type : Bool) : SourceMethod Unit :=
  if type then returnIfFailed (calls (.subtype i)) else pure ()

/-- `type` says whether the media type pointer is set. -/
def start (calls : Calls) (i index : Nat) (type : Bool) : SourceMethod Unit := do
  let s ← read
  returnHrIf .mfEShutdown ((s.streams index).queue.isNone || (s.streams index).allocator.isNone)
  readFormat calls i type
  returnIfFailed (calls (.ensureRenderTarget i))
  let allocator ← deref (s.streams index).allocator
  returnIfFailed (calls (.initializeSampleAllocator i))
  modify fun s => s.setInitialized allocator true
  queueEventParam (calls (.streamStartedEvent i)) index .streamStarted
  setState index MF_STREAM_STATE_RUNNING

def stop (calls : Calls) (i index : Nat) : SourceMethod Unit := do
  let s ← read
  returnHrIf .mfEShutdown ((s.streams index).queue.isNone || (s.streams index).allocator.isNone)
  let allocator ← deref (s.streams index).allocator
  returnIfFailed (calls (.uninitializeSampleAllocator i))
  modify fun s => s.setInitialized allocator false
  queueEventParam (calls (.streamStoppedEvent i)) index .streamStopped
  setState index MF_STREAM_STATE_STOPPED

/-- `allocator` is the object passed in, and its query for the allocator interface
answers it or fails. -/
def setAllocator (calls : Calls) (index : Nat) (allocator : Option Nat) : SourceMethod Unit := do
  returnHrIf .ePointer allocator.isNone
  modify fun s => s.modifyStream index (withAllocator none)
  returnIfFailed (calls .queryAllocator)
  modify fun s => s.modifyStream index (withAllocator allocator)

/-- `token` says whether a token is passed in. An allocator that is not initialised
gives no sample. -/
def requestSample (calls : Calls) (index : Nat) (token : Bool) : SourceMethod Unit := do
  let s ← read
  returnHrIf .mfEShutdown ((s.streams index).allocator.isNone || (s.streams index).queue.isNone)
  let allocator ← deref (s.streams index).allocator
  returnHrIf .mfENotInitialized (!s.initialized allocator)
  returnIfFailed (calls .allocateSample)
  returnIfFailed (calls .setSampleTime)
  returnIfFailed (calls .setSampleDuration)
  returnIfFailed (calls .generate)
  if token then
    returnIfFailed (calls .setToken)
  queueEventParam (calls .mediaSampleEvent) index .mediaSample

/-- The condition of the first `if` is an assignment. -/
def setStreamState (calls : Calls) (index : Nat) (value : MF_STREAM_STATE) : SourceMethod Unit := do
  setState index value
  if value ≠ 0#32 then
    return
  let s ← read
  if value = MF_STREAM_STATE_PAUSED then
    returnHrIf .mfEInvalidStateTransition ((s.streams index).state ≠ MF_STREAM_STATE_RUNNING)
    setState index value
  else if value = MF_STREAM_STATE_RUNNING then
    start calls 0 index false
  else if value = MF_STREAM_STATE_STOPPED then
    stop calls 0 index
  else
    returnHrIf .mfEInvalidStateTransition true

/-- The queue is shut down before its pointer is reset. -/
def shutdown (index : Nat) : SourceMethod Unit :=
  modify fun s => s.modifyStream index released

/-- What a successful `Start` leaves. -/
def started (s : MediaSource) (index allocator : Nat) : MediaSource :=
  ((s.setInitialized allocator true).modifyStream index (queued .streamStarted)).modifyStream index
    (entered MF_STREAM_STATE_RUNNING)

/-- What a successful `Stop` leaves. -/
def stopped (s : MediaSource) (index allocator : Nat) : MediaSource :=
  ((s.setInitialized allocator false).modifyStream index (queued .streamStopped)).modifyStream index
    (entered MF_STREAM_STATE_STOPPED)

theorem modified_allocator (s : MediaSource) (index j : Nat) (f : MediaStream → MediaStream)
    (kept : (f (s.streams index)).allocator = (s.streams index).allocator) :
    ((s.modifyStream index f).streams j).allocator = (s.streams j).allocator := by
  by_cases same : j = index
  · subst same
    rw [MediaSource.modifyStream_same, kept]
  · rw [MediaSource.modifyStream_other s index j f same]

/-- A start or a stop leaves every stream its allocator. -/
theorem started_allocator (s : MediaSource) (index allocator j : Nat) :
    ((started s index allocator).streams j).allocator = (s.streams j).allocator :=
  (modified_allocator _ index j _ rfl).trans (modified_allocator _ index j _ rfl)

theorem stopped_allocator (s : MediaSource) (index allocator j : Nat) :
    ((stopped s index allocator).streams j).allocator = (s.streams j).allocator :=
  (modified_allocator _ index j _ rfl).trans (modified_allocator _ index j _ rfl)

theorem queueEventParam_ends (hr : HRESULT) (index : Nat) (event : MediaEvent) (s : MediaSource)
    (live : (s.streams index).queue = some ()) :
    (queueEventParam hr index event).Ends s
      (fun _ t => hr.failed = false ∧ t = s.modifyStream index (queued event))
      (fun _ t => hr.failed = true ∧ t = s) := by
  rw [queueEventParam, ends_bind, ends_read, ends_bind, ends_deref]
  refine ⟨(), live, ?_⟩
  rw [ends_bind, returnIfFailed, ends_exitIf]
  constructor
  · intro failed
    exact ⟨failed, rfl⟩
  · intro succeeded
    rw [ends_modify]
    exact ⟨succeeded, rfl⟩

theorem ready_iff (s : MediaSource) (index : Nat) :
    ((s.streams index).queue.isNone || (s.streams index).allocator.isNone) = false ↔
      (s.streams index).queue = some () ∧
        ∃ allocator, (s.streams index).allocator = some allocator := by
  rw [Bool.or_eq_false_iff, Option.isNone_eq_false_iff, Option.isNone_eq_false_iff,
    Option.isSome_iff_exists, Option.isSome_iff_exists]
  constructor
  · intro ⟨⟨_, queue⟩, allocator⟩
    exact ⟨queue, allocator⟩
  · intro ⟨queue, allocator⟩
    exact ⟨⟨(), queue⟩, allocator⟩

theorem readFormat_ends (calls : Calls) (i : Nat) (type : Bool) (s : MediaSource) :
    (readFormat calls i type).Ends s (fun _ t => t = s) (fun _ t => t = s) := by
  unfold readFormat
  rw [ends_ite]
  constructor
  · intro _
    rw [returnIfFailed, ends_exitIf]
    exact ⟨fun _ => rfl, fun _ => rfl⟩
  · intro _
    rw [ends_pure]

/-- A `Start` that fails has at most initialised the allocator. -/
theorem start_ends (calls : Calls) (i index : Nat) (type : Bool) (s : MediaSource) :
    (start calls i index type).Ends s
      (fun _ t => ∃ allocator, (s.streams index).queue = some () ∧
        (s.streams index).allocator = some allocator ∧ t = started s index allocator)
      (fun _ t => t = s ∨ ∃ allocator, (s.streams index).allocator = some allocator ∧
        (calls (.streamStartedEvent i)).failed = true ∧ t = s.setInitialized allocator true) := by
  rw [start, ends_bind, ends_read, ends_bind, returnHrIf, ends_exitIf]
  refine ⟨fun _ => Or.inl rfl, fun ready => ?_⟩
  obtain ⟨live, allocator, known⟩ := (ready_iff s index).mp ready
  rw [ends_bind]
  apply (readFormat_ends calls i type s).mono
  · intro _ t same
    subst same
    rw [ends_bind, returnIfFailed, ends_exitIf]
    refine ⟨fun _ => Or.inl rfl, fun _ => ?_⟩
    rw [ends_bind, ends_deref]
    refine ⟨allocator, known, ?_⟩
    rw [ends_bind, returnIfFailed, ends_exitIf]
    refine ⟨fun _ => Or.inl rfl, fun _ => ?_⟩
    rw [ends_bind, ends_modify, ends_bind]
    apply (queueEventParam_ends _ index _ (t.setInitialized allocator true) live).mono
    · intro _ u queued
      rw [setState, ends_modify, queued.2]
      exact ⟨allocator, live, known, rfl⟩
    · intro _ u failed
      exact Or.inr ⟨allocator, known, failed⟩
  · intro _ t same
    exact Or.inl same

/-- A `Stop` that fails has at most uninitialised the allocator. -/
theorem stop_ends (calls : Calls) (i index : Nat) (s : MediaSource) :
    (stop calls i index).Ends s
      (fun _ t => ∃ allocator, (s.streams index).queue = some () ∧
        (s.streams index).allocator = some allocator ∧
          (calls (.uninitializeSampleAllocator i)).failed = false ∧ t = stopped s index allocator)
      (fun _ t => t = s ∧ ((s.streams index).queue = none ∨ (s.streams index).allocator = none ∨
          (calls (.uninitializeSampleAllocator i)).failed = true) ∨
        ∃ allocator, (s.streams index).allocator = some allocator ∧
          (calls (.streamStoppedEvent i)).failed = true ∧
            t = s.setInitialized allocator false) := by
  rw [stop, ends_bind, ends_read, ends_bind, returnHrIf, ends_exitIf]
  constructor
  · intro missing
    rw [Bool.or_eq_true, Option.isNone_iff_eq_none, Option.isNone_iff_eq_none] at missing
    left
    refine ⟨rfl, ?_⟩
    rcases missing with queue | allocator
    · exact Or.inl queue
    · exact Or.inr (Or.inl allocator)
  · intro ready
    obtain ⟨live, allocator, known⟩ := (ready_iff s index).mp ready
    rw [ends_bind, ends_deref]
    refine ⟨allocator, known, ?_⟩
    rw [ends_bind, returnIfFailed, ends_exitIf]
    constructor
    · intro failed
      exact Or.inl ⟨rfl, Or.inr (Or.inr failed)⟩
    · intro released
      rw [ends_bind, ends_modify, ends_bind]
      apply (queueEventParam_ends _ index _ (s.setInitialized allocator false) live).mono
      · intro _ u queued
        rw [setState, ends_modify, queued.2]
        exact ⟨allocator, live, known, released, rfl⟩
      · intro _ u failed
        exact Or.inr ⟨allocator, known, failed⟩

/-- A `Start` or `Stop` without a queue or an allocator is refused. -/
theorem missing_refuses (s : MediaSource) (index : Nat)
    (missing : (s.streams index).queue = none ∨ (s.streams index).allocator = none) :
    ((s.streams index).queue.isNone || (s.streams index).allocator.isNone) = true := by
  rcases missing with queue | allocator
  · rw [queue]
    rfl
  · rw [allocator, Option.isNone_none, Bool.or_true]

theorem start_refused (calls : Calls) (i index : Nat) (type : Bool) (s : MediaSource)
    (missing : (s.streams index).queue = none ∨ (s.streams index).allocator = none)
    {next : Unit → MediaSource → Prop} {returned : HRESULT → MediaSource → Prop}
    (refused : returned .mfEShutdown s) : (start calls i index type).Ends s next returned := by
  rw [start, ends_bind, ends_read, ends_bind, returnHrIf, ends_exitIf,
    missing_refuses s index missing]
  exact ⟨fun _ => refused, nofun⟩

theorem stop_refused (calls : Calls) (i index : Nat) (s : MediaSource)
    (missing : (s.streams index).queue = none ∨ (s.streams index).allocator = none)
    {next : Unit → MediaSource → Prop} {returned : HRESULT → MediaSource → Prop}
    (refused : returned .mfEShutdown s) : (stop calls i index).Ends s next returned := by
  rw [stop, ends_bind, ends_read, ends_bind, returnHrIf, ends_exitIf,
    missing_refuses s index missing]
  exact ⟨fun _ => refused, nofun⟩

/-- A request that fails changes nothing. -/
theorem requestSample_ends (calls : Calls) (index : Nat) (token : Bool) (s : MediaSource) :
    (requestSample calls index token).Ends s
      (fun _ t => (s.streams index).queue = some () ∧
        (∃ allocator, (s.streams index).allocator = some allocator ∧
          s.initialized allocator = true) ∧
        t = s.modifyStream index (queued .mediaSample))
      (fun hr t => t = s ∧ hr.failed = true) := by
  rw [requestSample, ends_bind, ends_read, ends_bind, returnHrIf, ends_exitIf]
  refine ⟨fun _ => ⟨rfl, rfl⟩, fun guard => ?_⟩
  rw [Bool.or_comm] at guard
  obtain ⟨live, allocator, known⟩ := (ready_iff s index).mp guard
  simp only [queueEventParam, ends_bind, ends_read, ends_ite, ends_modify,
    ends_deref_some, returnHrIf, returnIfFailed, ends_exitIf, known, live, true_and]
  refine ⟨fun _ => rfl, fun ready => ⟨id, fun _ => ⟨id, fun _ => ⟨id, fun _ => ⟨id, fun _ => ?_⟩⟩⟩⟩⟩
  rw [Bool.not_eq_false'] at ready
  have given : ∃ a, some allocator = some a ∧ s.initialized a = true := ⟨allocator, rfl, ready⟩
  exact ⟨fun _ => ⟨id, fun _ => ⟨id, fun _ => ⟨given, trivial⟩⟩⟩,
    fun _ => ⟨id, fun _ => ⟨given, trivial⟩⟩⟩

theorem setAllocator_ends (calls : Calls) (index : Nat) (allocator : Option Nat) (s : MediaSource) :
    (setAllocator calls index allocator).Ends s
      (fun _ t => t = (s.modifyStream index (withAllocator none)).modifyStream index
        (withAllocator allocator))
      (fun _ t => t = s ∨ t = s.modifyStream index (withAllocator none)) := by
  rw [setAllocator, ends_bind, returnHrIf, ends_exitIf]
  refine ⟨fun _ => Or.inl rfl, fun _ => ?_⟩
  rw [ends_bind, ends_modify, ends_bind, returnIfFailed, ends_exitIf]
  refine ⟨fun _ => Or.inr rfl, fun _ => ?_⟩
  rw [ends_modify]

/-- A state other than 0 is entered by the assignment alone. -/
theorem setStreamState_active (calls : Calls) (index : Nat) (value : MF_STREAM_STATE)
    (s : MediaSource) (active : value ≠ MF_STREAM_STATE_STOPPED) :
    (setStreamState calls index value).run s =
      .next () (s.modifyStream index (entered value)) := by
  have first : value ≠ 0#32 := active
  simp only [setStreamState, if_pos first]
  rfl

/-- State 0 is entered by the assignment, and then the stream is stopped. -/
theorem setStreamState_stopped (calls : Calls) (index : Nat) (s : MediaSource)
    (next : Unit → MediaSource → Prop) (returned : HRESULT → MediaSource → Prop) :
    (setStreamState calls index MF_STREAM_STATE_STOPPED).Ends s next returned ↔
      (stop calls 0 index).Ends (s.modifyStream index (entered MF_STREAM_STATE_STOPPED)) next
        returned := Iff.rfl

end MediaStream

end Obs2Mf.Vcam
