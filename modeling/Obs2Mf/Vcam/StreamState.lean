import Obs2Mf.Foundation.Run
import Obs2Mf.Vcam.Source

set_option autoImplicit false

/- What `_state` says about the stream's allocator and its event queue, over whole runs
of the calls that change any of the three. -/
namespace Obs2Mf.Vcam

open Method
open Method.Guarantee
open Run

/-- What a caller can do to the stream's state, with what the outside answers. -/
inductive StateCall where
  | setDefaultAllocator (calls : Calls) (id : Nat) (allocator : Option Nat)
  | start (calls : Calls) (args : StartArgs)
  | stop (calls : Calls)
  | setStreamState (calls : Calls) (value : MF_STREAM_STATE)

/-- Event queues that have not been shut down accept every event. -/
def Calls.accepting (calls : Calls) : Calls
  | .newStreamEvent _ | .streamStartedEvent _ | .streamStoppedEvent _ | .sourceStartedEvent
  | .sourceStoppedEvent => .sOk
  | site => calls site

def StateCall.method : StateCall → SourceMethod Unit
  | .setDefaultAllocator calls id allocator =>
      MediaSource.setDefaultAllocator calls.accepting id allocator
  | .start calls args => MediaSource.start calls.accepting args
  | .stop calls => MediaSource.stop calls.accepting
  | .setStreamState calls value => MediaStream.setStreamState calls.accepting 0 value

/-- `SetDefaultAllocator` is only called on a stopped stream. -/
def StateCall.allowed (s : MediaSource) : StateCall → Bool
  | .setDefaultAllocator _ _ _ => s.stream.state = MF_STREAM_STATE_STOPPED
  | _ => true

def StateCall.step (s : MediaSource) (call : StateCall) : Option MediaSource :=
  if call.allowed s then call.method.final s else none

/-- The state flag means what it says. -/
structure MediaSource.Meaningful (s : MediaSource) : Prop where
  running : s.stream.state = MF_STREAM_STATE_RUNNING →
    (∃ allocator, s.stream.allocator = some allocator ∧ s.initialized allocator = true) ∧
      lastStartStop s.stream.events = some .streamStarted
  defined : s.stream.state = MF_STREAM_STATE_STOPPED ∨ s.stream.state = MF_STREAM_STATE_PAUSED ∨
    s.stream.state = MF_STREAM_STATE_RUNNING

/-- What is expected of a call that takes the source from `s` to `t`. -/
structure Expected (s : MediaSource) (call : StateCall) (t : MediaSource) : Prop where
  meaningful : t.Meaningful
  paused : t.stream.state = MF_STREAM_STATE_PAUSED → s.stream.state = MF_STREAM_STATE_PAUSED ∨
    s.stream.state = MF_STREAM_STATE_RUNNING
  unchanged : ∀ calls value hr, call = .setStreamState calls value →
    call.method.run s = .returned hr t → t.stream.state = s.stream.state

/-- The calls of `SetStreamState` that the assignment in its first condition does not
spoil: to a running or paused stream they name one of these two states, and they stop
a stream only if it is stopped already or its allocator lets go. -/
def Spared (s : MediaSource) : StateCall → Prop
  | .setStreamState calls value =>
      value = MF_STREAM_STATE_STOPPED ∧ (s.stream.state = MF_STREAM_STATE_STOPPED ∨
        (calls (.uninitializeSampleAllocator 0)).failed = false) ∨
      (value = MF_STREAM_STATE_PAUSED ∨ value = MF_STREAM_STATE_RUNNING) ∧
        s.stream.state ≠ MF_STREAM_STATE_STOPPED
  | _ => True

instance (s : MediaSource) : ∀ call, Decidable (Spared s call)
  | .setStreamState calls value =>
      inferInstanceAs (Decidable
        (value = MF_STREAM_STATE_STOPPED ∧ (s.stream.state = MF_STREAM_STATE_STOPPED ∨
          (calls (.uninitializeSampleAllocator 0)).failed = false) ∨
        (value = MF_STREAM_STATE_PAUSED ∨ value = MF_STREAM_STATE_RUNNING) ∧
          s.stream.state ≠ MF_STREAM_STATE_STOPPED))
  | .setDefaultAllocator _ _ _ | .start _ _ | .stop _ => isTrue trivial

/-- The invariant: an active stream has an initialised allocator and has been announced. -/
structure Steady (s : MediaSource) : Prop where
  single : s.numStreams = 1
  queue : s.queue = some ()
  descriptor : s.descriptor = some ()
  streamQueue : s.stream.queue = some ()
  defined : s.stream.state = MF_STREAM_STATE_STOPPED ∨ s.stream.state = MF_STREAM_STATE_PAUSED ∨
    s.stream.state = MF_STREAM_STATE_RUNNING
  active : s.stream.state ≠ MF_STREAM_STATE_STOPPED →
    (∃ allocator, s.stream.allocator = some allocator ∧ s.initialized allocator = true) ∧
      lastStartStop s.stream.events = some .streamStarted
  stopped : s.stream.state = MF_STREAM_STATE_STOPPED →
    lastStartStop s.stream.events ≠ some .streamStarted

theorem steady_initial (selected initialized : Nat → Bool) :
    Steady (MediaSource.initial 1 selected initialized) where
  single := rfl
  queue := rfl
  descriptor := rfl
  streamQueue := rfl
  defined := Or.inl rfl
  active := fun impossible => (impossible rfl).elim
  stopped := fun _ => nofun

/-- The calls keep the invariant, and all but `SetStreamState` move `_state` only to a
start or a stop. -/
def steadily : Guarantee MediaSource where
  inv := Steady
  moves s t := t.stream.state = s.stream.state ∨ t.stream.state = MF_STREAM_STATE_RUNNING ∨
    t.stream.state = MF_STREAM_STATE_STOPPED
  refl _ := Or.inl rfl
  trans s t u first second := by
    rcases second with same | moved
    · rw [same]
      exact first
    · exact Or.inr moved

section Calls

variable {s t : MediaSource} (calls : Calls)

theorem Steady.meaningful (held : Steady s) : s.Meaningful where
  running := by
    intro running
    apply held.active
    rw [running]
    decide
  defined := held.defined

theorem Steady.started (held : Steady s) {allocator : Nat}
    (known : s.stream.allocator = some allocator) :
    steadily.inv (MediaStream.started s 0 allocator) ∧
      steadily.moves s (MediaStream.started s 0 allocator) := by
  have stream : (MediaStream.started s 0 allocator).stream =
      MediaStream.entered MF_STREAM_STATE_RUNNING (MediaStream.queued .streamStarted s.stream) := by
    simp only [MediaStream.started, MediaSource.stream, MediaSource.modifyStream_same,
      MediaSource.setInitialized_streams]
  have running : (MediaStream.started s 0 allocator).stream.state = MF_STREAM_STATE_RUNNING := by
    rw [stream]
    rfl
  refine ⟨⟨held.single, held.queue, held.descriptor, ?_, Or.inr (Or.inr running), ?_, ?_⟩,
    Or.inr (Or.inl running)⟩
  · rw [stream]
    exact held.streamQueue
  · intro _
    refine ⟨⟨allocator, ?_, Function.update_self _ _ _⟩, ?_⟩
    · rw [stream]
      exact known
    · rw [stream]
      exact lastStartStop_snoc _ _
  · intro stopped
    rw [running] at stopped
    cases stopped

/-- Whatever the flag said, a stop that succeeds leaves it right. -/
theorem stopped_steady (allocator : Nat) (single : s.numStreams = 1) (queue : s.queue = some ())
    (descriptor : s.descriptor = some ()) (streamQueue : s.stream.queue = some ()) :
    Steady (MediaStream.stopped s 0 allocator) ∧
      (MediaStream.stopped s 0 allocator).stream.state = MF_STREAM_STATE_STOPPED := by
  have stream : (MediaStream.stopped s 0 allocator).stream =
      MediaStream.entered MF_STREAM_STATE_STOPPED (MediaStream.queued .streamStopped s.stream) := by
    simp only [MediaStream.stopped, MediaSource.stream, MediaSource.modifyStream_same,
      MediaSource.setInitialized_streams]
  have stopped : (MediaStream.stopped s 0 allocator).stream.state = MF_STREAM_STATE_STOPPED := by
    rw [stream]
    rfl
  refine ⟨⟨single, queue, descriptor, ?_, Or.inl stopped, ?_, ?_⟩, stopped⟩
  · rw [stream]
    exact streamQueue
  · intro active
    exact (active stopped).elim
  · intro _
    rw [stream]
    change lastStartStop (s.stream.events ++ [.streamStopped]) ≠ _
    rw [lastStartStop_snoc]
    exact nofun

theorem Steady.select (held : Steady s) (index : Nat) (flag : Bool) :
    steadily.inv (s.select index flag) ∧ steadily.moves s (s.select index flag) :=
  ⟨⟨held.single, held.queue, held.descriptor, held.streamQueue, held.defined, held.active,
    held.stopped⟩, Or.inl rfl⟩

theorem Steady.queued (held : Steady s) (event : MediaEvent) :
    steadily.inv (s.queued event) ∧ steadily.moves s (s.queued event) :=
  ⟨⟨held.single, held.queue, held.descriptor, held.streamQueue, held.defined, held.active,
    held.stopped⟩, Or.inl rfl⟩

theorem keeps_streamStart (i : Nat) (type : Bool) :
    steadily.Keeps (MediaStream.start calls.accepting i 0 type) := by
  intro s held
  apply (MediaStream.start_ends calls.accepting i 0 type s).mono
  · intro _ t ⟨allocator, _, known, same⟩
    rw [same]
    exact held.started known
  · intro _ t outcome
    rcases outcome with same | ⟨_, _, refused, _⟩
    · rw [same]
      exact ⟨held, steadily.refl s⟩
    · cases refused

theorem keeps_streamStop (i : Nat) : steadily.Keeps (MediaStream.stop calls.accepting i 0) := by
  intro s held
  apply (MediaStream.stop_ends calls.accepting i 0 s).mono
  · intro _ t ⟨allocator, _, _, _, same⟩
    have after := stopped_steady allocator held.single held.queue held.descriptor held.streamQueue
    rw [same]
    exact ⟨after.1, Or.inr (Or.inr after.2)⟩
  · intro _ t outcome
    rcases outcome with ⟨same, _⟩ | ⟨_, _, refused, _⟩
    · rw [same]
      exact ⟨held, steadily.refl s⟩
    · cases refused

theorem steadily_carries : Carries steadily calls.accepting 1 where
  count s held := held.single
  queue s held := held.queue
  descriptor s held := held.descriptor
  select s index flag held := held.select index flag
  queued s event held := held.queued event
  streamStart i index type inside := by
    have only : index = 0 := by omega
    subst only
    exact keeps_streamStart calls i type
  streamStop i index inside := by
    have only : index = 0 := by omega
    subst only
    exact keeps_streamStop calls i

/-- Allocators change hands while the stream is stopped. -/
theorem setDefaultAllocator_steady (held : Steady s)
    (stopped : s.stream.state = MF_STREAM_STATE_STOPPED) (id : Nat) (allocator : Option Nat) :
    (MediaSource.setDefaultAllocator calls.accepting id allocator).Ends s
      (fun _ t => Steady t ∧ t.stream.state = s.stream.state)
      (fun _ t => Steady t ∧ t.stream.state = s.stream.state) := by
  have changed (u : MediaSource) (before : Steady u ∧ u.stream.state = s.stream.state)
      (allocator : Option Nat) :
      Steady (u.modifyStream 0 (MediaStream.withAllocator allocator)) ∧
        (u.modifyStream 0 (MediaStream.withAllocator allocator)).stream.state =
          s.stream.state := by
    have stream : (u.modifyStream 0 (MediaStream.withAllocator allocator)).stream =
        MediaStream.withAllocator allocator u.stream := MediaSource.modifyStream_same u 0 _
    have same : u.stream.state = MF_STREAM_STATE_STOPPED := before.2.trans stopped
    refine ⟨⟨before.1.single, before.1.queue, before.1.descriptor, ?_, ?_, ?_, ?_⟩, ?_⟩
    · rw [stream]
      exact before.1.streamQueue
    · rw [stream]
      exact before.1.defined
    · rw [stream]
      exact fun active => (active same).elim
    · rw [stream]
      exact before.1.stopped
    · rw [stream]
      exact before.2
  unfold MediaSource.setDefaultAllocator
  rw [ends_bind, returnHrIf, ends_exitIf]
  refine ⟨fun _ => ⟨held, rfl⟩, fun _ => ?_⟩
  rw [ends_bind, ends_read]
  cases found : s.getStreamIndexById calls.accepting 0 id with
  | none =>
      dsimp only
      rw [returnHrIf, ends_exitIf]
      exact ⟨fun _ => ⟨held, rfl⟩, fun _ => ⟨held, rfl⟩⟩
  | some index =>
      have inside := (MediaSource.getStreamIndexById_some found).2
      rw [held.single] at inside
      have only : index = 0 := by omega
      subst only
      dsimp only
      rw [ends_bind, returnHrIf, ends_exitIf]
      refine ⟨fun _ => ⟨held, rfl⟩, fun _ => ?_⟩
      apply (MediaStream.setAllocator_ends calls.accepting 0 allocator s).mono
      · intro _ t same
        rw [same]
        exact changed _ (changed s ⟨held, rfl⟩ none) allocator
      · intro _ t outcome
        rcases outcome with same | same
        · rw [same]
          exact ⟨held, rfl⟩
        · rw [same]
          exact changed s ⟨held, rfl⟩ none

/-- A call that keeps the guarantee is what is expected, unless it is `SetStreamState`. -/
theorem expected_of_steadily {call : StateCall} (held : steadily.inv t ∧ steadily.moves s t)
    (other : ∀ calls value, call ≠ .setStreamState calls value) : Expected s call t where
  meaningful := held.1.meaningful
  paused := by
    intro paused
    rcases held.2 with same | running | stopped
    · exact Or.inl (same.symm.trans paused)
    · rw [paused] at running
      cases running
    · rw [paused] at stopped
      cases stopped
  unchanged := fun calls value _ same => (other calls value same).elim

end Calls

section SetStreamState

variable {s t : MediaSource} {calls : Calls} {value : MF_STREAM_STATE}

theorem entered_stream (s : MediaSource) (value : MF_STREAM_STATE) :
    (s.modifyStream 0 (MediaStream.entered value)).stream = MediaStream.entered value s.stream :=
  MediaSource.modifyStream_same s 0 _

theorem active_steady (held : Steady s) (active : s.stream.state ≠ MF_STREAM_STATE_STOPPED)
    (named : value = MF_STREAM_STATE_PAUSED ∨ value = MF_STREAM_STATE_RUNNING) :
    Steady (s.modifyStream 0 (MediaStream.entered value)) := by
  refine ⟨held.single, held.queue, held.descriptor, ?_, ?_, ?_, ?_⟩
  · rw [entered_stream]
    exact held.streamQueue
  · rw [entered_stream]
    exact Or.inr named
  · intro _
    rw [entered_stream]
    exact held.active active
  · rw [entered_stream]
    intro stopped
    change value = _ at stopped
    rw [stopped] at named
    rcases named with impossible | impossible <;> cases impossible

theorem active_expected_iff (held : Steady s) (active : value ≠ MF_STREAM_STATE_STOPPED) :
    Expected s (.setStreamState calls value) (s.modifyStream 0 (MediaStream.entered value)) ↔
      (value = MF_STREAM_STATE_PAUSED ∨ value = MF_STREAM_STATE_RUNNING) ∧
        s.stream.state ≠ MF_STREAM_STATE_STOPPED := by
  constructor
  · intro expected
    have defined := expected.meaningful.defined
    rw [entered_stream] at defined
    rcases defined with stopped | paused | running
    · exact (active stopped).elim
    · change value = _ at paused
      refine ⟨Or.inl paused, ?_⟩
      have before := expected.paused (by rw [entered_stream]; exact paused)
      intro stopped
      rw [stopped] at before
      rcases before with impossible | impossible <;> cases impossible
    · change value = _ at running
      refine ⟨Or.inr running, ?_⟩
      have announced := (expected.meaningful.running (by rw [entered_stream]; exact running)).2
      rw [entered_stream] at announced
      intro stopped
      exact held.stopped stopped announced
  · intro ⟨named, before⟩
    refine ⟨(active_steady held before named).meaningful, ?_, ?_⟩
    · intro _
      rcases held.defined with stopped | paused | running
      · exact (before stopped).elim
      · exact Or.inl paused
      · exact Or.inr running
    · intro _ _ hr _ failed
      rw [StateCall.method, MediaStream.setStreamState_active _ _ _ _ active] at failed
      cases failed

/-- A stopped flag over a stream whose queue has no running stream announced. -/
theorem flagged_steady (held : Steady s) (stopped : s.stream.state = MF_STREAM_STATE_STOPPED) :
    Steady (s.modifyStream 0 (MediaStream.entered MF_STREAM_STATE_STOPPED)) := by
  refine ⟨held.single, held.queue, held.descriptor, ?_, ?_, ?_, ?_⟩
  · rw [entered_stream]
    exact held.streamQueue
  · rw [entered_stream]
    exact Or.inl rfl
  · rw [entered_stream]
    exact fun active => (active rfl).elim
  · rw [entered_stream]
    exact fun _ => held.stopped stopped

/-- The stop that follows an assignment of STOPPED: what it leaves, and when the
assignment was one too many. -/
theorem stopped_expected_iff (held : Steady s)
    (taken : StateCall.step s (.setStreamState calls MF_STREAM_STATE_STOPPED) = some t) :
    (Expected s (.setStreamState calls MF_STREAM_STATE_STOPPED) t ↔
        s.stream.state = MF_STREAM_STATE_STOPPED ∨
          (calls (.uninitializeSampleAllocator 0)).failed = false) ∧
      (s.stream.state = MF_STREAM_STATE_STOPPED ∨
        (calls (.uninitializeSampleAllocator 0)).failed = false → Steady t) := by
  have ends := (MediaStream.setStreamState_stopped calls.accepting 0 s _ _).mpr
    (MediaStream.stop_ends calls.accepting 0 0 _)
  have stream := entered_stream s MF_STREAM_STATE_STOPPED
  have flagged : (s.modifyStream 0 (MediaStream.entered MF_STREAM_STATE_STOPPED)).stream.state =
      MF_STREAM_STATE_STOPPED := by
    rw [stream]
    rfl
  rcases ends.cases taken with ⟨_, went, allocator, _, _, released, same⟩ | ⟨hr, failed, outcome⟩
  · have after := @stopped_steady (s.modifyStream 0 (MediaStream.entered MF_STREAM_STATE_STOPPED))
      allocator held.single held.queue held.descriptor (by rw [stream]; exact held.streamQueue)
    rw [← same] at after
    refine ⟨⟨fun _ => Or.inr released, fun _ => ?_⟩, fun _ => after.1⟩
    refine ⟨after.1.meaningful, ?_, ?_⟩
    · intro paused
      rw [after.2] at paused
      cases paused
    · intro _ _ status _ returned
      rw [StateCall.method, went] at returned
      cases returned
  · rcases outcome with ⟨same, why⟩ | ⟨_, _, refused, _⟩
    · subst same
      have idle (fine : s.stream.state = MF_STREAM_STATE_STOPPED ∨
          (calls (.uninitializeSampleAllocator 0)).failed = false) :
          s.stream.state = MF_STREAM_STATE_STOPPED := by
        apply Classical.byContradiction
        intro active
        obtain ⟨⟨allocator, known, _⟩, _⟩ := held.active active
        change (s.modifyStream 0 _).stream.queue = none ∨
          (s.modifyStream 0 _).stream.allocator = none ∨ _ at why
        rw [stream] at why
        rcases why with queue | none | refused
        · exact nomatch queue.symm.trans held.streamQueue
        · exact nomatch none.symm.trans known
        · rcases fine with stopped | released
          · exact active stopped
          · exact nomatch released.symm.trans refused
      refine ⟨⟨fun expected => ?_, fun fine => ?_⟩, fun fine => flagged_steady held (idle fine)⟩
      · left
        have kept := expected.unchanged calls _ hr rfl failed
        rw [flagged] at kept
        exact kept.symm
      · refine ⟨(flagged_steady held (idle fine)).meaningful, ?_, ?_⟩
        · intro paused
          rw [flagged] at paused
          cases paused
        · intro _ _ _ _ _
          rw [flagged, idle fine]
    · cases refused

end SetStreamState

theorem expected_iff_spared (s : MediaSource) (call : StateCall) (t : MediaSource)
    (held : Steady s) (taken : call.step s = some t) :
    (Expected s call t ↔ Spared s call) ∧ (Spared s call → Steady t) := by
  cases call with
  | setDefaultAllocator calls id allocator =>
      unfold StateCall.step at taken
      split at taken
      · rename_i stopped
        have stopped : s.stream.state = MF_STREAM_STATE_STOPPED := by
          simpa only [StateCall.allowed, decide_eq_true_eq] using stopped
        have after := (setDefaultAllocator_steady calls held stopped id allocator).final taken
        refine ⟨⟨fun _ => trivial, fun _ => ?_⟩, fun _ => after.1⟩
        exact expected_of_steadily ⟨after.1, Or.inl after.2⟩ nofun
      · cases taken
  | start calls args =>
      have after := ((steadily_carries calls).start args s held).final taken
      exact ⟨⟨fun _ => trivial, fun _ => expected_of_steadily after nofun⟩, fun _ => after.1⟩
  | stop calls =>
      have after := ((steadily_carries calls).stop s held).final taken
      exact ⟨⟨fun _ => trivial, fun _ => expected_of_steadily after nofun⟩, fun _ => after.1⟩
  | setStreamState calls value =>
      by_cases stop : value = MF_STREAM_STATE_STOPPED
      · subst stop
        have exact := stopped_expected_iff held taken
        have spared : Spared s (.setStreamState calls MF_STREAM_STATE_STOPPED) ↔
            s.stream.state = MF_STREAM_STATE_STOPPED ∨
              (calls (.uninitializeSampleAllocator 0)).failed = false := by
          constructor
          · intro spared
            rcases spared with ⟨_, fine⟩ | ⟨impossible | impossible, _⟩
            · exact fine
            · cases impossible
            · cases impossible
          · intro fine
            exact Or.inl ⟨rfl, fine⟩
        rw [spared]
        exact exact
      · have result : t = s.modifyStream 0 (MediaStream.entered value) := by
          have left : (MediaStream.setStreamState calls.accepting 0 value).final s = some t := taken
          rw [Method.final, MediaStream.setStreamState_active _ _ _ _ stop] at left
          exact (Option.some.inj left).symm
        subst result
        have spared : Spared s (.setStreamState calls value) ↔
            (value = MF_STREAM_STATE_PAUSED ∨ value = MF_STREAM_STATE_RUNNING) ∧
              s.stream.state ≠ MF_STREAM_STATE_STOPPED := by
          constructor
          · intro spared
            rcases spared with ⟨same, _⟩ | fine
            · exact (stop same).elim
            · exact fine
          · exact Or.inr
        rw [spared]
        exact ⟨active_expected_iff held stop, fun fine => active_steady held fine.2 fine.1⟩

/-- In every run the state flag stays in step with the allocator and the event queue
exactly as long as `SetStreamState` is only called where its assignment does no harm. -/
theorem streamState_expected_iff_spared (selected initialized : Nat → Bool)
    (calls : List StateCall)
    (enabled : (run StateCall.step (MediaSource.initial 1 selected initialized) calls).isSome) :
    Throughout StateCall.step Expected (MediaSource.initial 1 selected initialized) calls ↔
      Along StateCall.step Spared (MediaSource.initial 1 selected initialized) calls :=
  throughout_iff_along
    (fun s call t held spared taken => (expected_iff_spared s call t held taken).2 spared)
    (fun s call t held taken => (expected_iff_spared s call t held taken).1) calls _
    (steady_initial selected initialized) enabled

/-- A source that is started, paused and stopped through its stream. -/
def pausedSession : List StateCall :=
  [.setDefaultAllocator (fun _ => .sOk) 0 (some 7),
    .start (fun _ => .sOk) ⟨some [⟨true, 0⟩], true, false⟩,
    .setStreamState (fun _ => .sOk) MF_STREAM_STATE_PAUSED,
    .setStreamState (fun _ => .sOk) MF_STREAM_STATE_STOPPED, .stop (fun _ => .sOk)]

theorem pausedSession_expected :
    (run StateCall.step (MediaSource.initial 1 (fun _ => true) fun _ => false)
        pausedSession).isSome ∧
      Throughout StateCall.step Expected (MediaSource.initial 1 (fun _ => true) fun _ => false)
        pausedSession := by
  refine ⟨rfl, ?_⟩
  apply (streamState_expected_iff_spared (fun _ => true) (fun _ => false) pausedSession rfl).mpr
  decide

/-- `SetStreamState(MF_STREAM_STATE_RUNNING)` on a new stream starts nothing. -/
theorem setStreamState_running_starts_nothing :
    ∃ t, StateCall.step (MediaSource.initial 1 (fun _ => true) fun _ => false)
        (.setStreamState (fun _ => .sOk) MF_STREAM_STATE_RUNNING) = some t ∧
      t.stream.state = MF_STREAM_STATE_RUNNING ∧ t.stream.allocator = none ∧
        t.stream.events = [] ∧ ¬ t.Meaningful := by
  refine ⟨_, rfl, rfl, rfl, rfl, ?_⟩
  intro meaningful
  have announced := (meaningful.running rfl).2
  cases announced

end Obs2Mf.Vcam
