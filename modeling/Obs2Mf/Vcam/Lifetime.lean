import Obs2Mf.Foundation.Run
import Obs2Mf.Vcam.Calls

set_option autoImplicit false

/- Which public calls survive `MediaSource::Shutdown` and `Activator::DetachObject`. -/
namespace Obs2Mf.Vcam

open Method
open Method.Guarantee
open Run

/-- The activator and the media source it made, which has one stream. -/
structure Process where
  activator : Activator
  source : MediaSource

inductive PublicCall where
  | activator (calls : Calls) (call : ActivatorCall)
  | source (calls : Calls) (call : MediaSourceCall)
  | stream (calls : Calls) (call : MediaStreamCall)

namespace Process

def setActivator (activator : Activator) (p : Process) : Process :=
  { p with activator := activator }

def setSource (source : MediaSource) (p : Process) : Process := { p with source := source }

/-- After a successful `Activator::Initialize`. -/
def initial (selected initialized : Nat → Bool) : Process where
  activator := ⟨some (), some ()⟩
  source := MediaSource.initial 1 selected initialized

end Process

def PublicCall.method : PublicCall → Method HRESULT Process Unit
  | .activator calls call => (call.method calls).zoom Process.activator Process.setActivator
  | .source calls call => (call.method calls).zoom Process.source Process.setSource
  | .stream calls call => (call.method calls 0).zoom Process.source Process.setSource

/-- A process that has crashed is gone, and takes no further call. -/
def PublicCall.step (process : Option Process) (call : PublicCall) : Option (Option Process) :=
  process.map call.method.final

/-- The first stream whose selection changes has no allocator. -/
def StartArgs.changes (args : StartArgs) (s : MediaSource) : Prop :=
  ∃ entry, args.presentation = some [entry] ∧ entry.selected ≠ s.correctedSelection 0 0

/-- A member the method goes through on every way to success is null. -/
def MediaSourceCall.NeedsReleased (s : MediaSource) : MediaSourceCall → Prop
  | .beginGetEvent | .endGetEvent _ | .getEvent _ | .queueEvent _ | .shutdown => s.queue = none
  | .createPresentationDescriptor _ => s.descriptor = none
  | .start args => s.queue = none ∨ s.descriptor = none ∨
      args.changes s ∧ s.stream.allocator = none
  | .stop => s.queue = none ∨ s.descriptor = none ∨ s.stream.allocator = none
  | .setDefaultAllocator _ _ | .getAllocatorUsage _ _ _ => s.stream.descriptor = none
  | .attributes _ => s.attributes = none
  | _ => False

def MediaStreamCall.NeedsReleased (s : MediaSource) : MediaStreamCall → Prop
  | .beginGetEvent | .endGetEvent _ | .getEvent _ | .queueEvent _ => s.stream.queue = none
  | .getMediaSource _ => s.stream.source = none
  | .getStreamDescriptor _ => s.stream.descriptor = none
  | .requestSample _ => s.stream.allocator = none ∨ s.stream.queue = none
  | .setStreamState value => value = MF_STREAM_STATE_STOPPED ∧
      (s.stream.queue = none ∨ s.stream.allocator = none)
  | .attributes _ => s.stream.attributes = none
  | _ => False

def ActivatorCall.NeedsReleased (s : Activator) : ActivatorCall → Prop
  | .activateObject _ => s.source = none
  | .attributes _ => s.attributes = none
  | _ => False

def PublicCall.NeedsReleased (p : Process) : PublicCall → Prop
  | .activator _ call => call.NeedsReleased p.activator
  | .source _ call => call.NeedsReleased p.source
  | .stream _ call => call.NeedsReleased p.source

def Process.isShutDown (p : Process) : Prop := p.source.queue = none

/-- The call does not crash, queues nothing after `Shutdown`, and fails where it needs
what has been released. -/
def Proper (before : Option Process) (call : PublicCall) (after : Option Process) : Prop :=
  ∀ p, before = some p → ∃ q, after = some q ∧
    (p.isShutDown → q.source.events = p.source.events ∧
      q.source.stream.events = p.source.stream.events) ∧
    (call.NeedsReleased p → ∃ hr, call.method.run p = .returned hr q ∧ hr.failed = true)

/-- Attributes are asked for before `Shutdown`, and objects before `DetachObject`. -/
def Timely (process : Option Process) (call : PublicCall) : Prop :=
  ∀ p, process = some p →
    (∀ calls attributes, (call = .source calls (.attributes attributes) ∨
      call = .stream calls (.attributes attributes)) → attributes.checked = true →
        ¬ p.isShutDown) ∧
    (∀ calls, call = .activator calls (.activateObject true) → p.activator.source ≠ none)

/-- Every member but the allocator is set, or every one is reset. -/
structure Members (pointer : Pointer) (s : MediaSource) : Prop where
  single : s.numStreams = 1
  queue : s.queue = pointer
  descriptor : s.descriptor = pointer
  attributes : s.attributes = pointer
  streamQueue : s.stream.queue = pointer
  streamDescriptor : s.stream.descriptor = pointer
  streamSource : s.stream.source = pointer
  streamAttributes : s.stream.attributes = pointer

/-- Nothing of a source that has been shut down comes back, and nothing is queued. -/
structure Frozen (s t : MediaSource) : Prop where
  members : Members none t
  events : t.events = s.events
  streamEvents : t.stream.events = s.stream.events

section Unaware

/-- The methods that go through no member. -/
def MediaSourceCall.unaware : MediaSourceCall → Bool
  | .getCharacteristics _ | .pause | .getSourceAttributes _ | .setMediaType _
  | .getStreamAttributes _ _ | .setD3DManager _ | .getService | .ksProperty _ _ | .ksMethod _ _
  | .ksEvent _ => true
  | _ => false

def MediaStreamCall.unaware : MediaStreamCall → Bool
  | .getStreamState _ | .ksProperty _ _ | .ksMethod _ _ | .ksEvent _ => true
  | _ => false

variable (calls : Calls) (s : MediaSource)

theorem ksControl_ends (checked : Bool) :
    (ksControl checked).Ends s (fun _ t => t = s) (fun hr t => t = s ∧ hr.failed = true) := by
  rw [ksControl, ends_bind, returnHrIf, ends_exitIf]
  refine ⟨fun _ => ⟨rfl, rfl⟩, fun _ => ?_⟩
  rw [returnHrIf, ends_exitIf]
  exact ⟨fun _ => ⟨rfl, rfl⟩, fun _ => rfl⟩

theorem unaware_source (call : MediaSourceCall) (unaware : call.unaware = true) :
    (call.method calls).Ends s (fun _ t => t = s) (fun hr t => t = s ∧ hr.failed = true) := by
  cases call with
  | getCharacteristics pdw | setMediaType pMediaType =>
      exact (ends_exitIf _ _).mpr ⟨fun _ => ⟨rfl, rfl⟩, fun _ => rfl⟩
  | pause =>
      rw [MediaSourceCall.method, MediaSource.pause, returnHrIf, ends_exitIf]
      exact ⟨fun _ => ⟨rfl, rfl⟩, by simp⟩
  | getService =>
      rw [MediaSourceCall.method, MediaSource.getService, returnHrIf, ends_exitIf]
      exact ⟨fun _ => ⟨rfl, rfl⟩, by simp⟩
  | getSourceAttributes pp =>
      simp only [MediaSourceCall.method, MediaSource.getSourceAttributes, ends_bind, returnHrIf,
        returnIfFailed, ends_exitIf]
      exact ⟨fun _ => ⟨trivial, rfl⟩, fun _ => ⟨fun failed => ⟨trivial, failed⟩, fun _ => trivial⟩⟩
  | getStreamAttributes id pp =>
      simp only [MediaSourceCall.method, MediaSource.getStreamAttributes, ends_bind, ends_read,
        returnHrIf, returnIfFailed, ends_exitIf]
      exact ⟨fun _ => ⟨trivial, rfl⟩, fun _ => ⟨fun _ => ⟨trivial, rfl⟩, fun _ =>
        ⟨fun failed => ⟨trivial, failed⟩, fun _ => trivial⟩⟩⟩
  | setD3DManager pManager =>
      simp only [MediaSourceCall.method, MediaSource.setD3DManager, ends_bind, ends_read,
        returnHrIf, ends_exitIf]
      refine ⟨fun _ => ⟨trivial, rfl⟩, fun _ => ?_⟩
      apply ends_forRange (fun _ t => t = s) _ _ _ rfl
      intro _ _ t same
      rw [ends_exitIf]
      exact ⟨fun _ => ⟨same, rfl⟩, fun _ => same⟩
  | ksProperty property bytesReturned => exact ksControl_ends s _
  | ksMethod method bytesReturned => exact ksControl_ends s _
  | ksEvent bytesReturned => exact ksControl_ends s _
  | _ => cases unaware

theorem unaware_stream (call : MediaStreamCall) (unaware : call.unaware = true) :
    (call.method calls 0).Ends s (fun _ t => t = s) (fun hr t => t = s ∧ hr.failed = true) := by
  cases call with
  | getStreamState value => exact (ends_exitIf _ _).mpr ⟨fun _ => ⟨rfl, rfl⟩, fun _ => rfl⟩
  | ksProperty property bytesReturned => exact ksControl_ends s _
  | ksMethod method bytesReturned => exact ksControl_ends s _
  | ksEvent bytesReturned => exact ksControl_ends s _
  | _ => cases unaware

theorem unaware_source_needs (call : MediaSourceCall) (unaware : call.unaware = true) :
    ¬ call.NeedsReleased s := by
  cases call with
  | getCharacteristics | pause | getSourceAttributes | setMediaType | getStreamAttributes
  | setD3DManager | getService | ksProperty | ksMethod | ksEvent => exact id
  | _ => cases unaware

theorem unaware_stream_needs (call : MediaStreamCall) (unaware : call.unaware = true) :
    ¬ call.NeedsReleased s := by
  cases call with
  | getStreamState | ksProperty | ksMethod | ksEvent => exact id
  | _ => cases unaware

end Unaware

section Closed

variable {s : MediaSource}

theorem Members.frozen (shut : Members none s) : Frozen s s := ⟨shut, rfl, rfl⟩

theorem guarded_closed (member : MediaSource → Pointer) (hr : HRESULT)
    (next : Unit → MediaSource → Prop) (returned : HRESULT → MediaSource → Prop)
    (reset : member s = none) :
    (guarded member hr).Ends s next returned ↔ returned .mfEShutdown s := by
  simp only [guarded, ends_bind, ends_read, returnHrIf, ends_exitIf, reset, Option.isNone_none,
    forall_const, Bool.true_eq_false, false_imp_iff, and_true]

theorem closed_getStreamIndexById (calls : Calls) (shut : Members none s) (i id : Nat) :
    s.getStreamIndexById calls i id = none := by
  have descriptor : (s.streams 0).descriptor = none := shut.streamDescriptor
  rw [MediaSource.getStreamIndexById, shut.single]
  simp only [List.range_one, MediaSource.findStream, descriptor, Option.isNone_none, ↓reduceIte]

theorem attributes_refused {σ : Type} (attributes : σ → Pointer) (hr : HRESULT)
    (call : AttributesCall) (unchecked : call.checked = false) (s : σ)
    (next : Unit → σ → Prop) (returned : HRESULT → σ → Prop) :
    (call.method attributes hr).Ends s next returned ↔ returned .eInvalidArg s := by
  simp only [AttributesCall.method, ends_bind, ends_exitIf, unchecked, Bool.not_false,
    forall_const, Bool.true_eq_false, false_imp_iff, and_true]

theorem closed_source (calls : Calls) (shut : Members none s) (call : MediaSourceCall)
    (timely : ∀ attributes, call = .attributes attributes → attributes.checked = false) :
    (call.method calls).Ends s (fun _ t => Frozen s t ∧ ¬ call.NeedsReleased s)
      (fun hr t => Frozen s t ∧ hr.failed = true) := by
  have out : Frozen s s := shut.frozen
  have unaware (free : call.unaware = true) :
      (call.method calls).Ends s (fun _ t => Frozen s t ∧ ¬ call.NeedsReleased s)
        (fun hr t => Frozen s t ∧ hr.failed = true) := by
    apply (unaware_source calls s call free).mono
    · intro _ t same
      rw [same]
      exact ⟨out, unaware_source_needs s call free⟩
    · rintro _ t ⟨same, failed⟩
      rw [same]
      exact ⟨out, failed⟩
  cases call with
  | beginGetEvent => exact (guarded_closed _ _ _ _ shut.queue).mpr ⟨out, rfl⟩
  | endGetEvent ppEvent | getEvent ppEvent =>
      simp only [MediaSourceCall.method, MediaSource.endGetEvent, MediaSource.getEvent, ends_bind,
        returnHrIf, ends_exitIf]
      refine ⟨fun _ => ⟨out, rfl⟩, fun _ => ?_⟩
      exact (guarded_closed _ _ _ _ shut.queue).mpr ⟨out, rfl⟩
  | queueEvent met =>
      simp only [MediaSourceCall.method, MediaSource.queueEvent, ends_bind]
      exact (guarded_closed _ _ _ _ shut.queue).mpr ⟨out, rfl⟩
  | createPresentationDescriptor pp =>
      simp only [MediaSourceCall.method, MediaSource.createPresentationDescriptor, ends_bind,
        returnHrIf, ends_exitIf]
      refine ⟨fun _ => ⟨out, rfl⟩, fun _ => ?_⟩
      exact (guarded_closed _ _ _ _ shut.descriptor).mpr ⟨out, rfl⟩
  | shutdown =>
      simp only [MediaSourceCall.method, MediaSource.shutdown, ends_bind, ends_read, returnHrIf,
        ends_exitIf, shut.queue]
      exact ⟨fun _ => ⟨out, rfl⟩, by simp⟩
  | start args =>
      simp only [MediaSourceCall.method, MediaSource.start]
      split
      · exact (ends_exitIf _ _).mpr ⟨fun _ => ⟨out, rfl⟩, by simp⟩
      · simp only [ends_bind, ends_read, returnHrIf, ends_exitIf, shut.queue]
        exact ⟨fun _ => ⟨out, rfl⟩, fun _ => ⟨fun _ => ⟨out, rfl⟩, fun _ =>
          ⟨fun _ => ⟨out, rfl⟩, by simp⟩⟩⟩
  | stop =>
      simp only [MediaSourceCall.method, MediaSource.stop, ends_bind, ends_read, returnHrIf,
        ends_exitIf, shut.queue]
      exact ⟨fun _ => ⟨out, rfl⟩, by simp⟩
  | setDefaultAllocator id pAllocator =>
      simp only [MediaSourceCall.method, MediaSource.setDefaultAllocator, ends_bind, ends_read,
        returnHrIf, ends_exitIf, closed_getStreamIndexById calls shut]
      exact ⟨fun _ => ⟨out, rfl⟩, fun _ => ⟨fun _ => ⟨out, rfl⟩, by simp⟩⟩
  | getAllocatorUsage id pdw pe =>
      simp only [MediaSourceCall.method, MediaSource.getAllocatorUsage, ends_bind, ends_read,
        returnHrIf, ends_exitIf, closed_getStreamIndexById calls shut]
      exact ⟨fun _ => ⟨out, rfl⟩, fun _ => ⟨fun _ => ⟨out, rfl⟩, fun _ =>
        ⟨fun _ => ⟨out, rfl⟩, by simp⟩⟩⟩
  | attributes call =>
      exact (attributes_refused _ _ call (timely call rfl) s _ _).mpr ⟨out, rfl⟩
  | _ => exact unaware rfl

theorem Frozen.entered (shut : Members none s) (value : MF_STREAM_STATE) :
    Frozen s (s.modifyStream 0 (MediaStream.entered value)) := by
  have stream := MediaSource.modifyStream_stream s (MediaStream.entered value)
  refine ⟨⟨shut.single, shut.queue, shut.descriptor, shut.attributes, ?_, ?_, ?_, ?_⟩, rfl, ?_⟩
  · rw [stream]
    exact shut.streamQueue
  · rw [stream]
    exact shut.streamDescriptor
  · rw [stream]
    exact shut.streamSource
  · rw [stream]
    exact shut.streamAttributes
  · rw [stream]
    rfl

theorem closed_stream (calls : Calls) (shut : Members none s) (call : MediaStreamCall)
    (timely : ∀ attributes, call = .attributes attributes → attributes.checked = false) :
    (call.method calls 0).Ends s (fun _ t => Frozen s t ∧ ¬ call.NeedsReleased s)
      (fun hr t => Frozen s t ∧ hr.failed = true) := by
  have out : Frozen s s := shut.frozen
  have unaware (free : call.unaware = true) :
      (call.method calls 0).Ends s (fun _ t => Frozen s t ∧ ¬ call.NeedsReleased s)
        (fun hr t => Frozen s t ∧ hr.failed = true) := by
    apply (unaware_stream calls s call free).mono
    · intro _ t same
      rw [same]
      exact ⟨out, unaware_stream_needs s call free⟩
    · rintro _ t ⟨same, failed⟩
      rw [same]
      exact ⟨out, failed⟩
  cases call with
  | beginGetEvent => exact (guarded_closed _ _ _ _ shut.streamQueue).mpr ⟨out, rfl⟩
  | endGetEvent ppEvent | getEvent ppEvent =>
      simp only [MediaStreamCall.method, MediaStream.endGetEvent, MediaStream.getEvent, ends_bind,
        returnHrIf, ends_exitIf]
      refine ⟨fun _ => ⟨out, rfl⟩, fun _ => ?_⟩
      exact (guarded_closed _ _ _ _ shut.streamQueue).mpr ⟨out, rfl⟩
  | queueEvent met =>
      simp only [MediaStreamCall.method, MediaStream.queueEvent, ends_bind]
      exact (guarded_closed _ _ _ _ shut.streamQueue).mpr ⟨out, rfl⟩
  | getMediaSource pp =>
      simp only [MediaStreamCall.method, MediaStream.getMediaSource, ends_bind, returnHrIf,
        ends_exitIf]
      refine ⟨fun _ => ⟨out, rfl⟩, fun _ => ?_⟩
      exact (guarded_closed _ _ _ _ shut.streamSource).mpr ⟨out, rfl⟩
  | getStreamDescriptor pp =>
      simp only [MediaStreamCall.method, MediaStream.getStreamDescriptor, ends_bind, returnHrIf,
        ends_exitIf]
      refine ⟨fun _ => ⟨out, rfl⟩, fun _ => ?_⟩
      exact (guarded_closed _ _ _ _ shut.streamDescriptor).mpr ⟨out, rfl⟩
  | requestSample token =>
      have queue : (s.streams 0).queue = none := shut.streamQueue
      simp only [MediaStreamCall.method, MediaStream.requestSample, ends_bind, ends_read,
        returnHrIf, ends_exitIf, queue, Option.isNone_none, Bool.or_true]
      exact ⟨fun _ => ⟨out, rfl⟩, by simp⟩
  | setStreamState value =>
      by_cases stopped : value = MF_STREAM_STATE_STOPPED
      · subst stopped
        have entered := Frozen.entered shut MF_STREAM_STATE_STOPPED
        refine (MediaStream.setStreamState_stopped calls 0 s _ _).mpr ?_
        have gone := entered.members.streamQueue
        exact MediaStream.stop_refused calls 0 0 _ (Or.inl gone) ⟨entered, rfl⟩
      · change (MediaStream.setStreamState calls 0 value).Ends s _ _
        rw [Ends, MediaStream.setStreamState_active _ _ _ _ stopped]
        exact ⟨Frozen.entered shut value, fun needs => stopped needs.1⟩
  | attributes call =>
      exact (attributes_refused _ _ call (timely call rfl) s _ _).mpr ⟨out, rfl⟩
  | _ => exact unaware rfl

end Closed

section Open

/-- Nothing is released but by `Shutdown`. -/
def intact : Guarantee MediaSource where
  inv := Members (some ())
  moves _ _ := True
  refl _ := trivial
  trans _ _ _ _ _ := trivial

variable {s : MediaSource}

/-- Changes to the stream that keep its pointers. -/
theorem Members.modifies {pointer : Pointer} (held : Members pointer s)
    (f : MediaStream → MediaStream) (queue : (f s.stream).queue = s.stream.queue)
    (descriptor : (f s.stream).descriptor = s.stream.descriptor)
    (source : (f s.stream).source = s.stream.source)
    (attributes : (f s.stream).attributes = s.stream.attributes) :
    Members pointer (s.modifyStream 0 f) := by
  have stream := MediaSource.modifyStream_stream s f
  refine ⟨held.single, held.queue, held.descriptor, held.attributes, ?_, ?_, ?_, ?_⟩
  · rw [stream, queue]
    exact held.streamQueue
  · rw [stream, descriptor]
    exact held.streamDescriptor
  · rw [stream, source]
    exact held.streamSource
  · rw [stream, attributes]
    exact held.streamAttributes

theorem Members.setInitialized {pointer : Pointer} (held : Members pointer s) (allocator : Nat)
    (value : Bool) : Members pointer (s.setInitialized allocator value) :=
  ⟨held.single, held.queue, held.descriptor, held.attributes, held.streamQueue,
    held.streamDescriptor, held.streamSource, held.streamAttributes⟩

theorem intact_streamStart (calls : Calls) (i : Nat) (type : Bool) :
    intact.Keeps (MediaStream.start calls i 0 type) := by
  intro s held
  apply (MediaStream.start_ends calls i 0 type s).mono
  · intro _ t ⟨allocator, _, _, same⟩
    rw [same]
    have first := (held.setInitialized allocator true).modifies (MediaStream.queued .streamStarted)
      rfl rfl rfl rfl
    exact ⟨first.modifies (MediaStream.entered MF_STREAM_STATE_RUNNING) rfl rfl rfl rfl, trivial⟩
  · intro _ t outcome
    rcases outcome with same | ⟨allocator, _, _, same⟩
    · rw [same]
      exact ⟨held, trivial⟩
    · rw [same]
      exact ⟨held.setInitialized allocator true, trivial⟩

theorem intact_streamStop (calls : Calls) (i : Nat) :
    intact.Keeps (MediaStream.stop calls i 0) := by
  intro s held
  apply (MediaStream.stop_ends calls i 0 s).mono
  · intro _ t ⟨allocator, _, _, _, same⟩
    rw [same]
    have first := (held.setInitialized allocator false).modifies
      (MediaStream.queued .streamStopped) rfl rfl rfl rfl
    exact ⟨first.modifies (MediaStream.entered MF_STREAM_STATE_STOPPED) rfl rfl rfl rfl, trivial⟩
  · intro _ t outcome
    rcases outcome with ⟨same, _⟩ | ⟨allocator, _, _, same⟩
    · rw [same]
      exact ⟨held, trivial⟩
    · rw [same]
      exact ⟨held.setInitialized allocator false, trivial⟩

theorem intact_carries (calls : Calls) : Carries intact calls 1 where
  count s held := held.single
  queue s held := held.queue
  descriptor s held := held.descriptor
  select s index flag held := ⟨⟨held.single, held.queue, held.descriptor, held.attributes,
    held.streamQueue, held.streamDescriptor, held.streamSource, held.streamAttributes⟩, trivial⟩
  queued s event held := ⟨⟨held.single, held.queue, held.descriptor, held.attributes,
    held.streamQueue, held.streamDescriptor, held.streamSource, held.streamAttributes⟩, trivial⟩
  streamStart i index type inside := by
    have only : index = 0 := by omega
    subst only
    exact intact_streamStart calls i type
  streamStop i index inside := by
    have only : index = 0 := by omega
    subst only
    exact intact_streamStop calls i

theorem intact_guarded (member : MediaSource → Pointer) (hr : HRESULT)
    (live : ∀ s, Members (some ()) s → member s = some ()) : intact.Keeps (guarded member hr) := by
  apply Keeps.read
  intro s held
  apply Keeps.bind (Keeps.exitIf _ _)
  intro _
  apply Keeps.bind (Keeps.deref (live s held))
  intro _
  exact Keeps.exitIf _ _

theorem intact_attributes (attributes : MediaSource → Pointer) (hr : HRESULT)
    (call : AttributesCall) (live : ∀ s, Members (some ()) s → attributes s = some ()) :
    intact.Keeps (call.method attributes hr) := by
  apply Keeps.bind (Keeps.exitIf _ _)
  intro _
  apply Keeps.read
  intro s held
  apply Keeps.bind (Keeps.deref (live s held))
  intro _
  exact Keeps.exitIf _ _

theorem intact_setDefaultAllocator (calls : Calls) (id : Nat) (allocator : Option Nat) :
    intact.Keeps (MediaSource.setDefaultAllocator calls id allocator) := by
  apply Keeps.bind (Keeps.exitIf _ _)
  intro _
  apply Keeps.read
  intro s held
  cases found : s.getStreamIndexById calls 0 id with
  | none => exact Keeps.exitIf _ _
  | some index =>
      have inside := (MediaSource.getStreamIndexById_some found).2
      rw [held.single] at inside
      have only : index = 0 := by omega
      subst only
      apply Keeps.bind (Keeps.exitIf _ _)
      intro _ t kept
      have cleared := kept.modifies (MediaStream.withAllocator none) rfl rfl rfl rfl
      apply (MediaStream.setAllocator_ends calls 0 allocator t).mono
      · intro _ u same
        rw [same]
        exact ⟨cleared.modifies (MediaStream.withAllocator allocator) rfl rfl rfl rfl, trivial⟩
      · intro _ u outcome
        rcases outcome with same | same
        · rw [same]
          exact ⟨kept, trivial⟩
        · rw [same]
          exact ⟨cleared, trivial⟩

/-- Before `Shutdown` no method of the source crashes, and only `Shutdown` releases. -/
theorem intact_source (calls : Calls) (call : MediaSourceCall) (other : call ≠ .shutdown) :
    intact.Keeps (call.method calls) := by
  have unaware (free : call.unaware = true) : intact.Keeps (call.method calls) := by
    intro s held
    apply (unaware_source calls s call free).mono
    · intro _ t same
      rw [same]
      exact ⟨held, trivial⟩
    · intro _ t ⟨same, _⟩
      rw [same]
      exact ⟨held, trivial⟩
  cases call with
  | beginGetEvent => exact intact_guarded _ _ fun s held => held.queue
  | endGetEvent ppEvent | getEvent ppEvent =>
      apply Keeps.bind (Keeps.exitIf _ _)
      intro _
      exact intact_guarded _ _ fun s held => held.queue
  | queueEvent met =>
      apply Keeps.bind (intact_guarded _ _ fun s held => held.queue)
      intro _
      exact Keeps.modify fun s held => (intact_carries calls).queued s _ held
  | createPresentationDescriptor pp =>
      apply Keeps.bind (Keeps.exitIf _ _)
      intro _
      exact intact_guarded _ _ fun s held => held.descriptor
  | shutdown => exact (other rfl).elim
  | start args => exact (intact_carries calls).start args
  | stop => exact (intact_carries calls).stop
  | setDefaultAllocator id allocator => exact intact_setDefaultAllocator calls id allocator
  | getAllocatorUsage id pdw pe =>
      apply Keeps.bind (Keeps.exitIf _ _)
      intro _
      apply Keeps.bind (Keeps.exitIf _ _)
      intro _
      apply Keeps.read
      intro s held
      cases s.getStreamIndexById calls 0 id with
      | none => exact Keeps.exitIf _ _
      | some index => exact Keeps.exitIf _ _
  | attributes call => exact intact_attributes _ _ call fun s held => held.attributes
  | _ => exact unaware rfl

theorem intact_stream (calls : Calls) (call : MediaStreamCall) :
    intact.Keeps (call.method calls 0) := by
  have unaware (free : call.unaware = true) : intact.Keeps (call.method calls 0) := by
    intro s held
    apply (unaware_stream calls s call free).mono
    · intro _ t same
      rw [same]
      exact ⟨held, trivial⟩
    · intro _ t ⟨same, _⟩
      rw [same]
      exact ⟨held, trivial⟩
  cases call with
  | beginGetEvent => exact intact_guarded _ _ fun s held => held.streamQueue
  | endGetEvent ppEvent | getEvent ppEvent =>
      apply Keeps.bind (Keeps.exitIf _ _)
      intro _
      exact intact_guarded _ _ fun s held => held.streamQueue
  | queueEvent met =>
      apply Keeps.bind (intact_guarded _ _ fun s held => held.streamQueue)
      intro _
      apply Keeps.modify
      intro s held
      exact ⟨held.modifies (MediaStream.queued _) rfl rfl rfl rfl, trivial⟩
  | getMediaSource pp =>
      apply Keeps.bind (Keeps.exitIf _ _)
      intro _
      exact intact_guarded _ _ fun s held => held.streamSource
  | getStreamDescriptor pp =>
      apply Keeps.bind (Keeps.exitIf _ _)
      intro _
      exact intact_guarded _ _ fun s held => held.streamDescriptor
  | requestSample token =>
      intro s held
      apply (MediaStream.requestSample_ends calls 0 token s).mono
      · intro _ t ⟨_, _, same⟩
        rw [same]
        exact ⟨held.modifies (MediaStream.queued _) rfl rfl rfl rfl, trivial⟩
      · intro _ t ⟨same, _⟩
        rw [same]
        exact ⟨held, trivial⟩
  | setStreamState value =>
      intro s held
      have entered := held.modifies (MediaStream.entered value) rfl rfl rfl rfl
      by_cases stopped : value = MF_STREAM_STATE_STOPPED
      · subst stopped
        refine (MediaStream.setStreamState_stopped calls 0 s _ _).mpr ?_
        exact intact_streamStop calls 0 _ entered
      · change (MediaStream.setStreamState calls 0 value).Ends s _ _
        rw [Ends, MediaStream.setStreamState_active _ _ _ _ stopped]
        exact ⟨entered, trivial⟩
  | attributes call => exact intact_attributes _ _ call fun s held => held.streamAttributes
  | _ => exact unaware rfl

theorem shutdown_ends (held : Members (some ()) s) :
    MediaSource.shutdown.Ends s (fun _ t => Members none t) (fun _ _ => False) := by
  have stream := MediaSource.modifyStream_stream s MediaStream.released
  simp only [MediaSource.shutdown, ends_bind, ends_read, returnHrIf, ends_exitIf, ends_modify,
    held.queue, held.single, forRange_one, MediaStream.shutdown]
  refine ⟨by simp, fun _ => ⟨rfl, rfl, rfl, rfl, ?_, ?_, ?_, ?_⟩⟩
  · exact congrArg MediaStream.queue stream
  · exact congrArg MediaStream.descriptor stream
  · exact congrArg MediaStream.source stream
  · exact congrArg MediaStream.attributes stream

/-- `Stop` needs the allocator of the stream. -/
theorem needy_stop (calls : Calls) (held : Members (some ()) s)
    (missing : s.stream.allocator = none) :
    (MediaSource.stop calls).Ends s (fun _ _ => False) (fun hr _ => hr.failed = true) := by
  simp only [MediaSource.stop, ends_bind, ends_read, returnHrIf, returnIfFailed, ends_exitIf,
    held.single, forRange_one, MediaSource.stopStream]
  refine ⟨fun _ => rfl, fun _ => ⟨id, fun _ => ?_⟩⟩
  exact MediaStream.stop_refused calls 0 0 s (Or.inr missing) rfl

/-- A change of selection needs the allocator of the stream. -/
theorem needy_changeSelection (calls : Calls) (selected : Bool) (held : Members (some ()) s)
    (missing : s.stream.allocator = none) :
    (MediaSource.changeSelection calls 0 0 selected).Ends s (fun _ _ => False)
      (fun hr _ => hr.failed = true) := by
  have queue : (s.select 0 true).queue = some () := held.queue
  have absent (flag : Bool) : ((s.select 0 flag).streams 0).queue = none ∨
      ((s.select 0 flag).streams 0).allocator = none := Or.inr missing
  have queuedAbsent : (((s.select 0 true).queued (.newStream 0)).streams 0).queue = none ∨
      (((s.select 0 true).queued (.newStream 0)).streams 0).allocator = none := Or.inr missing
  simp only [MediaSource.changeSelection, MediaSource.queueEventParam, ends_bind, ends_read,
    returnIfFailed, ends_exitIf, ends_modify, ends_ite, ends_deref_some, held.descriptor, queue]
  refine ⟨fun _ => ⟨id, fun _ => ⟨id, fun _ => ⟨id, fun _ => ⟨id, fun _ => ⟨id, fun _ => ?_⟩⟩⟩⟩⟩,
    fun _ => ⟨id, fun _ => ?_⟩⟩
  · exact MediaStream.start_refused calls 0 0 true _ queuedAbsent rfl
  · exact MediaStream.stop_refused calls 0 0 _ (absent false) rfl

theorem needy_start (calls : Calls) (args : StartArgs) (held : Members (some ()) s)
    (changes : args.changes s) (missing : s.stream.allocator = none) :
    (MediaSource.start calls args).Ends s (fun _ _ => False) (fun hr _ => hr.failed = true) := by
  obtain ⟨entry, presented, changes⟩ := changes
  simp only [MediaSource.start, presented, ends_bind, ends_read, returnHrIf, returnIfFailed,
    ends_exitIf, List.length_singleton, forRange_one, MediaSource.startStream]
  refine ⟨fun _ => rfl, fun _ => ⟨fun _ => rfl, fun _ => ⟨fun _ => rfl, fun _ => ⟨id, fun _ =>
    ⟨fun _ => rfl, fun _ => ⟨id, fun _ => ⟨id, fun _ => ⟨id, fun _ => ?_⟩⟩⟩⟩⟩⟩⟩⟩
  cases found : s.getStreamIndexById calls 0 ([entry].getD 0 ⟨false, 0⟩).id with
  | none =>
      dsimp only
      rw [ends_exitIf]
      exact ⟨fun _ => rfl, by simp⟩
  | some index =>
      have inside := (MediaSource.getStreamIndexById_some found).2
      rw [held.single] at inside
      have only : index = 0 := by omega
      subst only
      simp only [ends_bind, ends_deref_some, ends_exitIf, held.descriptor, ends_ite]
      refine ⟨id, fun _ => ⟨fun _ => ?_, fun same => (same changes).elim⟩⟩
      apply (needy_changeSelection calls _ held missing).mono
      · intro _ _ impossible
        exact impossible.elim
      · intro _ _ failed
        exact failed

theorem needy_source (calls : Calls) (call : MediaSourceCall) (held : Members (some ()) s)
    (needs : call.NeedsReleased s) :
    (call.method calls).Ends s (fun _ _ => False) (fun hr _ => hr.failed = true) := by
  have live {pointer : Pointer} (set : pointer = some ()) (reset : pointer = none) : False :=
    nomatch set.symm.trans reset
  cases call with
  | beginGetEvent => exact (live held.queue needs).elim
  | endGetEvent ppEvent => exact (live held.queue needs).elim
  | getEvent ppEvent => exact (live held.queue needs).elim
  | queueEvent met => exact (live held.queue needs).elim
  | shutdown => exact (live held.queue needs).elim
  | createPresentationDescriptor pp => exact (live held.descriptor needs).elim
  | start args =>
      rcases needs with queue | descriptor | ⟨changes, missing⟩
      · exact (live held.queue queue).elim
      · exact (live held.descriptor descriptor).elim
      · exact needy_start calls args held changes missing
  | stop =>
      rcases needs with queue | descriptor | missing
      · exact (live held.queue queue).elim
      · exact (live held.descriptor descriptor).elim
      · exact needy_stop calls held missing
  | setDefaultAllocator id allocator => exact (live held.streamDescriptor needs).elim
  | getAllocatorUsage id pdw pe => exact (live held.streamDescriptor needs).elim
  | attributes call => exact (live held.attributes needs).elim
  | _ => exact needs.elim

theorem needy_stream (calls : Calls) (call : MediaStreamCall) (held : Members (some ()) s)
    (needs : call.NeedsReleased s) :
    (call.method calls 0).Ends s (fun _ _ => False) (fun hr _ => hr.failed = true) := by
  have live {pointer : Pointer} (set : pointer = some ()) (reset : pointer = none) : False :=
    nomatch set.symm.trans reset
  cases call with
  | beginGetEvent => exact (live held.streamQueue needs).elim
  | endGetEvent ppEvent => exact (live held.streamQueue needs).elim
  | getEvent ppEvent => exact (live held.streamQueue needs).elim
  | queueEvent met => exact (live held.streamQueue needs).elim
  | getMediaSource pp => exact (live held.streamSource needs).elim
  | getStreamDescriptor pp => exact (live held.streamDescriptor needs).elim
  | requestSample token =>
      apply (MediaStream.requestSample_ends calls 0 token s).mono
      · intro _ t ⟨queue, ⟨allocator, known, _⟩, _⟩
        rcases needs with missing | reset
        · exact nomatch known.symm.trans missing
        · exact live queue reset
      · intro _ _ outcome
        exact outcome.2
  | setStreamState value =>
      obtain ⟨stopped, missing⟩ := needs
      subst stopped
      refine (MediaStream.setStreamState_stopped calls 0 s _ _).mpr ?_
      apply MediaStream.stop_refused
      · change (s.modifyStream 0 _).stream.queue = none ∨
          (s.modifyStream 0 _).stream.allocator = none
        rw [MediaSource.modifyStream_stream]
        exact missing
      · rfl
  | attributes call => exact (live held.streamAttributes needs).elim
  | _ => exact needs.elim

end Open

section Calls

/-- The source is whole, or it has been shut down. -/
structure Process.Sound (p : Process) : Prop where
  attributes : p.activator.attributes = some ()
  members : Members (some ()) p.source ∨ Members none p.source

/-- What a call leads to that does not crash. -/
structure Fares (p : Process) (q : Process) : Prop where
  sound : q.Sound
  silent : p.isShutDown → q.source.events = p.source.events ∧
    q.source.stream.events = p.source.stream.events

theorem Frozen.fares {p q : Process} (sound : p.Sound) (frozen : Frozen p.source q.source)
    (activator : q.activator = p.activator) : Fares p q where
  sound := ⟨activator ▸ sound.attributes, Or.inr frozen.members⟩
  silent _ := ⟨frozen.events, frozen.streamEvents⟩

theorem Members.fares {p q : Process} {pointer : Pointer} (sound : p.Sound)
    (held : Members (some ()) p.source) (kept : Members pointer q.source)
    (activator : q.activator = p.activator) : Fares p q where
  sound := by
    refine ⟨activator ▸ sound.attributes, ?_⟩
    cases pointer with
    | some _ => exact Or.inl kept
    | none => exact Or.inr kept
  silent shut := nomatch held.queue.symm.trans shut

/-- The common form of what is shown of each call. -/
def PublicCall.EndsWell (p : Process) (call : PublicCall) : Prop :=
  call.method.Ends p (fun _ q => Fares p q ∧ ¬ call.NeedsReleased p)
    (fun hr q => Fares p q ∧ (call.NeedsReleased p → hr.failed = true))

/-- Before `Shutdown`: a method that releases nothing and fails without what it needs. -/
theorem fares_intact {p : Process} {m : SourceMethod Unit} {needs : Prop} (sound : p.Sound)
    (held : Members (some ()) p.source) (kept : intact.Keeps m)
    (needy : needs → m.Ends p.source (fun _ _ => False) (fun hr _ => hr.failed = true)) :
    m.Ends p.source (fun _ t => Fares p (p.setSource t) ∧ ¬ needs)
      (fun hr t => Fares p (p.setSource t) ∧ (needs → hr.failed = true)) := by
  by_cases need : needs
  · apply ((kept p.source held).and (needy need)).mono
    · intro _ _ ⟨_, impossible⟩
      exact impossible.elim
    · intro _ _ ⟨after, failed⟩
      exact ⟨Members.fares sound held after.1 rfl, fun _ => failed⟩
  · apply (kept p.source held).mono
    · intro _ _ after
      exact ⟨Members.fares sound held after.1 rfl, need⟩
    · intro _ _ after
      exact ⟨Members.fares sound held after.1 rfl, fun needs => (need needs).elim⟩

theorem endsWell_source {p : Process} (sound : p.Sound) (calls : Calls) (call : MediaSourceCall)
    (timely : ∀ attributes, call = .attributes attributes → attributes.checked = true →
      ¬ p.isShutDown) : (PublicCall.source calls call).EndsWell p := by
  rw [PublicCall.EndsWell, PublicCall.method, ends_zoom]
  rcases sound.members with held | shut
  · by_cases shutdown : call = .shutdown
    · subst shutdown
      apply (shutdown_ends held).mono
      · intro _ t reset
        exact ⟨Members.fares sound held reset rfl, fun needs => nomatch held.queue.symm.trans needs⟩
      · intro _ _ impossible
        exact impossible.elim
    · exact fares_intact sound held (intact_source calls call shutdown)
        (needy_source calls call held)
  · apply (closed_source calls shut call _).mono
    · intro _ t ⟨frozen, free⟩
      exact ⟨frozen.fares sound rfl, free⟩
    · intro hr t ⟨frozen, failed⟩
      exact ⟨frozen.fares sound rfl, fun _ => failed⟩
    · intro attributes same
      apply Bool.eq_false_iff.mpr
      intro checked
      exact timely attributes same checked shut.queue

theorem endsWell_stream {p : Process} (sound : p.Sound) (calls : Calls) (call : MediaStreamCall)
    (timely : ∀ attributes, call = .attributes attributes → attributes.checked = true →
      ¬ p.isShutDown) : (PublicCall.stream calls call).EndsWell p := by
  rw [PublicCall.EndsWell, PublicCall.method, ends_zoom]
  rcases sound.members with held | shut
  · exact fares_intact sound held (intact_stream calls call) (needy_stream calls call held)
  · apply (closed_stream calls shut call _).mono
    · intro _ t ⟨frozen, free⟩
      exact ⟨frozen.fares sound rfl, free⟩
    · intro hr t ⟨frozen, failed⟩
      exact ⟨frozen.fares sound rfl, fun _ => failed⟩
    · intro attributes same
      apply Bool.eq_false_iff.mpr
      intro checked
      exact timely attributes same checked shut.queue

theorem endsWell_activator {p : Process} (sound : p.Sound) (calls : Calls) (call : ActivatorCall)
    (timely : call = .activateObject true → p.activator.source ≠ none) :
    (PublicCall.activator calls call).EndsWell p := by
  have fares (activator : Activator) (kept : activator.attributes = some ()) :
      Fares p (p.setActivator activator) := ⟨⟨kept, sound.members⟩, fun _ => ⟨rfl, rfl⟩⟩
  have same := fares p.activator sound.attributes
  rw [PublicCall.EndsWell, PublicCall.method, ends_zoom]
  cases call with
  | activateObject ppv =>
      cases ppv with
      | false =>
          rw [ActivatorCall.method, Activator.activateObject, ends_bind, ends_exitIf]
          exact ⟨fun _ => ⟨same, fun _ => rfl⟩, nofun⟩
      | true =>
          obtain ⟨_, live⟩ := Option.ne_none_iff_exists'.mp (timely rfl)
          have free : ¬ p.activator.source = none := timely rfl
          simp only [ActivatorCall.method, Activator.activateObject, ends_bind, ends_read,
            ends_exitIf, sound.attributes, live, ends_deref_some]
          exact ⟨nofun, fun _ => ⟨fun failed => ⟨same, fun _ => failed⟩, fun _ => ⟨same, free⟩⟩⟩
  | shutdownObject => exact ⟨same, id⟩
  | detachObject => exact ⟨fares ⟨none, p.activator.attributes⟩ sound.attributes, id⟩
  | attributes call =>
      have free : ¬ p.activator.attributes = none := by
        rw [sound.attributes]
        exact nofun
      simp only [ActivatorCall.method, AttributesCall.method, ends_bind, ends_read, ends_exitIf,
        sound.attributes, ends_deref_some]
      exact ⟨fun _ => ⟨same, fun _ => rfl⟩, fun _ =>
        ⟨fun failed => ⟨same, fun _ => failed⟩, fun _ => ⟨same, free⟩⟩⟩

end Calls

theorem attributes_crash {σ : Type} (attributes : σ → Pointer) (hr : HRESULT)
    (call : AttributesCall) (checked : call.checked = true) (s : σ) (reset : attributes s = none) :
    (call.method attributes hr).run s = .crashed := by
  simp only [AttributesCall.method, run_bind, run_exitIf, run_read, run_deref, checked, reset,
    Bool.not_true, Bool.false_eq_true, ↓reduceIte]

/-- What goes wrong: a call goes through a pointer it does not check. -/
theorem untimely_crashes {p : Process} (sound : p.Sound) {call : PublicCall}
    (untimely : ¬ Timely (some p) call) : call.method.run p = .crashed := by
  simp only [Timely, Option.some.injEq, forall_eq', Classical.not_and_iff_not_or_not,
    Classical.not_forall, Classical.not_not] at untimely
  rcases untimely with ⟨calls, attributes, which, checked, shut⟩ | ⟨calls, same, detached⟩
  · have reset : Members none p.source := by
      rcases sound.members with held | reset
      · exact nomatch held.queue.symm.trans shut
      · exact reset
    rcases which with same | same
    · subst same
      have crash := attributes_crash MediaSource.attributes (calls .attributeStore) attributes
        checked p.source reset.attributes
      rw [PublicCall.method, run_zoom, MediaSourceCall.method, crash]
    · subst same
      have crash := attributes_crash (fun s => (s.streams 0).attributes) (calls .attributeStore)
        attributes checked p.source reset.streamAttributes
      rw [PublicCall.method, run_zoom, MediaStreamCall.method, crash]
  · subst same
    have crash : (Activator.activateObject calls true).run p.activator = .crashed := by
      simp only [Activator.activateObject, run_bind, run_exitIf, run_read, run_deref,
        sound.attributes, detached, Bool.not_true, Bool.false_eq_true, ↓reduceIte]
    rw [PublicCall.method, run_zoom, ActivatorCall.method, crash]

theorem timely_endsWell {p : Process} (sound : p.Sound) {call : PublicCall}
    (timely : Timely (some p) call) : call.EndsWell p := by
  obtain ⟨unreleased, attached⟩ := timely p rfl
  cases call with
  | activator calls call =>
      apply endsWell_activator sound
      intro same
      exact attached calls (by rw [same])
  | source calls call =>
      apply endsWell_source sound
      intro attributes same
      exact unreleased calls attributes (Or.inl (by rw [same]))
  | stream calls call =>
      apply endsWell_stream sound
      intro attributes same
      exact unreleased calls attributes (Or.inr (by rw [same]))

theorem PublicCall.EndsWell.proper {p : Process} {call : PublicCall} (endsWell : call.EndsWell p) :
    Proper (some p) call (call.method.final p) ∧ ∀ q, call.method.final p = some q → q.Sound := by
  obtain ⟨q, left⟩ := Ends.some_final endsWell
  rw [left]
  rcases Ends.cases endsWell left with ⟨_, _, fares, free⟩ | ⟨hr, returned, fares, failed⟩
  · constructor
    · intro _ same
      cases same
      exact ⟨q, rfl, fares.silent, fun needs => (free needs).elim⟩
    · intro _ same
      cases same
      exact fares.sound
  · constructor
    · intro _ same
      cases same
      exact ⟨q, rfl, fares.silent, fun needs => ⟨hr, returned, failed needs⟩⟩
    · intro _ same
      cases same
      exact fares.sound

theorem proper_iff_timely (process : Option Process) (call : PublicCall) (after : Option Process)
    (sound : ∀ p, process = some p → p.Sound) (taken : call.step process = some after) :
    (Proper process call after ↔ Timely process call) ∧
      (Timely process call → ∀ p, after = some p → p.Sound) := by
  cases process with
  | none => cases taken
  | some p =>
      have result : call.method.final p = after := Option.some.inj taken
      subst result
      by_cases timely : Timely (some p) call
      · obtain ⟨proper, kept⟩ := (timely_endsWell (sound p rfl) timely).proper
        exact ⟨⟨fun _ => timely, fun _ => proper⟩, fun _ => kept⟩
      · refine ⟨⟨fun proper => ?_, fun meets => (timely meets).elim⟩,
          fun meets => (timely meets).elim⟩
        obtain ⟨q, left, _⟩ := proper p rfl
        rw [Method.final, untimely_crashes (sound p rfl) timely] at left
        cases left

/-- In every run of public calls all goes well exactly as long as attributes are asked
for before `Shutdown`, and objects before `DetachObject`. -/
theorem calls_proper_iff_timely (selected initialized : Nat → Bool) (calls : List PublicCall)
    (enabled : (run PublicCall.step (some (Process.initial selected initialized)) calls).isSome) :
    Throughout PublicCall.step Proper (some (Process.initial selected initialized)) calls ↔
      Along PublicCall.step Timely (some (Process.initial selected initialized)) calls := by
  have start (p : Process) (same : some (Process.initial selected initialized) = some p) :
      p.Sound := by
    cases same
    exact ⟨rfl, Or.inl ⟨rfl, rfl, rfl, rfl, rfl, rfl, rfl, rfl⟩⟩
  exact throughout_iff_along
    (fun process call after sound timely taken =>
      (proper_iff_timely process call after sound taken).2 timely)
    (fun process call after sound taken =>
      (proper_iff_timely process call after sound taken).1)
    calls _ start enabled

/-- A session that ends with calls on what has been shut down. -/
def endedSession : List PublicCall :=
  let ok : Calls := fun _ => .sOk
  [.activator ok (.activateObject true), .source ok (.setDefaultAllocator 0 (some 7)),
    .source ok (.start ⟨some [⟨true, 0⟩], true, false⟩), .stream ok (.requestSample true),
    .source ok .stop, .source ok .shutdown, .activator ok .detachObject,
    .source ok (.getEvent true), .stream ok (.requestSample false)]

theorem endedSession_proper :
    (run PublicCall.step (some (Process.initial (fun _ => false) fun _ => false))
        endedSession).isSome ∧
      Throughout PublicCall.step Proper (some (Process.initial (fun _ => false) fun _ => false))
        endedSession := by
  refine ⟨rfl, ?_⟩
  apply (calls_proper_iff_timely (fun _ => false) (fun _ => false) endedSession rfl).mpr
  refine ⟨?_, fun t _ => ?_⟩
  · intro p same
    cases same
    exact ⟨by simp, fun _ _ => by simp [Process.initial]⟩
  · -- The calls that follow ask for neither attributes nor objects.
    apply along_of_forall
    intro call member _ _ _
    constructor
    · intro calls attributes same
      rcases same with rfl | rfl <;> simp at member
    · intro calls same
      subst same
      simp at member

/-- `GetUINT32` on the stream after `Shutdown`, and `ActivateObject` after `DetachObject`. -/
theorem released_members_crash :
    run PublicCall.step (some (Process.initial (fun _ => false) fun _ => false))
        [.source (fun _ => .sOk) .shutdown,
          .stream (fun _ => .sOk) (.attributes (.getUINT32 true))] = some none ∧
      run PublicCall.step (some (Process.initial (fun _ => false) fun _ => false))
        [.activator (fun _ => .sOk) .detachObject,
          .activator (fun _ => .sOk) (.activateObject true)] = some none ∧
      ¬ Throughout PublicCall.step Proper
        (some (Process.initial (fun _ => false) fun _ => false))
        [.activator (fun _ => .sOk) .detachObject,
          .activator (fun _ => .sOk) (.activateObject true)] := by
  refine ⟨rfl, rfl, ?_⟩
  intro proper
  obtain ⟨_, second⟩ := proper _ rfl
  obtain ⟨q, left, _⟩ := (second _ rfl).1 _ rfl
  cases left

end Obs2Mf.Vcam
