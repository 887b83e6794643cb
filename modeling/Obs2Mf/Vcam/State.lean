import Mathlib.Logic.Function.Basic
import Obs2Mf.Foundation.Method
import Obs2Mf.Hresult

set_option autoImplicit false

/- The media source and its streams: their members, the objects behind their
pointers as far as the program sees them, and the calls that leave the program. -/
namespace Obs2Mf.Vcam

abbrev MF_STREAM_STATE := BitVec 32

def MF_STREAM_STATE_STOPPED : MF_STREAM_STATE := 0#32
def MF_STREAM_STATE_PAUSED : MF_STREAM_STATE := 1#32
def MF_STREAM_STATE_RUNNING : MF_STREAM_STATE := 2#32

inductive MediaEvent where
  | streamStarted
  | streamStopped
  | mediaSample
  | newStream (index : Nat)
  | sourceStarted
  | sourceStopped
  | client (met : BitVec 32)
  deriving DecidableEq, Repr

/-- The last start or stop event on a queue. -/
def lastStartStop (events : List MediaEvent) : Option MediaEvent :=
  events.foldl (fun last event =>
    if event = .streamStarted ∨ event = .streamStopped then some event else last) none

theorem lastStartStop_snoc (events : List MediaEvent) (event : MediaEvent) :
    lastStartStop (events ++ [event]) =
      if event = .streamStarted ∨ event = .streamStopped then some event
      else lastStartStop events := by
  rw [lastStartStop, List.foldl_append]
  rfl

/-- A COM pointer whose target has no state the program reads. -/
abbrev Pointer := Option Unit

/-- A call that leaves the program. A position tells the rounds of a loop apart, so
that no method makes the same call twice. -/
inductive Site where
  | streamDescriptorCount
  | systemTime
  | streamDescriptor (i : Nat)
  | streamIdentifier (i : Nat)
  | ownIdentifier (i j : Nat)
  | sourceDescriptor (i : Nat)
  | selectStream (i : Nat)
  | copyStream (i : Nat)
  | newStreamEvent (i : Nat)
  | mediaTypeHandler (i : Nat)
  | currentMediaType (i : Nat)
  | deselectStream (i : Nat)
  | sourceStartedEvent
  | sourceStoppedEvent
  | subtype (i : Nat)
  | ensureRenderTarget (i : Nat)
  | initializeSampleAllocator (i : Nat)
  | streamStartedEvent (i : Nat)
  | uninitializeSampleAllocator (i : Nat)
  | streamStoppedEvent (i : Nat)
  | queryAllocator
  | allocateSample
  | setSampleTime
  | setSampleDuration
  | generate
  | setToken
  | mediaSampleEvent
  | eventQueue
  | cloneDescriptor
  | copyPointer
  | queryInterface
  | attributeStore
  deriving DecidableEq, Repr

/-- What the calls a method makes return. -/
abbrev Calls := Site → HRESULT

/-- `events` is the history of the queue behind `_queue`, also after the pointer is
reset; `_allocator` names the allocator it points to. -/
structure MediaStream where
  state : MF_STREAM_STATE
  queue : Pointer
  descriptor : Pointer
  source : Pointer
  attributes : Pointer
  allocator : Option Nat
  events : List MediaEvent
  deriving DecidableEq, Repr

/-- `selected` holds the flags of the presentation descriptor behind `_descriptor`,
and `initialized` says of each allocator whether it is. -/
structure MediaSource where
  numStreams : Nat
  streams : Nat → MediaStream
  queue : Pointer
  descriptor : Pointer
  attributes : Pointer
  selected : Nat → Bool
  events : List MediaEvent
  initialized : Nat → Bool

/-- A stream after `Initialize`. -/
def MediaStream.initial : MediaStream where
  state := MF_STREAM_STATE_STOPPED
  queue := some ()
  descriptor := some ()
  source := some ()
  attributes := some ()
  allocator := none
  events := []

/-- A source after `Initialize`; the flags of a new descriptor and the allocators of
others are arbitrary. -/
def MediaSource.initial (numStreams : Nat) (selected initialized : Nat → Bool) : MediaSource where
  numStreams := numStreams
  streams := fun _ => MediaStream.initial
  queue := some ()
  descriptor := some ()
  attributes := some ()
  selected := selected
  events := []
  initialized := initialized

abbrev SourceMethod := Method HRESULT MediaSource

/-- `RETURN_IF_FAILED`. -/
def returnIfFailed (hr : HRESULT) : SourceMethod Unit := Method.exitIf hr.failed hr

/-- `RETURN_HR_IF`. -/
def returnHrIf (hr : HRESULT) (condition : Bool) : SourceMethod Unit := Method.exitIf condition hr

namespace MediaStream

/-- One more event on the stream's queue. -/
def queued (event : MediaEvent) (stream : MediaStream) : MediaStream :=
  { stream with events := stream.events ++ [event] }

def entered (state : MF_STREAM_STATE) (stream : MediaStream) : MediaStream :=
  { stream with state := state }

def withAllocator (allocator : Option Nat) (stream : MediaStream) : MediaStream :=
  { stream with allocator := allocator }

/-- Every member but the allocator is reset. -/
def released (stream : MediaStream) : MediaStream :=
  { stream with queue := none, descriptor := none, source := none, attributes := none }

end MediaStream

namespace MediaSource

/-- The source as constructed has one stream, its stream 0. -/
def stream (s : MediaSource) : MediaStream := s.streams 0

def modifyStream (s : MediaSource) (index : Nat) (f : MediaStream → MediaStream) : MediaSource :=
  { s with streams := Function.update s.streams index (f (s.streams index)) }

def select (s : MediaSource) (index : Nat) (flag : Bool) : MediaSource :=
  { s with selected := Function.update s.selected index flag }

def queued (s : MediaSource) (event : MediaEvent) : MediaSource :=
  { s with events := s.events ++ [event] }

def setInitialized (s : MediaSource) (allocator : Nat) (value : Bool) : MediaSource :=
  { s with initialized := Function.update s.initialized allocator value }

section Updates

variable (s : MediaSource) (index other : Nat) (f : MediaStream → MediaStream)

@[simp] theorem modifyStream_same :
    (s.modifyStream index f).streams index = f (s.streams index) := by
  simp only [modifyStream, Function.update_self]

@[simp] theorem modifyStream_stream : (s.modifyStream 0 f).stream = f s.stream :=
  modifyStream_same s 0 f

theorem modifyStream_other (apart : other ≠ index) :
    (s.modifyStream index f).streams other = s.streams other := by
  simp only [modifyStream, Function.update_of_ne apart]

@[simp] theorem setInitialized_streams (allocator : Nat) (value : Bool) :
    (s.setInitialized allocator value).streams = s.streams := rfl

@[simp] theorem select_streams (flag : Bool) : (s.select index flag).streams = s.streams := rfl

@[simp] theorem queued_streams (event : MediaEvent) : (s.queued event).streams = s.streams := rfl

end Updates

end MediaSource

end Obs2Mf.Vcam
