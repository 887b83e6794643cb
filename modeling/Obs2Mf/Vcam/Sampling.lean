import Obs2Mf.Foundation.Run
import Obs2Mf.Vcam.Source

set_option autoImplicit false

/- `RequestSample` calls that overlap with the source's `Start`, `Stop` and `Shutdown`:
the requests hold the stream's lock, the source's methods hold the source's, and only
the search of `GetStreamIndexById` takes both. -/
namespace Obs2Mf.Vcam

open Method
open Run

/-- `return hr;` -/
def leave {α : Type} (hr : HRESULT) : SourceMethod α := fun s => .returned hr s

inductive SourceCall where
  | start (calls : Calls) (args : StartArgs)
  | stop (calls : Calls)
  | shutdown

/-- The method of the source that stops a stream. -/
inductive Stopper where
  | start
  | stop
  deriving DecidableEq, Repr

/-- How far the method that holds the source's lock has come with the source's one
stream. Between two program counters stands at most one access to what the requests
share with it. -/
inductive SourcePc where
  | idle
  | entry (call : SourceCall)
  | lookup (calls : Calls) (wanted : StreamEntry)
  | compare (calls : Calls) (wanted : StreamEntry)
  | startGuard (calls : Calls)
  | initAllocator (calls : Calls)
  | announceStart (calls : Calls)
  | enterRunning (calls : Calls)
  | stopGuard (calls : Calls) (caller : Stopper)
  | uninitAllocator (calls : Calls) (caller : Stopper)
  | announceStop (calls : Calls) (caller : Stopper)
  | enterStopped (calls : Calls) (caller : Stopper)
  | finish (calls : Calls) (caller : Stopper)
  | closeStream
  | release
  | crashed

namespace SourcePc

/-- The code from a program counter to the next. -/
def statement : SourcePc → SourceMethod SourcePc
  | .entry (.start calls args) =>
      match args.presentation with
      | none => leave .ePointer
      | some presentation => do
          returnHrIf .ePointer (!args.position)
          returnHrIf .eInvalidArg args.format
          let s ← read
          returnHrIf .mfEShutdown (s.queue.isNone || s.descriptor.isNone)
          returnIfFailed (calls .streamDescriptorCount)
          returnHrIf .eInvalidArg (presentation.length ≠ s.numStreams)
          returnIfFailed (calls .systemTime)
          returnIfFailed (calls (.streamDescriptor 0))
          returnIfFailed (calls (.streamIdentifier 0))
          return .lookup calls (presentation.getD 0 ⟨false, 0⟩)
  | .entry (.stop calls) => do
      let s ← read
      returnHrIf .mfEShutdown (s.queue.isNone || s.descriptor.isNone)
      returnIfFailed (calls .systemTime)
      return .stopGuard calls .stop
  | .entry .shutdown => do
      let s ← read
      returnHrIf .mfEShutdown s.queue.isNone
      modify fun s => { s with queue := none }
      return .closeStream
  | .lookup calls wanted => do
      let s ← read
      match s.getStreamIndexById calls 0 wanted.id with
      | none => leave .eFail
      | some _ => return .compare calls wanted
  | .compare calls wanted => do
      let s ← read
      let _ ← deref s.descriptor
      returnIfFailed (calls (.sourceDescriptor 0))
      if wanted.selected = s.correctedSelection 0 0 then
        return .finish calls .start
      else if wanted.selected then
        returnIfFailed (calls (.selectStream 0))
        modify fun s => s.select 0 true
        returnIfFailed (calls (.copyStream 0))
        MediaSource.queueEventParam (calls (.newStreamEvent 0)) (.newStream 0)
        returnIfFailed (calls (.mediaTypeHandler 0))
        returnIfFailed (calls (.currentMediaType 0))
        return .startGuard calls
      else
        returnIfFailed (calls (.deselectStream 0))
        modify fun s => s.select 0 false
        return .stopGuard calls .start
  | .startGuard calls => do
      let s ← read
      returnHrIf .mfEShutdown (s.stream.queue.isNone || s.stream.allocator.isNone)
      returnIfFailed (calls (.subtype 0))
      returnIfFailed (calls (.ensureRenderTarget 0))
      return .initAllocator calls
  | .initAllocator calls => do
      let s ← read
      let allocator ← deref s.stream.allocator
      returnIfFailed (calls (.initializeSampleAllocator 0))
      modify fun s => s.setInitialized allocator true
      return .announceStart calls
  | .announceStart calls => do
      MediaStream.queueEventParam (calls (.streamStartedEvent 0)) 0 .streamStarted
      return .enterRunning calls
  | .enterRunning calls => do
      MediaStream.setState 0 MF_STREAM_STATE_RUNNING
      return .finish calls .start
  | .stopGuard calls caller => do
      let s ← read
      returnHrIf .mfEShutdown (s.stream.queue.isNone || s.stream.allocator.isNone)
      return .uninitAllocator calls caller
  | .uninitAllocator calls caller => do
      let s ← read
      let allocator ← deref s.stream.allocator
      returnIfFailed (calls (.uninitializeSampleAllocator 0))
      modify fun s => s.setInitialized allocator false
      return .announceStop calls caller
  | .announceStop calls caller => do
      MediaStream.queueEventParam (calls (.streamStoppedEvent 0)) 0 .streamStopped
      return .enterStopped calls caller
  | .enterStopped calls caller => do
      MediaStream.setState 0 MF_STREAM_STATE_STOPPED
      return .finish calls caller
  | .finish calls .start => do
      MediaSource.queueEventParam (calls .sourceStartedEvent) .sourceStarted
      leave .sOk
  | .finish calls .stop => do
      let s ← read
      let _ ← deref s.descriptor
      returnIfFailed (calls (.deselectStream 0))
      modify fun s => s.select 0 false
      MediaSource.queueEventParam (calls .sourceStoppedEvent) .sourceStopped
      leave .sOk
  -- the queue is shut down first: until its pointer is reset it refuses all events,
  -- as a call that leaves the program may at any time
  | .closeStream => do
      MediaStream.shutdown 0
      return .release
  | .release => do
      modify fun s => { s with descriptor := none, attributes := none }
      leave .sOk
  | .idle => leave .sOk
  | .crashed => leave .eUnexpected

def halted : SourcePc → Bool
  | .idle | .crashed => true
  | _ => false

/-- `GetStreamIndexById` asks the stream for its descriptor, under the stream's lock. -/
def locksStream : SourcePc → Bool
  | .lookup _ _ => true
  | _ => false

end SourcePc

/-- How far a `RequestSample` call has come; it holds the stream's lock unless idle. -/
inductive RequestPc where
  | idle
  | guard (token : Bool)
  | allocate (token : Bool)
  | setTime (token : Bool)
  | setDuration (token : Bool)
  | generate (token : Bool)
  | setToken
  | queueSample
  | crashed
  deriving DecidableEq, Repr

namespace RequestPc

/-- The code from a program counter to the next, where `hr` is what the call in it
returns. -/
def statement (hr : HRESULT) : RequestPc → SourceMethod RequestPc
  | .guard token => do
      let s ← read
      returnHrIf .mfEShutdown (s.stream.allocator.isNone || s.stream.queue.isNone)
      return .allocate token
  | .allocate token => do
      let s ← read
      let allocator ← deref s.stream.allocator
      returnHrIf .mfENotInitialized (!s.initialized allocator)
      returnIfFailed hr
      return .setTime token
  | .setTime token => do
      returnIfFailed hr
      return .setDuration token
  | .setDuration token => do
      returnIfFailed hr
      return .generate token
  | .generate token => do
      returnIfFailed hr
      return if token then .setToken else .queueSample
  | .setToken => do
      returnIfFailed hr
      return .queueSample
  | .queueSample => do
      MediaStream.queueEventParam hr 0 .mediaSample
      leave .sOk
  | .idle => leave .sOk
  | .crashed => leave .eUnexpected

def halted : RequestPc → Bool
  | .idle | .crashed => true
  | _ => false

/-- The request has an allocated sample in hand. -/
def holdsSample : RequestPc → Bool
  | .setTime _ | .setDuration _ | .generate _ | .setToken | .queueSample => true
  | _ => false

end RequestPc

/-- The source, the thread inside it, the owner of the stream's lock and the requests. -/
structure Sampling (R : Type) where
  shared : MediaSource
  source : SourcePc
  holder : Option R
  requests : R → RequestPc

inductive SamplingAction (R : Type) where
  | call (call : SourceCall)
  | source
  | request (r : R) (token : Bool)
  | sample (r : R) (hr : HRESULT)

namespace Sampling

variable {R : Type} [DecidableEq R]

/-- A source after `Initialize`, whose stream may have been given an allocator. -/
def initial (R : Type) (allocator : Option Nat) (selected initialized : Nat → Bool) :
    Sampling R where
  shared := (MediaSource.initial 1 selected initialized).modifyStream 0
    (MediaStream.withAllocator allocator)
  source := .idle
  holder := none
  requests := fun _ => .idle

/-- One method at a time holds the source's lock. -/
def callStep (s : Sampling R) (call : SourceCall) : Option (Sampling R) :=
  match s.source with
  | .idle => some { s with source := .entry call }
  | _ => none

def sourceStep (s : Sampling R) : Option (Sampling R) :=
  if s.source.halted || s.source.locksStream && s.holder.isSome then none
  else
    match s.source.statement.run s.shared with
    | .next pc shared => some { s with shared := shared, source := pc }
    | .returned _ shared => some { s with shared := shared, source := .idle }
    | .crashed => some { s with source := .crashed }

def setRequest (s : Sampling R) (r : R) (pc : RequestPc) : Sampling R :=
  { s with requests := Function.update s.requests r pc }

@[simp] theorem setRequest_same (s : Sampling R) (r : R) (pc : RequestPc) :
    (s.setRequest r pc).requests r = pc := Function.update_self _ _ _

theorem setRequest_other (s : Sampling R) (r other : R) (pc : RequestPc) (apart : other ≠ r) :
    (s.setRequest r pc).requests other = s.requests other := Function.update_of_ne apart _ _

def requestStep (s : Sampling R) (r : R) (token : Bool) : Option (Sampling R) :=
  if s.requests r = .idle ∧ s.holder = none then
    some { s.setRequest r (.guard token) with holder := some r }
  else none

def sampleStep (s : Sampling R) (r : R) (hr : HRESULT) : Option (Sampling R) :=
  if (s.requests r).halted then none
  else
    match ((s.requests r).statement hr).run s.shared with
    | .next pc shared => some { s.setRequest r pc with shared := shared }
    | .returned _ shared =>
        some { s.setRequest r .idle with shared := shared, holder := none }
    | .crashed => some (s.setRequest r .crashed)

def step (s : Sampling R) : SamplingAction R → Option (Sampling R)
  | .call call => s.callStep call
  | .source => s.sourceStep
  | .request r token => s.requestStep r token
  | .sample r hr => s.sampleStep r hr

end Sampling

end Obs2Mf.Vcam
