import Obs2Mf.Vcam.Source

set_option autoImplicit false

/- Every public method of the activator, the media source and the media stream, as a
COM client can call them. -/
namespace Obs2Mf.Vcam

open Method

/-- The methods of `IMFAttributes`; of the arguments only whether each pointer that is
checked is set. -/
inductive AttributesCall where
  | getItem (value : Bool)
  | getItemType (pType : Bool)
  | compareItem (pbResult : Bool)
  | compare (pTheirs pbResult : Bool)
  | getUINT32 (punValue : Bool)
  | getUINT64 (punValue : Bool)
  | getDouble (pfValue : Bool)
  | getGUID (pguidValue : Bool)
  | getStringLength (pcchLength : Bool)
  | getString
  | getAllocatedString (ppwszValue pcchLength : Bool)
  | getBlobSize (pcbBlobSize : Bool)
  | getBlob
  | getAllocatedBlob (ppBuf pcbSize : Bool)
  | getUnknown (ppv : Bool)
  | setItem
  | deleteItem
  | deleteAllItems
  | setUINT32
  | setUINT64
  | setDouble
  | setGUID
  | setString
  | setBlob
  | setUnknown
  | lockStore
  | unlockStore
  | getCount (pcItems : Bool)
  | getItemByIndex
  | copyAllItems (pDest : Bool)
  deriving DecidableEq, Repr

/-- The pointers the method checks are set. -/
def AttributesCall.checked : AttributesCall → Bool
  | .getItem value => value
  | .getItemType pType => pType
  | .compareItem pbResult => pbResult
  | .compare pTheirs pbResult => pTheirs && pbResult
  | .getUINT32 punValue => punValue
  | .getUINT64 punValue => punValue
  | .getDouble pfValue => pfValue
  | .getGUID pguidValue => pguidValue
  | .getStringLength pcchLength => pcchLength
  | .getAllocatedString ppwszValue pcchLength => ppwszValue && pcchLength
  | .getBlobSize pcbBlobSize => pcbBlobSize
  | .getAllocatedBlob ppBuf pcbSize => ppBuf && pcbSize
  | .getUnknown ppv => ppv
  | .getCount pcItems => pcItems
  | .copyAllItems pDest => pDest
  | .getString | .getBlob | .setItem | .deleteItem | .deleteAllItems | .setUINT32 | .setUINT64
  | .setDouble | .setGUID | .setString | .setBlob | .setUnknown | .lockStore | .unlockStore
  | .getItemByIndex => true

/-- `CBaseAttributes`: the arguments are checked, the pointer is not, and the store
behind it answers. -/
def AttributesCall.method {σ : Type} (attributes : σ → Pointer) (hr : HRESULT)
    (call : AttributesCall) : Method HRESULT σ Unit := do
  exitIf (!call.checked) .eInvalidArg
  let s ← read
  let _ ← deref (attributes s)
  exitIf hr.failed hr

structure Activator where
  source : Pointer
  attributes : Pointer
  deriving DecidableEq, Repr

abbrev ActivatorMethod := Method HRESULT Activator

inductive ActivatorCall where
  | activateObject (ppv : Bool)
  | shutdownObject
  | detachObject
  | attributes (call : AttributesCall)
  deriving DecidableEq, Repr

namespace Activator

/-- The client's process id, asked of the own attributes, is only traced. -/
def activateObject (calls : Calls) (ppv : Bool) : ActivatorMethod Unit := do
  exitIf (!ppv) .ePointer
  let s ← read
  let _ ← deref s.attributes
  let _ ← deref s.source
  exitIf (calls .queryInterface).failed (calls .queryInterface)

def shutdownObject : ActivatorMethod Unit := pure ()

def detachObject : ActivatorMethod Unit := modify fun s => { s with source := none }

end Activator

def ActivatorCall.method (calls : Calls) : ActivatorCall → ActivatorMethod Unit
  | .activateObject ppv => Activator.activateObject calls ppv
  | .shutdownObject => Activator.shutdownObject
  | .detachObject => Activator.detachObject
  | .attributes call => call.method Activator.attributes (calls .attributeStore)

/-- `RETURN_HR_IF(MF_E_SHUTDOWN, !member); RETURN_IF_FAILED(member->..);` -/
def guarded (member : MediaSource → Pointer) (hr : HRESULT) : SourceMethod Unit := do
  let s ← read
  returnHrIf .mfEShutdown (member s).isNone
  let _ ← deref (member s)
  returnIfFailed hr

inductive MediaSourceCall where
  | beginGetEvent
  | endGetEvent (ppEvent : Bool)
  | getEvent (ppEvent : Bool)
  | queueEvent (met : BitVec 32)
  | createPresentationDescriptor (ppPresentationDescriptor : Bool)
  | getCharacteristics (pdwCharacteristics : Bool)
  | pause
  | shutdown
  | start (args : StartArgs)
  | stop
  | getSourceAttributes (ppAttributes : Bool)
  | setMediaType (pMediaType : Bool)
  | getStreamAttributes (id : Nat) (ppAttributes : Bool)
  | setD3DManager (pManager : Bool)
  | getService
  | setDefaultAllocator (id : Nat) (pAllocator : Option Nat)
  | getAllocatorUsage (id : Nat) (pdwInputStreamID peUsage : Bool)
  | ksProperty (property bytesReturned : Bool)
  | ksMethod (method bytesReturned : Bool)
  | ksEvent (bytesReturned : Bool)
  | attributes (call : AttributesCall)

inductive MediaStreamCall where
  | beginGetEvent
  | endGetEvent (ppEvent : Bool)
  | getEvent (ppEvent : Bool)
  | queueEvent (met : BitVec 32)
  | getMediaSource (ppMediaSource : Bool)
  | getStreamDescriptor (ppStreamDescriptor : Bool)
  | requestSample (token : Bool)
  | setStreamState (value : MF_STREAM_STATE)
  | getStreamState (value : Bool)
  | ksProperty (property bytesReturned : Bool)
  | ksMethod (method bytesReturned : Bool)
  | ksEvent (bytesReturned : Bool)
  | attributes (call : AttributesCall)
  deriving DecidableEq, Repr

namespace MediaSource

def beginGetEvent (calls : Calls) : SourceMethod Unit := guarded queue (calls .eventQueue)

def endGetEvent (calls : Calls) (ppEvent : Bool) : SourceMethod Unit := do
  returnHrIf .ePointer (!ppEvent)
  guarded queue (calls .eventQueue)

def getEvent (calls : Calls) (ppEvent : Bool) : SourceMethod Unit := do
  returnHrIf .ePointer (!ppEvent)
  guarded queue (calls .eventQueue)

def queueEvent (calls : Calls) (met : BitVec 32) : SourceMethod Unit := do
  guarded queue (calls .eventQueue)
  modify fun s => s.queued (.client met)

def createPresentationDescriptor (calls : Calls) (ppPresentationDescriptor : Bool) :
    SourceMethod Unit := do
  returnHrIf .ePointer (!ppPresentationDescriptor)
  guarded descriptor (calls .cloneDescriptor)

def getCharacteristics (pdwCharacteristics : Bool) : SourceMethod Unit :=
  returnHrIf .ePointer (!pdwCharacteristics)

def pause : SourceMethod Unit := returnHrIf .mfEInvalidStateTransition true

def getSourceAttributes (calls : Calls) (ppAttributes : Bool) : SourceMethod Unit := do
  returnHrIf .ePointer (!ppAttributes)
  returnIfFailed (calls .queryInterface)

def setMediaType (pMediaType : Bool) : SourceMethod Unit := returnHrIf .ePointer (!pMediaType)

def getStreamAttributes (calls : Calls) (id : Nat) (ppAttributes : Bool) : SourceMethod Unit := do
  returnHrIf .ePointer (!ppAttributes)
  let s ← read
  returnHrIf .eFail (s.numStreams ≤ id)
  returnIfFailed (calls .copyPointer)

/-- Each stream's `SetD3DManager` checks the pointer again and is otherwise a no-op. -/
def setD3DManager (pManager : Bool) : SourceMethod Unit := do
  returnHrIf .ePointer (!pManager)
  let s ← read
  forRange s.numStreams fun _ => returnHrIf .ePointer (!pManager)

def getService : SourceMethod Unit := returnHrIf .mfEUnsupportedService true

def getAllocatorUsage (calls : Calls) (id : Nat) (pdwInputStreamID peUsage : Bool) :
    SourceMethod Unit := do
  returnHrIf .ePointer (!peUsage)
  returnHrIf .ePointer (!pdwInputStreamID)
  let s ← read
  match s.getStreamIndexById calls 0 id with
  | none => returnHrIf .eFail true
  | some index => returnHrIf .eFail (s.numStreams ≤ index)

end MediaSource

/-- `IKsControl` of the source and of its streams: no property, method or event is known. -/
def ksControl (checked : Bool) : SourceMethod Unit := do
  returnHrIf .ePointer (!checked)
  returnHrIf .setNotFound true

def MediaSourceCall.method (calls : Calls) : MediaSourceCall → SourceMethod Unit
  | .beginGetEvent => MediaSource.beginGetEvent calls
  | .endGetEvent ppEvent => MediaSource.endGetEvent calls ppEvent
  | .getEvent ppEvent => MediaSource.getEvent calls ppEvent
  | .queueEvent met => MediaSource.queueEvent calls met
  | .createPresentationDescriptor pp => MediaSource.createPresentationDescriptor calls pp
  | .getCharacteristics pdw => MediaSource.getCharacteristics pdw
  | .pause => MediaSource.pause
  | .shutdown => MediaSource.shutdown
  | .start args => MediaSource.start calls args
  | .stop => MediaSource.stop calls
  | .getSourceAttributes pp => MediaSource.getSourceAttributes calls pp
  | .setMediaType pMediaType => MediaSource.setMediaType pMediaType
  | .getStreamAttributes id pp => MediaSource.getStreamAttributes calls id pp
  | .setD3DManager pManager => MediaSource.setD3DManager pManager
  | .getService => MediaSource.getService
  | .setDefaultAllocator id pAllocator => MediaSource.setDefaultAllocator calls id pAllocator
  | .getAllocatorUsage id pdw pe => MediaSource.getAllocatorUsage calls id pdw pe
  | .ksProperty property bytesReturned => ksControl (property && bytesReturned)
  | .ksMethod method bytesReturned => ksControl (method && bytesReturned)
  | .ksEvent bytesReturned => ksControl bytesReturned
  | .attributes call => call.method MediaSource.attributes (calls .attributeStore)

namespace MediaStream

def beginGetEvent (calls : Calls) (index : Nat) : SourceMethod Unit :=
  guarded (fun s => (s.streams index).queue) (calls .eventQueue)

def endGetEvent (calls : Calls) (index : Nat) (ppEvent : Bool) : SourceMethod Unit := do
  returnHrIf .ePointer (!ppEvent)
  guarded (fun s => (s.streams index).queue) (calls .eventQueue)

def getEvent (calls : Calls) (index : Nat) (ppEvent : Bool) : SourceMethod Unit := do
  returnHrIf .ePointer (!ppEvent)
  guarded (fun s => (s.streams index).queue) (calls .eventQueue)

def queueEvent (calls : Calls) (index : Nat) (met : BitVec 32) : SourceMethod Unit := do
  guarded (fun s => (s.streams index).queue) (calls .eventQueue)
  modify fun s => s.modifyStream index (queued (.client met))

def getMediaSource (calls : Calls) (index : Nat) (ppMediaSource : Bool) : SourceMethod Unit := do
  returnHrIf .ePointer (!ppMediaSource)
  guarded (fun s => (s.streams index).source) (calls .copyPointer)

def getStreamDescriptor (calls : Calls) (index : Nat) (ppStreamDescriptor : Bool) :
    SourceMethod Unit := do
  returnHrIf .ePointer (!ppStreamDescriptor)
  guarded (fun s => (s.streams index).descriptor) (calls .copyPointer)

def getStreamState (value : Bool) : SourceMethod Unit := returnHrIf .ePointer (!value)

end MediaStream

def MediaStreamCall.method (calls : Calls) (index : Nat) : MediaStreamCall → SourceMethod Unit
  | .beginGetEvent => MediaStream.beginGetEvent calls index
  | .endGetEvent ppEvent => MediaStream.endGetEvent calls index ppEvent
  | .getEvent ppEvent => MediaStream.getEvent calls index ppEvent
  | .queueEvent met => MediaStream.queueEvent calls index met
  | .getMediaSource pp => MediaStream.getMediaSource calls index pp
  | .getStreamDescriptor pp => MediaStream.getStreamDescriptor calls index pp
  | .requestSample token => MediaStream.requestSample calls index token
  | .setStreamState value => MediaStream.setStreamState calls index value
  | .getStreamState value => MediaStream.getStreamState value
  | .ksProperty property bytesReturned => ksControl (property && bytesReturned)
  | .ksMethod method bytesReturned => ksControl (method && bytesReturned)
  | .ksEvent bytesReturned => ksControl bytesReturned
  | .attributes call => call.method (fun s => (s.streams index).attributes) (calls .attributeStore)

end Obs2Mf.Vcam
