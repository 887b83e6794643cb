import Obs2Mf.Foundation.Counted
import Obs2Mf.Foundation.Run

set_option autoImplicit false

/- The COM objects of the media source's DLL and the references among them: the factory, the
activators, and the media sources that refer to their stream while the stream refers back. -/
namespace Obs2Mf.Vcam.Objects

open Counted Run

/-- `newStreams` are the streams in the `MENewStream` events on the source's queue. -/
inductive Object where
  | factory
  | activator (source : Option Nat)
  | source (stream : Option Nat) (queue : Bool) (newStreams : List Nat)
  | stream (source : Option Nat)
  deriving DecidableEq, Repr

def Object.held : Object → List Nat
  | .factory => []
  | .activator pointer => pointer.toList
  | .source pointer _ newStreams => pointer.toList ++ newStreams
  | .stream pointer => pointer.toList

abbrev Heap := Counted.Heap Object

/-- `clients` are the references in other hands. `sources` and `shut` record every media
source that was made, and those that were shut down. -/
structure Dll where
  heap : Heap
  clients : List Nat
  sources : List Nat
  shut : List Nat

def Dll.loaded : Dll := ⟨.empty, [], [], []⟩

/-- `Release` by the code. -/
def drop (references : List Nat) (h : Heap) : Option Heap := h.release Object.held references

/-- The constructor of `MediaSource`: it makes its stream, whose `Initialize` keeps a
reference to it. -/
def makeSource (h : Heap) : Option Heap := do
  let this := h.next
  let stream := h.next + 1
  let h := (h.alloc (.source none false [])).alloc (.stream none)
  let h ← h.addRef this
  let h := h.assign stream (.stream (some this))
  pure (h.assign this (.source (some stream) false []))

/-- `Activator::Initialize` of the object at `this`; at its end the source has its queue. -/
def initializeActivator (this : Nat) (initialized : Bool) (h : Heap) : Option Heap := do
  let source := h.next
  let h ← makeSource h
  let h := h.assign this (.activator (some source))
  pure (if initialized then h.assign source (.source (some (source + 1)) true []) else h)

/-- `QueryInterface` for a client. -/
def query (object : Nat) (answered : Bool) (h : Heap) : Option Heap :=
  if answered then h.addRef object else some h

def given (object : Nat) (answered : Bool) (clients : List Nat) : List Nat :=
  if answered then object :: clients else clients

def Dll.getClassObject (d : Dll) (known answered : Bool) : Option Dll :=
  if known then do
    let factory := d.heap.next
    let h ← query factory answered (d.heap.alloc .factory)
    let h ← drop [factory] h
    pure { d with heap := h, clients := given factory answered d.clients }
  else some d

def Dll.createInstance (d : Dll) (outer initialized answered : Bool) : Option Dll :=
  if outer then some d
  else do
    let vcam := d.heap.next
    let h ← initializeActivator vcam initialized (d.heap.alloc (.activator none))
    let h ← query vcam (initialized && answered) h
    let h ← drop [vcam] h
    pure { d with
      heap := h
      clients := given vcam (initialized && answered) d.clients
      sources := (vcam + 1) :: d.sources }

/-- A client is given a reference to an object. -/
def Dll.give (d : Dll) (object : Nat) (answered : Bool) : Option Dll := do
  let h ← query object answered d.heap
  pure { d with heap := h, clients := given object answered d.clients }

/-- `Release` by a client. -/
def Dll.giveBack (d : Dll) (object : Nat) : Option Dll := do
  let h ← drop [object] d.heap
  pure { d with heap := h, clients := d.clients.erase object }

/-- `_source = nullptr` of an activator. -/
def Dll.detachObject (d : Dll) (this : Nat) (source : Option Nat) : Option Dll := do
  let h ← drop source.toList (d.heap.assign this (.activator none))
  pure { d with heap := h }

/-- `MediaStream::Shutdown`: `_source.reset()`. -/
def shutdownStream (stream : Nat) (h : Heap) : Option Heap :=
  match h.content stream with
  | some (.stream source) => drop source.toList (h.assign stream (.stream none))
  | _ => none

/-- `MediaSource::Shutdown`: the queue gives up its events, then the stream its source. -/
def Dll.shutdown (d : Dll) (this stream : Nat) (newStreams : List Nat) : Option Dll := do
  let h ← drop newStreams (d.heap.assign this (.source (some stream) false []))
  let h ← shutdownStream stream h
  pure { d with heap := h, shut := this :: d.shut }

/-- `MediaSource::Start` announces its stream. -/
def Dll.announce (d : Dll) (this stream : Nat) (newStreams : List Nat) : Option Dll := do
  let h ← d.heap.addRef stream
  pure { d with heap := h.assign this (.source (some stream) true (newStreams ++ [stream])) }

/-- A client takes the event, and the stream with it. -/
def Dll.getEvent (d : Dll) (this : Nat) (stream : Option Nat) (first : Nat) (rest : List Nat) :
    Dll :=
  { d with
    heap := d.heap.assign this (.source stream true rest)
    clients := first :: d.clients }

/-- What clients call, as far as it concerns references. -/
inductive Call where
  | getClassObject (known answered : Bool)
  | createInstance (factory : Nat) (outer initialized answered : Bool)
  | queryInterface (object : Nat) (answered : Bool)
  | release (object : Nat)
  | activateObject (activator : Nat) (answered : Bool)
  | shutdownObject (activator : Nat)
  | detachObject (activator : Nat)
  | shutdown (source : Nat)
  | start (source : Nat)
  | getEvent (source : Nat)
  | getStreamAttributes (source : Nat) (answered : Bool)
  | getMediaSource (stream : Nat) (answered : Bool)
  deriving DecidableEq, Repr

/-- One call; `none` is an access to an object that is gone, or through a null pointer. -/
def step (d : Dll) : Call → Option Dll
  | .getClassObject known answered => d.getClassObject known answered
  | .createInstance factory outer initialized answered =>
      match d.heap.content factory with
      | some .factory => d.createInstance outer initialized answered
      | _ => none
  | .queryInterface object answered => d.give object answered
  | .release object => d.giveBack object
  | .activateObject activator answered =>
      match d.heap.content activator with
      | some (.activator (some source)) => d.give source answered
      | _ => none
  | .shutdownObject activator =>
      match d.heap.content activator with
      | some (.activator _) => some d
      | _ => none
  | .detachObject activator =>
      match d.heap.content activator with
      | some (.activator source) => d.detachObject activator source
      | _ => none
  | .shutdown source =>
      match d.heap.content source with
      | some (.source (some stream) true newStreams) => d.shutdown source stream newStreams
      | some (.source _ false _) => some d
      | _ => none
  | .start source =>
      match d.heap.content source with
      | some (.source (some stream) true newStreams) => d.announce source stream newStreams
      | some (.source _ false _) => some d
      | _ => none
  | .getEvent source =>
      match d.heap.content source with
      | some (.source stream true (first :: rest)) => some (d.getEvent source stream first rest)
      | some (.source _ _ _) => some d
      | _ => none
  | .getStreamAttributes source answered =>
      match d.heap.content source with
      | some (.source (some stream) _ _) => d.give stream answered
      | _ => none
  | .getMediaSource stream answered =>
      match d.heap.content stream with
      | some (.stream (some source)) => d.give source answered
      | some (.stream none) => some d
      | _ => none

/-- Clients call through references that they hold, to objects that have the method, and do
not ask an activator for the source that they detached from it. -/
def Call.allowed (d : Dll) : Call → Bool
  | .getClassObject _ _ => true
  | .createInstance factory _ _ _ =>
      d.clients.contains factory && d.heap.content factory == some .factory
  | .queryInterface object _ | .release object => d.clients.contains object
  | .activateObject activator _ =>
      d.clients.contains activator && match d.heap.content activator with
        | some (.activator (some _)) => true
        | _ => false
  | .shutdownObject activator | .detachObject activator =>
      d.clients.contains activator && match d.heap.content activator with
        | some (.activator _) => true
        | _ => false
  | .shutdown source | .start source | .getEvent source | .getStreamAttributes source _ =>
      d.clients.contains source && match d.heap.content source with
        | some (.source _ _ _) => true
        | _ => false
  | .getMediaSource stream _ =>
      d.clients.contains stream && match d.heap.content stream with
        | some (.stream _) => true
        | _ => false

/-- `DllCanUnloadNow`. -/
def Dll.canUnloadNow (d : Dll) : Bool := (List.range d.heap.next).all fun a => !d.heap.live a

end Obs2Mf.Vcam.Objects
