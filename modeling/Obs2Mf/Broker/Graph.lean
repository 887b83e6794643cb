import Obs2Mf.Broker.Producer
import Obs2Mf.Foundation.References
import Obs2Mf.Hresult

set_option autoImplicit false

/- `ObsCapture` with all its interface pointers: what `Start` builds of the DirectShow graph
and what `Stop` takes down, call by call, with every reference that is handed out on the way. -/
namespace Obs2Mf.Broker.Graph

open Method References
open Pipe (Byte)

/-- What a property bag answers for "FriendlyName"; a string may be a null BSTR. -/
inductive Property where
  | failed
  | string (bstrVal : Option String)
  | other
  deriving DecidableEq, Repr

/-- A device of the category, and which of the calls on it succeed. -/
structure Device where
  bindToStorage : Bool
  friendlyName : Property
  bindToObject : Bool
  deriving DecidableEq, Repr

/-- An `AM_MEDIA_TYPE`; of its format block only the size in the `VIDEOINFOHEADER` is read. -/
structure MediaType where
  videoInfo : Bool
  cbFormat : Nat
  pbFormat : Option (Int × Int)
  pUnk : Bool
  deriving DecidableEq, Repr

/-- How the calls that `Start` makes go. -/
structure Answers where
  graph : Bool
  builder : Bool
  devEnum : Bool
  /-- `CreateClassEnumerator` returned `S_OK` and an enumerator. -/
  enumerator : Bool
  devices : List Device
  grabberFilter : Bool
  grabber : Bool
  nullRenderer : Bool
  renderStream : HRESULT
  connected : Option MediaType
  mediaFilter : Bool
  control : Bool
  run : HRESULT
  deriving DecidableEq, Repr

/-- The lines of the capture in the broker's log. -/
inductive ObsLine where
  | device (name : Option String)
  | noGraphObjects
  | notFound
  | noGrabber
  | noRenderer
  | renderFailed (hr : HRESULT)
  | noSize
  | runFailed
  | capturing (srcW srcH : Int)
  deriving DecidableEq, Repr

/-- `ObsCapture::Impl` in full. `callback` is what the grabber was last told to call,
`flowing` holds from `control->Run()` until `control->Stop()`. -/
structure Capture where
  dstW : BitVec 32
  dstH : BitVec 32
  running : Bool
  graph : Option Ref
  builder : Option Ref
  source : Option Ref
  grabberFilter : Option Ref
  nullRenderer : Option Ref
  grabber : Option Ref
  control : Option Ref
  native : List Byte
  srcW : Int
  srcH : Int
  frames : BitVec 64
  callback : Bool
  flowing : Bool
  log : List ObsLine

def Capture.new (w h : BitVec 32) : Capture where
  dstW := w
  dstH := h
  running := false
  graph := none
  builder := none
  source := none
  grabberFilter := none
  nullRenderer := none
  grabber := none
  control := none
  native := []
  srcW := 0
  srcH := 0
  frames := 0#64
  callback := false
  flowing := false
  log := []

def Capture.say (c : Capture) (line : ObsLine) : Capture := { c with log := c.log ++ [line] }

abbrev ObsMethod := Method Bool (Owner Capture)

def logF (line : ObsLine) : ObsMethod Unit := assign fun c => c.say line

/-- `Stop`. -/
def stop : ObsMethod Unit := do
  drop Capture.control (fun c => { c with flowing := false }) (fun c => { c with control := none })
  drop Capture.grabber (fun c => { c with callback := false }) (fun c => { c with grabber := none })
  drop Capture.grabberFilter id (fun c => { c with grabberFilter := none })
  drop Capture.nullRenderer id (fun c => { c with nullRenderer := none })
  drop Capture.source id (fun c => { c with source := none })
  drop Capture.builder id (fun c => { c with builder := none })
  drop Capture.graph id (fun c => { c with graph := none })
  assign fun c => { c with native := [], srcW := 0, srcH := 0, running := false }

/-- `LogF(..); Stop(); return false;` -/
def giveUp (line : ObsLine) : ObsMethod Unit := do
  logF line
  stop
  exitIf true false

/-- The name that `FindObsSource` looks for. -/
def obsName : String := "OBS Virtual Camera"

/-- The pattern stands somewhere in the string. -/
def wcsstr (pattern : List Char) : List Char → Bool
  | [] => pattern.isEmpty
  | c :: rest => pattern.isPrefixOf (c :: rest) || wcsstr pattern rest

/-- `wcsstr(name, L"OBS Virtual Camera")` -/
def isObs (name : String) : Bool := wcsstr obsName.toList name.toList

/-- A friendly name: it is logged, and the first source that has it is bound. -/
def tryDevice (d : Device) (bstrVal : Option String) (m found : Option Ref) :
    ObsMethod (Option Ref) := do
  logF (.device bstrVal)
  if found.isSome then pure found
  else do
    let name ← deref bstrVal
    if isObs name then do
      use m
      obtain d.bindToObject
    else pure found

/-- What the VARIANT owns after the property was read. -/
def Property.allocated : Property → Bool
  | .failed | .string none => false
  | .string (some _) | .other => true

/-- A device whose property bag is open. -/
def inspect (d : Device) (m bag found : Option Ref) : ObsMethod (Option Ref) := do
  use bag
  let v ← obtain d.friendlyName.allocated
  let found ← match d.friendlyName with
    | .string bstrVal => tryDevice d bstrVal m found
    | _ => pure found
  onlyIf v.isSome (release v)
  release bag
  pure found

/-- One round of the loop: `en->Next` gave this device. -/
def visit (d : Device) (found : Option Ref) : ObsMethod (Option Ref) := do
  let m ← obtain true
  use m
  let bag ← obtain d.bindToStorage
  let found ← (if bag.isSome then inspect d m bag found else pure found)
  release m
  pure found

/-- The loop over the monikers. -/
def enumerate (en : Option Ref) : List Device → Option Ref → ObsMethod (Option Ref)
  | [], found => do
      use en
      pure found
  | d :: rest, found => do
      use en
      let found ← visit d found
      enumerate en rest found

/-- With the enumerator, if the category has devices. -/
def search (a : Answers) (en : Option Ref) : ObsMethod (Option Ref) :=
  if en.isSome then do
    let found ← enumerate en a.devices none
    release en
    pure found
  else pure none

def findObsSource (a : Answers) : ObsMethod (Option Ref) := do
  let devEnum ← obtain a.devEnum
  if devEnum.isNone then pure none
  else do
    use devEnum
    let en ← obtain a.enumerator
    let found ← search a en
    release devEnum
    pure found

/-- The format block and the interface that a media type owns. -/
def freeMediaType (mt : MediaType) (pbFormat pUnk : Option Ref) : ObsMethod Unit := do
  onlyIf (decide (mt.cbFormat ≠ 0) && pbFormat.isSome) (release pbFormat)
  onlyIf pUnk.isSome (release pUnk)

section Start

def createGraph (a : Answers) : ObsMethod Unit := do
  let graph ← obtain a.graph
  assign fun c => { c with graph }
  onlyIf graph.isSome do
    let builder ← obtain a.builder
    assign fun c => { c with builder }
  let c ← own
  onlyIf (c.graph.isNone || c.builder.isNone) (giveUp .noGraphObjects)
  use c.builder

def addSource (a : Answers) : ObsMethod Unit := do
  let source ← findObsSource a
  assign fun c => { c with source }
  onlyIf source.isNone (giveUp .notFound)
  let c ← own
  use c.graph

/-- The grabber is told what to take, and to call back. -/
def addGrabber (a : Answers) : ObsMethod Unit := do
  let grabberFilter ← obtain a.grabberFilter
  assign fun c => { c with grabberFilter }
  onlyIf grabberFilter.isSome do
    use grabberFilter
    let grabber ← obtain a.grabber
    assign fun c => { c with grabber }
  let c ← own
  onlyIf (c.grabberFilter.isNone || c.grabber.isNone) (giveUp .noGrabber)
  use c.grabber
  assign fun c => { c with callback := true }
  use c.graph

def addRenderer (a : Answers) : ObsMethod Unit := do
  let nullRenderer ← obtain a.nullRenderer
  assign fun c => { c with nullRenderer }
  onlyIf nullRenderer.isNone (giveUp .noRenderer)
  let c ← own
  use c.graph

def render (a : Answers) : ObsMethod Unit := do
  let c ← own
  use c.builder
  onlyIf a.renderStream.failed (giveUp (.renderFailed a.renderStream))

/-- The size in the format block, if it is the block of a video. -/
def readSize (mt : MediaType) (pbFormat : Option Ref) : ObsMethod Unit :=
  match mt.videoInfo, mt.pbFormat with
  | true, some (biWidth, biHeight) => do
      use pbFormat
      assign fun c => { c with srcW := biWidth, srcH := biHeight.natAbs }
  | _, _ => pure ()

/-- What the connected media type tells. -/
def readConnected : Option MediaType → ObsMethod Unit
  | none => pure ()
  | some mt => do
      let pbFormat ← obtain mt.pbFormat.isSome
      let pUnk ← obtain mt.pUnk
      readSize mt pbFormat
      freeMediaType mt pbFormat pUnk

def measure (a : Answers) : ObsMethod Unit := do
  let c ← own
  use c.grabber
  readConnected a.connected
  let c ← own
  onlyIf (decide (c.srcW ≤ 0 ∨ c.srcH ≤ 0)) (giveUp .noSize)

/-- Without a reference clock, then `Run`. -/
def runGraph (a : Answers) : ObsMethod Unit := do
  let c ← own
  use c.graph
  let mf ← obtain a.mediaFilter
  onlyIf mf.isSome do
    use mf
    release mf
  let control ← obtain a.control
  assign fun c => { c with control }
  onlyIf control.isSome do
    use control
    assign fun c => { c with flowing := true }
  onlyIf (control.isNone || a.run.failed) (giveUp .runFailed)
  assign fun c => { c with running := true }
  assign fun c => c.say (.capturing c.srcW c.srcH)

/-- `Start`; its end is `return true`. -/
def start (a : Answers) : ObsMethod Unit := do
  let c ← own
  exitIf c.running true
  createGraph a
  addSource a
  addGrabber a
  addRenderer a
  render a
  measure a
  runGraph a

end Start

/-- What the capture holds of the graph. -/
def Capture.members (c : Capture) : List Ref :=
  c.control.toList ++ (c.grabber.toList ++ (c.grabberFilter.toList ++ (c.nullRenderer.toList ++
    (c.source.toList ++ (c.builder.toList ++ c.graph.toList)))))

/-- After `Stop`. -/
def Capture.stopped (c : Capture) : Capture :=
  { c with
    running := false
    graph := none
    builder := none
    source := none
    grabberFilter := none
    nullRenderer := none
    grabber := none
    control := none
    native := []
    srcW := 0
    srcH := 0
    callback := false
    flowing := false }

/-- Nothing is called back, and nothing flows, without the pointer to say otherwise. -/
structure Capture.Wired (c : Capture) : Prop where
  callback : c.grabber = none → c.callback = false
  flowing : c.control = none → c.flowing = false

section Stop

variable {c : Capture} {l : Ledger} {next : Unit → Owner Capture → Prop}
  {returned : Bool → Owner Capture → Prop}

/-- From any state of the members `Stop` gives up what they hold and leaves them null. -/
theorem ends_stop (owns : Owns c.members l) (wired : c.Wired)
    (given : ∀ l, Owns [] l → next () ⟨l, c.stopped⟩) : stop.Ends ⟨l, c⟩ next returned := by
  obtain ⟨dstW, dstH, running, graph, builder, source, grabberFilter, nullRenderer, grabber,
    control, native, srcW, srcH, frames, callback, flowing, log⟩ := c
  have silent := wired.callback
  have still := wired.flowing
  dsimp only at silent still
  simp only [Capture.members] at owns
  rw [stop, ends_bind]
  refine ends_drop owns (by simp_all) fun l owns => ?_
  dsimp only at owns ⊢
  rw [ends_bind]
  refine ends_drop owns (by simp_all) fun l owns => ?_
  dsimp only at owns ⊢
  rw [ends_bind]
  refine ends_drop owns (by simp_all) fun l owns => ?_
  dsimp only [id] at owns ⊢
  rw [ends_bind]
  refine ends_drop owns (by simp_all) fun l owns => ?_
  dsimp only [id] at owns ⊢
  rw [ends_bind]
  refine ends_drop owns (by simp_all) fun l owns => ?_
  dsimp only [id] at owns ⊢
  rw [ends_bind]
  refine ends_drop owns (by simp_all) fun l owns => ?_
  dsimp only [id] at owns ⊢
  rw [ends_bind]
  rw [← List.append_nil graph.toList] at owns
  refine ends_drop owns (by simp_all) fun l owns => ?_
  exact given l owns

theorem ends_giveUp {line : ObsLine} (owns : Owns c.members l) (wired : c.Wired)
    (given : ∀ l, Owns [] l → returned false ⟨l, (c.say line).stopped⟩) :
    (giveUp line).Ends ⟨l, c⟩ next returned := by
  rw [giveUp, ends_bind, logF, ends_assign, ends_bind]
  refine ends_stop (c := c.say line) owns ⟨wired.callback, wired.flowing⟩ fun l owns => ?_
  rw [ends_exitIf]
  exact ⟨fun _ => given l owns, by simp⟩

end Stop

end Obs2Mf.Broker.Graph
