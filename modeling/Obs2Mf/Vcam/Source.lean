import Obs2Mf.Vcam.Stream

set_option autoImplicit false

/- `MediaSource::Start`, `Stop`, `Shutdown` and `SetDefaultAllocator`, for any number
of streams. -/
namespace Obs2Mf.Vcam

open Method

/-- One stream of a presentation descriptor: its selection flag and its identifier. -/
structure StreamEntry where
  selected : Bool
  id : Nat
  deriving DecidableEq, Repr

abbrev PresentationDescriptor := List StreamEntry

/-- The arguments of `Start`: the presentation descriptor, whether a start position is
given, and whether a time format other than `GUID_NULL` is. -/
structure StartArgs where
  presentation : Option PresentationDescriptor
  position : Bool
  format : Bool
  deriving DecidableEq, Repr

namespace MediaSource

/-- The search of `GetStreamIndexById` from stream `j` on; `Initialize` made each
stream's index its identifier. -/
def findStream (s : MediaSource) (calls : Calls) (i id : Nat) : List Nat → Option Nat
  | [] => none
  | j :: rest =>
      if (s.streams j).descriptor.isNone then none
      else if (calls (.ownIdentifier i j)).failed then none
      else if j = id then some j
      else findStream s calls i id rest

def getStreamIndexById (s : MediaSource) (calls : Calls) (i id : Nat) : Option Nat :=
  s.findStream calls i id (List.range s.numStreams)

def queueEventParam (hr : HRESULT) (event : MediaEvent) : SourceMethod Unit := do
  let s ← read
  let _ ← deref s.queue
  returnIfFailed hr
  modify fun s => s.queued event

/-- `thisSelected`: the source's own flag, corrected by the state of stream `i`. -/
def correctedSelection (s : MediaSource) (index i : Nat) : Bool :=
  if s.selected index && decide ((s.streams i).state = MF_STREAM_STATE_STOPPED) then false
  else if !s.selected index && decide ((s.streams i).state ≠ MF_STREAM_STATE_STOPPED) then true
  else s.selected index

/-- What `Start` does for a stream whose selection changes. -/
def changeSelection (calls : Calls) (i index : Nat) (selected : Bool) : SourceMethod Unit := do
  let s ← read
  let _ ← deref s.descriptor
  if selected then
    returnIfFailed (calls (.selectStream i))
    modify fun s => s.select index true
    returnIfFailed (calls (.copyStream i))
    queueEventParam (calls (.newStreamEvent i)) (.newStream index)
    returnIfFailed (calls (.mediaTypeHandler i))
    returnIfFailed (calls (.currentMediaType i))
    MediaStream.start calls i index true
  else
    returnIfFailed (calls (.deselectStream i))
    modify fun s => s.select index false
    MediaStream.stop calls i index

/-- One round of the loop in `Start`. -/
def startStream (calls : Calls) (presentation : PresentationDescriptor) (i : Nat) :
    SourceMethod Unit := do
  returnIfFailed (calls (.streamDescriptor i))
  let entry := presentation.getD i ⟨false, 0⟩
  returnIfFailed (calls (.streamIdentifier i))
  let s ← read
  match s.getStreamIndexById calls i entry.id with
  | none => returnHrIf .eFail true
  | some index => do
      let _ ← deref s.descriptor
      returnIfFailed (calls (.sourceDescriptor i))
      if entry.selected ≠ s.correctedSelection index i then
        changeSelection calls i index entry.selected

def start (calls : Calls) (args : StartArgs) : SourceMethod Unit :=
  match args.presentation with
  | none => returnHrIf .ePointer true
  | some presentation => do
      returnHrIf .ePointer (!args.position)
      returnHrIf .eInvalidArg args.format
      let s ← read
      returnHrIf .mfEShutdown (s.queue.isNone || s.descriptor.isNone)
      returnIfFailed (calls .streamDescriptorCount)
      returnHrIf .eInvalidArg (presentation.length ≠ s.numStreams)
      returnIfFailed (calls .systemTime)
      forRange presentation.length (startStream calls presentation)
      queueEventParam (calls .sourceStartedEvent) .sourceStarted

/-- One round of the loop in `Stop`. -/
def stopStream (calls : Calls) (i : Nat) : SourceMethod Unit := do
  MediaStream.stop calls i i
  let s ← read
  let _ ← deref s.descriptor
  returnIfFailed (calls (.deselectStream i))
  modify fun s => s.select i false

def stop (calls : Calls) : SourceMethod Unit := do
  let s ← read
  returnHrIf .mfEShutdown (s.queue.isNone || s.descriptor.isNone)
  returnIfFailed (calls .systemTime)
  forRange s.numStreams (stopStream calls)
  queueEventParam (calls .sourceStoppedEvent) .sourceStopped

def shutdown : SourceMethod Unit := do
  let s ← read
  returnHrIf .mfEShutdown s.queue.isNone
  modify fun s => { s with queue := none }
  forRange s.numStreams MediaStream.shutdown
  modify fun s => { s with descriptor := none, attributes := none }

def setDefaultAllocator (calls : Calls) (id : Nat) (allocator : Option Nat) :
    SourceMethod Unit := do
  returnHrIf .ePointer allocator.isNone
  let s ← read
  match s.getStreamIndexById calls 0 id with
  | none => returnHrIf .eFail true
  | some index => do
      returnHrIf .eFail (s.numStreams ≤ index)
      MediaStream.setAllocator calls index allocator

/-- Success of `GetStreamIndexById` names a stream of the source, by its identifier. -/
theorem findStream_some (s : MediaSource) (calls : Calls) (i id : Nat) (rest : List Nat)
    (index : Nat) (found : s.findStream calls i id rest = some index) :
    index = id ∧ index ∈ rest := by
  induction rest with
  | nil => cases found
  | cons j rest ih =>
      simp only [findStream] at found
      split at found
      · cases found
      · split at found
        · cases found
        · split at found
          · rename_i same
            cases found
            exact ⟨same, List.mem_cons_self⟩
          · have later := ih found
            exact ⟨later.1, List.mem_cons_of_mem j later.2⟩

theorem getStreamIndexById_some {s : MediaSource} {calls : Calls} {i id index : Nat}
    (found : s.getStreamIndexById calls i id = some index) : index = id ∧ index < s.numStreams := by
  have inside := findStream_some s calls i id _ index found
  exact ⟨inside.1, List.mem_range.mp inside.2⟩

/-- The two corrections of the selection flag leave nothing of the flag itself. -/
theorem correctedSelection_eq (s : MediaSource) (index i : Nat) :
    s.correctedSelection index i = decide ((s.streams i).state ≠ MF_STREAM_STATE_STOPPED) := by
  unfold correctedSelection
  by_cases stopped : (s.streams i).state = MF_STREAM_STATE_STOPPED
  · cases s.selected index <;> simp [stopped]
  · cases s.selected index <;> simp [stopped]

end MediaSource

/-- A guarantee of `n` streams that `Start` and `Stop` of the source keep, because the
methods of the streams do. -/
structure Carries (g : Guarantee MediaSource) (calls : Calls) (n : Nat) : Prop where
  count : ∀ s, g.inv s → s.numStreams = n
  queue : ∀ s, g.inv s → s.queue = some ()
  descriptor : ∀ s, g.inv s → s.descriptor = some ()
  select : ∀ s index flag, g.inv s → g.inv (s.select index flag) ∧ g.moves s (s.select index flag)
  queued : ∀ s event, g.inv s → g.inv (s.queued event) ∧ g.moves s (s.queued event)
  streamStart : ∀ i index type, index < n → g.Keeps (MediaStream.start calls i index type)
  streamStop : ∀ i index, index < n → g.Keeps (MediaStream.stop calls i index)

namespace Carries

open Guarantee

variable {g : Guarantee MediaSource} {calls : Calls} {n : Nat}

theorem queueEventParam (carries : Carries g calls n) (hr : HRESULT) (event : MediaEvent) :
    g.Keeps (MediaSource.queueEventParam hr event) := by
  apply Keeps.read
  intro s held
  apply Keeps.bind (Keeps.deref (carries.queue s held))
  intro _
  apply Keeps.bind (Keeps.exitIf _ _)
  intro _
  exact Keeps.modify fun s held => carries.queued s event held

theorem selects (carries : Carries g calls n) (index : Nat) (flag : Bool) :
    g.Keeps (modify fun s => s.select index flag : SourceMethod Unit) :=
  Keeps.modify fun s held => carries.select s index flag held

theorem changeSelection (carries : Carries g calls n) (i index : Nat) (selected : Bool)
    (inside : index < n) : g.Keeps (MediaSource.changeSelection calls i index selected) := by
  apply Keeps.read
  intro s held
  apply Keeps.bind (Keeps.deref (carries.descriptor s held))
  intro _
  apply Keeps.ite
  · intro _
    apply Keeps.bind (Keeps.exitIf _ _)
    intro _
    apply Keeps.bind (carries.selects index true)
    intro _
    apply Keeps.bind (Keeps.exitIf _ _)
    intro _
    apply Keeps.bind (carries.queueEventParam _ _)
    intro _
    apply Keeps.bind (Keeps.exitIf _ _)
    intro _
    apply Keeps.bind (Keeps.exitIf _ _)
    intro _
    exact carries.streamStart i index true inside
  · intro _
    apply Keeps.bind (Keeps.exitIf _ _)
    intro _
    apply Keeps.bind (carries.selects index false)
    intro _
    exact carries.streamStop i index inside

theorem startStream (carries : Carries g calls n) (presentation : PresentationDescriptor)
    (i : Nat) : g.Keeps (MediaSource.startStream calls presentation i) := by
  apply Keeps.bind (Keeps.exitIf _ _)
  intro _
  apply Keeps.bind (Keeps.exitIf _ _)
  intro _
  apply Keeps.read
  intro s held
  cases found : s.getStreamIndexById calls i (presentation.getD i ⟨false, 0⟩).id with
  | none => exact Keeps.exitIf _ _
  | some index =>
      have inside := (MediaSource.getStreamIndexById_some found).2
      rw [carries.count s held] at inside
      apply Keeps.bind (Keeps.deref (carries.descriptor s held))
      intro _
      apply Keeps.bind (Keeps.exitIf _ _)
      intro _
      apply Keeps.ite
      · intro _
        exact carries.changeSelection i index _ inside
      · intro _
        exact Keeps.pure _

theorem start (carries : Carries g calls n) (args : StartArgs) :
    g.Keeps (MediaSource.start calls args) := by
  unfold MediaSource.start
  cases args.presentation with
  | none => exact Keeps.exitIf _ _
  | some presentation =>
      apply Keeps.bind (Keeps.exitIf _ _)
      intro _
      apply Keeps.bind (Keeps.exitIf _ _)
      intro _
      apply Keeps.read
      intro s held
      apply Keeps.bind (Keeps.exitIf _ _)
      intro _
      apply Keeps.bind (Keeps.exitIf _ _)
      intro _
      apply Keeps.bind (Keeps.exitIf _ _)
      intro _
      apply Keeps.bind (Keeps.exitIf _ _)
      intro _
      apply Keeps.bind (Keeps.forRange _ fun i _ => carries.startStream presentation i)
      intro _
      exact carries.queueEventParam _ _

theorem stopStream (carries : Carries g calls n) (i : Nat) (inside : i < n) :
    g.Keeps (MediaSource.stopStream calls i) := by
  apply Keeps.bind (carries.streamStop i i inside)
  intro _
  apply Keeps.read
  intro s held
  apply Keeps.bind (Keeps.deref (carries.descriptor s held))
  intro _
  apply Keeps.bind (Keeps.exitIf _ _)
  intro _
  exact carries.selects i false

theorem stop (carries : Carries g calls n) : g.Keeps (MediaSource.stop calls) := by
  apply Keeps.read
  intro s held
  apply Keeps.bind (Keeps.exitIf _ _)
  intro _
  apply Keeps.bind (Keeps.exitIf _ _)
  intro _
  rw [carries.count s held]
  apply Keeps.bind (Keeps.forRange n carries.stopStream)
  intro _
  exact carries.queueEventParam _ _

end Carries

end Obs2Mf.Vcam
