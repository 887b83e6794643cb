import Obs2Mf.Broker.ObsCapture
import Obs2Mf.Broker.TestPattern
import Obs2Mf.Foundation.Run

set_option autoImplicit false

/- The broker's producer thread, one step for each shared variable it touches and each
outside call it makes, so that the graph's callbacks and the tray menu come in between. -/
namespace Obs2Mf.Broker

open Pipe (Byte FrameHeader)
open Run

inductive SourceKind where
  | sourceNone
  | sourceOBS
  | sourceTest
  | sourceOff
  deriving DecidableEq, Repr

def SourceKind.code : SourceKind → BitVec 32
  | .sourceNone => 0#32
  | .sourceOBS => 1#32
  | .sourceTest => 2#32
  | .sourceOff => 3#32

/-- Who called `Stop`: a failed `Start`, the branch of the test pattern, or the end. -/
inductive After where
  | retry
  | fill
  | exit
  deriving DecidableEq, Repr

inductive Pc where
  /-- `while (!g_quit.load())` -/
  | loop
  /-- `g_source.load()` -/
  | load
  /-- In `Start`, up to the source's size. -/
  | build
  /-- In `Start`, asking for the media control. -/
  | control
  /-- In `control->Run()`. -/
  | run
  | stop (after : After)
  /-- In `control->Stop()`. -/
  | stopping (after : After)
  | clear (after : After)
  | fetch
  | fill
  | publish
  | finished
  deriving DecidableEq, Repr

/-- A frame given to `Publish`, with what its iteration read: the source, the buffers
delivered since the graph was last run, and the size of that graph's pictures. -/
structure Published where
  hdr : FrameHeader
  payload : List Byte
  src : SourceKind
  delivered : List (List Byte)
  srcW : Int
  srcH : Int

/-- The thread, with the variables it shares. `graph` holds from the call of
`control->Run()` until `control->Stop()` returns; `session` is what was delivered since
that call, `seen` what `GetFrame` found of it. -/
structure State where
  g_source : SourceKind
  g_quit : Bool
  obs : Impl
  graph : Bool
  pc : Pc
  frame : List Byte
  seq : BitVec 32
  retryDelay : Int
  src : SourceKind
  reported : SourceKind
  session : List (List Byte)
  seen : List (List Byte)
  published : List Published

def State.initial : State where
  g_source := .sourceOBS
  g_quit := false
  obs := .new (.ofNat 32 kW) (.ofNat 32 kH)
  graph := false
  pc := .loop
  frame := List.replicate kFrameBytes 0
  seq := 0#32
  retryDelay := 0
  src := .sourceNone
  reported := .sourceNone
  session := []
  seen := []
  published := []

inductive Action where
  | select (kind : SourceKind)
  | quit
  | bufferCB (delivery : Delivery)
  | test
  | load
  | build (outcome : Build)
  | control (found : Bool)
  | ran (ok : Bool)
  | stop
  | stopped
  | clear
  | fetch (beyond : Int → Byte)
  | fill
  | publish (now : BitVec 64)

/-- The choice among the branches, all of it on the thread's own variables. -/
def State.branch (s : State) : State :=
  if s.src = .sourceOBS then
    if s.obs.running then { s with pc := .fetch }
    else if s.retryDelay ≤ 0 then { s with pc := .build }
    else { s with retryDelay := s.retryDelay - 1, pc := .fetch }
  else if s.obs.running then { s with pc := .stop .fill }
  else { s with pc := .fill }

/-- `Start` up to the check of the source's size. -/
def State.built (s : State) (outcome : Build) : State :=
  match outcome with
  | .rendered media =>
      let obs := s.obs.connected media
      if obs.srcW ≤ 0 ∨ obs.srcH ≤ 0 then { s with obs, pc := .stop .retry }
      else { s with obs, pc := .control }
  | _ => { s with pc := .stop .retry }

/-- After a `Stop`: back in the caller. -/
def State.resume (s : State) : After → State
  | .retry => { s with retryDelay := 60, pc := .fetch }
  | .fill => { s with pc := .fill }
  | .exit => { s with pc := .finished }

section Thread

variable (bars : Int → Int × Int × Int)

/-- A captured frame if there is one, and the test pattern otherwise. -/
def State.fetched (s : State) (beyond : Int → Byte) : State :=
  let got := if s.obs.running then s.obs.getFrame beyond s.frame else (false, s.frame)
  if got.1 then { s with frame := got.2, seen := s.session, pc := .publish }
  else
    { s with
      frame := fillTestPatternNV12 bars got.2 s.seq
      reported := .sourceTest
      seen := s.session
      pc := .publish }

/-- The branch of the test pattern. -/
def State.filled (s : State) : State :=
  { s with
    retryDelay := 0
    frame := fillTestPatternNV12 bars s.frame s.seq
    seen := s.session
    pc := .publish }

end Thread

/-- The header of the frame about to be published. -/
def State.header (s : State) (now : BitVec 64) : FrameHeader :=
  { FrameHeader.zero with
    fourcc := Pipe.kFourccNV12
    width := .ofNat 32 kW
    height := .ofNat 32 kH
    stride := .ofNat 32 kW
    byteLength := .ofNat 32 kFrameBytes
    sequence := s.seq
    timestampQpc := now
    sourceKind := s.reported.code
    flags := Pipe.flag_valid }

/-- `Publish` copies `byteLength` bytes of what it is given. -/
def State.publish (s : State) (now : BitVec 64) : State :=
  let hdr := s.header now
  let payload := s.frame.take hdr.byteLength.toNat
  { s with
    seq := s.seq + 1#32
    published := s.published ++ [⟨hdr, payload, s.src, s.seen, s.obs.srcW, s.obs.srcH⟩]
    pc := .loop }

/-- `bars` is the memory around the table of the test pattern's colours. -/
def step (bars : Int → Int × Int × Int) (s : State) : Action → Option State
  | .select kind => some { s with g_source := kind }
  | .quit => some { s with g_quit := true }
  | .bufferCB delivery =>
      if s.graph then
        some { s with
          obs := s.obs.bufferCB delivery
          session := s.session ++ delivery.bytes.toList }
      else none
  | .test =>
      match s.pc with
      | .loop => some { s with pc := if s.g_quit then .stop .exit else .load }
      | _ => none
  | .load =>
      match s.pc with
      | .load => some { s with src := s.g_source, reported := s.g_source }.branch
      | _ => none
  | .build outcome =>
      match s.pc with
      | .build => some (s.built outcome)
      | _ => none
  | .control found =>
      match s.pc with
      | .control =>
          if found then
            some { s with
              obs := { s.obs with control := true }
              graph := true
              session := []
              pc := .run }
          else some { s with pc := .stop .retry }
      | _ => none
  | .ran ok =>
      match s.pc with
      | .run =>
          if ok then some { s with obs := { s.obs with running := true }, pc := .fetch }
          else some { s with pc := .stop .retry }
      | _ => none
  | .stop =>
      match s.pc with
      | .stop after =>
          some { s with pc := if s.obs.control then .stopping after else .clear after }
      | _ => none
  | .stopped =>
      match s.pc with
      | .stopping after => some { s with graph := false, pc := .clear after }
      | _ => none
  | .clear =>
      match s.pc with
      | .clear after => some ({ s with obs := s.obs.clear }.resume after)
      | _ => none
  | .fetch beyond =>
      match s.pc with
      | .fetch => some (s.fetched bars beyond)
      | _ => none
  | .fill =>
      match s.pc with
      | .fill => some (s.filled bars)
      | _ => none
  | .publish now =>
      match s.pc with
      | .publish => some (s.publish now)
      | _ => none

/-- What a consumer may rely on in the frame published as number `i`. -/
structure Published.Faithful (bars : Int → Int × Int × Int) (i : Nat) (p : Published) :
    Prop where
  sequence : p.hdr.sequence.toNat = i % 2 ^ 32
  byteLength : p.hdr.byteLength.toNat = p.payload.length
  obs : p.hdr.sourceKind = SourceKind.sourceOBS.code → p.src = .sourceOBS ∧
    ∃ newest, p.delivered.getLast? = some newest ∧
      p.payload = scaled p.srcW.toNat p.srcH.toNat kW kH newest
  test : p.hdr.sourceKind = SourceKind.sourceTest.code →
    ∀ buf : List Byte, buf.length = kFrameBytes →
      p.payload = fillTestPatternNV12 bars buf p.hdr.sequence

/-- The source's size is even and its index products fit, if `Start` goes on with it. -/
def Sized (_ : State) (a : Action) : Prop :=
  ∀ biWidth biHeight, a = .build (.rendered (some (biWidth, biHeight))) →
    biWidth ≤ 0 ∨ biHeight = 0 ∨ Fitting biWidth.toNat biHeight.natAbs kW kH

theorem SourceKind.code_inj {a b : SourceKind} : a.code = b.code ↔ a = b := by
  cases a <;> cases b <;> decide

section Invariant

/-- `Stop` was the last to touch the capture. -/
structure Idle (obs : Impl) (graph : Bool) : Prop where
  running : obs.running = false
  control : obs.control = false
  graph : graph = false
  native : obs.native = []
  srcW : obs.srcW = 0
  srcH : obs.srcH = 0

def KnownSize (obs : Impl) : Prop :=
  ∃ srcW srcH : Nat, obs.srcW = srcW ∧ obs.srcH = srcH ∧ Fitting srcW srcH kW kH

/-- The graph runs, and what is kept is the newest buffer of this session. -/
structure Delivering (obs : Impl) (graph : Bool) (session : List (List Byte)) : Prop where
  control : obs.control = true
  graph : graph = true
  size : KnownSize obs
  native : obs.native = session.getLast?.getD []

def State.Settled (s : State) : Prop :=
  Idle s.obs s.graph ∨ s.obs.running = true ∧ Delivering s.obs s.graph s.session

/-- The capture at each point of the thread. -/
def State.Capture (s : State) : Prop :=
  match s.pc with
  | .loop | .load | .fetch | .publish =>
      Idle s.obs s.graph ∨ s.obs.running = true ∧ Delivering s.obs s.graph s.session
  | .build | .fill | .finished => Idle s.obs s.graph
  | .control => s.obs.running = false ∧ s.obs.control = false ∧ s.graph = false ∧
      s.obs.native = [] ∧ KnownSize s.obs
  | .run => s.obs.running = false ∧ Delivering s.obs s.graph s.session
  | .stop _ => s.graph = true → s.obs.control = true
  | .stopping _ => True
  | .clear _ => s.graph = false

def After.inOBS : After → Bool
  | .retry => true
  | _ => false

def After.inTest : After → Bool
  | .fill => true
  | _ => false

/-- The branch that reads from the capture, with the `Start` in it. -/
def Pc.inOBS : Pc → Bool
  | .build | .control | .run | .fetch => true
  | .stop after | .stopping after | .clear after => after.inOBS
  | _ => false

def Pc.inTest : Pc → Bool
  | .fill => true
  | .stop after | .stopping after | .clear after => after.inTest
  | _ => false

/-- The buffer holds what its announced source says. -/
structure State.Ready (bars : Int → Int × Int × Int) (s : State) : Prop where
  obs : s.reported = .sourceOBS → s.src = .sourceOBS ∧
    ∃ newest, s.seen.getLast? = some newest ∧
      s.frame = scaled s.obs.srcW.toNat s.obs.srcH.toNat kW kH newest
  test : s.reported = .sourceTest → s.frame = testPattern bars s.seq

structure Inv (bars : Int → Int × Int × Int) (s : State) : Prop where
  sized : s.frame.length = kFrameBytes
  numbered : s.seq = BitVec.ofNat 32 s.published.length
  dstW : s.obs.dstW.toInt = (kW : Nat)
  dstH : s.obs.dstH.toInt = (kH : Nat)
  capture : s.Capture
  fromOBS : s.pc.inOBS = true → s.src = .sourceOBS ∧ s.reported = .sourceOBS
  fromTest : s.pc.inTest = true → s.src ≠ .sourceOBS ∧ s.reported = s.src
  ready : s.pc = .publish → s.Ready bars
  faithful : ∀ (i : Nat) (p : Published), s.published[i]? = some p → p.Faithful bars i

theorem inv_initial (bars : Int → Int × Int × Int) : Inv bars .initial where
  sized := List.length_replicate
  numbered := rfl
  dstW := rfl
  dstH := rfl
  capture := Or.inl ⟨rfl, rfl, rfl, rfl, rfl, rfl⟩
  fromOBS := nofun
  fromTest := nofun
  ready := nofun
  faithful := nofun

/-- A step that neither fills the buffer nor publishes it. -/
structure State.Kept (s t : State) : Prop where
  frame : t.frame = s.frame
  seq : t.seq = s.seq
  published : t.published = s.published
  dstW : t.obs.dstW = s.obs.dstW
  dstH : t.obs.dstH = s.obs.dstH

variable {bars : Int → Int × Int × Int} {s t : State}

theorem Inv.kept (held : Inv bars s) (kept : s.Kept t) (capture : t.Capture)
    (fromOBS : t.pc.inOBS = true → t.src = .sourceOBS ∧ t.reported = .sourceOBS)
    (fromTest : t.pc.inTest = true → t.src ≠ .sourceOBS ∧ t.reported = t.src)
    (ready : t.pc = .publish → t.Ready bars) : Inv bars t where
  sized := kept.frame ▸ held.sized
  numbered := by rw [kept.seq, kept.published, held.numbered]
  dstW := kept.dstW ▸ held.dstW
  dstH := kept.dstH ▸ held.dstH
  capture := capture
  fromOBS := fromOBS
  fromTest := fromTest
  ready := ready
  faithful := kept.published ▸ held.faithful

theorem Inv.settled (held : Inv bars s) (at_ : s.pc = .loop ∨ s.pc = .load ∨ s.pc = .fetch ∨
    s.pc = .publish) : s.Settled := by
  have capture := held.capture
  rcases at_ with at_ | at_ | at_ | at_
  all_goals
    rw [State.Capture, at_] at capture
    exact capture

theorem State.Settled.stoppable (settled : s.Settled) (graph : s.graph = true) :
    s.obs.control = true := by
  rcases settled with idle | ⟨_, delivering⟩
  · exact absurd (idle.graph.symm.trans graph) Bool.false_ne_true
  · exact delivering.control

theorem test_inv (held : Inv bars s) (taken : step bars s .test = some t) : Inv bars t := by
  simp only [step] at taken
  split at taken
  next loop =>
    have settled := held.settled (Or.inl loop)
    rw [← Option.some.inj taken]
    by_cases quit : s.g_quit = true
    · rw [if_pos quit]
      exact held.kept ⟨rfl, rfl, rfl, rfl, rfl⟩ settled.stoppable nofun nofun nofun
    · rw [if_neg quit]
      exact held.kept ⟨rfl, rfl, rfl, rfl, rfl⟩ settled nofun nofun nofun
  next => cases taken

theorem load_inv (held : Inv bars s) (taken : step bars s .load = some t) : Inv bars t := by
  simp only [step] at taken
  split at taken
  next load =>
    have settled := held.settled (Or.inr (Or.inl load))
    rw [← Option.some.inj taken, State.branch]
    dsimp only
    by_cases chosen : s.g_source = .sourceOBS
    · rw [if_pos chosen]
      by_cases running : s.obs.running = true
      · rw [if_pos running]
        exact held.kept ⟨rfl, rfl, rfl, rfl, rfl⟩ settled (fun _ => ⟨chosen, chosen⟩) nofun nofun
      · rw [if_neg running]
        split
        · have idle : Idle s.obs s.graph := settled.resolve_right fun live => running live.1
          exact held.kept ⟨rfl, rfl, rfl, rfl, rfl⟩ idle (fun _ => ⟨chosen, chosen⟩) nofun nofun
        · exact held.kept ⟨rfl, rfl, rfl, rfl, rfl⟩ settled (fun _ => ⟨chosen, chosen⟩) nofun nofun
    · rw [if_neg chosen]
      by_cases running : s.obs.running = true
      · rw [if_pos running]
        exact held.kept ⟨rfl, rfl, rfl, rfl, rfl⟩ settled.stoppable nofun
          (fun _ => ⟨chosen, rfl⟩) nofun
      · rw [if_neg running]
        have idle : Idle s.obs s.graph := settled.resolve_right fun live => running live.1
        exact held.kept ⟨rfl, rfl, rfl, rfl, rfl⟩ idle nofun (fun _ => ⟨chosen, rfl⟩) nofun
  next => cases taken

theorem connected_known {obs : Impl} {graph : Bool} {media : Option (Int × Int)}
    (idle : Idle obs graph) (sized : Sized s (.build (.rendered media)))
    (positive : ¬ ((obs.connected media).srcW ≤ 0 ∨ (obs.connected media).srcH ≤ 0)) :
    KnownSize (obs.connected media) := by
  cases media with
  | none =>
      have none : obs.srcW = 0 := idle.srcW
      exact absurd (Or.inl (Int.le_of_eq none)) positive
  | some size =>
      obtain ⟨biWidth, biHeight⟩ := size
      change ¬ (biWidth ≤ 0 ∨ (biHeight.natAbs : Int) ≤ 0) at positive
      have fits : Fitting biWidth.toNat biHeight.natAbs kW kH := by
        rcases sized biWidth biHeight rfl with flat | flat | fits
        · exact absurd (Or.inl flat) positive
        · have zero : biHeight.natAbs = 0 := Int.natAbs_eq_zero.mpr flat
          omega
        · exact fits
      have width : biWidth = (biWidth.toNat : Int) := by omega
      exact ⟨biWidth.toNat, biHeight.natAbs, width, rfl, fits⟩

theorem build_inv {outcome : Build} (held : Inv bars s) (sized : Sized s (.build outcome))
    (taken : step bars s (.build outcome) = some t) : Inv bars t := by
  simp only [step] at taken
  split at taken
  next build =>
    have idle : Idle s.obs s.graph := by
      have capture := held.capture
      rw [State.Capture, build] at capture
      exact capture
    have down {P : Prop} (graph : s.graph = true) : P :=
      absurd (idle.graph.symm.trans graph) Bool.false_ne_true
    have fromOBS := held.fromOBS (by rw [build]; rfl)
    rw [← Option.some.inj taken]
    cases outcome with
    | rendered media =>
        have kept (pc : Pc) : s.Kept { s with obs := s.obs.connected media, pc } := by
          cases media with
          | none => exact ⟨rfl, rfl, rfl, rfl, rfl⟩
          | some size => exact ⟨rfl, rfl, rfl, rfl, rfl⟩
        rw [State.built]
        split
        · exact held.kept (kept _) down (fun _ => fromOBS) nofun nofun
        next positive =>
          have known := connected_known idle sized positive
          refine held.kept (kept _) ?_ (fun _ => fromOBS) nofun nofun
          cases media with
          | none => exact ⟨idle.running, idle.control, idle.graph, idle.native, known⟩
          | some size => exact ⟨idle.running, idle.control, idle.graph, idle.native, known⟩
    | _ => exact held.kept ⟨rfl, rfl, rfl, rfl, rfl⟩ down (fun _ => fromOBS) nofun nofun
  next => cases taken

theorem control_inv {found : Bool} (held : Inv bars s)
    (taken : step bars s (.control found) = some t) : Inv bars t := by
  simp only [step] at taken
  split at taken
  next control =>
    have capture := held.capture
    rw [State.Capture, control] at capture
    obtain ⟨running, _, graph, native, known⟩ := capture
    have fromOBS := held.fromOBS (by rw [control]; rfl)
    cases found with
    | false =>
        rw [← Option.some.inj taken]
        have down (up : s.graph = true) : s.obs.control = true :=
          absurd (graph.symm.trans up) Bool.false_ne_true
        exact held.kept ⟨rfl, rfl, rfl, rfl, rfl⟩ down (fun _ => fromOBS) nofun nofun
    | true =>
        rw [← Option.some.inj taken]
        exact held.kept ⟨rfl, rfl, rfl, rfl, rfl⟩ ⟨running, rfl, rfl, known, native⟩
          (fun _ => fromOBS) nofun nofun
  next => cases taken

theorem ran_inv {ok : Bool} (held : Inv bars s) (taken : step bars s (.ran ok) = some t) :
    Inv bars t := by
  simp only [step] at taken
  split at taken
  next run =>
    have capture := held.capture
    rw [State.Capture, run] at capture
    obtain ⟨_, delivering⟩ := capture
    have fromOBS := held.fromOBS (by rw [run]; rfl)
    cases ok with
    | false =>
        rw [← Option.some.inj taken]
        exact held.kept ⟨rfl, rfl, rfl, rfl, rfl⟩ (fun _ => delivering.control)
          (fun _ => fromOBS) nofun nofun
    | true =>
        rw [← Option.some.inj taken]
        have live : Delivering { s.obs with running := true } s.graph s.session :=
          ⟨delivering.control, delivering.graph, delivering.size, delivering.native⟩
        exact held.kept ⟨rfl, rfl, rfl, rfl, rfl⟩ (Or.inr ⟨rfl, live⟩)
          (fun _ => fromOBS) nofun nofun
  next => cases taken

theorem stop_inv (held : Inv bars s) (taken : step bars s .stop = some t) : Inv bars t := by
  simp only [step] at taken
  split at taken
  next after stop =>
    have capture : s.graph = true → s.obs.control = true := by
      have capture := held.capture
      rw [State.Capture, stop] at capture
      exact capture
    have fromOBS := held.fromOBS
    have fromTest := held.fromTest
    rw [stop] at fromOBS fromTest
    rw [← Option.some.inj taken]
    by_cases control : s.obs.control = true
    · rw [if_pos control]
      exact held.kept ⟨rfl, rfl, rfl, rfl, rfl⟩ True.intro fromOBS fromTest nofun
    · rw [if_neg control]
      have down : s.graph = false := by
        rw [← Bool.not_eq_true]
        exact fun graph => control (capture graph)
      exact held.kept ⟨rfl, rfl, rfl, rfl, rfl⟩ down fromOBS fromTest nofun
  next => cases taken

theorem stopped_inv (held : Inv bars s) (taken : step bars s .stopped = some t) :
    Inv bars t := by
  simp only [step] at taken
  split at taken
  next after stopping =>
    have fromOBS := held.fromOBS
    have fromTest := held.fromTest
    rw [stopping] at fromOBS fromTest
    rw [← Option.some.inj taken]
    exact held.kept ⟨rfl, rfl, rfl, rfl, rfl⟩ rfl fromOBS fromTest nofun
  next => cases taken

theorem clear_inv (held : Inv bars s) (taken : step bars s .clear = some t) : Inv bars t := by
  simp only [step] at taken
  split at taken
  next after clear =>
    have down : s.graph = false := by
      have capture := held.capture
      rw [State.Capture, clear] at capture
      exact capture
    have idle : Idle s.obs.clear s.graph := ⟨rfl, rfl, down, rfl, rfl, rfl⟩
    have fromOBS := held.fromOBS
    have fromTest := held.fromTest
    rw [clear] at fromOBS fromTest
    rw [← Option.some.inj taken]
    cases after with
    | retry => exact held.kept ⟨rfl, rfl, rfl, rfl, rfl⟩ (Or.inl idle) fromOBS nofun nofun
    | fill => exact held.kept ⟨rfl, rfl, rfl, rfl, rfl⟩ idle nofun fromTest nofun
    | exit => exact held.kept ⟨rfl, rfl, rfl, rfl, rfl⟩ idle nofun nofun nofun
  next => cases taken

/-- A buffer arrives while the graph runs: it is now the newest of the session. -/
theorem Delivering.next {obs : Impl} {graph : Bool} {session : List (List Byte)}
    (live : Delivering obs graph session) (bytes : List Byte) (frames : BitVec 64) :
    Delivering { obs with native := bytes, frames } graph (session ++ [bytes]) where
  control := live.control
  graph := live.graph
  size := live.size
  native := by rw [List.getLast?_concat, Option.getD_some]

theorem State.Capture.next (capture : s.Capture) (graph : s.graph = true)
    (bytes : List Byte) (frames : BitVec 64) :
    State.Capture { s with
      obs := { s.obs with native := bytes, frames }
      session := s.session ++ [bytes] } := by
  have running (idle : Idle s.obs s.graph) : False :=
    Bool.false_ne_true (idle.graph.symm.trans graph)
  unfold State.Capture at capture ⊢
  cases at_ : s.pc with
  | loop | load | fetch | publish =>
      simp only [at_] at capture
      rcases capture with idle | ⟨on, live⟩
      · exact (running idle).elim
      · exact Or.inr ⟨on, live.next bytes frames⟩
  | build | fill | finished =>
      simp only [at_] at capture
      exact (running capture).elim
  | control =>
      simp only [at_] at capture
      exact (Bool.false_ne_true (capture.2.2.1.symm.trans graph)).elim
  | run =>
      simp only [at_] at capture
      exact ⟨capture.1, capture.2.next bytes frames⟩
  | stop after =>
      simp only [at_] at capture
      exact capture
  | stopping after => trivial
  | clear after =>
      simp only [at_] at capture
      exact capture

theorem bufferCB_inv {delivery : Delivery} (held : Inv bars s)
    (taken : step bars s (.bufferCB delivery) = some t) : Inv bars t := by
  simp only [step] at taken
  split at taken
  next graph =>
    rw [← Option.some.inj taken]
    cases bytes : delivery.bytes with
    | none =>
        rw [Impl.bufferCB, bytes, Option.toList_none, List.append_nil]
        exact held
    | some bytes' =>
        rw [Impl.bufferCB, bytes, Option.toList_some]
        refine held.kept ⟨rfl, rfl, rfl, rfl, rfl⟩ (held.capture.next graph bytes' _)
          held.fromOBS held.fromTest ?_
        intro publish
        exact ⟨(held.ready publish).obs, (held.ready publish).test⟩
  next => cases taken

theorem Inv.filled (held : Inv bars s) (sized : t.frame.length = kFrameBytes)
    (seq : t.seq = s.seq) (published : t.published = s.published) (obs : t.obs = s.obs)
    (publish : t.pc = .publish) (settled : t.Settled) (ready : t.Ready bars) : Inv bars t where
  sized := sized
  numbered := by rw [seq, published, held.numbered]
  dstW := obs ▸ held.dstW
  dstH := obs ▸ held.dstH
  capture := by
    rw [State.Capture, publish]
    exact settled
  fromOBS := by
    rw [publish]
    exact nofun
  fromTest := by
    rw [publish]
    exact nofun
  ready _ := ready
  faithful := published ▸ held.faithful

/-- The buffer holds the test pattern, whichever branch asked for it. -/
theorem Inv.pattern (held : Inv bars s) (settled : s.Settled) (retryDelay : Int)
    (reported : SourceKind) (notOBS : reported ≠ .sourceOBS) :
    Inv bars { s with
      frame := testPattern bars s.seq
      retryDelay
      reported
      seen := s.session
      pc := .publish } := by
  refine held.filled ?_ rfl rfl rfl rfl settled ⟨?_, ?_⟩
  · exact testPattern_length bars s.seq
  · intro obs
    exact absurd obs notOBS
  · intro _
    dsimp only

theorem fill_inv (held : Inv bars s) (taken : step bars s .fill = some t) : Inv bars t := by
  simp only [step] at taken
  split at taken
  next fill =>
    have idle : Idle s.obs s.graph := by
      have capture := held.capture
      rw [State.Capture, fill] at capture
      exact capture
    obtain ⟨notOBS, reported⟩ := held.fromTest (by rw [fill]; rfl)
    rw [← reported] at notOBS
    rw [← Option.some.inj taken, State.filled,
      fillTestPatternNV12_eq bars s.seq s.frame held.sized]
    exact held.pattern (Or.inl idle) 0 s.reported notOBS
  next => cases taken

/-- What `GetFrame` makes of a running capture. -/
theorem Delivering.getFrame {obs : Impl} {graph : Bool} {session : List (List Byte)}
    (live : Delivering obs graph session) (dstW : obs.dstW.toInt = (kW : Nat))
    (dstH : obs.dstH.toInt = (kH : Nat)) (beyond : Int → Byte) (out : List Byte)
    (sized : out.length = kFrameBytes) :
    obs.getFrame beyond out = (false, out) ∨
      ∃ newest, session.getLast? = some newest ∧
        obs.getFrame beyond out = (true, scaled obs.srcW.toNat obs.srcH.toNat kW kH newest) := by
  obtain ⟨srcW, srcH, width, height, fits⟩ := live.size
  have sizes : obs.Sizes srcW srcH kW kH := ⟨width, height, dstW, dstH⟩
  by_cases short : obs.native.length < Nv12.size srcW srcH
  · left
    exact Impl.getFrame_short sizes fits beyond out short
  · right
    have full : Nv12.size srcW srcH ≤ obs.native.length := Nat.le_of_not_lt short
    cases last : session.getLast? with
    | none =>
        have empty : obs.native = [] := by rw [live.native, last, Option.getD_none]
        have some := fits.luma_inside (by decide : 0 < kW) (by decide : 0 < kH)
        rw [empty, List.length_nil] at full
        omega
    | some newest =>
        have native : obs.native = newest := by rw [live.native, last, Option.getD_some]
        refine ⟨newest, rfl, ?_⟩
        rw [Impl.getFrame_full sizes fits full beyond out sized, native, width, height,
          Int.toNat_natCast, Int.toNat_natCast]

theorem fetched_pattern {beyond : Int → Byte}
    (got : s.obs.running = false ∨ s.obs.getFrame beyond s.frame = (false, s.frame)) :
    s.fetched bars beyond = { s with
      frame := fillTestPatternNV12 bars s.frame s.seq
      reported := .sourceTest
      seen := s.session
      pc := .publish } := by
  rcases got with stopped | none
  · simp only [State.fetched, stopped, Bool.false_eq_true, if_false]
  · simp only [State.fetched, none, ite_self, Bool.false_eq_true, if_false]

theorem fetched_capture {beyond : Int → Byte} {out : List Byte} (running : s.obs.running = true)
    (got : s.obs.getFrame beyond s.frame = (true, out)) :
    s.fetched bars beyond = { s with frame := out, seen := s.session, pc := .publish } := by
  simp only [State.fetched, running, got, if_true]

theorem fetch_inv {beyond : Int → Byte} (held : Inv bars s)
    (taken : step bars s (.fetch beyond) = some t) : Inv bars t := by
  simp only [step] at taken
  split at taken
  next fetch =>
    have settled := held.settled (Or.inr (Or.inr (Or.inl fetch)))
    obtain ⟨chosen, reported⟩ := held.fromOBS (by rw [fetch]; rfl)
    have fallback := held.pattern settled s.retryDelay .sourceTest (by decide)
    rw [← fillTestPatternNV12_eq bars s.seq s.frame held.sized] at fallback
    rw [← Option.some.inj taken]
    rcases settled with idle | ⟨running, live⟩
    · rw [fetched_pattern (Or.inl idle.running)]
      exact fallback
    · rcases live.getFrame held.dstW held.dstH beyond s.frame held.sized with
        short | ⟨newest, last, full⟩
      · rw [fetched_pattern (Or.inr short)]
        exact fallback
      · rw [fetched_capture running full]
        refine held.filled ?_ rfl rfl rfl rfl (Or.inr ⟨running, live⟩)
          ⟨fun _ => ⟨chosen, newest, last, ?_⟩, ?_⟩
        · exact scaled_length _ _ kW kH newest
        · dsimp only
        · intro test
          exact absurd (reported.symm.trans test) (by decide)
  next => cases taken

/-- An entry of a list with one more at its end. -/
theorem mem_snoc {α : Type} {list : List α} {last entry : α} {i : Nat}
    (found : (list ++ [last])[i]? = some entry) :
    list[i]? = some entry ∨ i = list.length ∧ entry = last := by
  rcases Nat.lt_or_ge i list.length with earlier | later
  · left
    rw [← List.getElem?_append_left earlier]
    exact found
  · right
    rw [List.getElem?_append_right later] at found
    cases first : i - list.length with
    | zero =>
        rw [first] at found
        exact ⟨by omega, (Option.some.inj found).symm⟩
    | succ n =>
        rw [first] at found
        cases found

theorem kFrameBytes_fits : (BitVec.ofNat 32 kFrameBytes).toNat = kFrameBytes := rfl

/-- The frame being published is faithful under its number. -/
theorem Inv.published (held : Inv bars s) (ready : s.Ready bars) (now : BitVec 64) :
    Published.Faithful bars s.published.length
      ⟨s.header now, s.frame.take (s.header now).byteLength.toNat, s.src, s.seen, s.obs.srcW,
        s.obs.srcH⟩ := by
  have whole : s.frame.take (s.header now).byteLength.toNat = s.frame := by
    show s.frame.take (BitVec.ofNat 32 kFrameBytes).toNat = s.frame
    rw [kFrameBytes_fits, ← held.sized, List.take_length]
  rw [whole]
  refine ⟨?_, ?_, ?_, ?_⟩
  · show s.seq.toNat = s.published.length % 2 ^ 32
    rw [held.numbered, BitVec.toNat_ofNat]
  · show (BitVec.ofNat 32 kFrameBytes).toNat = s.frame.length
    rw [kFrameBytes_fits, held.sized]
  · intro kind
    exact ready.obs (SourceKind.code_inj.mp kind)
  · intro kind buf sized
    rw [fillTestPatternNV12_eq bars _ buf sized]
    exact ready.test (SourceKind.code_inj.mp kind)

theorem publish_inv {now : BitVec 64} (held : Inv bars s)
    (taken : step bars s (.publish now) = some t) : Inv bars t := by
  simp only [step] at taken
  split at taken
  next publish =>
    have settled := held.settled (Or.inr (Or.inr (Or.inr publish)))
    have faithful := held.published (held.ready publish) now
    rw [← Option.some.inj taken]
    refine ⟨held.sized, ?_, held.dstW, held.dstH, settled, nofun, nofun, nofun, ?_⟩
    · show s.seq + 1#32 = BitVec.ofNat 32 (s.published ++ [_]).length
      rw [held.numbered, List.length_append, List.length_singleton, BitVec.ofNat_add]
    · intro i p found
      rcases mem_snoc found with earlier | ⟨last, new⟩
      · exact held.faithful i p earlier
      · rw [last, new]
        exact faithful
  next => cases taken

/-- The step lemma. -/
theorem step_inv (s : State) (a : Action) (t : State) (held : Inv bars s) (sized : Sized s a)
    (taken : step bars s a = some t) : Inv bars t := by
  cases a with
  | select kind =>
      rw [← Option.some.inj taken]
      exact held.kept ⟨rfl, rfl, rfl, rfl, rfl⟩ held.capture held.fromOBS held.fromTest
        fun publish => ⟨(held.ready publish).obs, (held.ready publish).test⟩
  | quit =>
      rw [← Option.some.inj taken]
      exact held.kept ⟨rfl, rfl, rfl, rfl, rfl⟩ held.capture held.fromOBS held.fromTest
        fun publish => ⟨(held.ready publish).obs, (held.ready publish).test⟩
  | bufferCB delivery => exact bufferCB_inv held taken
  | test => exact test_inv held taken
  | load => exact load_inv held taken
  | build outcome => exact build_inv held sized taken
  | control found => exact control_inv held taken
  | ran ok => exact ran_inv held taken
  | stop => exact stop_inv held taken
  | stopped => exact stopped_inv held taken
  | clear => exact clear_inv held taken
  | fetch beyond => exact fetch_inv held taken
  | fill => exact fill_inv held taken
  | publish now => exact publish_inv held taken

/-- The hold on the graph that `Stop` needs: while the graph runs the capture has its
control, and once the thread is through there is nothing left of either. -/
def State.Leashed (s : State) : Prop :=
  match s.pc with
  | .stopping _ => True
  | .clear _ => s.graph = false
  | .finished => Idle s.obs s.graph
  | _ => s.graph = true → s.obs.control = true

theorem leashed_initial : State.initial.Leashed := nofun

theorem bufferCB_leashed {delivery : Delivery} (held : s.Leashed)
    (taken : step bars s (.bufferCB delivery) = some t) : t.Leashed := by
  unfold State.Leashed at held ⊢
  simp only [step] at taken
  split at taken
  · rename_i graph
    cases taken
    have control : (s.obs.bufferCB delivery).control = s.obs.control := by
      unfold Impl.bufferCB
      split <;> rfl
    cases here : s.pc with
    | finished =>
        rw [here] at held
        exact absurd (held.graph.symm.trans graph) Bool.false_ne_true
    | stopping after => trivial
    | clear after =>
        rw [here] at held
        exact held
    | _ =>
        rw [here] at held
        exact fun up => control.trans (held up)
  · cases taken

theorem build_leashed {outcome : Build} (held : s.Leashed)
    (taken : step bars s (.build outcome) = some t) : t.Leashed := by
  unfold State.Leashed at held ⊢
  simp only [step] at taken
  split at taken
  · rename_i here
    cases taken
    rw [here] at held
    cases outcome with
    | rendered media =>
        have control : (s.obs.connected media).control = s.obs.control := by
          cases media <;> rfl
        have hold (graph : s.graph = true) : (s.obs.connected media).control = true :=
          control.trans (held graph)
        simp only [State.built]
        by_cases small : (s.obs.connected media).srcW ≤ 0 ∨ (s.obs.connected media).srcH ≤ 0
        · rw [if_pos small]
          exact hold
        · rw [if_neg small]
          exact hold
    | _ => exact held
  · cases taken

theorem stop_leashed (held : s.Leashed) (taken : step bars s .stop = some t) : t.Leashed := by
  unfold State.Leashed at held ⊢
  simp only [step] at taken
  split at taken
  · rename_i after here
    cases taken
    rw [here] at held
    by_cases control : s.obs.control = true
    · rw [if_pos control]
      trivial
    · rw [if_neg control]
      exact Bool.eq_false_iff.mpr fun graph => control (held graph)
  · cases taken

theorem clear_leashed (held : s.Leashed) (taken : step bars s .clear = some t) : t.Leashed := by
  unfold State.Leashed at held ⊢
  simp only [step] at taken
  split at taken
  · rename_i after here
    cases taken
    rw [here] at held
    have idle : Idle s.obs.clear s.graph := ⟨rfl, rfl, held, rfl, rfl, rfl⟩
    have down (graph : s.graph = true) : s.obs.clear.control = true :=
      absurd (held.symm.trans graph) Bool.false_ne_true
    cases after with
    | exit => exact idle
    | _ => exact down
  · cases taken

theorem leashed_step (s : State) (a : Action) (t : State) (held : s.Leashed)
    (taken : step bars s a = some t) : t.Leashed := by
  cases a with
  | select | quit =>
      cases taken
      exact held
  | bufferCB delivery => exact bufferCB_leashed held taken
  | build outcome => exact build_leashed held taken
  | stop => exact stop_leashed held taken
  | clear => exact clear_leashed held taken
  | _ =>
      unfold State.Leashed at held ⊢
      simp only [step] at taken
      split at taken
      · rename_i here
        rw [here] at held
        grind [State.branch, State.fetched, State.filled, State.publish]
      · cases taken

end Invariant

/-- Every frame a run publishes is what its header announces: numbered in turn, sized,
and scaled from the newest buffer of the session or drawn from its number. -/
theorem published_faithful (bars : Int → Int × Int × Int) (actions : List Action) (s : State)
    (sized : Along (step bars) Sized .initial actions)
    (ends : run (step bars) .initial actions = some s) (i : Nat) (p : Published)
    (published : s.published[i]? = some p) : p.Faithful bars i := by
  have held : Inv bars s :=
    invariant_along step_inv actions .initial s (inv_initial bars) sized ends
  exact held.faithful i p published

/-- A frame before the first delivery, one after it, and one after a switch to the test
pattern. -/
def toggled : List Action :=
  [.test, .load, .build (.rendered (some (2, -2))), .control true, .ran true, .fetch fun _ => 0,
    .publish 0, .bufferCB ⟨some fun i => .ofNat i, 6⟩, .test, .load, .fetch fun _ => 0, .publish 1,
    .select .sourceTest, .test, .load, .stop, .stopped, .clear, .fill, .publish 2]

theorem toggled_faithful :
    ∃ s p, run (step fun _ => (0, 0, 0)) .initial toggled = some s ∧
      s.published.map (fun p => p.hdr.sourceKind) = [2#32, 1#32, 2#32] ∧
      s.published[1]? = some p ∧ p.Faithful (fun _ => (0, 0, 0)) 1 := by
  have sized : Along (step fun _ => (0, 0, 0)) Sized .initial toggled := by
    apply along_of_forall
    intro a member _ biWidth biHeight built
    rw [built] at member
    simp only [toggled, List.mem_cons, List.not_mem_nil, reduceCtorEq, or_false, false_or,
      Action.build.injEq, Build.rendered.injEq, Option.some.injEq, Prod.mk.injEq] at member
    rw [member.1, member.2]
    exact Or.inr (Or.inr (by decide))
  refine ⟨_, _, rfl, rfl, rfl, ?_⟩
  exact published_faithful _ toggled _ sized rfl 1 _ rfl

end Obs2Mf.Broker
