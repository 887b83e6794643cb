import Obs2Mf.Broker.Producer
import Obs2Mf.Foundation.Projection
import Obs2Mf.Hresult
import Obs2Mf.Pipe.System

set_option autoImplicit false

/- The broker as one process: `wWinMain` and its tray commands, the producer thread, the
telemetry thread, the virtual camera and the frame server, with their shared counters and
the lines they log. Each step is one statement of one thread. -/
namespace Obs2Mf.Broker.Process

open Pipe (FrameHeader Frame)

variable {C : Type}

/-- What `LogHealth` reads of the process; the figures of the machine are left out. -/
structure Health where
  clients : Int
  cam : Bool
  src : SourceKind
  obsFrames : BitVec 64
  published : BitVec 64
  deriving DecidableEq, Repr

inductive SourceLine where
  /-- "source: OBS Virtual Camera live" -/
  | live
  /-- "source: OBS unavailable - serving test pattern (auto-fallback)" -/
  | fallback
  /-- "source: test pattern" -/
  | test
  deriving DecidableEq, Repr

inductive Line where
  | starting
  | environment
  | mfStartupFailed
  | health (h : Health)
  | consumers (clients was : Int)
  | source (line : SourceLine)
  | createFailed (hr : HRESULT)
  | startFailed (hr : HRESULT)
  | cameraStarted
  | cameraStopped
  | selected (kind : SourceKind)
  | autoStart (enabled : Bool)
  | exiting
  deriving DecidableEq, Repr

/-- Where `wWinMain` stands. From `test` to `started` it is in `StartCamera`, from
`testStop` to `stopped` in `StopCamera`, called by the toggle or, if `exit`, at the end. -/
inductive MainPc where
  | mfStartup
  | startPipe
  | startProducer
  | startTelemetry
  | messages
  | test
  | create
  | start
  | running
  | started
  | testStop (exit : Bool)
  | remove (exit : Bool)
  | reset (exit : Bool)
  | stopping (exit : Bool)
  | stopped (exit : Bool)
  | selected (kind : SourceKind)
  | quit
  | joinProducer
  | joinTelemetry
  | stopPipe
  | inStop
  | shutdown
  | exiting
  | exited (code : Nat)
  deriving DecidableEq, Repr

/-- What the message loop takes out of its queue. -/
inductive Message where
  | toggle
  | source (kind : SourceKind)
  /-- `written` says whether the run key could be opened for writing. -/
  | autoStart (enabled written : Bool)
  | quit
  /-- Anything that leaves the modelled state alone: the menu, the log file, other messages. -/
  | other
  deriving DecidableEq, Repr

inductive MainAction where
  /-- A statement whose outcome is settled by the state. -/
  | next
  /-- A call into Media Foundation with its result. -/
  | call (hr : HRESULT)
  | message (m : Message)
  deriving DecidableEq, Repr

/-- Where the producer stands between the steps of its capture: it still works on the
frame, has logged its source, is in `Publish`, or has yet to store one of the counters. -/
inductive Stage where
  | working
  | announced
  | publishing
  | effective
  | received
  | counted
  deriving DecidableEq, Repr

/-- The arguments of `Logf` in `LogHealth`, which are evaluated in an unspecified order. -/
structure Reading where
  clients : Option Int
  cam : Option Bool
  src : Option SourceKind
  obsFrames : Option (BitVec 64)
  published : Option (BitVec 64)
  deriving DecidableEq, Repr

def Reading.none : Reading := ⟨.none, .none, .none, .none, .none⟩

/-- The argument that is evaluated next. -/
inductive Field where
  | clients
  | cam
  | src
  | obsFrames
  | published
  deriving DecidableEq, Repr

inductive TelemetryPc where
  | absent
  | health (r : Reading)
  | loop
  | wait (i : Nat)
  | recheck
  | poll
  | report (clients : Int)
  | tick
  | finished
  deriving DecidableEq, Repr

structure Telemetry where
  pc : TelemetryPc
  lastClients : Int
  sec : BitVec 32
  deriving DecidableEq, Repr

inductive TelemetryAction where
  | next
  | read (field : Field)
  | log
  deriving DecidableEq, Repr

/-- `g_vcam` is the started flag of the object it holds. -/
structure State (C : Type) where
  main : MainPc
  producing : Bool
  producer : Broker.State
  stage : Stage
  lastReported : Option SourceKind
  telemetry : Telemetry
  pipe : Pipe.State Unit C
  g_vcam : Option Bool
  g_camRunning : Bool
  g_effectiveSource : SourceKind
  g_obsFramesRcvd : BitVec 64
  g_framesPublished : BitVec 64
  log : List Line

def State.initial (C : Type) : State C where
  main := .mfStartup
  producing := false
  producer := .initial
  stage := .working
  lastReported := none
  telemetry := ⟨.absent, 0, 0#32⟩
  pipe := .initial Unit C
  g_vcam := none
  g_camRunning := false
  g_effectiveSource := .sourceNone
  g_obsFramesRcvd := 0#64
  g_framesPublished := 0#64
  log := [.starting, .environment]

def State.say (s : State C) (line : Line) : State C := { s with log := s.log ++ [line] }

/-- Back from `StopCamera`. -/
def afterStop (exit : Bool) : MainPc := if exit then .stopPipe else .messages

def mainNext (s : State C) : Option (State C) :=
  match s.main with
  | .startPipe => (Pipe.ownerStep s.pipe .start).map fun pipe =>
      { s with pipe, main := .startProducer }
  | .startProducer => some { s with producing := true, main := .startTelemetry }
  | .startTelemetry =>
      some { s with telemetry := { s.telemetry with pc := .health .none }, main := .test }
  | .test => some { s with main := if s.g_camRunning then .messages else .create }
  | .running => some { s with g_camRunning := true, main := .started }
  | .started => some (State.say { s with main := .messages } .cameraStarted)
  | .testStop exit =>
      some { s with main := if s.g_camRunning then .remove exit else afterStop exit }
  | .remove exit => if s.g_vcam = none then some { s with main := .stopping exit } else none
  | .reset exit => some { s with g_vcam := none, main := .stopping exit }
  | .stopping exit => some { s with g_camRunning := false, main := .stopped exit }
  | .stopped exit => some (State.say { s with main := afterStop exit } .cameraStopped)
  | .selected kind => some (State.say { s with main := .messages } (.selected kind))
  | .quit => some { s with producer := { s.producer with g_quit := true }, main := .joinProducer }
  | .joinProducer =>
      if s.producer.pc = .finished then some { s with main := .joinTelemetry } else none
  | .joinTelemetry =>
      if s.telemetry.pc = .finished then some { s with main := .testStop true } else none
  | .stopPipe => (Pipe.ownerStep s.pipe .stop).map fun pipe => { s with pipe, main := .inStop }
  | .inStop => if s.pipe.owner = .idle then some { s with main := .shutdown } else none
  | .shutdown => some { s with g_vcam := none, main := .exiting }
  | .exiting => some (State.say { s with main := .exited 0 } .exiting)
  | _ => none

/-- The calls of Media Foundation. A second object in `g_vcam` would release the first;
`Remove` is not checked. -/
def mainCall (s : State C) (hr : HRESULT) : Option (State C) :=
  match s.main with
  | .mfStartup =>
      if hr.failed then some (State.say { s with main := .exited 1 } .mfStartupFailed)
      else some { s with main := .startPipe }
  | .create =>
      if hr.failed then
        some (State.say { s with g_vcam := none, main := .messages } (.createFailed hr))
      else some { s with g_vcam := some false, main := .start }
  | .start =>
      if hr.failed then
        some (State.say { s with g_vcam := none, main := .messages } (.startFailed hr))
      else some { s with g_vcam := some true, main := .running }
  | .remove exit =>
      match s.g_vcam with
      | some started => some { s with
          g_vcam := some (if hr.failed then started else false), main := .reset exit }
      | none => none
  | _ => none

def dispatch (s : State C) : Message → State C
  | .toggle => { s with main := if s.g_camRunning then .testStop false else .test }
  | .source kind =>
      { s with producer := { s.producer with g_source := kind }, main := .selected kind }
  | .autoStart enabled written => if written then s.say (.autoStart enabled) else s
  | .quit => { s with main := .quit }
  | .other => s

/-- The tray offers two sources. -/
def Message.Offered : Message → Prop
  | .source kind => kind = .sourceOBS ∨ kind = .sourceTest
  | _ => True

instance : ∀ m : Message, Decidable m.Offered
  | .source kind => inferInstanceAs (Decidable (kind = .sourceOBS ∨ kind = .sourceTest))
  | .toggle | .autoStart _ _ | .quit | .other => isTrue trivial

def mainStep (s : State C) : MainAction → Option (State C)
  | .next => mainNext s
  | .call hr => mainCall s hr
  | .message m => if s.main = .messages ∧ m.Offered then some (dispatch s m) else none

/-- The steps of the producer thread: those of its capture and its frame buffer, then the
line about its source, `Publish` and what it does inside, and the counters. -/
inductive ProducerAction where
  | own (a : Broker.Action)
  | announce
  | publish (now : BitVec 64)
  | slot (a : Pipe.PublishAction)
  | store

/-- The statements that touch nothing but the capture and the thread's own variables. -/
def ownStatement : Broker.Action → Bool
  | .select _ | .quit | .bufferCB _ | .publish _ => false
  | _ => true

def sourceLine (src reported : SourceKind) : SourceLine :=
  if src = .sourceOBS ∧ reported = .sourceOBS then .live
  else if src = .sourceOBS ∧ reported = .sourceTest then .fallback
  else .test

def State.announce (s : State C) : State C :=
  let announced := { s with stage := .announced }
  if some s.producer.reported = s.lastReported then announced
  else State.say { announced with lastReported := some s.producer.reported }
    (.source (sourceLine s.producer.src s.producer.reported))

/-- What `Publish` is given. It reads `byteLength` bytes of the buffer, which must be there. -/
def frameOf (s : Broker.State) (now : BitVec 64) : Option Frame :=
  let hdr := s.header now
  let payload := s.frame.take hdr.byteLength.toNat
  if sized : payload.length = hdr.byteLength.toNat then some ⟨hdr, payload, sized⟩ else none

def afterSlot : Pipe.PublishAction → Stage
  | .unlock => .effective
  | _ => .publishing

def isCall : Pipe.PublishAction → Bool
  | .call _ => true
  | _ => false

def producerStep (bars : Int → Int × Int × Int) (s : State C) : ProducerAction → Option (State C)
  | .own a =>
      if s.producing ∧ s.stage = .working ∧ ownStatement a then
        (Broker.step bars s.producer a).map fun producer => { s with producer }
      else none
  | .announce =>
      if s.producing ∧ s.stage = .working ∧ s.producer.pc = .publish then some s.announce else none
  | .publish now =>
      if s.stage = .announced then
        match frameOf s.producer now, Broker.step bars s.producer (.publish now) with
        | some f, some producer => (Pipe.publishStep s.pipe () (.call f)).map fun pipe =>
            { s with producer, pipe, stage := .publishing }
        | _, _ => none
      else none
  | .slot a =>
      if s.stage = .publishing ∧ isCall a = false then
        (Pipe.publishStep s.pipe () a).map fun pipe => { s with pipe, stage := afterSlot a }
      else none
  | .store =>
      match s.stage with
      | .effective =>
          some { s with g_effectiveSource := s.producer.reported, stage := .received }
      | .received => some { s with g_obsFramesRcvd := s.producer.obs.frames, stage := .counted }
      | .counted =>
          some { s with g_framesPublished := s.g_framesPublished + 1#64, stage := .working }
      | _ => none

/-- Each argument is evaluated once. -/
def Reading.read (r : Reading) (s : State C) : Field → Option Reading
  | .clients => if r.clients = .none then some { r with clients := s.pipe.clientCount } else .none
  | .cam => if r.cam = .none then some { r with cam := s.g_camRunning } else .none
  | .src => if r.src = .none then some { r with src := s.g_effectiveSource } else .none
  | .obsFrames =>
      if r.obsFrames = .none then some { r with obsFrames := s.g_obsFramesRcvd } else .none
  | .published =>
      if r.published = .none then some { r with published := s.g_framesPublished } else .none

def Reading.complete (r : Reading) : Option Health :=
  match r.clients, r.cam, r.src, r.obsFrames, r.published with
  | some clients, some cam, some src, some obsFrames, some published =>
      some ⟨clients, cam, src, obsFrames, published⟩
  | _, _, _, _, _ => .none

def State.at (s : State C) (pc : TelemetryPc) : State C :=
  { s with telemetry := { s.telemetry with pc } }

def telemetryStep (s : State C) : TelemetryAction → Option (State C)
  | .next =>
      match s.telemetry.pc with
      | .loop => some (s.at (if s.producer.g_quit then .finished else .wait 0))
      | .wait i =>
          some (s.at (if i < 10 ∧ s.producer.g_quit = false then .wait (i + 1) else .recheck))
      | .recheck => some (s.at (if s.producer.g_quit then .finished else .poll))
      | .poll =>
          let clients := s.pipe.clientCount
          some (s.at (if clients ≠ s.telemetry.lastClients then .report clients else .tick))
      | .tick =>
          let sec := s.telemetry.sec + 1#32
          let pc := if sec.toNat % 60 = 0 then .health .none else .loop
          some { s with telemetry := { s.telemetry with sec, pc } }
      | _ => none
  | .read field =>
      match s.telemetry.pc with
      | .health r => (r.read s field).map fun r => s.at (.health r)
      | _ => none
  | .log =>
      match s.telemetry.pc with
      | .health r => r.complete.map fun h => (s.at .loop).say (.health h)
      | .report clients =>
          some (State.say
            { s with telemetry := { s.telemetry with pc := .tick, lastClients := clients } }
            (.consumers clients s.telemetry.lastClients))
      | _ => none

inductive Action (C : Type) where
  | main (a : MainAction)
  | producer (a : ProducerAction)
  | callback (delivery : Delivery)
  | telemetry (a : TelemetryAction)
  | owner (a : Pipe.OwnerAction)
  | accept (a : Pipe.AcceptAction)
  | serve (i : Nat) (a : Pipe.ServeAction)
  | fetch (c : C) (a : Pipe.FetchAction)
  | outside (a : Pipe.OutsideAction)

def MainPc.gone : MainPc → Bool
  | .exited _ => true
  | _ => false

/-- What `Stop` does after it has cleared the flag. -/
def insideStop : Pipe.OwnerAction → Bool
  | .start | .stop => false
  | _ => true

/-- When `wWinMain` returns, the process ends with all its threads. -/
def step [DecidableEq C] (bars : Int → Int × Int × Int) (s : State C) (a : Action C) :
    Option (State C) :=
  if s.main.gone then none
  else match a with
    | .main a => mainStep s a
    | .producer a => producerStep bars s a
    | .callback delivery => (Broker.step bars s.producer (.bufferCB delivery)).map fun producer =>
        { s with producer }
    | .telemetry a => telemetryStep s a
    | .owner a =>
        if s.main = .inStop ∧ insideStop a then
          (Pipe.ownerStep s.pipe a).map fun pipe => { s with pipe }
        else none
    | .accept a => (Pipe.acceptStep s.pipe a).map fun pipe => { s with pipe }
    | .serve i a => (Pipe.serveStep s.pipe i a).map fun pipe => { s with pipe }
    | .fetch c a => (Pipe.fetchStep s.pipe c a).map fun pipe => { s with pipe }
    | .outside a => (Pipe.outsideStep s.pipe a).map fun pipe => { s with pipe }

end Obs2Mf.Broker.Process
