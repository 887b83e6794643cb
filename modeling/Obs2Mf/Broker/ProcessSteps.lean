import Obs2Mf.Broker.Process

set_option autoImplicit false

/- The steps of the process by their guards and effects, first the main thread's. -/
namespace Obs2Mf.Broker.Process

open Pipe (Frame)

variable {C : Type}

/-- What `wWinMain` and its window procedure can do in one step. -/
inductive MainSteps (s : State C) : State C → Prop
  | mfStartup (here : s.main = .mfStartup) : MainSteps s { s with main := .startPipe }
  | mfStartupFailed (here : s.main = .mfStartup) :
      MainSteps s (State.say { s with main := .exited 1 } .mfStartupFailed)
  | startPipe (here : s.main = .startPipe) (pipe : Pipe.State Unit C)
      (called : Pipe.ownerStep s.pipe .start = some pipe) :
      MainSteps s { s with pipe, main := .startProducer }
  | startProducer (here : s.main = .startProducer) :
      MainSteps s { s with producing := true, main := .startTelemetry }
  | startTelemetry (here : s.main = .startTelemetry) : MainSteps s
      { s with telemetry := { s.telemetry with pc := .health .none }, main := .test }
  | test (here : s.main = .test) :
      MainSteps s { s with main := if s.g_camRunning then .messages else .create }
  | createFailed (here : s.main = .create) (hr : HRESULT) :
      MainSteps s (State.say { s with g_vcam := none, main := .messages } (.createFailed hr))
  | create (here : s.main = .create) :
      MainSteps s { s with g_vcam := some false, main := .start }
  | startFailed (here : s.main = .start) (hr : HRESULT) :
      MainSteps s (State.say { s with g_vcam := none, main := .messages } (.startFailed hr))
  | start (here : s.main = .start) : MainSteps s { s with g_vcam := some true, main := .running }
  | running (here : s.main = .running) :
      MainSteps s { s with g_camRunning := true, main := .started }
  | started (here : s.main = .started) :
      MainSteps s (State.say { s with main := .messages } .cameraStarted)
  | testStop (exit : Bool) (here : s.main = .testStop exit) :
      MainSteps s { s with main := if s.g_camRunning then .remove exit else afterStop exit }
  | remove (exit : Bool) (here : s.main = .remove exit) (started : Bool) :
      MainSteps s { s with g_vcam := some started, main := .reset exit }
  | without (exit : Bool) (here : s.main = .remove exit) (none : s.g_vcam = none) :
      MainSteps s { s with main := .stopping exit }
  | reset (exit : Bool) (here : s.main = .reset exit) :
      MainSteps s { s with g_vcam := none, main := .stopping exit }
  | stopping (exit : Bool) (here : s.main = .stopping exit) :
      MainSteps s { s with g_camRunning := false, main := .stopped exit }
  | stopped (exit : Bool) (here : s.main = .stopped exit) :
      MainSteps s (State.say { s with main := afterStop exit } .cameraStopped)
  | toggle (here : s.main = .messages) :
      MainSteps s { s with main := if s.g_camRunning then .testStop false else .test }
  | source (here : s.main = .messages) (kind : SourceKind)
      (offered : kind = .sourceOBS ∨ kind = .sourceTest) : MainSteps s
      { s with producer := { s.producer with g_source := kind }, main := .selected kind }
  | selected (kind : SourceKind) (here : s.main = .selected kind) :
      MainSteps s (State.say { s with main := .messages } (.selected kind))
  | autoStart (here : s.main = .messages) (enabled : Bool) :
      MainSteps s (s.say (.autoStart enabled))
  | ignored (here : s.main = .messages) : MainSteps s s
  | leave (here : s.main = .messages) : MainSteps s { s with main := .quit }
  | quit (here : s.main = .quit) : MainSteps s
      { s with producer := { s.producer with g_quit := true }, main := .joinProducer }
  | joinProducer (here : s.main = .joinProducer) (finished : s.producer.pc = .finished) :
      MainSteps s { s with main := .joinTelemetry }
  | joinTelemetry (here : s.main = .joinTelemetry) (finished : s.telemetry.pc = .finished) :
      MainSteps s { s with main := .testStop true }
  | stopPipe (here : s.main = .stopPipe) (pipe : Pipe.State Unit C)
      (called : Pipe.ownerStep s.pipe .stop = some pipe) :
      MainSteps s { s with pipe, main := .inStop }
  | inStop (here : s.main = .inStop) (idle : s.pipe.owner = .idle) :
      MainSteps s { s with main := .shutdown }
  | shutdown (here : s.main = .shutdown) : MainSteps s { s with g_vcam := none, main := .exiting }
  | exiting (here : s.main = .exiting) :
      MainSteps s (State.say { s with main := .exited 0 } .exiting)

section Inversion

variable {s t : State C}

theorem mainNext_steps (taken : mainNext s = some t) : MainSteps s t := by
  cases here : s.main with
  | startPipe =>
      simp only [mainNext, here] at taken
      obtain ⟨pipe, called, rfl⟩ := Option.map_eq_some_iff.mp taken
      exact .startPipe here pipe called
  | stopPipe =>
      simp only [mainNext, here] at taken
      obtain ⟨pipe, called, rfl⟩ := Option.map_eq_some_iff.mp taken
      exact .stopPipe here pipe called
  | remove exit =>
      simp only [mainNext, here] at taken
      split at taken
      · rename_i none
        cases taken
        exact .without exit here none
      · cases taken
  | joinProducer =>
      simp only [mainNext, here] at taken
      split at taken
      · rename_i finished
        cases taken
        exact .joinProducer here finished
      · cases taken
  | joinTelemetry =>
      simp only [mainNext, here] at taken
      split at taken
      · rename_i finished
        cases taken
        exact .joinTelemetry here finished
      · cases taken
  | inStop =>
      simp only [mainNext, here] at taken
      split at taken
      · rename_i idle
        cases taken
        exact .inStop here idle
      · cases taken
  | mfStartup | messages | create | start | exited code =>
      simp only [mainNext, here, reduceCtorEq] at taken
  | startProducer | startTelemetry | test | running | started | testStop exit | reset exit
  | stopping exit | stopped exit | selected kind | quit | shutdown | exiting =>
      simp only [mainNext, here, Option.some.injEq] at taken
      subst taken
      first
        | exact .startProducer here
        | exact .startTelemetry here
        | exact .test here
        | exact .running here
        | exact .started here
        | exact .testStop _ here
        | exact .reset _ here
        | exact .stopping _ here
        | exact .stopped _ here
        | exact .selected _ here
        | exact .quit here
        | exact .shutdown here
        | exact .exiting here

theorem mainCall_steps {hr : HRESULT} (taken : mainCall s hr = some t) : MainSteps s t := by
  cases here : s.main with
  | mfStartup =>
      simp only [mainCall, here] at taken
      split at taken
      · cases taken
        exact .mfStartupFailed here
      · cases taken
        exact .mfStartup here
  | create =>
      simp only [mainCall, here] at taken
      split at taken
      · cases taken
        exact .createFailed here hr
      · cases taken
        exact .create here
  | start =>
      simp only [mainCall, here] at taken
      split at taken
      · cases taken
        exact .startFailed here hr
      · cases taken
        exact .start here
  | remove exit =>
      simp only [mainCall, here] at taken
      split at taken
      · cases taken
        exact .remove exit here _
      · cases taken
  | _ => simp only [mainCall, here, reduceCtorEq] at taken

theorem dispatch_steps {m : Message} (here : s.main = .messages) (offered : m.Offered) :
    MainSteps s (dispatch s m) := by
  cases m with
  | toggle => exact .toggle here
  | source kind => exact .source here kind offered
  | autoStart enabled written =>
      simp only [dispatch]
      split
      · exact .autoStart here enabled
      · exact .ignored here
  | quit => exact .leave here
  | other => exact .ignored here

theorem mainStep_steps {a : MainAction} (taken : mainStep s a = some t) : MainSteps s t := by
  cases a with
  | next => exact mainNext_steps taken
  | call hr => exact mainCall_steps taken
  | message m =>
      simp only [mainStep] at taken
      split at taken
      · rename_i loop
        cases taken
        exact dispatch_steps loop.1 loop.2
      · cases taken

end Inversion

/-- What the main thread leaves to the others. -/
structure Managed (s t : State C) : Prop where
  stage : t.stage = s.stage
  lastReported : t.lastReported = s.lastReported
  effective : t.g_effectiveSource = s.g_effectiveSource
  received : t.g_obsFramesRcvd = s.g_obsFramesRcvd
  framesPublished : t.g_framesPublished = s.g_framesPublished
  producer : t.producer = s.producer ∨
    (∃ kind, (kind = .sourceOBS ∨ kind = .sourceTest) ∧
      t.producer = { s.producer with g_source := kind }) ∨
    t.producer = { s.producer with g_quit := true }
  pipe : t.pipe = s.pipe ∨ ∃ a, Pipe.ownerStep s.pipe a = some t.pipe

theorem MainSteps.managed {s t : State C} (taken : MainSteps s t) : Managed s t := by
  cases taken with
  | startPipe _ _ called | stopPipe _ _ called =>
      exact ⟨rfl, rfl, rfl, rfl, rfl, Or.inl rfl, Or.inr ⟨_, called⟩⟩
  | source _ kind offered =>
      exact ⟨rfl, rfl, rfl, rfl, rfl, Or.inr (Or.inl ⟨kind, offered, rfl⟩), Or.inl rfl⟩
  | quit => exact ⟨rfl, rfl, rfl, rfl, rfl, Or.inr (Or.inr rfl), Or.inl rfl⟩
  | _ => exact ⟨rfl, rfl, rfl, rfl, rfl, Or.inl rfl, Or.inl rfl⟩

/-- The telemetry thread only reads what the others write. -/
theorem telemetryStep_some {s t : State C} {a : TelemetryAction}
    (taken : telemetryStep s a = some t) : ∃ telemetry log, t = { s with telemetry, log } := by
  cases a with
  | next =>
      simp only [telemetryStep] at taken
      split at taken <;> cases taken
      all_goals exact ⟨_, _, rfl⟩
  | read field =>
      simp only [telemetryStep] at taken
      split at taken
      · obtain ⟨r, _, rfl⟩ := Option.map_eq_some_iff.mp taken
        exact ⟨_, _, rfl⟩
      · cases taken
  | log =>
      simp only [telemetryStep] at taken
      split at taken
      · obtain ⟨h, _, rfl⟩ := Option.map_eq_some_iff.mp taken
        exact ⟨_, _, rfl⟩
      · cases taken
        exact ⟨_, _, rfl⟩
      · cases taken

/-- What the process can do in one step. -/
inductive Steps [DecidableEq C] (bars : Int → Int × Int × Int) (s : State C) :
    Action C → State C → Prop
  | main (a : MainAction) (t : State C) (steps : MainSteps s t) : Steps bars s (.main a) t
  | own (b : Broker.Action) (producing : s.producing = true) (working : s.stage = .working)
      (own : ownStatement b = true) (producer : Broker.State)
      (stepped : Broker.step bars s.producer b = some producer) :
      Steps bars s (.producer (.own b)) { s with producer }
  | announce (producing : s.producing = true) (working : s.stage = .working)
      (publish : s.producer.pc = .publish) : Steps bars s (.producer .announce) s.announce
  | publish (now : BitVec 64) (announced : s.stage = .announced) (f : Frame)
      (given : frameOf s.producer now = some f) (publish : s.producer.pc = .publish)
      (pipe : Pipe.State Unit C) (called : Pipe.publishStep s.pipe () (.call f) = some pipe) :
      Steps bars s (.producer (.publish now))
        { s with producer := s.producer.publish now, pipe, stage := .publishing }
  | slot (b : Pipe.PublishAction) (publishing : s.stage = .publishing) (inside : isCall b = false)
      (pipe : Pipe.State Unit C) (stepped : Pipe.publishStep s.pipe () b = some pipe) :
      Steps bars s (.producer (.slot b)) { s with pipe, stage := afterSlot b }
  | effective (stage : s.stage = .effective) : Steps bars s (.producer .store)
      { s with g_effectiveSource := s.producer.reported, stage := .received }
  | received (stage : s.stage = .received) : Steps bars s (.producer .store)
      { s with g_obsFramesRcvd := s.producer.obs.frames, stage := .counted }
  | counted (stage : s.stage = .counted) : Steps bars s (.producer .store)
      { s with g_framesPublished := s.g_framesPublished + 1#64, stage := .working }
  | callback (delivery : Delivery) (producer : Broker.State)
      (stepped : Broker.step bars s.producer (.bufferCB delivery) = some producer) :
      Steps bars s (.callback delivery) { s with producer }
  | telemetry (a : TelemetryAction) (t : State C) (stepped : telemetryStep s a = some t) :
      Steps bars s (.telemetry a) t
  | inStop (a : Pipe.OwnerAction) (here : s.main = .inStop) (inside : insideStop a = true)
      (pipe : Pipe.State Unit C) (stepped : Pipe.ownerStep s.pipe a = some pipe) :
      Steps bars s (.owner a) { s with pipe }
  | accept (a : Pipe.AcceptAction) (pipe : Pipe.State Unit C)
      (stepped : Pipe.acceptStep s.pipe a = some pipe) : Steps bars s (.accept a) { s with pipe }
  | serve (i : Nat) (a : Pipe.ServeAction) (pipe : Pipe.State Unit C)
      (stepped : Pipe.serveStep s.pipe i a = some pipe) : Steps bars s (.serve i a) { s with pipe }
  | fetch (c : C) (a : Pipe.FetchAction) (pipe : Pipe.State Unit C)
      (stepped : Pipe.fetchStep s.pipe c a = some pipe) : Steps bars s (.fetch c a) { s with pipe }
  | outside (a : Pipe.OutsideAction) (pipe : Pipe.State Unit C)
      (stepped : Pipe.outsideStep s.pipe a = some pipe) : Steps bars s (.outside a) { s with pipe }

section System

variable [DecidableEq C] {bars : Int → Int × Int × Int} {s t : State C}

theorem producerStep_steps {a : ProducerAction} (taken : producerStep bars s a = some t) :
    Steps bars s (.producer a) t := by
  cases a with
  | own b =>
      simp only [producerStep] at taken
      split at taken
      · rename_i ready
        obtain ⟨producer, stepped, rfl⟩ := Option.map_eq_some_iff.mp taken
        exact .own b ready.1 ready.2.1 ready.2.2 producer stepped
      · cases taken
  | announce =>
      simp only [producerStep] at taken
      split at taken
      · rename_i ready
        cases taken
        exact .announce ready.1 ready.2.1 ready.2.2
      · cases taken
  | publish now =>
      simp only [producerStep] at taken
      split at taken
      · rename_i announced
        split at taken
        · rename_i f producer given stepped
          obtain ⟨pipe, called, rfl⟩ := Option.map_eq_some_iff.mp taken
          simp only [Broker.step] at stepped
          split at stepped
          · rename_i publish
            cases stepped
            exact .publish now announced f given publish pipe called
          · cases stepped
        · cases taken
      · cases taken
  | slot b =>
      simp only [producerStep] at taken
      split at taken
      · rename_i ready
        obtain ⟨pipe, stepped, rfl⟩ := Option.map_eq_some_iff.mp taken
        exact .slot b ready.1 ready.2 pipe stepped
      · cases taken
  | store =>
      simp only [producerStep] at taken
      split at taken
      · rename_i stage
        cases taken
        exact .effective stage
      · rename_i stage
        cases taken
        exact .received stage
      · rename_i stage
        cases taken
        exact .counted stage
      · cases taken

theorem step_gone {a : Action C} (taken : step bars s a = some t) : s.main.gone = false := by
  cases gone : s.main.gone with
  | true =>
      simp only [step, gone, ↓reduceIte] at taken
      cases taken
  | false => rfl

theorem step_steps {a : Action C} (taken : step bars s a = some t) : Steps bars s a t := by
  have running := step_gone taken
  simp only [step, running, Bool.false_eq_true, ↓reduceIte] at taken
  cases a with
  | main a => exact .main a t (mainStep_steps taken)
  | producer a => exact producerStep_steps taken
  | callback delivery =>
      obtain ⟨producer, stepped, rfl⟩ := Option.map_eq_some_iff.mp taken
      exact .callback delivery producer stepped
  | telemetry a => exact .telemetry a t taken
  | owner a =>
      simp only at taken
      split at taken
      · rename_i stopping
        obtain ⟨pipe, stepped, rfl⟩ := Option.map_eq_some_iff.mp taken
        exact .inStop a stopping.1 stopping.2 pipe stepped
      · cases taken
  | accept a =>
      obtain ⟨pipe, stepped, rfl⟩ := Option.map_eq_some_iff.mp taken
      exact .accept a pipe stepped
  | serve i a =>
      obtain ⟨pipe, stepped, rfl⟩ := Option.map_eq_some_iff.mp taken
      exact .serve i a pipe stepped
  | fetch c a =>
      obtain ⟨pipe, stepped, rfl⟩ := Option.map_eq_some_iff.mp taken
      exact .fetch c a pipe stepped
  | outside a =>
      obtain ⟨pipe, stepped, rfl⟩ := Option.map_eq_some_iff.mp taken
      exact .outside a pipe stepped

end System

end Obs2Mf.Broker.Process
