import Obs2Mf.Broker.EndToEnd
import Obs2Mf.Pipe.Handles

set_option autoImplicit false

/- What is left when `wWinMain` returns, and what the main thread may rely on before. -/
namespace Obs2Mf.Broker.Process

open Run

variable {C : Type}

/-- The producer thread has been joined. -/
def MainPc.producerJoined : MainPc → Bool
  | .joinTelemetry | .stopPipe | .inStop | .shutdown | .exiting => true
  | .testStop exit | .remove exit | .reset exit | .stopping exit | .stopped exit => exit
  | .exited code => code = 0
  | _ => false

def MainPc.telemetryJoined : MainPc → Bool
  | .joinTelemetry => false
  | pc => pc.producerJoined

/-- The camera between two calls: it runs, or there is none. -/
def State.Settled (s : State C) : Prop :=
  s.g_camRunning = true ∧ s.g_vcam = some true ∨ s.g_camRunning = false ∧ s.g_vcam = none

/-- The camera at each point of the main thread. -/
def State.Camera (s : State C) : Prop :=
  match s.main with
  | .start => s.g_camRunning = false ∧ s.g_vcam = some false
  | .running => s.g_camRunning = false ∧ s.g_vcam = some true
  | .started | .remove _ => s.g_camRunning = true ∧ s.g_vcam = some true
  | .reset _ => s.g_camRunning = true ∧ s.g_vcam ≠ none
  | .stopping _ => s.g_camRunning = true ∧ s.g_vcam = none
  | .test | .messages | .testStop _ | .selected _ | .quit | .joinProducer | .joinTelemetry =>
      s.Settled
  | _ => s.g_camRunning = false ∧ s.g_vcam = none

/-- The frame server at each point of the main thread. -/
def State.Serving (s : State C) : Prop :=
  match s.main with
  | .mfStartup | .startPipe | .shutdown | .exiting | .exited _ =>
      s.pipe.running = false ∧ s.pipe.owner = .idle
  | .inStop => s.pipe.running = false
  | _ => s.pipe.running = true ∧ s.pipe.owner = .idle

/-- Where the capture stands in each stage of the producer thread. -/
def State.Staged (s : State C) : Prop :=
  match s.stage with
  | .working => True
  | .announced => s.producer.pc = .publish
  | .publishing | .effective | .received | .counted => s.producer.pc = .loop

structure Phased (s : State C) : Prop where
  camera : s.Camera
  serving : s.Serving
  staged : s.Staged
  producer : s.main.producerJoined = true → s.producer.pc = .finished
  telemetry : s.main.telemetryJoined = true → s.telemetry.pc = .finished

theorem phased_initial : Phased (State.initial C) where
  camera := ⟨rfl, rfl⟩
  serving := ⟨rfl, rfl⟩
  staged := trivial
  producer := by simp [State.initial, MainPc.producerJoined]
  telemetry := by simp [State.initial, MainPc.telemetryJoined, MainPc.producerJoined]

section Steps

variable {s t : State C}

theorem MainSteps.camera (held : s.Camera) (taken : MainSteps s t) : t.Camera := by
  cases taken <;> simp_all [State.Camera, State.Settled, State.say, afterStop] <;> grind

theorem MainSteps.serving (held : s.Serving) (taken : MainSteps s t) : t.Serving := by
  cases taken with
  | startPipe here pipe called =>
      simp only [State.Serving, here] at held
      cases Pipe.ownerStep_steps called with
      | again _ running => simp [held.1] at running
      | start idle => exact ⟨rfl, idle⟩
  | stopPipe here pipe called =>
      simp only [State.Serving, here] at held
      cases Pipe.ownerStep_steps called with
      | twice _ stopped => simp [held.1] at stopped
      | stop => rfl
  | inStop here idle =>
      simp only [State.Serving, here] at held
      exact ⟨held, idle⟩
  | test here | toggle here =>
      simp only [State.Serving, here] at held
      cases running : s.g_camRunning <;> exact held
  | testStop exit here =>
      simp only [State.Serving, here] at held
      cases running : s.g_camRunning <;> cases exit <;> exact held
  | stopped exit here =>
      simp only [State.Serving, here] at held
      cases exit <;> exact held
  | autoStart here | ignored here =>
      simp only [State.Serving, here] at held
      simpa only [State.Serving, State.say, here] using held
  | _ =>
      simp only [State.Serving, *] at held
      exact held

theorem MainSteps.staged (held : s.Staged) (taken : MainSteps s t) : t.Staged := by
  have managed := taken.managed
  unfold State.Staged at held ⊢
  rw [managed.stage]
  rcases managed.producer with same | ⟨_, _, same⟩ | same
  · rw [same]
    exact held
  · rw [same]
    exact held
  · rw [same]
    exact held

/-- The threads that are joined stay as they were. -/
theorem MainSteps.joined (held : Phased s) (taken : MainSteps s t) :
    (t.main.producerJoined = true → t.producer.pc = .finished) ∧
      (t.main.telemetryJoined = true → t.telemetry.pc = .finished) := by
  have producer := held.producer
  have telemetry := held.telemetry
  cases taken with
  | joinProducer here finished => exact ⟨fun _ => finished, by simp [MainPc.telemetryJoined]⟩
  | joinTelemetry here finished =>
      rw [here] at producer
      exact ⟨fun _ => producer rfl, fun _ => finished⟩
  | testStop exit here =>
      rw [here] at producer telemetry
      cases exit
      · cases s.g_camRunning <;>
          simp [afterStop, MainPc.telemetryJoined, MainPc.producerJoined]
      · exact ⟨fun _ => producer rfl, fun _ => telemetry rfl⟩
  | stopped exit here =>
      rw [here] at producer telemetry
      cases exit
      · simp [State.say, afterStop, MainPc.telemetryJoined, MainPc.producerJoined]
      · exact ⟨fun _ => producer rfl, fun _ => telemetry rfl⟩
  | test here | toggle here =>
      cases s.g_camRunning <;> simp [MainPc.telemetryJoined, MainPc.producerJoined]
  | autoStart here | ignored here => exact ⟨producer, telemetry⟩
  | remove exit here | without exit here | reset exit here | stopping exit here
  | stopPipe here | inStop here | shutdown here | exiting here =>
      rw [here] at producer telemetry
      exact ⟨producer, telemetry⟩
  | _ => simp [State.say, MainPc.telemetryJoined, MainPc.producerJoined]

theorem own_unfinished {bars : Int → Int × Int × Int} {p q : Broker.State} {b : Broker.Action}
    (own : ownStatement b = true) (taken : Broker.step bars p b = some q) : p.pc ≠ .finished := by
  intro finished
  cases b <;> simp [Broker.step, finished, ownStatement] at taken own

theorem callback_pc {bars : Int → Int × Int × Int} {p q : Broker.State} {delivery : Delivery}
    (taken : Broker.step bars p (.bufferCB delivery) = some q) : q.pc = p.pc := by
  simp only [Broker.step] at taken
  split at taken
  · cases taken
    rfl
  · cases taken

theorem telemetry_unfinished {a : TelemetryAction} (taken : telemetryStep s a = some t) :
    s.telemetry.pc ≠ .finished := by
  intro finished
  cases a <;> simp [telemetryStep, finished] at taken

/-- A step that leaves the main thread and its camera alone. -/
theorem Phased.beside (held : Phased s) (main : t.main = s.main) (vcam : t.g_vcam = s.g_vcam)
    (running : t.g_camRunning = s.g_camRunning) (serving : t.Serving) (staged : t.Staged)
    (producer : s.producer.pc = .finished → t.producer.pc = .finished)
    (telemetry : s.telemetry.pc = .finished → t.telemetry.pc = .finished) : Phased t where
  camera := by
    have camera := held.camera
    unfold State.Camera State.Settled at camera ⊢
    rw [main, vcam, running]
    exact camera
  serving := serving
  staged := staged
  producer := by
    rw [main]
    exact fun joined => producer (held.producer joined)
  telemetry := by
    rw [main]
    exact fun joined => telemetry (held.telemetry joined)

theorem State.Serving.same (held : s.Serving) (main : t.main = s.main)
    (running : t.pipe.running = s.pipe.running) (owner : t.pipe.owner = s.pipe.owner) :
    t.Serving := by
  unfold State.Serving at held ⊢
  rw [main, running, owner]
  exact held

/-- Once the flag is clear, the rest of `Stop` leaves it so. -/
theorem State.Serving.inStop (held : s.Serving) (here : s.main = .inStop) {a : Pipe.OwnerAction}
    (inside : insideStop a = true) {pipe : Pipe.State Unit C}
    (stepped : Pipe.ownerStep s.pipe a = some pipe) :
    State.Serving { s with pipe } := by
  simp only [State.Serving, here] at held ⊢
  cases Pipe.ownerStep_steps stepped with
  | again | start | twice | stop => cases inside
  | _ => exact held

end Steps

section System

variable [DecidableEq C] {bars : Int → Int × Int × Int}

theorem phased_step (s : State C) (a : Action C) (t : State C) (held : Phased s)
    (taken : step bars s a = some t) : Phased t := by
  have staged := held.staged
  have serving := held.serving
  cases step_steps taken with
  | main a t steps =>
      have joined := steps.joined held
      exact ⟨steps.camera held.camera, steps.serving serving, steps.staged staged, joined.1,
        joined.2⟩
  | own b _ working own producer stepped =>
      refine held.beside rfl rfl rfl (serving.same rfl rfl rfl) ?_ ?_ id
      · simp only [State.Staged, working]
      · intro finished
        exact (own_unfinished own stepped finished).elim
  | announce _ _ publish =>
      have same (log : List Line) (lastReported : Option SourceKind) :
          Phased { s with stage := .announced, log, lastReported } :=
        held.beside rfl rfl rfl (serving.same rfl rfl rfl) publish id id
      unfold State.announce
      split
      · exact same _ _
      · exact same _ _
  | publish now _ f _ publish pipe called =>
      have kept := Pipe.publishStep_apart called
      refine held.beside rfl rfl rfl (serving.same rfl kept.running kept.owner) rfl ?_ id
      intro finished
      rw [publish] at finished
      cases finished
  | slot b publishing inside pipe stepped =>
      have kept := Pipe.publishStep_apart stepped
      refine held.beside rfl rfl rfl (serving.same rfl kept.running kept.owner) ?_ id id
      simp only [State.Staged, publishing] at staged
      cases b <;> exact staged
  | effective stage | received stage =>
      simp only [State.Staged, stage] at staged
      exact held.beside rfl rfl rfl (serving.same rfl rfl rfl) staged id id
  | counted stage => exact held.beside rfl rfl rfl (serving.same rfl rfl rfl) trivial id id
  | callback delivery producer stepped =>
      have pc := callback_pc stepped
      refine held.beside rfl rfl rfl (serving.same rfl rfl rfl) ?_ (fun finished => ?_) id
      · unfold State.Staged at staged ⊢
        simp only [pc]
        exact staged
      · exact pc.trans finished
  | telemetry a t stepped =>
      have unfinished := telemetry_unfinished stepped
      obtain ⟨_, _, rfl⟩ := telemetryStep_some stepped
      exact held.beside rfl rfl rfl (serving.same rfl rfl rfl) staged id
        fun finished => (unfinished finished).elim
  | inStop a here inside pipe stepped =>
      exact held.beside rfl rfl rfl (serving.inStop here inside stepped) staged id id
  | accept a pipe stepped =>
      obtain ⟨_, _, _, rfl, _⟩ := Pipe.acceptStep_some stepped
      exact held.beside rfl rfl rfl (serving.same rfl rfl rfl) staged id id
  | serve i a pipe stepped =>
      obtain ⟨conn, _, _, rfl⟩ := Pipe.serveStep_some stepped
      exact held.beside rfl rfl rfl (serving.same rfl (by simp) (by simp)) staged id id
  | fetch c a pipe stepped =>
      have kept := Pipe.fetchStep_apart stepped
      exact held.beside rfl rfl rfl (serving.same rfl kept.running kept.owner) staged id id
  | outside a pipe stepped =>
      have kept := Pipe.outsideStep_apart stepped
      exact held.beside rfl rfl rfl (serving.same rfl kept.running kept.owner) staged id id

theorem run_phased (actions : List (Action C)) (s : State C)
    (ends : run (step bars) (.initial C) actions = some s) : Phased s :=
  invariant_run phased_step actions _ s phased_initial ends

/-- What is left of the broker after an orderly exit. -/
structure Orderly (s : State C) : Prop where
  producer : s.producer.pc = .finished
  capture : Idle s.producer.obs s.producer.graph
  telemetry : s.telemetry.pc = .finished
  camera : s.g_camRunning = false ∧ s.g_vcam = none
  publisher : s.pipe.publishers () = .idle
  published : s.pipe.published.map sent = s.producer.published.map made
  returned : s.pipe.completed = s.producer.published.length
  counter : s.g_framesPublished = .ofNat 64 s.producer.published.length
  server : s.pipe.running = false ∧ s.pipe.owner = .idle ∧ s.pipe.accept = .absent
  handles : ∀ i, (s.pipe.conns i).handleOpen = true → (s.pipe.conns i).serve.holding = true

/-- However a run went, when `wWinMain` returns 0 the producer and the telemetry thread are
done, the capture is taken down, the camera is released, every `Publish` call has returned
and is counted, and the frame server has stopped; the only handles of the pipe that are still
open belong to serving threads, which nothing waits for. -/
theorem exit_orderly (bars : Int → Int × Int × Int) (actions : List (Action C)) (s : State C)
    (ends : run (step bars) (.initial C) actions = some s) (exited : s.main = .exited 0) :
    Orderly s := by
  have phased := run_phased actions s ends
  have coupled := run_coupled actions s ends
  have ledger := (Pipe.ledger_reachable (run_pipe actions s ends)).2
  have finished := phased.producer (by rw [exited]; rfl)
  have camera := phased.camera
  have serving := phased.serving
  have staged := phased.staged
  have capture := run_leashed actions s ends
  simp only [State.Camera, exited] at camera
  simp only [State.Serving, exited] at serving
  simp only [State.Leashed, finished] at capture
  have working : s.stage = .working := by
    cases stage : s.stage <;> simp_all [State.Staged]
  have publisher := coupled.resting (by rw [working]; simp)
  have content := coupled.content
  have returned := coupled.returned
  have counted := coupled.counted
  have absent := ledger.rested ⟨serving.2, serving.1⟩
  simp only [publisher, pending_idle, List.append_nil] at content
  simp only [working, Stage.unreturned, Nat.add_zero] at returned
  simp only [working, Stage.uncounted] at counted
  refine ⟨finished, capture, phased.telemetry (by rw [exited]; rfl), camera, publisher,
    content.symm, returned.symm, ?_, ⟨serving.1, serving.2, absent⟩, ?_⟩
  · rw [returned, counted]
    simp
  · intro i isOpen
    rcases (ledger.handleOpen_iff i).mp isOpen with accepting | holding
    · rw [absent] at accepting
      cases accepting
    · exact holding

end System

/-- Closed from the tray at once, with the camera running. -/
def briefSession : List (Action Unit) :=
  [.main (.call .sOk), .main .next, .main .next, .main .next, .main .next, .main (.call .sOk),
    .main (.call .sOk), .main .next, .main .next, .accept .test, .accept (.create true),
    .main (.message .quit), .main .next, .producer (.own .test), .producer (.own .stop),
    .producer (.own .clear), .telemetry (.read .published), .telemetry (.read .obsFrames),
    .telemetry (.read .src), .telemetry (.read .cam), .telemetry (.read .clients),
    .telemetry .log, .telemetry .next, .main .next, .main .next, .main .next, .main (.call .sOk),
    .main .next, .main .next, .main .next, .main .next, .owner (.poke (some 0)),
    .accept (.connected true), .owner .hangUp, .accept .recheck, .owner .join, .main .next,
    .main .next, .main .next]

theorem briefSession_orderly :
    ∃ s : State Unit, s.log = [.starting, .environment, .cameraStarted,
        .health ⟨0, true, .sourceNone, 0#64, 0#64⟩, .cameraStopped, .exiting] ∧ Orderly s :=
  ⟨_, rfl, exit_orderly (fun _ => (0, 0, 0)) briefSession _ rfl rfl⟩

end Obs2Mf.Broker.Process
