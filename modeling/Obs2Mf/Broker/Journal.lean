import Obs2Mf.Broker.Shutdown
import Obs2Mf.Foundation.Entries

set_option autoImplicit false

/- What the log says of a run. Three threads add to one log; each line is about a change,
and a reader of the lines of one kind can tell the states the process went through. -/
namespace Obs2Mf.Broker.Process

open Entries
open Run

variable {C : Type}

/-- The threads that log. -/
inductive Speaker where
  | main
  | producer
  | telemetry
  deriving DecidableEq, Repr

def Line.speaker : Line → Speaker
  | .health _ | .consumers _ _ => .telemetry
  | .source _ => .producer
  | _ => .main

def Action.speaker : Action C → Option Speaker
  | .main _ => some .main
  | .producer _ => some .producer
  | .telemetry _ => some .telemetry
  | _ => none

/-- "Virtual camera 'OBS2MF Camera' started" or "Virtual camera stopped". -/
def Line.turned : Line → Option Bool
  | .cameraStarted => some true
  | .cameraStopped => some false
  | _ => none

def Line.sourceLine : Line → Option SourceLine
  | .source line => some line
  | _ => none

/-- How many consumers are streaming, and how many were. -/
def Line.streaming : Line → Option (Int × Int)
  | .consumers clients was => some (clients, was)
  | _ => none

def Line.snapshot : Line → Option Health
  | .health h => some h
  | _ => none

section Said

variable {s t : State C}

/-- What a step of one thread adds to the log. -/
def Said (who : Option Speaker) (s t : State C) : Prop :=
  ∃ lines, t.log = s.log ++ lines ∧ ∀ line ∈ lines, who = some line.speaker

theorem Said.nothing {who : Option Speaker} (same : t.log = s.log) : Said who s t :=
  ⟨[], by rw [same, List.append_nil], by simp⟩

theorem Said.line {who : Option Speaker} {line : Line} (added : t.log = s.log ++ [line])
    (speaker : who = some line.speaker) : Said who s t := by
  refine ⟨[line], added, ?_⟩
  intro other member
  rw [List.mem_singleton.mp member]
  exact speaker

theorem MainSteps.said (taken : MainSteps s t) : Said (some .main) s t := by
  cases taken with
  | mfStartupFailed | createFailed | startFailed | started | stopped | selected | autoStart
  | exiting => exact .line rfl rfl
  | _ => exact .nothing rfl

theorem telemetryStep_said {a : TelemetryAction} (taken : telemetryStep s a = some t) :
    Said (some .telemetry) s t := by
  cases a with
  | next =>
      simp only [telemetryStep] at taken
      split at taken <;> cases taken <;> exact .nothing rfl
  | read field =>
      simp only [telemetryStep] at taken
      split at taken
      · obtain ⟨r, _, rfl⟩ := Option.map_eq_some_iff.mp taken
        exact .nothing rfl
      · cases taken
  | log =>
      simp only [telemetryStep] at taken
      split at taken
      · obtain ⟨h, _, rfl⟩ := Option.map_eq_some_iff.mp taken
        exact .line rfl rfl
      · cases taken
        exact .line rfl rfl
      · cases taken

theorem step_said [DecidableEq C] {bars : Int → Int × Int × Int} {a : Action C}
    (taken : step bars s a = some t) : Said a.speaker s t := by
  cases step_steps taken with
  | main a t steps => exact steps.said
  | announce =>
      unfold State.announce
      split
      · exact .nothing rfl
      · exact .line rfl rfl
  | telemetry a t stepped => exact telemetryStep_said stepped
  | _ => exact .nothing rfl

/-- Who does not listen to a thread hears nothing new of its steps. -/
theorem Said.unheard {β : Type} {who : Option Speaker} (said : Said who s t)
    (hear : Line → Option β) (deaf : ∀ line, who = some line.speaker → hear line = none) :
    t.log.filterMap hear = s.log.filterMap hear := by
  obtain ⟨lines, added, speakers⟩ := said
  have nothing : lines.filterMap hear = [] := by
    apply List.filterMap_eq_nil_iff.mpr
    intro line member
    exact deaf line (speakers line member)
  rw [added, List.filterMap_append, nothing, List.append_nil]

end Said

theorem turned_main {who : Option Speaker} (other : who ≠ some .main) (line : Line)
    (speaker : who = some line.speaker) : line.turned = none := by
  subst speaker
  cases line <;> simp_all [Line.speaker, Line.turned]

theorem sourceLine_producer {who : Option Speaker} (other : who ≠ some .producer) (line : Line)
    (speaker : who = some line.speaker) : line.sourceLine = none := by
  subst speaker
  cases line <;> simp_all [Line.speaker, Line.sourceLine]

theorem streaming_telemetry {who : Option Speaker} (other : who ≠ some .telemetry) (line : Line)
    (speaker : who = some line.speaker) : line.streaming = none := by
  subst speaker
  cases line <;> simp_all [Line.speaker, Line.streaming]

theorem snapshot_telemetry {who : Option Speaker} (other : who ≠ some .telemetry) (line : Line)
    (speaker : who = some line.speaker) : line.snapshot = none := by
  subst speaker
  cases line <;> simp_all [Line.speaker, Line.snapshot]

section Camera

/-- What the log says of the camera. -/
def State.turns (s : State C) : List Bool := s.log.filterMap Line.turned

/-- The state of the camera that was logged last: the flag, but for the lines that are due. -/
def State.lastTurn (s : State C) : Bool :=
  match s.main with
  | .started => false
  | .stopped _ => true
  | _ => s.g_camRunning

structure Turned (s : State C) : Prop where
  chain : (false :: s.turns).IsChain (· ≠ ·)
  last : (false :: s.turns).getLast? = some s.lastTurn

theorem turned_initial : Turned (State.initial C) where
  chain := List.isChain_singleton false
  last := rfl

variable {s t : State C}

/-- The main thread logs each turn of the camera once. -/
theorem MainSteps.turns (held : s.Camera) (taken : MainSteps s t) :
    t.turns = s.turns ∧ t.lastTurn = s.lastTurn ∨
      t.turns = s.turns ++ [t.lastTurn] ∧ t.lastTurn ≠ s.lastTurn := by
  cases taken <;>
    simp_all [State.Camera, State.turns, State.lastTurn, State.say, Line.turned, afterStop] <;>
    grind

theorem Turned.same (held : Turned s) (turns : t.turns = s.turns)
    (last : t.lastTurn = s.lastTurn) : Turned t where
  chain := by
    rw [turns]
    exact held.chain
  last := by
    rw [turns, last]
    exact held.last

theorem Turned.turn (held : Turned s) (turns : t.turns = s.turns ++ [t.lastTurn])
    (last : t.lastTurn ≠ s.lastTurn) : Turned t where
  chain := by
    rw [turns, ← List.cons_append]
    exact chain_concat held.chain held.last last.symm
  last := by
    rw [turns, ← List.cons_append, List.getLast?_concat]

variable [DecidableEq C] {bars : Int → Int × Int × Int}

/-- Only the main thread turns the camera on and off. -/
theorem step_camera {a : Action C} (other : a.speaker ≠ some .main)
    (taken : step bars s a = some t) : t.main = s.main ∧ t.g_camRunning = s.g_camRunning := by
  cases step_steps taken with
  | main => exact (other rfl).elim
  | announce =>
      unfold State.announce
      split <;> exact ⟨rfl, rfl⟩
  | telemetry a t stepped =>
      obtain ⟨_, _, rfl⟩ := telemetryStep_some stepped
      exact ⟨rfl, rfl⟩
  | _ => exact ⟨rfl, rfl⟩

theorem turned_step (s : State C) (a : Action C) (t : State C) (held : Phased s ∧ Turned s)
    (taken : step bars s a = some t) : Phased t ∧ Turned t := by
  obtain ⟨phased, turned⟩ := held
  refine ⟨phased_step s a t phased taken, ?_⟩
  by_cases main : a.speaker = some .main
  · cases step_steps taken with
    | main a t steps =>
        rcases steps.turns phased.camera with ⟨turns, last⟩ | ⟨turns, last⟩
        · exact turned.same turns last
        · exact turned.turn turns last
    | _ => cases main
  · obtain ⟨here, running⟩ := step_camera main taken
    apply turned.same
    · exact (step_said taken).unheard Line.turned (turned_main main)
    · simp only [State.lastTurn, here, running]

/-- What can be said of the camera at any moment, and what the log tells of it. -/
structure OneCamera (s : State C) : Prop where
  create : s.main = .create → s.g_vcam = none
  start : s.main = .start → s.g_vcam = some false
  remove : ∀ exit, s.main = .remove exit → s.g_vcam = some true
  loop : s.main = .messages → s.g_vcam = if s.g_camRunning then some true else none
  exit : ∀ code, s.main = .exited code → s.g_vcam = none
  turns : (false :: s.log.filterMap Line.turned).IsChain (· ≠ ·)
  last : s.main = .messages →
    (false :: s.log.filterMap Line.turned).getLast? = some s.g_camRunning
  off : ∀ code, s.main = .exited code →
    (false :: s.log.filterMap Line.turned).getLast? = some false

/-- The virtual camera over a whole run: it is created only when there is none, started only
when it is new, removed only when it runs. The log tells its starts and stops in turn,
beginning with a start, and in the message loop its last word is the state of the camera;
at the end of `wWinMain` there is none, and the log has said so. -/
theorem camera_lifecycle (bars : Int → Int × Int × Int) (actions : List (Action C)) (s : State C)
    (ends : run (step bars) (.initial C) actions = some s) : OneCamera s := by
  obtain ⟨phased, turned⟩ := invariant_run turned_step actions _ s
    ⟨phased_initial, turned_initial⟩ ends
  have camera := phased.camera
  have last := turned.last
  unfold State.Camera at camera
  refine ⟨?_, ?_, ?_, ?_, ?_, turned.chain, ?_, ?_⟩
  · intro here
    rw [here] at camera
    exact camera.2
  · intro here
    rw [here] at camera
    exact camera.2
  · intro exit here
    rw [here] at camera
    exact camera.2
  · intro here
    rw [here] at camera
    rcases camera with ⟨running, vcam⟩ | ⟨stopped, vcam⟩
    · rw [running, vcam]
      rfl
    · rw [stopped, vcam]
      rfl
  · intro code here
    rw [here] at camera
    exact camera.2
  · intro here
    rw [State.lastTurn, here] at last
    exact last
  · intro code here
    rw [here] at camera
    rw [State.lastTurn, here, camera.1] at last
    exact last

theorem briefSession_camera : ∃ s : State Unit, s.main = .exited 0 ∧
    s.log.filterMap Line.turned = [true, false] ∧ OneCamera s :=
  ⟨_, rfl, rfl, camera_lifecycle (fun _ => (0, 0, 0)) briefSession _ rfl⟩

end Camera

end Obs2Mf.Broker.Process
