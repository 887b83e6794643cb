import Obs2Mf.Broker.GraphStart

set_option autoImplicit false

/- The capture over a whole run: the calls of the thread in any order, and the samples that
come in between. However they go, what is held is what the members point to. -/
namespace Obs2Mf.Broker.Graph

open Method References Run

inductive Call where
  | start (a : Answers)
  | stop
  | sample (delivery : Delivery)

/-- `BufferCB`. -/
def Capture.bufferCB (c : Capture) (delivery : Delivery) : Capture :=
  match delivery.bytes with
  | none => c
  | some bytes => { c with native := bytes, frames := c.frames + 1#64 }

/-- One call; `none` is a crash. A sample reaches the capture only while the graph runs and
the grabber has something to call back. -/
def perform (w : Owner Capture) : Call → Option (Owner Capture)
  | .start a => (start a).final w
  | .stop => stop.final w
  | .sample delivery =>
      if w.own.flowing && w.own.callback then
        some { w with own := w.own.bufferCB delivery }
      else some w

/-- The calls on other code go as they may. -/
def Call.Proper : Call → Prop
  | .start a => a.Proper
  | _ => True

/-- Between two calls: all is there and runs, or nothing is. -/
structure Accounted (w : Owner Capture) : Prop where
  owns : Owns w.own.members w.ledger
  state : w.own.Live ∨ w.own.Idle

/-- What a call tells in the log: a start that has a graph to build says how it went. -/
def Told (w : Owner Capture) (call : Call) (v : Owner Capture) : Prop :=
  match call with
  | .start a =>
      if w.own.running then v = w
      else v.own.log = w.own.log ++ a.said ∧ v.own.running = a.verdict.live
  | .stop => v.own.log = w.own.log ∧ v.own.running = false
  | .sample _ => v.own.log = w.own.log ∧ v.own.running = w.own.running

section States

variable {c : Capture}

theorem Capture.Live.wired (live : c.Live) : c.Wired where
  callback := by
    intro null
    have some := live.grabber
    rw [null] at some
    cases some
  flowing := by
    intro null
    have some := live.control
    rw [null] at some
    cases some

theorem Capture.Idle.wired (idle : c.Idle) : c.Wired where
  callback := fun _ => (congrArg Capture.callback idle).symm
  flowing := fun _ => (congrArg Capture.flowing idle).symm

theorem Capture.Idle.running (idle : c.Idle) : c.running = false :=
  (congrArg Capture.running idle).symm

theorem Capture.Idle.members (idle : c.Idle) : c.members = [] :=
  (congrArg Capture.members idle).symm

theorem stopped_idle (c : Capture) : c.stopped.Idle := rfl

theorem saying_idle (idle : c.Idle) (said : List ObsLine) : (c.saying said).Idle :=
  congrArg (fun d : Capture => d.saying said) idle

theorem bufferCB_live (live : c.Live) (delivery : Delivery) : (c.bufferCB delivery).Live := by
  unfold Capture.bufferCB
  cases delivery.bytes with
  | none => exact live
  | some bytes => exact ⟨live.running, live.graph, live.builder, live.source, live.grabberFilter,
      live.nullRenderer, live.grabber, live.control, live.callback, live.flowing⟩

theorem bufferCB_kept (c : Capture) (delivery : Delivery) :
    (c.bufferCB delivery).members = c.members ∧ (c.bufferCB delivery).log = c.log ∧
      (c.bufferCB delivery).running = c.running := by
  unfold Capture.bufferCB
  cases delivery.bytes <;> exact ⟨rfl, rfl, rfl⟩

theorem accounted_new (w h : BitVec 32) : Accounted ⟨.empty, .new w h⟩ :=
  ⟨owns_empty, .inr rfl⟩

end States

section Steps

variable {w : Owner Capture}

theorem ends_start_running {a : Answers} {next : Unit → Owner Capture → Prop}
    {returned : Bool → Owner Capture → Prop} (running : w.own.running = true)
    (given : returned true w) : (start a).Ends w next returned := by
  obtain ⟨l, c⟩ := w
  rw [start, ends_bind, ends_own, ends_bind, ends_exitIf]
  exact ⟨fun _ => given, fun off => absurd (off.symm.trans running) Bool.false_ne_true⟩

theorem perform_stop (held : Accounted w) :
    ∃ l, perform w .stop = some ⟨l, w.own.stopped⟩ ∧ Owns [] l := by
  have wired : w.own.Wired := held.state.elim Capture.Live.wired Capture.Idle.wired
  have ends : stop.Ends w (fun _ v => v.own = w.own.stopped ∧ Owns [] v.ledger)
      (fun _ v => v.own = w.own.stopped ∧ Owns [] v.ledger) :=
    ends_stop held.owns wired fun l owns => ⟨rfl, owns⟩
  obtain ⟨v, left⟩ := ends.some_final
  obtain ⟨own, owns⟩ := ends.final left
  refine ⟨v.ledger, ?_, owns⟩
  rw [← own]
  exact left

theorem perform_start {a : Answers} (held : Accounted w) (proper : a.Proper) :
    ∃ v, perform w (.start a) = some v ∧ Accounted v ∧ Told w (.start a) v := by
  rcases held.state with live | idle
  · refine ⟨w, ?_, held, ?_⟩
    · have ends : (start a).Ends w (fun _ v => v = w) (fun _ v => v = w) :=
        ends_start_running live.running rfl
      obtain ⟨v, left⟩ := ends.some_final
      rw [perform, left, ends.final left]
    · simp only [Told, live.running, ↓reduceIte]
  · have nothing : Owns [] w.ledger := by
      have owns := held.owns
      rw [idle.members] at owns
      exact owns
    have told (v : Owner Capture) (log : v.own.log = w.own.log ++ a.said)
        (running : v.own.running = a.verdict.live) : Told w (.start a) v := by
      simp only [Told, idle.running, Bool.false_eq_true, ↓reduceIte]
      exact ⟨log, running⟩
    have ends : (start a).Ends w (fun _ v => Accounted v ∧ Told w (.start a) v)
        (fun _ v => Accounted v ∧ Told w (.start a) v) := by
      refine ends_start nothing idle proper (fun l d went live owns _ log => ?_)
        fun failed l owns => ?_
      · exact ⟨⟨owns, .inl live⟩, told _ log (live.running.trans went.symm)⟩
      · have still := saying_idle idle a.said
        refine ⟨⟨?_, .inr still⟩, told _ rfl (idle.running.trans failed.symm)⟩
        rw [still.members]
        exact owns
    obtain ⟨v, left⟩ := ends.some_final
    exact ⟨v, left, ends.final left⟩

theorem perform_sample (held : Accounted w) (delivery : Delivery) :
    ∃ v, perform w (.sample delivery) = some v ∧ Accounted v ∧ Told w (.sample delivery) v := by
  have kept := bufferCB_kept w.own delivery
  rcases held.state with live | idle
  · refine ⟨{ w with own := w.own.bufferCB delivery }, ?_, ⟨?_, ?_⟩, ?_⟩
    · rw [perform, live.flowing, live.callback]
      rfl
    · show Owns (w.own.bufferCB delivery).members w.ledger
      rw [kept.1]
      exact held.owns
    · exact .inl (bufferCB_live live delivery)
    · exact kept.2
  · have still : w.own.flowing = false := (congrArg Capture.flowing idle).symm
    refine ⟨w, ?_, held, rfl, rfl⟩
    rw [perform, still]
    rfl

/-- Every call goes through, and leaves the capture as calls do. -/
theorem perform_accounted (held : Accounted w) {call : Call} (proper : call.Proper) :
    ∃ v, perform w call = some v ∧ Accounted v ∧ Told w call v := by
  cases call with
  | start a => exact perform_start held proper
  | stop =>
      obtain ⟨l, stopped, owns⟩ := perform_stop held
      refine ⟨_, stopped, ⟨?_, .inr (stopped_idle w.own)⟩, rfl, rfl⟩
      rw [(stopped_idle w.own).members]
      exact owns
  | sample delivery => exact perform_sample held delivery

theorem run_accounted {calls : List Call} (held : Accounted w)
    (proper : ∀ call ∈ calls, call.Proper) :
    ∃ v, run perform w calls = some v ∧ Accounted v ∧ Throughout perform Told w calls := by
  induction calls generalizing w with
  | nil => exact ⟨w, rfl, held, trivial⟩
  | cons call rest ih =>
      obtain ⟨u, taken, kept, told⟩ := perform_accounted held (proper call List.mem_cons_self)
      obtain ⟨v, ran, last, later⟩ := ih kept fun c member =>
        proper c (List.mem_cons_of_mem call member)
      refine ⟨v, ?_, last, ?_⟩
      · rw [run_cons, taken]
        exact ran
      · intro t stepped
        rw [taken] at stepped
        cases stepped
        exact ⟨told, later⟩

end Steps

/-- However the calls of the thread go, none of them goes through a null pointer or through
one that was given up, every start of a capture that does not run yet says in the log how it
went, what is held in between is exactly what the members point to, and the destructor leaves
nothing behind. -/
theorem capture_accounted (w h : BitVec 32) (calls : List Call)
    (proper : ∀ call ∈ calls, call.Proper) :
    ∃ world, run perform ⟨.empty, .new w h⟩ calls = some world ∧
      Owns world.own.members world.ledger ∧ (world.own.Live ∨ world.own.Idle) ∧
      Throughout perform Told ⟨.empty, .new w h⟩ calls ∧
      ∃ l, perform world .stop = some ⟨l, world.own.stopped⟩ ∧ l.held = [] := by
  obtain ⟨world, ran, held, told⟩ := run_accounted (accounted_new w h) proper
  obtain ⟨l, stopped, owns⟩ := perform_stop held
  exact ⟨world, ran, held.owns, held.state, told, l, stopped, owns.nothing⟩

/-- The virtual camera behind a webcam, with a picture of the size the broker asks for. -/
def camera : Answers where
  graph := true
  builder := true
  devEnum := true
  enumerator := true
  devices := [⟨true, .string (some "Webcam"), true⟩, ⟨true, .string (some obsName), true⟩]
  grabberFilter := true
  grabber := true
  nullRenderer := true
  renderStream := .sOk
  connected := some ⟨true, 88, some (1280, -720), false⟩
  mediaFilter := true
  control := true
  run := .sOk

theorem camera_proper : camera.Proper where
  media := by
    rintro mt ⟨⟩
    decide
  named := by
    intro _
    simp [Answers.trips, camera, trips, Device.nameless]

/-- A graph that runs and is stopped, and one that cannot be run. -/
def cameraCalls : List Call :=
  [.start camera, .sample ⟨some fun _ => 0, 3⟩, .stop, .start { camera with run := .eFail }]

theorem cameraCalls_accounted :
    ∃ world, run perform ⟨.empty, .new 1280#32 720#32⟩ cameraCalls = some world ∧
      Owns world.own.members world.ledger ∧ (world.own.Live ∨ world.own.Idle) ∧
      Throughout perform Told ⟨.empty, .new 1280#32 720#32⟩ cameraCalls ∧
      ∃ l, perform world .stop = some ⟨l, world.own.stopped⟩ ∧ l.held = [] := by
  apply capture_accounted
  intro call member
  simp only [cameraCalls, List.mem_cons, List.not_mem_nil, or_false] at member
  rcases member with rfl | rfl | rfl | rfl
  · exact camera_proper
  · trivial
  · trivial
  · exact ⟨camera_proper.media, camera_proper.named⟩

end Obs2Mf.Broker.Graph
