import Obs2Mf.Broker.EndToEnd
import Obs2Mf.Pipe.Progress

set_option autoImplicit false

/- What the process can always still do for a consumer: a fetch that is under way can be
brought to its end, and then the consumer has one frame more, made by the producer. -/
namespace Obs2Mf.Broker.Process

open Pipe (Attended Helps)
open Run

variable {C : Type}

/-- A step of the process that is one of the frame server and its clients. -/
def Action.pipe : Action C → Option (Pipe.Action Unit C)
  | .producer (.slot a) => some (.publish () a)
  | .owner a => some (.owner a)
  | .accept a => some (.accept a)
  | .serve i a => some (.serve i a)
  | .fetch c a => some (.fetch c a)
  | .outside a => some (.outside a)
  | _ => none

/-- The steps that bring a client's fetch to its end. The main thread and the telemetry
thread take none of them, and the producer only those inside `Publish`. -/
def Serves (c : C) (i : Nat) (s : State C) (a : Action C) : Prop :=
  ∃ b, a.pipe = some b ∧ Helps c i s.pipe b

/-- None of them connects the capture. -/
theorem Serves.captured {c : C} {i : Nat} (s : State C) (a : Action C) (serves : Serves c i s a) :
    Captured s a := by
  rintro b rfl
  obtain ⟨_, moves, _⟩ := serves
  cases moves

/-- How a fetch on instance `i` that is under way in `s` has ended: with one frame more, or
with the connection dropped if the reply was formed before there was a frame. -/
structure Answered (c : C) (i : Nat) (s t : State C) : Prop where
  idle : (t.pipe.clients c).pc = .idle
  kept : ¬ Pipe.Early s.pipe c i → (t.pipe.clients c).pipe = some i ∧
    ∃ d, (t.pipe.clients c).log = (s.pipe.clients c).log ++ [d]
  dropped : Pipe.Early s.pipe c i →
    (t.pipe.clients c).pipe = none ∧ (t.pipe.clients c).log = (s.pipe.clients c).log

section Lift

variable [DecidableEq C] {bars : Int → Int × Int × Int} {s : State C}

/-- What the steps that serve a client need of the process, and leave so. -/
structure Serving (s : State C) : Prop where
  coupled : Coupled s
  slot : Pipe.Instances s.pipe ∧ Pipe.Slot s.pipe
  alive : s.main.gone = false

theorem Serving.next (held : Serving s) {a : Action C} {b : Pipe.Action Unit C} {t : State C}
    (taken : step bars s a = some t) (stepped : Pipe.step s.pipe b = some t.pipe)
    (main : t.main = s.main) : Serving t where
  coupled := step_coupled s a t held.coupled taken
  slot := Pipe.slot_step s.pipe b t.pipe held.slot stepped
  alive := by
    rw [main]
    exact held.alive

omit [DecidableEq C] in
/-- The publisher that holds the mutex is in `Publish`, and so is the producer thread. -/
theorem Serving.publishing (held : Serving s) (holds : s.pipe.mtx = some (.publisher ())) :
    s.pipe.publishers () ≠ .idle ∧ s.stage = .publishing := by
  have guarded := held.slot.2.guarded
  rw [holds] at guarded
  obtain ⟨_, f, _, _, writing⟩ := guarded
  have busy : s.pipe.publishers () ≠ .idle := by
    intro idle
    rw [idle] at writing
    exact writing
  refine ⟨busy, ?_⟩
  by_contra other
  exact busy (held.coupled.resting other)

theorem Serving.lift (s : State C) (b : Pipe.Action Unit C) (after : Pipe.State Unit C) (c : C)
    (i : Nat) (held : Serving s) (helps : Helps c i s.pipe b)
    (stepped : Pipe.step s.pipe b = some after) :
    ∃ a t, Serves c i s a ∧ step bars s a = some t ∧ t.pipe = after ∧ Serving t := by
  have alive := held.alive
  have apart (a : Action C) (moves : a.pipe = some b)
      (taken : step bars s a = some { s with pipe := after }) :
      ∃ a t, Serves c i s a ∧ step bars s a = some t ∧ t.pipe = after ∧ Serving t :=
    ⟨a, _, ⟨b, moves, helps⟩, taken, rfl, held.next taken stepped rfl⟩
  have keep := helps
  cases helps with
  | client a kept =>
      apply apart (.fetch c a) rfl
      change Pipe.fetchStep s.pipe c a = some after at stepped
      simp only [step, alive, Bool.false_eq_true, ↓reduceIte, stepped, Option.map_some]
  | thread a kept =>
      apply apart (.serve i a) rfl
      change Pipe.serveStep s.pipe i a = some after at stepped
      simp only [step, alive, Bool.false_eq_true, ↓reduceIte, stepped, Option.map_some]
  | accept a mine kept =>
      apply apart (.accept a) rfl
      change Pipe.acceptStep s.pipe a = some after at stepped
      simp only [step, alive, Bool.false_eq_true, ↓reduceIte, stepped, Option.map_some]
  | holder a frees =>
      cases frees with
      | publisher p a holds =>
          obtain ⟨busy, publishing⟩ := held.publishing holds
          have called : Pipe.publishStep s.pipe () a = some after := stepped
          have inside : isCall a = false := by
            cases Pipe.publishStep_steps called with
            | call f idle => exact (busy idle).elim
            | _ => rfl
          have taken : step bars s (.producer (.slot a)) =
              some { s with pipe := after, stage := afterSlot a } := by
            simp only [step, alive, producerStep, publishing, inside, called, and_self,
              Bool.false_eq_true, ↓reduceIte, Option.map_some]
          exact ⟨_, _, ⟨_, rfl, keep⟩, taken, rfl, held.next taken stepped rfl⟩
      | server j a holds copying =>
          apply apart (.serve j a) rfl
          change Pipe.serveStep s.pipe j a = some after at stepped
          simp only [step, alive, Bool.false_eq_true, ↓reduceIte, stepped, Option.map_some]

end Lift

section Runs

variable [DecidableEq C] {bars : Int → Int × Int × Int}

omit [DecidableEq C] in
/-- Every frame in the slot has its `flag_valid`, so that a fetch hands it over. -/
theorem Producing.fetched {s : State C} (producing : Producing bars s.producer)
    (coupled : Coupled s) {before after : Pipe.Client}
    (fetched : before.Fetched s.pipe.published after) : ∃ d, after.log = before.log ++ [d] := by
  obtain ⟨f, member, since, log⟩ := fetched
  obtain ⟨index, there⟩ := List.getElem?_of_mem member
  obtain ⟨p, found, same⟩ := coupled.produced there
  have hdr : p.hdr = f.hdr := (Prod.mk.inj same).1
  have flags := (producing.packed p (List.mem_of_getElem? found)).flags
  rw [hdr] at flags
  have valid : f.hdr.stamped.valid = true := by
    change (f.hdr.flags &&& Pipe.flag_valid != 0#32) = true
    rw [flags]
    decide
  rw [if_pos valid] at log
  exact ⟨_, log⟩

theorem Serving.answers {s : State C} (held : Serving s) (producing : Producing bars s.producer)
    (kept : Pipe.Kept s.pipe) {c : C} {i : Nat} (published : s.pipe.published ≠ [])
    (pipe : (s.pipe.clients c).pipe = some i) (busy : (s.pipe.clients c).pc ≠ .idle)
    (attended : Attended s.pipe i) : Leads (step bars) (Serves c i) (Answered c i s) 18 s := by
  have lifts (u : State C) (b : Pipe.Action Unit C) (after : Pipe.State Unit C) (held : Serving u)
      (helps : Helps c i u.pipe b) (stepped : Pipe.step u.pipe b = some after) :
      ∃ a t, Serves c i u a ∧ step bars u a = some t ∧ t.pipe = after ∧ Serving t :=
    held.lift u b after c i helps stepped
  have lead := Leads.lift (fun s : State C => s.pipe) lifts s held
    (kept.finishes published pipe busy attended)
  obtain ⟨more, t, short, along, ended, serving, finished⟩ := lead
  have producing : Producing bars t.producer := by
    have keep (u : State C) (a : Action C) (v : State C) (held : Producing bars u.producer)
        (serves : Serves c i u a) (taken : step bars u a = some v) : Producing bars v.producer := by
      exact (step_producer u a v (serves.captured u a) taken).invariant producing_step held
    exact invariant_along keep more s t producing along ended
  refine ⟨more, t, short, along, ended, finished.idle, ?_, finished.dropped⟩
  intro own
  obtain ⟨still, fetched⟩ := finished.kept own
  exact ⟨still, producing.fetched serving.coupled fetched⟩

theorem serving_reached (actions : List (Action C)) (s : State C)
    (ends : run (step bars) (.initial C) actions = some s) (alive : s.main.gone = false) :
    Pipe.Kept s.pipe ∧ Serving s := by
  have kept := Pipe.kept_reachable (run_pipe actions s ends)
  exact ⟨kept, run_coupled actions s ends, ⟨kept.delivering.instances, kept.delivering.slot⟩, alive⟩

/-- In the running broker, whatever it has done and is doing, every fetch that is under way
on an attended instance once the first frame is published can be brought to its end in at
most 18 steps, none of them the main thread's or the telemetry thread's and none a failed
call. The connection survives and the consumer has one frame more, unless its own reply was
formed before that first frame. -/
theorem fetch_served (bars : Int → Int × Int × Int) (actions : List (Action C)) (s : State C)
    (c : C) (i : Nat) (captured : Along (step bars) Captured (.initial C) actions)
    (ends : run (step bars) (.initial C) actions = some s) (alive : s.main.gone = false)
    (published : s.pipe.published ≠ []) (pipe : (s.pipe.clients c).pipe = some i)
    (busy : (s.pipe.clients c).pc ≠ .idle) (attended : Attended s.pipe i) :
    Leads (step bars) (Serves c i) (Answered c i s) 18 s := by
  obtain ⟨kept, serving⟩ := serving_reached actions s ends alive
  have producing := run_producing actions s captured ends
  exact serving.answers producing kept published pipe busy attended

/-- In every run of the whole program with captures of even sizes that fit, whatever the
tray, the clients and the scheduler do, the frames a consumer was handed are frames the
producer made, header and payload. Each is what its header announces, no older than what was
published when it was asked for, in the order of their making, and shown byte for byte by the
camera. -/
theorem consumer_sees_produced (bars : Int → Int × Int × Int) (actions : List (Action C))
    (s : State C) (captured : Along (step bars) Captured (.initial C) actions)
    (ends : run (step bars) (.initial C) actions = some s) (c : C) :
    ∃ indices : List Nat, indices.Pairwise (· ≤ ·) ∧
      List.Forall₂ (Seen bars s.producer.published) (s.pipe.clients c).log indices := by
  have producing := run_producing actions s captured ends
  have coupled := run_coupled actions s ends
  have delivering := Pipe.delivering_reachable (run_pipe actions s ends)
  obtain ⟨indices, explained⟩ := (delivering.served c).explained
  refine ⟨indices, explained.ordered, explained.frames.imp ?_⟩
  intro d index known
  exact producing.seen coupled known

end Runs

/-- The first frame, for want of OBS the test pattern, up to the call of `Publish`. -/
def firstFrame : List (Action Unit) :=
  [.main (.call .sOk), .main .next, .main .next, .producer (.own .test), .producer (.own .load),
    .producer (.own (.build .noSource)), .producer (.own .stop), .producer (.own .clear),
    .producer (.own (.fetch fun _ => 0)), .producer .announce]

/-- It is published, and a client dials and sends its request. -/
def firstRequest : List (Action Unit) :=
  [.producer (.slot .lock), .producer (.slot .copyHdr), .producer (.slot .stampMagic),
    .producer (.slot .stampVersion), .producer (.slot .assign), .producer (.slot .unlock),
    .accept .test, .accept (.create true), .fetch () (.dial (some 0)),
    .fetch () (.write (.moved 4))]

def asking : List (Action Unit) := firstFrame ++ .producer (.publish 0#64) :: firstRequest

/-- A capture that is never connected has no size to object to. -/
theorem captured_unconnected {bars : Int → Int × Int × Int} [DecidableEq C] {s : State C}
    (actions : List (Action C))
    (unconnected : ∀ a ∈ actions, ∀ size,
      a ≠ .producer (.own (.build (.rendered (some size))))) :
    Along (step bars) Captured s actions := by
  apply along_of_forall
  intro a member _ b own biWidth biHeight same
  rw [own, same] at member
  exact (unconnected _ member (biWidth, biHeight) rfl).elim

/-- A producer that is about to publish can. -/
theorem Producing.publish {bars : Int → Int × Int × Int} {s : State C} [DecidableEq C]
    (producing : Producing bars s.producer) (alive : s.main.gone = false)
    (announced : s.stage = .announced) (publish : s.producer.pc = .publish)
    (idle : s.pipe.publishers () = .idle) (now : BitVec 64) :
    ∃ f, step bars s (.producer (.publish now)) = some { s with
      producer := s.producer.publish now
      pipe := { s.pipe with publishers := Function.update s.pipe.publishers () (.lock f) }
      stage := .publishing } := by
  have packed := publish_packed producing.inv now
  have sized : (s.producer.frame.take (s.producer.header now).byteLength.toNat).length =
      (s.producer.header now).byteLength.toNat := by
    rw [packed.length]
    exact kFrameBytes_fits.symm
  refine ⟨⟨_, _, sized⟩, ?_⟩
  simp only [step, alive, producerStep, announced, frameOf, sized, Broker.step, publish,
    Pipe.publishStep, idle, Bool.false_eq_true, ↓reduceIte, ↓reduceDIte, Option.map_some]

/-- Where `asking` ends: the first frame is in the slot, and nobody has read the request. -/
structure Asked (s : State Unit) : Prop where
  captured : Along (step fun _ => (0, 0, 0)) Captured (.initial Unit) asking
  ends : run (step fun _ => (0, 0, 0)) (.initial Unit) asking = some s
  alive : s.main.gone = false
  published : s.pipe.published ≠ []
  pipe : (s.pipe.clients ()).pipe = some 0
  header : (s.pipe.clients ()).pc = .header []
  absent : (s.pipe.conns 0).serve = .absent
  attended : Attended s.pipe 0

theorem asking_asked : ∃ s, Asked s := by
  have first : run (step fun _ => (0, 0, 0)) (.initial Unit) firstFrame = some _ := rfl
  have producing := run_producing firstFrame _ (captured_unconnected _ (by simp [firstFrame])) first
  obtain ⟨f, called⟩ := producing.publish rfl rfl rfl rfl 0#64
  have ends : run (step fun _ => (0, 0, 0)) (.initial Unit) asking = some _ :=
    run_through first called rfl
  have captured : Along (step fun _ => (0, 0, 0)) Captured (.initial Unit) asking :=
    captured_unconnected _ (by simp [asking, firstFrame, firstRequest])
  refine ⟨_, captured, ends, rfl, ?_, rfl, rfl, rfl, ?_⟩
  · exact List.cons_ne_nil f []
  · exact Or.inr ⟨rfl, rfl, Or.inl rfl⟩

theorem Asked.busy {s : State Unit} (asked : Asked s) : (s.pipe.clients ()).pc ≠ .idle := by
  rw [asked.header]
  simp

/-- Nobody has begun to answer, so the reply is not an early one. -/
theorem Asked.own {s : State Unit} (asked : Asked s) : ¬ Pipe.Early s.pipe () 0 := by
  rintro ⟨got, pending, _, writing, _⟩
  rw [asked.absent] at writing
  cases writing

theorem firstRequest_served : ∃ s : State Unit, s.pipe.published ≠ [] ∧
    ¬ Pipe.Early s.pipe () 0 ∧
    Leads (step fun _ => (0, 0, 0)) (Serves () 0) (Answered () 0 s) 18 s := by
  obtain ⟨s, asked⟩ := asking_asked
  exact ⟨s, asked.published, asked.own, fetch_served _ asking s () 0 asked.captured asked.ends
    asked.alive asked.published asked.pipe asked.busy asked.attended⟩

theorem firstRequest_sees : ∃ s : State Unit, (s.pipe.clients ()).log ≠ [] ∧
    ∃ indices : List Nat, indices.Pairwise (· ≤ ·) ∧
      List.Forall₂ (Seen (fun _ => (0, 0, 0)) s.producer.published) (s.pipe.clients ()).log
        indices := by
  obtain ⟨s, asked⟩ := asking_asked
  obtain ⟨kept, serving⟩ := serving_reached asking s asked.ends asked.alive
  have producing := run_producing asking s asked.captured asked.ends
  obtain ⟨more, t, _, along, ended, answered⟩ :=
    serving.answers producing kept asked.published asked.pipe asked.busy asked.attended
  obtain ⟨_, d, log⟩ := answered.kept asked.own
  have reached : run (step fun _ => (0, 0, 0)) (.initial Unit) (asking ++ more) = some t := by
    rw [run_append, asked.ends, Option.bind_some, ended]
  have captured := asked.captured.append asked.ends (along.imp Serves.captured)
  refine ⟨t, ?_, consumer_sees_produced _ (asking ++ more) t captured reached ()⟩
  rw [log]
  simp

end Obs2Mf.Broker.Process
