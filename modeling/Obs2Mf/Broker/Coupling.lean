import Obs2Mf.Broker.ProcessSteps
import Obs2Mf.Pipe.Delivery

set_option autoImplicit false

/- How the parts of the broker's process hang together: the producer thread and the frame
server each run as they do alone, and what one hands to the other is what it has made. -/
namespace Obs2Mf.Pipe

/-- What only a `Publish` call changes. -/
structure Unpublished {P C : Type} (s t : State P C) : Prop where
  publishers : t.publishers = s.publishers
  published : t.published = s.published
  completed : t.completed = s.completed

section Unpublished

variable {P C : Type} {s t : State P C}

theorem ownerStep_unpublished {a : OwnerAction} (taken : ownerStep s a = some t) :
    Unpublished s t := by
  obtain ⟨_, _, _, _, rfl, _⟩ := ownerStep_some taken
  exact ⟨rfl, rfl, rfl⟩

theorem acceptStep_unpublished {a : AcceptAction} (taken : acceptStep s a = some t) :
    Unpublished s t := by
  obtain ⟨_, _, _, rfl, _⟩ := acceptStep_some taken
  exact ⟨rfl, rfl, rfl⟩

theorem serveStep_unpublished {i : Nat} {a : ServeAction} (taken : serveStep s i a = some t) :
    Unpublished s t := by
  obtain ⟨conn, _, _, rfl⟩ := serveStep_some taken
  constructor <;> simp

theorem fetchStep_unpublished [DecidableEq C] {c : C} {a : FetchAction}
    (taken : fetchStep s c a = some t) : Unpublished s t := by
  rcases fetchStep_some taken with rfl | ⟨_, _, _, _, _, rfl⟩ | ⟨_, _, _, _, rfl⟩
  all_goals exact ⟨rfl, rfl, rfl⟩

theorem outsideStep_unpublished [DecidableEq C] {a : OutsideAction}
    (taken : outsideStep s a = some t) : Unpublished s t := by
  obtain ⟨_, _, rfl, _⟩ := outsideStep_some taken
  exact ⟨rfl, rfl, rfl⟩

end Unpublished

end Obs2Mf.Pipe

namespace Obs2Mf.Broker.Process

open Pipe (Frame FrameHeader Byte Unpublished)
open Run

variable {C : Type}

/-- The sizes the capture is connected with are those `Sized` allows. -/
def Captured (s : State C) (a : Action C) : Prop :=
  ∀ b, a = .producer (.own b) → Sized s.producer b

/-- What a frame consists of, on the producer's side and in the server. -/
def made (p : Published) : FrameHeader × List Byte := (p.hdr, p.payload)

def sent (f : Frame) : FrameHeader × List Byte := (f.hdr, f.payload)

/-- The frame of a `Publish` call that has yet to take the lock. -/
def pending (pc : Pipe.PublishPc) : List (FrameHeader × List Byte) :=
  match pc with
  | .lock f => [sent f]
  | _ => []

@[simp] theorem pending_idle : pending .idle = [] := rfl
@[simp] theorem pending_lock (f : Frame) : pending (.lock f) = [sent f] := rfl

/-- The `Publish` calls that have begun and have not returned. -/
def Stage.unreturned : Stage → Nat
  | .publishing => 1
  | _ => 0

/-- Those that have returned and are not in `g_framesPublished` yet. -/
def Stage.uncounted : Stage → Nat
  | .effective | .received | .counted => 1
  | _ => 0

/-- What the producer has made is what the server has been given, frame by frame, and the
counter is behind by the iteration that is not over. -/
structure Coupled (s : State C) : Prop where
  content : s.producer.published.map made =
    s.pipe.published.map sent ++ pending (s.pipe.publishers ())
  resting : s.stage ≠ .publishing → s.pipe.publishers () = .idle
  returned : s.producer.published.length = s.pipe.completed + s.stage.unreturned
  counted : BitVec.ofNat 64 s.pipe.completed =
    s.g_framesPublished + BitVec.ofNat 64 s.stage.uncounted

theorem coupled_initial : Coupled (State.initial C) where
  content := rfl
  resting := fun _ => rfl
  returned := rfl
  counted := rfl

section Steps

variable {bars : Int → Int × Int × Int} {s t : State C}

/-- Only the producer's own steps concern both sides. -/
theorem Coupled.apart (held : Coupled s) (producer : t.producer.published = s.producer.published)
    (stage : t.stage = s.stage) (count : t.g_framesPublished = s.g_framesPublished)
    (pipe : Unpublished s.pipe t.pipe) : Coupled t where
  content := by
    rw [producer, pipe.published, pipe.publishers]
    exact held.content
  resting := by
    rw [stage, pipe.publishers]
    exact held.resting
  returned := by
    rw [producer, stage, pipe.completed]
    exact held.returned
  counted := by
    rw [stage, count, pipe.completed]
    exact held.counted

theorem Unpublished.refl {P : Type} (pipe : Pipe.State P C) : Unpublished pipe pipe :=
  ⟨rfl, rfl, rfl⟩

theorem branch_published (p : Broker.State) : p.branch.published = p.published := by
  unfold State.branch
  repeat' split
  all_goals rfl

theorem built_published (p : Broker.State) (outcome : Build) :
    (p.built outcome).published = p.published := by
  cases outcome with
  | rendered media =>
      simp only [State.built]
      split <;> rfl
  | _ => rfl

theorem fetched_published (p : Broker.State) (beyond : Int → Byte) :
    (p.fetched bars beyond).published = p.published := by
  simp only [State.fetched]
  repeat' split
  all_goals rfl

theorem resume_published (p : Broker.State) (after : After) :
    (p.resume after).published = p.published := by
  cases after <;> rfl

/-- A step of the capture publishes nothing. -/
theorem own_published {p q : Broker.State} {a : Broker.Action} (own : ∀ now, a ≠ .publish now)
    (taken : Broker.step bars p a = some q) : q.published = p.published := by
  cases a with
  | publish now => exact (own now rfl).elim
  | _ =>
      simp only [Broker.step] at taken
      grind [branch_published, built_published, fetched_published, resume_published, State.filled]

theorem sent_frame {p : Broker.State} {now : BitVec 64} {f : Frame}
    (given : frameOf p now = some f) :
    (p.publish now).published.map made = p.published.map made ++ [sent f] := by
  simp only [frameOf] at given
  split at given
  · cases given
    simp only [State.publish, List.map_append, List.map_cons, List.map_nil, made, sent]
  · cases given

theorem Coupled.publish (held : Coupled s) {now : BitVec 64} {f : Frame}
    (announced : s.stage = .announced) (given : frameOf s.producer now = some f)
    {pipe : Pipe.State Unit C} (called : Pipe.publishStep s.pipe () (.call f) = some pipe) :
    Coupled { s with producer := s.producer.publish now, pipe, stage := .publishing } := by
  have idle := held.resting (by rw [announced]; simp)
  have content := held.content
  have returned := held.returned
  have counted := held.counted
  rw [idle, pending_idle, List.append_nil] at content
  rw [announced] at returned counted
  cases Pipe.publishStep_steps called with
  | call =>
      refine ⟨?_, fun busy => (busy rfl).elim, ?_, counted⟩
      · simp only [sent_frame given, content, Function.update_self, pending]
      · have length := congrArg List.length (sent_frame given)
        simp only [List.length_map, List.length_append, List.length_singleton] at length
        simp only [length, returned, Stage.unreturned]

theorem Coupled.slot (held : Coupled s) {b : Pipe.PublishAction}
    (publishing : s.stage = .publishing) (inside : isCall b = false) {pipe : Pipe.State Unit C}
    (stepped : Pipe.publishStep s.pipe () b = some pipe) :
    Coupled { s with pipe, stage := afterSlot b } := by
  have content := held.content
  have returned := held.returned
  have counted := held.counted
  rw [publishing] at returned counted
  cases Pipe.publishStep_steps stepped with
  | call => cases inside
  | lock f waits =>
      refine ⟨?_, fun busy => (busy rfl).elim, returned, counted⟩
      rw [content, waits]
      simp only [pending, List.map_append, List.map_cons, List.map_nil, List.append_nil,
        Function.update_self]
  | unlock unlock =>
      refine ⟨?_, fun _ => by simp only [Function.update_self], ?_, ?_⟩
      · rw [content, unlock]
        simp only [pending, Function.update_self]
      · simpa only [afterSlot, Stage.unreturned, Nat.add_zero] using returned
      · simp only [afterSlot, Stage.uncounted, BitVec.ofNat_add, counted]
        simp
  | copyHdr f here | stampMagic f here | stampVersion f here | assign f here =>
      refine ⟨?_, fun busy => (busy rfl).elim, returned, counted⟩
      rw [content, here]
      simp only [pending, Function.update_self]

/-- A stage that counts like the one before it. -/
theorem Coupled.staged (held : Coupled s) (producer : t.producer = s.producer)
    (pipe : t.pipe = s.pipe) (before : s.stage ≠ .publishing)
    (unreturned : t.stage.unreturned = s.stage.unreturned)
    (counted : t.g_framesPublished + BitVec.ofNat 64 t.stage.uncounted =
      s.g_framesPublished + BitVec.ofNat 64 s.stage.uncounted) : Coupled t where
  content := by
    rw [producer, pipe]
    exact held.content
  resting := fun _ => by
    rw [pipe]
    exact held.resting before
  returned := by
    rw [producer, pipe, unreturned]
    exact held.returned
  counted := by
    rw [pipe, counted]
    exact held.counted

end Steps

section System

variable [DecidableEq C] {bars : Int → Int × Int × Int}

theorem step_coupled (s : State C) (a : Action C) (t : State C) (held : Coupled s)
    (taken : step bars s a = some t) : Coupled t := by
  cases step_steps taken with
  | main a t steps =>
      have managed := steps.managed
      have producer : t.producer.published = s.producer.published := by
        rcases managed.producer with same | ⟨_, _, same⟩ | same <;> rw [same]
      refine held.apart producer managed.stage managed.framesPublished ?_
      rcases managed.pipe with same | ⟨a, called⟩
      · rw [same]
        exact Unpublished.refl _
      · exact Pipe.ownerStep_unpublished called
  | own b _ _ own producer stepped =>
      refine held.apart (own_published ?_ stepped) rfl rfl (Unpublished.refl _)
      rintro now rfl
      cases own
  | announce _ working =>
      have same (log : List Line) (lastReported : Option SourceKind) :
          Coupled { s with stage := .announced, log, lastReported } := by
        refine held.staged rfl rfl ?_ ?_ ?_ <;> rw [working]
        · simp
        · rfl
        · rfl
      unfold State.announce
      split
      · exact same _ _
      · exact same _ _
  | publish now announced f given _ pipe called => exact held.publish announced given called
  | slot b publishing inside pipe stepped => exact held.slot publishing inside stepped
  | effective stage | received stage =>
      refine held.staged rfl rfl ?_ ?_ ?_ <;> rw [stage]
      · simp
      · rfl
      · rfl
  | counted stage =>
      refine held.staged rfl rfl ?_ ?_ ?_ <;> rw [stage]
      · simp
      · rfl
      · simp [Stage.uncounted]
  | callback delivery producer stepped =>
      exact held.apart (own_published (by simp) stepped) rfl rfl (Unpublished.refl _)
  | telemetry a t stepped =>
      obtain ⟨_, _, rfl⟩ := telemetryStep_some stepped
      exact held.apart rfl rfl rfl (Unpublished.refl _)
  | inStop a _ _ pipe stepped => exact held.apart rfl rfl rfl (Pipe.ownerStep_unpublished stepped)
  | accept a pipe stepped => exact held.apart rfl rfl rfl (Pipe.acceptStep_unpublished stepped)
  | serve i a pipe stepped => exact held.apart rfl rfl rfl (Pipe.serveStep_unpublished stepped)
  | fetch c a pipe stepped => exact held.apart rfl rfl rfl (Pipe.fetchStep_unpublished stepped)
  | outside a pipe stepped => exact held.apart rfl rfl rfl (Pipe.outsideStep_unpublished stepped)

/-- The producer thread runs as it does alone; its own statements meet what they meet here. -/
theorem step_capture {met : Broker.State → Broker.Action → Prop} (s : State C) (a : Action C)
    (t : State C) (own : ∀ b, a = .producer (.own b) → met s.producer b)
    (other : ∀ b, ownStatement b = false → met s.producer b) (taken : step bars s a = some t) :
    Moves (Broker.step bars) met s.producer t.producer := by
  cases step_steps taken with
  | main a t steps =>
      rcases steps.managed.producer with same | ⟨kind, _, same⟩ | same
      · exact Or.inl same
      · exact .by (.select kind) (other _ rfl) (by rw [same]; rfl)
      · exact .by .quit (other _ rfl) (by rw [same]; rfl)
  | own b _ _ _ producer stepped => exact .by b (own b rfl) stepped
  | announce =>
      unfold State.announce
      split <;> exact .still
  | publish now _ f _ publish =>
      exact .by (.publish now) (other _ rfl) (by simp only [Broker.step, publish])
  | callback delivery producer stepped => exact .by _ (other _ rfl) stepped
  | telemetry a t stepped =>
      obtain ⟨_, _, rfl⟩ := telemetryStep_some stepped
      exact .still
  | _ => exact .still

theorem step_producer (s : State C) (a : Action C) (t : State C) (captured : Captured s a)
    (taken : step bars s a = some t) :
    Moves (Broker.step bars) Sized s.producer t.producer := by
  refine step_capture s a t captured ?_ taken
  intro b other biWidth biHeight built
  rw [built] at other
  cases other

/-- The frame server and its clients run as they do alone. -/
theorem step_pipe (s : State C) (a : Action C) (t : State C) (_ : True)
    (taken : step bars s a = some t) :
    Moves Pipe.step (fun _ _ => True) s.pipe t.pipe := by
  cases step_steps taken with
  | main a t steps =>
      rcases steps.managed.pipe with same | ⟨a, called⟩
      · exact Or.inl same
      · exact .by (.owner a) trivial called
  | announce =>
      unfold State.announce
      split <;> exact .still
  | publish now _ f _ _ pipe called => exact .by (.publish () (.call f)) trivial called
  | slot b _ _ pipe stepped => exact .by (.publish () b) trivial stepped
  | telemetry a t stepped =>
      obtain ⟨_, _, rfl⟩ := telemetryStep_some stepped
      exact .still
  | inStop a _ _ pipe stepped => exact .by (.owner a) trivial stepped
  | accept a pipe stepped => exact .by (.accept a) trivial stepped
  | serve i a pipe stepped => exact .by (.serve i a) trivial stepped
  | fetch c a pipe stepped => exact .by (.fetch c a) trivial stepped
  | outside a pipe stepped => exact .by (.outside a) trivial stepped
  | own | effective | received | counted | callback => exact .still

end System

end Obs2Mf.Broker.Process
