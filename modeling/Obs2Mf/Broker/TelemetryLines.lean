import Obs2Mf.Broker.Journal
import Obs2Mf.Broker.Service

set_option autoImplicit false

/- The lines of the telemetry thread: the number of consumers, and the health of the process
by counters that the other threads store one after the other. -/
namespace Obs2Mf.Broker.Process

open Entries
open Run

variable {C : Type}

/-- What the telemetry thread can do in one step. -/
inductive TelemetrySteps (s : State C) : TelemetryAction → State C → Prop
  | moved (pc : TelemetryPc)
      (within : pc = .finished ∨ (∃ i, pc = .wait i) ∨ pc = .recheck ∨ pc = .poll ∨ pc = .tick) :
      TelemetrySteps s .next (s.at pc)
  | changed (differ : s.pipe.clientCount ≠ s.telemetry.lastClients) :
      TelemetrySteps s .next (s.at (.report s.pipe.clientCount))
  | ticked (sec : BitVec 32) (pc : TelemetryPc) (within : pc = .health .none ∨ pc = .loop) :
      TelemetrySteps s .next { s with telemetry := { s.telemetry with sec, pc } }
  | read (r : Reading) (here : s.telemetry.pc = .health r) (field : Field) (more : Reading)
      (read : r.read s field = some more) : TelemetrySteps s (.read field) (s.at (.health more))
  | health (r : Reading) (here : s.telemetry.pc = .health r) (h : Health)
      (complete : r.complete = some h) : TelemetrySteps s .log ((s.at .loop).say (.health h))
  | reported (clients : Int) (here : s.telemetry.pc = .report clients) : TelemetrySteps s .log
      (State.say { s with telemetry := { s.telemetry with pc := .tick, lastClients := clients } }
        (.consumers clients s.telemetry.lastClients))

section Steps

variable {s t : State C}

theorem telemetryStep_steps {a : TelemetryAction} (taken : telemetryStep s a = some t) :
    TelemetrySteps s a t := by
  cases a with
  | next =>
      simp only [telemetryStep] at taken
      split at taken
      · cases taken
        apply TelemetrySteps.moved
        split <;> simp
      · cases taken
        apply TelemetrySteps.moved
        split <;> simp
      · cases taken
        apply TelemetrySteps.moved
        split <;> simp
      · cases taken
        split
        · rename_i differ
          exact .changed differ
        · exact .moved _ (by simp)
      · cases taken
        apply TelemetrySteps.ticked
        split <;> simp
      · cases taken
  | read field =>
      simp only [telemetryStep] at taken
      split at taken
      · rename_i r here
        obtain ⟨more, read, rfl⟩ := Option.map_eq_some_iff.mp taken
        exact .read r here field more read
      · cases taken
  | log =>
      simp only [telemetryStep] at taken
      split at taken
      · rename_i r here
        obtain ⟨h, complete, rfl⟩ := Option.map_eq_some_iff.mp taken
        exact .health r here h complete
      · rename_i clients here
        cases taken
        exact .reported clients here
      · cases taken

/-- The step of another thread leaves the telemetry thread where it is, or starts it. -/
theorem step_telemetry [DecidableEq C] {bars : Int → Int × Int × Int} {a : Action C}
    (other : a.speaker ≠ some .telemetry) (taken : step bars s a = some t) :
    t.telemetry = s.telemetry ∨ t.telemetry = { s.telemetry with pc := .health .none } := by
  cases step_steps taken with
  | main a t steps =>
      cases steps with
      | startTelemetry => exact Or.inr rfl
      | _ => exact Or.inl rfl
  | announce =>
      unfold State.announce
      split <;> exact Or.inl rfl
  | telemetry => exact (other rfl).elim
  | _ => exact Or.inl rfl

end Steps

/-- What a line about the consumers says was before is what the one before it said is now. -/
def Follows (before after : Int × Int) : Prop := after.2 = before.1 ∧ after.1 ≠ after.2

def State.counts (s : State C) : List (Int × Int) := s.log.filterMap Line.streaming

structure Watched (s : State C) : Prop where
  chain : ((0, 0) :: s.counts).IsChain Follows
  last : ∃ was, ((0, 0) :: s.counts).getLast? = some (s.telemetry.lastClients, was)
  due : ∀ clients, s.telemetry.pc = .report clients → clients ≠ s.telemetry.lastClients

theorem watched_initial : Watched (State.initial C) where
  chain := List.isChain_singleton _
  last := ⟨0, rfl⟩
  due := by simp [State.initial]

theorem Watched.quiet {s t : State C} (held : Watched s) (counts : t.counts = s.counts)
    (last : t.telemetry.lastClients = s.telemetry.lastClients)
    (due : ∀ clients, t.telemetry.pc = .report clients → clients ≠ s.telemetry.lastClients) :
    Watched t where
  chain := by
    rw [counts]
    exact held.chain
  last := by
    rw [counts, last]
    exact held.last
  due := by
    rw [last]
    exact due

theorem State.counts_say (s : State C) (line : Line) :
    (s.say line).counts = s.counts ++ line.streaming.toList := by
  simp only [State.counts, State.say, List.filterMap_append]
  cases streaming : line.streaming <;> simp [streaming]

theorem TelemetrySteps.watched {s t : State C} {a : TelemetryAction} (held : Watched s)
    (taken : TelemetrySteps s a t) : Watched t := by
  cases taken with
  | moved pc within =>
      refine held.quiet rfl rfl ?_
      rintro clients rfl
      simp at within
  | changed differ =>
      refine held.quiet rfl rfl ?_
      intro clients here
      cases here
      exact differ
  | ticked sec pc within =>
      refine held.quiet rfl rfl ?_
      rintro clients rfl
      simp at within
  | read => exact held.quiet rfl rfl (by simp [State.at])
  | health r here h complete =>
      refine held.quiet ?_ rfl (by simp [State.at, State.say])
      rw [State.counts_say]
      exact List.append_nil _
  | reported clients here =>
      obtain ⟨was, last⟩ := held.last
      have differ := held.due clients here
      have counts := State.counts_say
        { s with telemetry := { s.telemetry with pc := .tick, lastClients := clients } }
        (.consumers clients s.telemetry.lastClients)
      refine ⟨?_, ⟨s.telemetry.lastClients, ?_⟩, by simp [State.say]⟩
      · rw [counts, ← List.cons_append]
        exact chain_concat held.chain last ⟨rfl, differ⟩
      · rw [counts, ← List.cons_append]
        exact List.getLast?_concat

/-- What a health line is about: how many frames were counted when it read their number,
and how many sources had been stored when it read the last of them. -/
structure Taken where
  counted : Nat
  stored : Nat
  deriving DecidableEq, Repr

/-- What is noted of a run: how often the producer has counted a frame and stored a source,
what the next health line has found of the two, and what those logged so far found. -/
structure Record where
  counted : Nat
  stored : Nat
  next : Taken
  lines : List Taken
  deriving DecidableEq, Repr

def Record.start : Record := ⟨0, 0, ⟨0, 0⟩, []⟩

def Record.note (s : State C) (a : Action C) (_ : State C) (r : Record) : Record :=
  match a with
  | .producer .store =>
      match s.stage with
      | .effective => { r with stored := r.stored + 1 }
      | .counted => { r with counted := r.counted + 1 }
      | _ => r
  | .telemetry (.read .published) => { r with next := { r.next with counted := r.counted } }
  | .telemetry (.read .src) => { r with next := { r.next with stored := r.stored } }
  | .telemetry .log =>
      match s.telemetry.pc with
      | .health _ => { r with lines := r.lines ++ [r.next] }
      | _ => r
  | _ => r

/-- The source that the last of so many frames was announced with. -/
def Stored (frames : List Published) (kind : SourceKind) : Nat → Prop
  | 0 => kind = .sourceNone
  | last + 1 => ∃ p, frames[last]? = some p ∧ p.hdr.sourceKind = kind.code

structure Shows (frames : List Published) (h : Health) (taken : Taken) : Prop where
  published : h.published = .ofNat 64 taken.counted
  src : Stored frames h.src taken.stored

/-- The order of two lines. The source of a frame is stored before the frame is counted, and
the next source after that. -/
structure Taken.Before (a b : Taken) : Prop where
  counted : a.counted ≤ b.counted
  stored : a.stored ≤ b.stored
  behind : a.counted ≤ b.stored
  ahead : a.stored ≤ b.counted + 1

/-- The frame is in the slot, or on its way there, and its source not yet stored. -/
def Stage.unstored : Stage → Nat
  | .publishing | .effective => 1
  | _ => 0

/-- The source is stored, and its frame not yet counted. -/
def Stage.lagging : Stage → Nat
  | .received | .counted => 1
  | _ => 0

/-- What the producer thread has counted and stored. -/
structure Storing (s : State C) (counted stored : Nat) : Prop where
  completed : s.pipe.completed = counted + s.stage.uncounted
  counter : s.g_framesPublished = .ofNat 64 counted
  announced : s.producer.published.length = stored + s.stage.unstored
  order : stored = counted + s.stage.lagging
  effective : Stored s.producer.published s.g_effectiveSource stored
  due : s.stage.unstored = 1 → Stored s.producer.published s.producer.reported (stored + 1)

/-- The health lines so far, and what the next one has read already. -/
structure Sampled (s : State C) (r : Record) : Prop where
  storing : Storing s r.counted r.stored
  ordered : r.lines.Pairwise Taken.Before
  reached : ∀ taken ∈ r.lines, taken.counted ≤ r.counted ∧ taken.stored ≤ r.stored
  lines : List.Forall₂ (Shows s.producer.published) (s.log.filterMap Line.snapshot) r.lines
  counted : ∀ reading value, s.telemetry.pc = .health reading → reading.published = some value →
    value = .ofNat 64 r.next.counted ∧ r.next.counted ≤ r.counted ∧
      ∀ taken ∈ r.lines, taken.counted ≤ r.next.counted ∧ taken.stored ≤ r.next.counted + 1
  stored : ∀ reading kind, s.telemetry.pc = .health reading → reading.src = some kind →
    Stored s.producer.published kind r.next.stored ∧ r.next.stored ≤ r.stored ∧
      ∀ taken ∈ r.lines, taken.counted ≤ r.next.stored ∧ taken.stored ≤ r.next.stored

theorem storing_initial : Storing (State.initial C) 0 0 where
  completed := rfl
  counter := rfl
  announced := rfl
  order := rfl
  effective := rfl
  due := by simp [State.initial, Stage.unstored]

theorem sampled_initial : Sampled (State.initial C) .start where
  storing := storing_initial
  ordered := .nil
  reached := by simp [Record.start]
  lines := .nil
  counted := by simp [State.initial]
  stored := by simp [State.initial]

section Steps

variable {s t : State C} {r : Record} {counted stored : Nat}

theorem Stored.mono {frames more : List Published} {kind : SourceKind} {count : Nat}
    (held : Stored frames kind count) (grown : frames <+: more) : Stored more kind count := by
  cases count with
  | zero => exact held
  | succ last =>
      obtain ⟨p, there, same⟩ := held
      obtain ⟨later, rfl⟩ := grown
      have inside := (List.getElem?_eq_some_iff.mp there).1
      rw [← List.getElem?_append_left inside] at there
      exact ⟨p, there, same⟩

theorem Shows.mono {frames more : List Published} {h : Health} {taken : Taken}
    (held : Shows frames h taken) (grown : frames <+: more) : Shows more h taken :=
  ⟨held.published, held.src.mono grown⟩

/-- A source is stored at most once more than a frame is counted. -/
theorem Storing.close (held : Storing s counted stored) :
    counted ≤ stored ∧ stored ≤ counted + 1 := by
  have order := held.order
  have lag : s.stage.lagging ≤ 1 := by
    cases s.stage <;> simp only [Stage.lagging] <;> omega
  omega

/-- A step that touches neither the frames nor what is stored of them. -/
theorem Storing.apart (held : Storing s counted stored) (stage : t.stage = s.stage)
    (completed : t.pipe.completed = s.pipe.completed)
    (counter : t.g_framesPublished = s.g_framesPublished)
    (frames : t.producer.published = s.producer.published)
    (effective : t.g_effectiveSource = s.g_effectiveSource)
    (reported : s.stage ≠ .working → t.producer.reported = s.producer.reported) :
    Storing t counted stored where
  completed := by
    rw [stage, completed]
    exact held.completed
  counter := by
    rw [counter]
    exact held.counter
  announced := by
    rw [stage, frames]
    exact held.announced
  order := by
    rw [stage]
    exact held.order
  effective := by
    rw [frames, effective]
    exact held.effective
  due := by
    intro due
    rw [stage] at due
    rw [frames, reported]
    · exact held.due due
    · intro working
      rw [working] at due
      cases due

/-- A step of the frame server that returns from no `Publish`. -/
theorem Storing.moved (held : Storing s counted stored) {pipe : Pipe.State Unit C}
    (completed : pipe.completed = s.pipe.completed) :
    Storing { s with pipe } counted stored :=
  held.apart rfl completed rfl rfl rfl fun _ => rfl

theorem Storing.publish (held : Storing s counted stored) (announced : s.stage = .announced)
    (now : BitVec 64) {f : Pipe.Frame} {pipe : Pipe.State Unit C}
    (called : Pipe.publishStep s.pipe () (.call f) = some pipe) :
    Storing { s with producer := s.producer.publish now, pipe, stage := .publishing }
      counted stored := by
  obtain ⟨completed, counter, length, order, effective, _⟩ := held
  rw [announced] at completed length order
  obtain ⟨p, grown, same⟩ : ∃ p : Published,
      (s.producer.publish now).published = s.producer.published ++ [p] ∧
        p.hdr.sourceKind = s.producer.reported.code := ⟨_, rfl, rfl⟩
  have last : (s.producer.publish now).published[stored]? = some p := by
    rw [grown, show stored = s.producer.published.length from length.symm]
    exact List.getElem?_concat_length
  refine ⟨?_, counter, ?_, order, effective.mono ⟨[p], grown.symm⟩, fun _ => ⟨p, last, same⟩⟩
  · cases Pipe.publishStep_steps called with
    | call => exact completed
  · rw [grown, List.length_append]
    exact congrArg (· + 1) length

theorem Storing.slot (held : Storing s counted stored) (publishing : s.stage = .publishing)
    {b : Pipe.PublishAction} (inside : isCall b = false) {pipe : Pipe.State Unit C}
    (stepped : Pipe.publishStep s.pipe () b = some pipe) :
    Storing { s with pipe, stage := afterSlot b } counted stored := by
  obtain ⟨completed, counter, length, order, effective, due⟩ := held
  rw [publishing] at completed length order due
  cases Pipe.publishStep_steps stepped with
  | call => cases inside
  | unlock => exact ⟨congrArg (· + 1) completed, counter, length, order, effective, due⟩
  | _ => exact ⟨completed, counter, length, order, effective, due⟩

/-- The line about the source is no health line, and its frame is not published yet. -/
theorem Storing.announce (held : Storing s counted stored) (working : s.stage = .working) :
    Storing s.announce counted stored := by
  obtain ⟨completed, counter, length, order, effective, _⟩ := held
  rw [working] at completed length order
  unfold State.announce
  split
  · exact ⟨completed, counter, length, order, effective, by simp [Stage.unstored]⟩
  · exact ⟨completed, counter, length, order, effective, by simp [Stage.unstored, State.say]⟩

/-- One of the three stores after `Publish`. -/
theorem Storing.effectiveStored (held : Storing s counted stored) (stage : s.stage = .effective) :
    Storing { s with g_effectiveSource := s.producer.reported, stage := .received }
      counted (stored + 1) := by
  obtain ⟨completed, counter, length, order, effective, due⟩ := held
  rw [stage] at completed length order due
  exact ⟨completed, counter, length, congrArg (· + 1) order, due rfl, by simp [Stage.unstored]⟩

theorem Storing.receivedStored (held : Storing s counted stored) (stage : s.stage = .received) :
    Storing { s with g_obsFramesRcvd := s.producer.obs.frames, stage := .counted }
      counted stored := by
  obtain ⟨completed, counter, length, order, effective, _⟩ := held
  rw [stage] at completed length order
  exact ⟨completed, counter, length, order, effective, by simp [Stage.unstored]⟩

theorem Storing.countedStored (held : Storing s counted stored) (stage : s.stage = .counted) :
    Storing { s with g_framesPublished := s.g_framesPublished + 1#64, stage := .working }
      (counted + 1) stored := by
  obtain ⟨completed, counter, length, order, effective, _⟩ := held
  rw [stage] at completed length order
  refine ⟨completed, ?_, length, order, effective, by simp [Stage.unstored]⟩
  rw [counter]
  exact (BitVec.ofNat_add counted 1).symm

/-- A step that is not the telemetry thread's. -/
theorem Sampled.beside (held : Sampled s r)
    (storing : Storing t counted stored)
    (more : r.counted ≤ counted ∧ r.stored ≤ stored)
    (grown : s.producer.published <+: t.producer.published)
    (heard : t.log.filterMap Line.snapshot = s.log.filterMap Line.snapshot)
    (telemetry : t.telemetry = s.telemetry ∨
      t.telemetry = { s.telemetry with pc := .health .none }) :
    Sampled t { r with counted, stored } where
  storing := storing
  ordered := held.ordered
  reached := by
    intro taken member
    have reached := held.reached taken member
    dsimp only
    omega
  lines := by
    rw [heard]
    exact held.lines.imp fun _ _ shows => shows.mono grown
  counted := by
    intro reading value here read
    rcases telemetry with same | started
    · rw [same] at here
      obtain ⟨known, reached, last⟩ := held.counted reading value here read
      exact ⟨known, Nat.le_trans reached more.1, last⟩
    · rw [started] at here
      cases here
      cases read
  stored := by
    intro reading kind here read
    rcases telemetry with same | started
    · rw [same] at here
      obtain ⟨known, reached, last⟩ := held.stored reading kind here read
      exact ⟨known.mono grown, Nat.le_trans reached more.2, last⟩
    · rw [started] at here
      cases here
      cases read

/-- A step of the telemetry thread that reads neither number and logs no health line. -/
theorem Sampled.turn (held : Sampled s r) (telemetry : Telemetry) (log : List Line)
    (heard : log.filterMap Line.snapshot = s.log.filterMap Line.snapshot)
    (reading : ∀ reading, telemetry.pc = .health reading → reading = .none ∨
      ∃ before, s.telemetry.pc = .health before ∧ reading.published = before.published ∧
        reading.src = before.src) : Sampled { s with telemetry, log } r where
  storing := held.storing.apart rfl rfl rfl rfl rfl fun _ => rfl
  ordered := held.ordered
  reached := held.reached
  lines := by
    rw [heard]
    exact held.lines
  counted := by
    intro more value here read
    rcases reading more here with rfl | ⟨before, there, same, _⟩
    · cases read
    · exact held.counted before value there (same.symm.trans read)
  stored := by
    intro more kind here read
    rcases reading more here with rfl | ⟨before, there, _, same⟩
    · cases read
    · exact held.stored before kind there (same.symm.trans read)

theorem Sampled.readPublished (held : Sampled s r) {before : Reading}
    (here : s.telemetry.pc = .health before) :
    Sampled (s.at (.health { before with published := s.g_framesPublished }))
      { r with next := { r.next with counted := r.counted } } where
  storing := held.storing.apart rfl rfl rfl rfl rfl fun _ => rfl
  ordered := held.ordered
  reached := held.reached
  lines := held.lines
  counted := by
    intro more value same read
    cases same
    cases read
    refine ⟨held.storing.counter, Nat.le_refl _, ?_⟩
    intro taken member
    have reached := held.reached taken member
    have close := held.storing.close
    dsimp only
    omega
  stored := by
    intro more kind same read
    cases same
    exact held.stored before kind here read

theorem Sampled.readSource (held : Sampled s r) {before : Reading}
    (here : s.telemetry.pc = .health before) :
    Sampled (s.at (.health { before with src := s.g_effectiveSource }))
      { r with next := { r.next with stored := r.stored } } where
  storing := held.storing.apart rfl rfl rfl rfl rfl fun _ => rfl
  ordered := held.ordered
  reached := held.reached
  lines := held.lines
  counted := by
    intro more value same read
    cases same
    exact held.counted before value here read
  stored := by
    intro more kind same read
    cases same
    cases read
    refine ⟨held.storing.effective, Nat.le_refl _, ?_⟩
    intro taken member
    have reached := held.reached taken member
    have close := held.storing.close
    dsimp only
    omega

theorem Sampled.read (held : Sampled s r) {before more : Reading} {field : Field}
    (here : s.telemetry.pc = .health before) (read : before.read s field = some more) :
    Sampled (s.at (.health more))
      (Record.note s (.telemetry (.read field)) (s.at (.health more)) r) := by
  have others (same : more.published = before.published ∧ more.src = before.src) :
      Sampled (s.at (.health more)) r := by
    refine held.turn { s.telemetry with pc := .health more } s.log rfl ?_
    intro reading now
    cases now
    exact Or.inr ⟨before, here, same⟩
  cases field with
  | published =>
      simp only [Reading.read] at read
      split at read <;> cases read
      exact held.readPublished here
  | src =>
      simp only [Reading.read] at read
      split at read <;> cases read
      exact held.readSource here
  | _ =>
      simp only [Reading.read] at read
      split at read <;> cases read
      exact others ⟨rfl, rfl⟩

theorem Reading.complete_known {r : Reading} {h : Health} (complete : r.complete = some h) :
    r.published = some h.published ∧ r.src = some h.src := by
  unfold Reading.complete at complete
  split at complete
  · rename_i clients cam src obsFrames published
    cases complete
    exact ⟨published, src⟩
  · cases complete

theorem Sampled.logged (held : Sampled s r) {reading : Reading} {h : Health}
    (here : s.telemetry.pc = .health reading) (complete : reading.complete = some h) :
    Sampled ((s.at .loop).say (.health h)) { r with lines := r.lines ++ [r.next] } := by
  obtain ⟨published, src⟩ := Reading.complete_known complete
  obtain ⟨value, counted, newest⟩ := held.counted reading h.published here published
  obtain ⟨shown, stored, latest⟩ := held.stored reading h.src here src
  refine ⟨held.storing.apart rfl rfl rfl rfl rfl fun _ => rfl, ?_, ?_, ?_,
    by simp [State.at, State.say], by simp [State.at, State.say]⟩
  · rw [List.pairwise_append]
    refine ⟨held.ordered, List.pairwise_singleton _ r.next, ?_⟩
    intro taken member last single
    rw [List.mem_singleton.mp single]
    exact ⟨(newest taken member).1, (latest taken member).2, (latest taken member).1,
      (newest taken member).2⟩
  · intro taken member
    rcases List.mem_append.mp member with old | new
    · exact held.reached taken old
    · rw [List.mem_singleton.mp new]
      exact ⟨counted, stored⟩
  · rw [State.say, State.at, List.filterMap_append]
    exact List.rel_append held.lines (.cons ⟨value, shown⟩ .nil)

theorem TelemetrySteps.sampled {a : TelemetryAction} (held : Sampled s r)
    (taken : TelemetrySteps s a t) : Sampled t (Record.note s (.telemetry a) t r) := by
  cases taken with
  | moved pc within =>
      refine held.turn { s.telemetry with pc } s.log rfl ?_
      rintro reading rfl
      simp at within
  | changed =>
      refine held.turn { s.telemetry with pc := _ } s.log rfl ?_
      intro reading here
      cases here
  | ticked sec pc within =>
      refine held.turn { s.telemetry with sec, pc } s.log rfl ?_
      rintro reading rfl
      rcases within with health | loop
      · exact Or.inl (TelemetryPc.health.inj health)
      · cases loop
  | read reading here field more read => exact held.read here read
  | health reading here h complete =>
      simp only [Record.note, here]
      exact held.logged here complete
  | reported clients here =>
      simp only [Record.note, here]
      refine held.turn { s.telemetry with pc := _, lastClients := _ } _ ?_ ?_
      · rw [List.filterMap_append]
        exact List.append_nil _
      · intro reading now
        cases now

end Steps

section Runs

variable [DecidableEq C] {bars : Int → Int × Int × Int}

theorem sampled_step (s : State C) (r : Record) (a : Action C) (t : State C) (held : Sampled s r)
    (taken : step bars s a = some t) : Sampled t (Record.note s a t r) := by
  by_cases own : a.speaker = some .telemetry
  · cases step_steps taken with
    | telemetry a t stepped => exact (telemetryStep_steps stepped).sampled held
    | _ => cases own
  · have heard := (step_said taken).unheard Line.snapshot (snapshot_telemetry own)
    have telemetry := step_telemetry own taken
    have still (storing : Storing t r.counted r.stored)
        (grown : s.producer.published <+: t.producer.published) : Sampled t r :=
      held.beside storing ⟨Nat.le_refl _, Nat.le_refl _⟩ grown heard telemetry
    cases step_steps taken with
    | main a t steps =>
        have managed := steps.managed
        have frames : t.producer.published = s.producer.published := by
          rcases managed.producer with same | ⟨_, _, same⟩ | same <;> rw [same]
        refine still (held.storing.apart managed.stage ?_ managed.framesPublished frames
          managed.effective ?_) (by rw [frames])
        · rcases managed.pipe with same | ⟨a, called⟩
          · rw [same]
          · exact (Pipe.ownerStep_unpublished called).completed
        · intro _
          rcases managed.producer with same | ⟨_, _, same⟩ | same <;> rw [same]
    | own b _ working statement producer stepped =>
        have published := own_published (by rintro now rfl; cases statement) stepped
        refine still (held.storing.apart rfl rfl rfl published rfl ?_) (by rw [published])
        intro busy
        exact (busy working).elim
    | announce _ working =>
        refine still (held.storing.announce working) ?_
        unfold State.announce
        split <;> exact List.prefix_refl _
    | publish now announced f _ _ pipe called =>
        exact still (held.storing.publish announced now called) (List.prefix_append _ _)
    | slot b publishing inside pipe stepped =>
        exact still (held.storing.slot publishing inside stepped) (List.prefix_refl _)
    | effective stage =>
        simp only [Record.note, stage]
        exact held.beside (held.storing.effectiveStored stage) ⟨Nat.le_refl _, Nat.le_succ _⟩
          (List.prefix_refl _) heard telemetry
    | received stage =>
        simp only [Record.note, stage]
        exact still (held.storing.receivedStored stage) (List.prefix_refl _)
    | counted stage =>
        simp only [Record.note, stage]
        exact held.beside (held.storing.countedStored stage) ⟨Nat.le_succ _, Nat.le_refl _⟩
          (List.prefix_refl _) heard telemetry
    | callback delivery producer stepped =>
        simp only [Broker.step] at stepped
        split at stepped
        · cases stepped
          exact still (held.storing.apart rfl rfl rfl rfl rfl (fun _ => rfl)) (List.prefix_refl _)
        · cases stepped
    | telemetry => exact (own rfl).elim
    | inStop a _ _ pipe stepped =>
        exact still (held.storing.moved (Pipe.ownerStep_unpublished stepped).completed)
          (List.prefix_refl _)
    | accept a pipe stepped =>
        exact still (held.storing.moved (Pipe.acceptStep_unpublished stepped).completed)
          (List.prefix_refl _)
    | serve i a pipe stepped =>
        exact still (held.storing.moved (Pipe.serveStep_unpublished stepped).completed)
          (List.prefix_refl _)
    | fetch c a pipe stepped =>
        exact still (held.storing.moved (Pipe.fetchStep_unpublished stepped).completed)
          (List.prefix_refl _)
    | outside a pipe stepped =>
        exact still (held.storing.moved (Pipe.outsideStep_unpublished stepped).completed)
          (List.prefix_refl _)

theorem watched_step (s : State C) (a : Action C) (t : State C) (held : Watched s)
    (taken : step bars s a = some t) : Watched t := by
  by_cases own : a.speaker = some .telemetry
  · cases step_steps taken with
    | telemetry a t stepped => exact (telemetryStep_steps stepped).watched held
    | _ => cases own
  · have counts := (step_said taken).unheard Line.streaming (streaming_telemetry own)
    rcases step_telemetry own taken with same | started
    · refine held.quiet counts (by rw [same]) ?_
      rw [same]
      exact held.due
    · exact held.quiet counts (by rw [started]) (by simp [started])

/-- What the lines of the telemetry thread tell. -/
structure Reported (s : State C) (r : Record) : Prop where
  follow : ((0, 0) :: s.log.filterMap Line.streaming).IsChain Follows
  last : ∃ was, ((0, 0) :: s.log.filterMap Line.streaming).getLast? =
    some (s.telemetry.lastClients, was)
  snapshots : List.Forall₂ (Shows s.producer.published) (s.log.filterMap Line.snapshot) r.lines
  ordered : r.lines.Pairwise Taken.Before
  reached : ∀ taken ∈ r.lines, taken.counted ≤ s.pipe.completed ∧
    taken.stored ≤ s.pipe.completed

/-- The telemetry of a whole run. Each line about the consumers says that their number
changed, from the one that the line before it gave; what the thread compares with is the
number that was logged last. A health line gives the number of frames that were counted when
it read it, and the source of the frame whose source had been stored last when it read that,
none only if there was no such frame yet. Both never go back from line to line, neither is
ahead of the calls of `Publish` that have returned, and no line's source is older than the
frames that the lines before it counted. -/
theorem telemetry_tells (bars : Int → Int × Int × Int) (actions : List (Action C)) (s : State C)
    (r : Record)
    (ends : run (recording (step bars) Record.note) (.initial C, .start) actions = some (s, r)) :
    Reported s r := by
  have stepped : run (step bars) (.initial C) actions = some s := by
    rw [← run_recording (step bars) Record.note actions (.initial C) .start, ends]
    rfl
  have watched := invariant_run watched_step actions _ s watched_initial stepped
  have keep (u : State C × Record) (a : Action C) (t : State C × Record) (held : Sampled u.1 u.2)
      (taken : recording (step bars) Record.note u a = some t) : Sampled t.1 t.2 := by
    obtain ⟨stepped, noted⟩ := recording_some taken
    rw [noted]
    exact sampled_step u.1 u.2 a t.1 held stepped
  have sampled : Sampled s r := invariant_run keep actions _ (s, r) sampled_initial ends
  refine ⟨watched.chain, watched.last, sampled.lines, sampled.ordered, ?_⟩
  intro taken member
  have reached := sampled.reached taken member
  have order := sampled.storing.order
  have completed := sampled.storing.completed
  have within : s.stage.lagging ≤ s.stage.uncounted := by
    cases s.stage <;> simp only [Stage.lagging, Stage.uncounted] <;> omega
  omega

/-- The first frame is published, counted and then read for the first health line. -/
def firstHealth : List (Action Unit) :=
  [.producer (.slot .lock), .producer (.slot .copyHdr), .producer (.slot .stampMagic),
    .producer (.slot .stampVersion), .producer (.slot .assign), .producer (.slot .unlock),
    .producer .store, .producer .store, .producer .store, .main .next,
    .telemetry (.read .published), .telemetry (.read .src), .telemetry (.read .clients),
    .telemetry (.read .cam), .telemetry (.read .obsFrames), .telemetry .log]

theorem firstHealth_reported : ∃ (s : State Unit) (r : Record),
    s.log.filterMap Line.snapshot = [⟨0, false, .sourceTest, 0#64, 1#64⟩] ∧
      r.lines = [⟨1, 1⟩] ∧ Reported s r := by
  have first : run (step fun _ => (0, 0, 0)) (.initial Unit) firstFrame = some _ := rfl
  have producing := run_producing firstFrame _ (captured_unconnected _ (by simp [firstFrame])) first
  obtain ⟨f, called⟩ := producing.publish rfl rfl rfl rfl 0#64
  have ends : run (recording (step fun _ => (0, 0, 0)) Record.note) (.initial Unit, .start)
      (firstFrame ++ .producer (.publish 0#64) :: firstHealth) = some (_, _) :=
    run_through rfl (recording_of_step called _) rfl
  exact ⟨_, _, rfl, rfl, telemetry_tells _ _ _ _ ends⟩

end Runs

end Obs2Mf.Broker.Process
