import Obs2Mf.Vcam.Sampling

set_option autoImplicit false

/- What overlapping `RequestSample`, `Start`, `Stop` and `Shutdown` calls do to the
stream's event queue and to the pointers they go through. -/
namespace Obs2Mf.Vcam

open Method
open Run

/-- Neither the source nor its stream has been shut down. -/
def MediaSource.Live (s : MediaSource) : Prop :=
  s.queue = some () ∧ s.descriptor = some () ∧ s.stream.queue = some ()

/-- What the guards the thread in the source has passed found. -/
def SourcePc.Needs (s : MediaSource) : SourcePc → Prop
  | .idle | .entry _ | .release | .crashed => True
  | .closeStream => s.queue = none
  | .initAllocator _ | .uninitAllocator _ _ =>
      s.Live ∧ ∃ allocator, s.stream.allocator = some allocator
  | _ => s.Live

/-- What the thread in the source relies on. -/
structure Relies (pc : SourcePc) (s : MediaSource) : Prop where
  closed : s.stream.queue = none → s.queue = none
  needs : pc.Needs s

/-- What a statement of the source does to the stream as the requests see it. -/
inductive Touches (pc : SourcePc) (s t : MediaSource) : Prop where
  | quiet (queue : t.stream.queue = s.stream.queue) (events : t.stream.events = s.stream.events)
      (initialized : t.initialized = s.initialized ∨ s.stream.queue = some ())
  | started (queue : t.stream.queue = s.stream.queue) (initialized : t.initialized = s.initialized)
      (events : t.stream.events = s.stream.events ++ [.streamStarted])
  | stopped (calls : Calls) (caller : Stopper) (at_ : pc = .announceStop calls caller)
      (accepted : (calls (.streamStoppedEvent 0)).failed = false)
      (queue : t.stream.queue = s.stream.queue) (initialized : t.initialized = s.initialized)
      (events : t.stream.events = s.stream.events ++ [.streamStopped])
  | closed (at_ : pc = .closeStream) (initialized : t.initialized = s.initialized)
      (events : t.stream.events = s.stream.events)

structure Advances (pc : SourcePc) (s : MediaSource) (pc' : SourcePc) (t : MediaSource) : Prop where
  relies : Relies pc' t
  allocator : t.stream.allocator = s.stream.allocator
  touches : Touches pc s t

section Statements

variable {pc pc' : SourcePc} {s t : MediaSource}

/-- A statement that leaves the stream and the allocators alone. -/
theorem Relies.quietly (held : Relies pc s) (stream : t.stream = s.stream)
    (initialized : t.initialized = s.initialized) (closed : t.queue = s.queue ∨ t.queue = none)
    (needs : pc'.Needs t) : Advances pc s pc' t where
  relies := by
    refine ⟨?_, needs⟩
    intro reset
    rw [stream] at reset
    rcases closed with same | closed
    · rw [same]
      exact held.closed reset
    · exact closed
  allocator := by rw [stream]
  touches := by
    apply Touches.quiet
    · rw [stream]
    · rw [stream]
    · exact Or.inl initialized

theorem Relies.leaves (held : Relies pc s) (stream : t.stream = s.stream)
    (initialized : t.initialized = s.initialized) (closed : t.queue = s.queue ∨ t.queue = none) :
    Advances pc s .idle t :=
  held.quietly stream initialized closed trivial

theorem Relies.stays (held : Relies pc s) (needs : pc'.Needs s) : Advances pc s pc' s :=
  held.quietly rfl rfl (Or.inl rfl) needs

theorem Relies.live (held : Relies pc s)
    (guard : (s.queue.isNone || s.descriptor.isNone) = false) : s.Live := by
  rw [Bool.or_eq_false_iff, Option.isNone_eq_false_iff, Option.isNone_eq_false_iff] at guard
  obtain ⟨⟨_, queue⟩, ⟨_, descriptor⟩⟩ :=
    And.imp Option.isSome_iff_exists.mp Option.isSome_iff_exists.mp guard
  refine ⟨queue, descriptor, ?_⟩
  cases stream : s.stream.queue with
  | some _ => rfl
  | none =>
      have reset := held.closed stream
      rw [queue] at reset
      cases reset

theorem entry_ends (call : SourceCall) (s : MediaSource) (held : Relies (.entry call) s) :
    (SourcePc.entry call).statement.Ends s (fun pc' t => Advances (.entry call) s pc' t)
      (fun _ t => Advances (.entry call) s .idle t) := by
  have out : Advances (.entry call) s .idle s := held.leaves rfl rfl (Or.inl rfl)
  cases call with
  | start calls args =>
      simp only [SourcePc.statement]
      split
      · exact out
      · simp only [ends_bind, ends_read, ends_exitIf, ends_pure, returnIfFailed, returnHrIf, out,
          implies_true, true_and]
        intro _ _ guard _ _ _ _ _
        exact held.stays (held.live guard)
  | stop calls =>
      simp only [SourcePc.statement, ends_bind, ends_read, ends_exitIf, ends_pure, returnIfFailed,
        returnHrIf, out, implies_true, true_and]
      intro guard _
      exact held.stays (held.live guard)
  | shutdown =>
      simp only [SourcePc.statement, ends_bind, ends_read, ends_exitIf, ends_modify, ends_pure,
        returnHrIf, out, implies_true, true_and]
      intro _
      exact held.quietly rfl rfl (Or.inr rfl) rfl

theorem compare_ends (calls : Calls) (wanted : StreamEntry) (s : MediaSource)
    (held : Relies (.compare calls wanted) s) :
    (SourcePc.compare calls wanted).statement.Ends s
      (fun pc' t => Advances (.compare calls wanted) s pc' t)
      (fun _ t => Advances (.compare calls wanted) s .idle t) := by
  have live : s.Live := held.needs
  have out : Advances (.compare calls wanted) s .idle s := held.leaves rfl rfl (Or.inl rfl)
  have selected : Advances (.compare calls wanted) s .idle (s.select 0 true) :=
    held.leaves rfl rfl (Or.inl rfl)
  have queued : Advances (.compare calls wanted) s .idle
      ((s.select 0 true).queued (.newStream 0)) := held.leaves rfl rfl (Or.inl rfl)
  have queue : (s.select 0 true).queue = some () := live.1
  simp only [SourcePc.statement, MediaSource.queueEventParam, ends_bind, ends_read, ends_deref_some,
    ends_exitIf, ends_ite, ends_modify, ends_pure, returnIfFailed, out, selected, queued, queue,
    live.2.1, implies_true, true_and]
  intro _
  refine ⟨fun _ => held.stays live, fun _ => ⟨fun _ _ _ _ _ _ => ?_, fun _ _ => ?_⟩⟩
  · exact held.quietly rfl rfl (Or.inl rfl) live
  · exact held.quietly rfl rfl (Or.inl rfl) live

theorem guarded_allocator (guard : (s.stream.queue.isNone || s.stream.allocator.isNone) = false) :
    ∃ allocator, s.stream.allocator = some allocator :=
  ((MediaStream.ready_iff s 0).mp guard).2

/-- A request's event changes nothing the thread in the source relies on. -/
theorem Relies.sampled (held : Relies pc s) :
    Relies pc (s.modifyStream 0 (MediaStream.queued .mediaSample)) := by
  have stream : (s.modifyStream 0 (MediaStream.queued .mediaSample)).stream =
      MediaStream.queued .mediaSample s.stream := MediaSource.modifyStream_stream s _
  have live (before : s.Live) : (s.modifyStream 0 (MediaStream.queued .mediaSample)).Live := by
    refine ⟨before.1, before.2.1, ?_⟩
    rw [stream]
    exact before.2.2
  have needs := held.needs
  refine ⟨?_, ?_⟩
  · rw [stream]
    exact held.closed
  · cases pc with
    | initAllocator calls | uninitAllocator calls caller =>
        refine ⟨live needs.1, ?_⟩
        rw [stream]
        exact needs.2
    | idle | entry call | release | crashed => trivial
    | closeStream => exact needs
    | _ => exact live needs

/-- A change to the stream that keeps its pointers. -/
theorem Relies.modifies (held : Relies pc s) (live : s.Live) (f : MediaStream → MediaStream)
    (queue : (f s.stream).queue = s.stream.queue)
    (allocator : (f s.stream).allocator = s.stream.allocator)
    (touches : Touches pc s (s.modifyStream 0 f))
    (needs : (s.modifyStream 0 f).Live → pc'.Needs (s.modifyStream 0 f)) :
    Advances pc s pc' (s.modifyStream 0 f) := by
  have stream : (s.modifyStream 0 f).stream = f s.stream := MediaSource.modifyStream_stream s f
  refine ⟨⟨?_, needs ⟨live.1, live.2.1, ?_⟩⟩, ?_, touches⟩
  · intro reset
    rw [stream, queue] at reset
    exact held.closed reset
  · rw [stream, queue]
    exact live.2.2
  · rw [stream, allocator]

theorem Relies.enters (held : Relies pc s) (live : s.Live) (state : MF_STREAM_STATE)
    (needs : ∀ t : MediaSource, t.Live → pc'.Needs t) :
    Advances pc s pc' (s.modifyStream 0 (MediaStream.entered state)) := by
  apply held.modifies live _ rfl rfl _ (needs _)
  apply Touches.quiet
  · rw [MediaSource.modifyStream_stream]
    rfl
  · rw [MediaSource.modifyStream_stream]
    rfl
  · exact Or.inl rfl

theorem finish_ends (calls : Calls) (caller : Stopper) (s : MediaSource)
    (held : Relies (.finish calls caller) s) :
    (SourcePc.finish calls caller).statement.Ends s
      (fun pc' t => Advances (.finish calls caller) s pc' t)
      (fun _ t => Advances (.finish calls caller) s .idle t) := by
  have live : s.Live := held.needs
  have out {t : MediaSource} (stream : t.stream = s.stream)
      (initialized : t.initialized = s.initialized) (queue : t.queue = s.queue) :
      Advances (.finish calls caller) s .idle t := held.leaves stream initialized (Or.inl queue)
  cases caller with
  | start =>
      simp only [SourcePc.statement, MediaSource.queueEventParam, ends_bind, ends_read,
        ends_deref_some, ends_exitIf, ends_modify, returnIfFailed, live.1]
      exact ⟨fun _ => out rfl rfl rfl, fun _ => out rfl rfl rfl⟩
  | stop =>
      have queue : (s.select 0 false).queue = some () := live.1
      simp only [SourcePc.statement, MediaSource.queueEventParam, ends_bind, ends_read,
        ends_deref_some, ends_exitIf, ends_modify, returnIfFailed, live.2.1, queue]
      exact ⟨fun _ => out rfl rfl rfl,
        fun _ => ⟨fun _ => out rfl rfl rfl, fun _ => out rfl rfl rfl⟩⟩

theorem statement_ends (pc : SourcePc) (s : MediaSource) (held : Relies pc s) :
    pc.statement.Ends s (fun pc' t => Advances pc s pc' t) (fun _ t => Advances pc s .idle t) := by
  have out : Advances pc s .idle s := held.leaves rfl rfl (Or.inl rfl)
  cases pc with
  | idle => exact out
  | crashed => exact out
  | entry call => exact entry_ends call s held
  | compare calls wanted => exact compare_ends calls wanted s held
  | lookup calls wanted =>
      simp only [SourcePc.statement, ends_bind, ends_read]
      split
      · exact out
      · rw [ends_pure]
        exact held.stays (show s.Live from held.needs)
  | startGuard calls =>
      simp only [SourcePc.statement, ends_bind, ends_read, ends_exitIf, ends_pure, returnIfFailed,
        returnHrIf, out, implies_true, true_and]
      intro guard _ _
      exact held.stays ⟨held.needs, guarded_allocator guard⟩
  | stopGuard calls caller =>
      simp only [SourcePc.statement, ends_bind, ends_read, ends_exitIf, ends_pure,
        returnHrIf, out, implies_true, true_and]
      intro guard
      exact held.stays ⟨held.needs, guarded_allocator guard⟩
  | initAllocator calls =>
      obtain ⟨live, allocator, known⟩ := held.needs
      simp only [SourcePc.statement, ends_bind, ends_read, ends_deref_some, ends_exitIf,
        ends_modify, ends_pure, returnIfFailed, known, out, implies_true, true_and]
      intro _
      exact ⟨⟨held.closed, live⟩, rfl, .quiet rfl rfl (Or.inr live.2.2)⟩
  | uninitAllocator calls caller =>
      obtain ⟨live, allocator, known⟩ := held.needs
      simp only [SourcePc.statement, ends_bind, ends_read, ends_deref_some, ends_exitIf,
        ends_modify, ends_pure, returnIfFailed, known, out, implies_true, true_and]
      intro _
      exact ⟨⟨held.closed, live⟩, rfl, .quiet rfl rfl (Or.inr live.2.2)⟩
  | announceStart calls =>
      have live : s.Live := held.needs
      rw [SourcePc.statement, ends_bind]
      apply (MediaStream.queueEventParam_ends _ 0 .streamStarted s live.2.2).mono
      · rintro _ t ⟨_, same⟩
        rw [ends_pure, same]
        apply held.modifies live _ rfl rfl _ id
        apply Touches.started
        · rw [MediaSource.modifyStream_stream]
          rfl
        · rfl
        · rw [MediaSource.modifyStream_stream]
          rfl
      · rintro _ t ⟨_, same⟩
        rw [same]
        exact out
  | announceStop calls caller =>
      have live : s.Live := held.needs
      rw [SourcePc.statement, ends_bind]
      apply (MediaStream.queueEventParam_ends _ 0 .streamStopped s live.2.2).mono
      · rintro _ t ⟨accepted, same⟩
        rw [ends_pure, same]
        apply held.modifies live _ rfl rfl _ id
        apply Touches.stopped calls caller rfl accepted
        · rw [MediaSource.modifyStream_stream]
          rfl
        · rfl
        · rw [MediaSource.modifyStream_stream]
          rfl
      · rintro _ t ⟨_, same⟩
        rw [same]
        exact out
  | enterRunning calls => exact held.enters held.needs _ fun _ => id
  | enterStopped calls caller => exact held.enters held.needs _ fun _ => id
  | finish calls caller => exact finish_ends calls caller s held
  | closeStream =>
      have shut : s.queue = none := held.needs
      have stream : (s.modifyStream 0 MediaStream.released).stream =
          MediaStream.released s.stream := MediaSource.modifyStream_stream s _
      change Advances .closeStream s .release (s.modifyStream 0 MediaStream.released)
      refine ⟨⟨fun _ => shut, trivial⟩, ?_, .closed rfl rfl ?_⟩
      · rw [stream]
        rfl
      · rw [stream]
        rfl
  | release =>
      exact held.leaves rfl rfl (Or.inl rfl)

end Statements

namespace RequestPc

/-- The next statement goes through a null pointer. -/
def Lost (s : MediaSource) : RequestPc → Prop
  | .allocate _ => s.stream.allocator = none
  | .queueSample => s.stream.queue = none
  | _ => False

/-- The next statement is given a sample unless the call fails. -/
def Allocates (s : MediaSource) : RequestPc → Prop
  | .allocate _ => ∃ allocator, s.stream.allocator = some allocator ∧ s.initialized allocator = true
  | _ => False

/-- What a statement that does not end the request finds. -/
inductive Goes (hr : HRESULT) (s : MediaSource) : RequestPc → RequestPc → Prop where
  | passes (token : Bool) (allocator : ∃ allocator, s.stream.allocator = some allocator)
      (queue : s.stream.queue = some ()) : Goes hr s (.guard token) (.allocate token)
  | allocates (token : Bool) (allocates : Allocates s (.allocate token))
      (given : hr.failed = false) : Goes hr s (.allocate token) (.setTime token)
  | keeps (pc pc' : RequestPc) (before : pc.holdsSample = true) (after : pc'.holdsSample = true) :
      Goes hr s pc pc'

theorem statement_lost (pc : RequestPc) (hr : HRESULT) (s : MediaSource) (lost : pc.Lost s) :
    (pc.statement hr).run s = .crashed := by
  cases pc with
  | allocate token =>
      have null : s.stream.allocator = none := lost
      simp only [statement, run_bind, run_read, run_deref, null]
  | queueSample =>
      have null : (s.streams 0).queue = none := lost
      simp only [statement, MediaStream.queueEventParam, run_bind, run_read, run_deref, null]
  | _ => exact lost.elim

theorem statement_ends (pc : RequestPc) (hr : HRESULT) (s : MediaSource) (safe : ¬ pc.Lost s) :
    (pc.statement hr).Ends s (fun pc' t => t = s ∧ Goes hr s pc pc')
      (fun _ t => t = s ∨ pc = .queueSample ∧ s.stream.queue = some () ∧
        t = s.modifyStream 0 (MediaStream.queued .mediaSample)) := by
  cases pc with
  | idle => exact Or.inl rfl
  | crashed => exact Or.inl rfl
  | guard token =>
      simp only [statement, ends_bind, ends_read, ends_exitIf, ends_pure, returnHrIf, true_or,
        implies_true, true_and]
      intro guard
      rw [Bool.or_comm] at guard
      have ready := (MediaStream.ready_iff s 0).mp guard
      exact .passes token ready.2 ready.1
  | allocate token =>
      obtain ⟨allocator, known⟩ := Option.ne_none_iff_exists'.mp safe
      simp only [statement, ends_bind, ends_read, ends_exitIf, ends_pure, ends_deref_some,
        returnHrIf, returnIfFailed, known, true_or, implies_true, true_and]
      intro ready given
      rw [Bool.not_eq_false'] at ready
      exact .allocates token ⟨allocator, known, ready⟩ given
  | setTime token | setDuration token | setToken =>
      simp only [statement, ends_bind, ends_exitIf, ends_pure, returnIfFailed, true_or,
        implies_true, true_and]
      intro _
      exact .keeps _ _ rfl rfl
  | generate token =>
      simp only [statement, ends_bind, ends_exitIf, ends_pure, returnIfFailed, true_or,
        implies_true, true_and]
      intro _
      apply Goes.keeps _ _ rfl
      cases token
      · rfl
      · rfl
  | queueSample =>
      obtain ⟨_, queue⟩ := Option.ne_none_iff_exists'.mp safe
      rw [statement, ends_bind]
      apply (MediaStream.queueEventParam_ends hr 0 .mediaSample s queue).mono
      · rintro _ t ⟨_, same⟩
        exact Or.inr ⟨rfl, queue, same⟩
      · rintro _ t ⟨_, same⟩
        exact Or.inl same

theorem statement_allocates (pc : RequestPc) (hr : HRESULT) (s : MediaSource)
    (allocates : pc.Allocates s) (given : hr.failed = false) :
    pc.halted = false ∧ ∃ token, (pc.statement hr).run s = .next (.setTime token) s := by
  cases pc with
  | allocate token =>
      obtain ⟨allocator, known, ready⟩ := allocates
      refine ⟨rfl, token, ?_⟩
      simp only [statement, returnHrIf, returnIfFailed, run_bind, run_read, run_deref, run_exitIf,
        known, ready, given, Bool.not_true, Bool.false_eq_true, ↓reduceIte]
      rfl
  | _ => exact allocates.elim

theorem statement_queueSample (s : MediaSource) (queue : s.stream.queue = some ()) :
    (statement .sOk .queueSample).run s =
      .returned .sOk (s.modifyStream 0 (MediaStream.queued .mediaSample)) := by
  have live : (s.streams 0).queue = some () := queue
  simp only [statement, MediaStream.queueEventParam, run_bind, run_read, run_deref, live]
  rfl

end RequestPc

/-- No sample is queued after a stop that no start has followed. -/
def Orderly (events : List MediaEvent) : Prop :=
  ∀ before after, events = before ++ .mediaSample :: after →
    lastStartStop before ≠ some .streamStopped

theorem orderly_snoc (events : List MediaEvent) (event : MediaEvent) :
    Orderly (events ++ [event]) ↔ Orderly events ∧
      (event = .mediaSample → lastStartStop events ≠ some .streamStopped) := by
  constructor
  · intro orderly
    constructor
    · intro before after split
      apply orderly before (after ++ [event])
      rw [split, List.append_assoc, List.cons_append]
    · intro sample
      apply orderly events []
      rw [sample]
  · intro ⟨orderly, last⟩ before after split
    rcases List.eq_nil_or_concat after with none | ⟨rest, final, some⟩
    · rw [none] at split
      obtain ⟨same, sample⟩ := List.append_inj' split rfl
      rw [← same]
      exact last (List.cons.inj sample).1
    · rw [some, List.concat_eq_append, ← List.cons_append, ← List.append_assoc] at split
      exact orderly before rest (List.append_inj' split rfl).1

namespace Sampling

variable {R : Type}

/-- Nothing but a failing call keeps the request from the end of the method. -/
def Bound (s : Sampling R) (r : R) : Prop :=
  (s.requests r).holdsSample = true ∨ (s.requests r).Allocates s.shared

/-- Samples are in order, and no request went through a pointer that was reset. -/
structure Served (s : Sampling R) : Prop where
  events : Orderly s.shared.stream.events
  pointers : ∀ r, s.requests r ≠ .crashed

/-- The methods of the source let a request finish before they announce a stop or
reset the stream's queue, and no request starts while the last word was a stop. -/
def Undisturbed (s : Sampling R) : SamplingAction R → Prop
  | .source =>
      (∀ calls caller, s.source = .announceStop calls caller →
        (calls (.streamStoppedEvent 0)).failed = false →
          ∀ r, (s.requests r).holdsSample = false) ∧
      (s.source = .closeStream → ∀ r, ¬ s.Bound r)
  | .sample r hr => (s.requests r).Allocates s.shared → hr.failed = false →
      lastStartStop s.shared.stream.events ≠ some .streamStopped
  | _ => True

/-- Why undisturbed requests are served. -/
structure Serving (s : Sampling R) : Prop where
  served : s.Served
  waiting : ∀ r token, s.requests r = .allocate token →
    ∃ allocator, s.shared.stream.allocator = some allocator ∧
      (s.shared.stream.queue = none → s.shared.initialized allocator = false)
  holding : ∀ r, (s.requests r).holdsSample = true → s.shared.stream.queue = some () ∧
    lastStartStop s.shared.stream.events ≠ some .streamStopped

/-- What one statement of a request does. -/
inductive Samples [DecidableEq R] (s : Sampling R) (r : R) (hr : HRESULT) :
    Sampling R → Prop where
  | leaves : Samples s r hr { s.setRequest r .idle with holder := none }
  | goes (pc : RequestPc) (goes : RequestPc.Goes hr s.shared (s.requests r) pc) :
      Samples s r hr (s.setRequest r pc)
  | queues (last : s.requests r = .queueSample) (queue : s.shared.stream.queue = some ()) :
      Samples s r hr { s.setRequest r .idle with
        shared := s.shared.modifyStream 0 (MediaStream.queued .mediaSample), holder := none }
  | crashes (lost : (s.requests r).Lost s.shared) : Samples s r hr (s.setRequest r .crashed)

section Steps

variable {s t : Sampling R} {r : R} {hr : HRESULT}

/-- A statement that does not crash decides the step. -/
theorem sourceStep_of_ends {next : SourcePc → MediaSource → Prop}
    {returned : HRESULT → MediaSource → Prop}
    (ends : s.source.statement.Ends s.shared next returned) (taken : s.sourceStep = some t) :
    (next t.source t.shared ∨ t.source = .idle ∧ ∃ hr, returned hr t.shared) ∧
      t.requests = s.requests := by
  unfold Ends at ends
  unfold sourceStep at taken
  split at taken
  · cases taken
  · cases outcome : s.source.statement.run s.shared with
    | next pc shared =>
        rw [outcome] at ends taken
        cases taken
        exact ⟨Or.inl ends, rfl⟩
    | returned hr shared =>
        rw [outcome] at ends taken
        cases taken
        exact ⟨Or.inr ⟨rfl, hr, ends⟩, rfl⟩
    | crashed =>
        rw [outcome] at ends
        exact ends.elim

theorem sourceStep_advances (held : Relies s.source s.shared) (taken : s.sourceStep = some t) :
    Advances s.source s.shared t.source t.shared ∧ t.requests = s.requests := by
  obtain ⟨advances, requests⟩ := sourceStep_of_ends (statement_ends s.source s.shared held) taken
  refine ⟨?_, requests⟩
  rcases advances with next | ⟨idle, _, returned⟩
  · exact next
  · rw [idle]
    exact returned

theorem sampleStep_samples [DecidableEq R] (taken : s.sampleStep r hr = some t) :
    Samples s r hr t := by
  unfold sampleStep at taken
  split at taken
  · cases taken
  · by_cases lost : (s.requests r).Lost s.shared
    · rw [(s.requests r).statement_lost hr s.shared lost] at taken
      cases taken
      exact .crashes lost
    · have ends := (s.requests r).statement_ends hr s.shared lost
      unfold Ends at ends
      cases outcome : ((s.requests r).statement hr).run s.shared with
      | next pc shared =>
          rw [outcome] at ends taken
          obtain ⟨same, goes⟩ := ends
          cases taken
          subst same
          exact .goes pc goes
      | returned status shared =>
          rw [outcome] at ends taken
          cases taken
          rcases ends with same | ⟨last, queue, queued⟩
          · subst same
            exact .leaves
          · subst queued
            exact .queues last queue
      | crashed =>
          rw [outcome] at ends
          exact ends.elim

theorem Serving.source (held : Serving s) (relies : Relies s.source s.shared)
    (undisturbed : s.Undisturbed .source) (taken : s.sourceStep = some t) : Serving t := by
  obtain ⟨advances, requests⟩ := sourceStep_advances relies taken
  have allocator := advances.allocator
  refine ⟨⟨?_, ?_⟩, ?_, ?_⟩
  · cases advances.touches with
    | quiet queue events initialized =>
        rw [events]
        exact held.served.events
    | started queue initialized events =>
        rw [events, orderly_snoc]
        exact ⟨held.served.events, nofun⟩
    | stopped calls caller at_ accepted queue initialized events =>
        rw [events, orderly_snoc]
        exact ⟨held.served.events, nofun⟩
    | closed at_ initialized events =>
        rw [events]
        exact held.served.events
  · rw [requests]
    exact held.served.pointers
  · intro r token waiting
    rw [requests] at waiting
    obtain ⟨a, known, null⟩ := held.waiting r token waiting
    refine ⟨a, allocator.trans known, ?_⟩
    intro reset
    cases advances.touches with
    | quiet queue events initialized =>
        rw [queue] at reset
        rcases initialized with same | live
        · rw [same]
          exact null reset
        · rw [reset] at live
          cases live
    | started queue initialized events =>
        rw [initialized]
        exact null (queue.symm.trans reset)
    | stopped calls caller at_ accepted queue initialized events =>
        rw [initialized]
        exact null (queue.symm.trans reset)
    | closed at_ initialized events =>
        rw [initialized]
        have free := undisturbed.2 at_ r
        rw [Bound, waiting] at free
        apply Bool.eq_false_iff.mpr
        intro ready
        exact free (Or.inr ⟨a, known, ready⟩)
  · intro r holds
    rw [requests] at holds
    have before := held.holding r holds
    cases advances.touches with
    | quiet queue events initialized =>
        rw [queue, events]
        exact before
    | started queue initialized events =>
        rw [queue, events, lastStartStop_snoc]
        exact ⟨before.1, nofun⟩
    | stopped calls caller at_ accepted queue initialized events =>
        have none := undisturbed.1 calls caller at_ accepted r
        rw [none] at holds
        cases holds
    | closed at_ initialized events =>
        exact (undisturbed.2 at_ r (Or.inl holds)).elim

section Requests

variable [DecidableEq R]

/-- A request that moves to a harmless place. -/
theorem Serving.moves (held : Serving s) (pc : RequestPc) (safe : pc ≠ .crashed)
    (waiting : ∀ token, pc = .allocate token →
      ∃ allocator, s.shared.stream.allocator = some allocator ∧
        (s.shared.stream.queue = none → s.shared.initialized allocator = false))
    (holding : pc.holdsSample = true → s.shared.stream.queue = some () ∧
      lastStartStop s.shared.stream.events ≠ some .streamStopped) :
    Serving (s.setRequest r pc) := by
  refine ⟨⟨held.served.events, ?_⟩, ?_, ?_⟩
  · intro other
    by_cases same : other = r
    · rw [same, setRequest_same]
      exact safe
    · rw [setRequest_other _ _ _ _ same]
      exact held.served.pointers other
  · intro other token at_
    by_cases same : other = r
    · rw [same, setRequest_same] at at_
      exact waiting token at_
    · rw [setRequest_other _ _ _ _ same] at at_
      exact held.waiting other token at_
  · intro other holds
    by_cases same : other = r
    · rw [same, setRequest_same] at holds
      exact holding holds
    · rw [setRequest_other _ _ _ _ same] at holds
      exact held.holding other holds

theorem Serving.sample (held : Serving s) (undisturbed : s.Undisturbed (.sample r hr))
    (taken : s.sampleStep r hr = some t) : Serving t := by
  have ended : Serving (s.setRequest r .idle) := held.moves .idle nofun nofun nofun
  cases sampleStep_samples taken with
  | leaves =>
      exact ⟨⟨ended.served.events, ended.served.pointers⟩, ended.waiting, ended.holding⟩
  | goes pc goes =>
      generalize at_ : s.requests r = before at goes
      cases goes with
      | passes token allocator queue =>
          obtain ⟨allocator, known⟩ := allocator
          apply held.moves (.allocate token) nofun
          · intro _ _
            refine ⟨allocator, known, ?_⟩
            intro reset
            rw [queue] at reset
            cases reset
          · exact nofun
      | allocates token allocates given =>
          obtain ⟨allocator, known, ready⟩ := allocates
          obtain ⟨a, same, null⟩ := held.waiting r token at_
          rw [known] at same
          cases same
          apply held.moves (.setTime token) nofun nofun
          intro _
          constructor
          · cases queue : s.shared.stream.queue with
            | some _ => rfl
            | none =>
                rw [null queue] at ready
                cases ready
          · apply undisturbed _ given
            rw [at_]
            exact ⟨allocator, known, ready⟩
      | keeps _ _ holds after =>
          have before := held.holding r (by rw [at_]; exact holds)
          apply held.moves pc
          · intro crashed
            rw [crashed] at after
            cases after
          · intro token allocate
            rw [allocate] at after
            cases after
          · exact fun _ => before
  | queues last queue =>
      have before := held.holding r (by rw [last]; rfl)
      have stream : (s.shared.modifyStream 0 (MediaStream.queued .mediaSample)).stream =
          MediaStream.queued .mediaSample s.shared.stream := MediaSource.modifyStream_stream _ _
      refine ⟨⟨?_, ended.served.pointers⟩, ?_, ?_⟩
      · change Orderly (s.shared.modifyStream 0 _).stream.events
        rw [stream]
        exact (orderly_snoc _ _).mpr ⟨held.served.events, fun _ => before.2⟩
      · intro other token at_
        change ∃ a, (s.shared.modifyStream 0 _).stream.allocator = _ ∧
          ((s.shared.modifyStream 0 _).stream.queue = none → _)
        rw [stream]
        exact ended.waiting other token at_
      · intro other holds
        change (s.shared.modifyStream 0 _).stream.queue = _ ∧
          lastStartStop (s.shared.modifyStream 0 _).stream.events ≠ _
        rw [stream]
        refine ⟨queue, ?_⟩
        change lastStartStop (s.shared.stream.events ++ [.mediaSample]) ≠ _
        rw [lastStartStop_snoc]
        exact before.2
  | crashes lost =>
      cases at_ : s.requests r with
      | allocate token =>
          obtain ⟨a, known, _⟩ := held.waiting r token at_
          rw [at_] at lost
          exact nomatch known.symm.trans lost
      | queueSample =>
          have before := held.holding r (by rw [at_]; rfl)
          rw [at_] at lost
          exact nomatch before.1.symm.trans lost
      | _ =>
          rw [at_] at lost
          exact lost.elim

/-- The statements of a request that go on. -/
theorem sampleStep_goes {pc : RequestPc} (active : (s.requests r).halted = false)
    (goes : ((s.requests r).statement hr).run s.shared = .next pc s.shared) :
    s.sampleStep r hr = some (s.setRequest r pc) := by
  simp only [sampleStep, active, goes, Bool.false_eq_true, ↓reduceIte]
  rfl

/-- A request with a sample in hand can come to its last statement with no other
thread taking a step. -/
theorem reaches_queueSample (holds : (s.requests r).holdsSample = true) :
    ∃ more u, run step s more = some u ∧ u.requests r = .queueSample ∧ u.shared = s.shared := by
  have goes (s : Sampling R) (pc : RequestPc) (active : (s.requests r).halted = false)
      (next : ((s.requests r).statement .sOk).run s.shared = .next pc s.shared)
      (rest : ∃ more u, run step (s.setRequest r pc) more = some u ∧
        u.requests r = .queueSample ∧ u.shared = s.shared) :
      ∃ more u, run step s more = some u ∧ u.requests r = .queueSample ∧ u.shared = s.shared := by
    obtain ⟨more, u, ran, arrived⟩ := rest
    refine ⟨.sample r .sOk :: more, u, ?_, arrived⟩
    rw [run_cons, step, sampleStep_goes active next]
    exact ran
  have last (s : Sampling R) (at_ : s.requests r = .queueSample) :
      ∃ more u, run step s more = some u ∧ u.requests r = .queueSample ∧ u.shared = s.shared :=
    ⟨[], s, rfl, at_, rfl⟩
  have token (s : Sampling R) (at_ : s.requests r = .setToken) :=
    goes s .queueSample (by rw [at_]; rfl) (by rw [at_]; rfl) (last _ (setRequest_same _ _ _))
  have generate (s : Sampling R) (given : Bool) (at_ : s.requests r = .generate given) :
      ∃ more u, run step s more = some u ∧ u.requests r = .queueSample ∧ u.shared = s.shared := by
    cases given with
    | true =>
        have after := token _ (setRequest_same s r .setToken)
        exact goes s .setToken (by rw [at_]; rfl) (by rw [at_]; rfl) after
    | false =>
        have after := last _ (setRequest_same s r .queueSample)
        exact goes s .queueSample (by rw [at_]; rfl) (by rw [at_]; rfl) after
  have duration (s : Sampling R) (given : Bool) (at_ : s.requests r = .setDuration given) :=
    goes s (.generate given) (by rw [at_]; rfl) (by rw [at_]; rfl)
      (generate _ given (setRequest_same _ _ _))
  have time (s : Sampling R) (given : Bool) (at_ : s.requests r = .setTime given) :=
    goes s (.setDuration given) (by rw [at_]; rfl) (by rw [at_]; rfl)
      (duration _ given (setRequest_same _ _ _))
  cases at_ : s.requests r with
  | setTime given => exact time s given at_
  | setDuration given => exact duration s given at_
  | generate given => exact generate s given at_
  | setToken => exact token s at_
  | queueSample => exact last s at_
  | _ =>
      rw [at_] at holds
      cases holds

/-- A request that holds a sample when the queue's pointer has been reset, or when
the last word was a stop, can go wrong. -/
theorem goes_wrong (holds : (s.requests r).holdsSample = true)
    (bad : s.shared.stream.queue = none ∨
      lastStartStop s.shared.stream.events = some .streamStopped) :
    ∃ more u, run step s more = some u ∧ ¬ u.Served := by
  obtain ⟨more, u, ran, at_, same⟩ := reaches_queueSample holds
  rw [← same] at bad
  cases queue : u.shared.stream.queue with
  | none =>
      have lost : (u.requests r).Lost u.shared := by
        rw [at_]
        exact queue
      have crashed := (u.requests r).statement_lost .sOk u.shared lost
      refine ⟨more ++ [.sample r .sOk], u.setRequest r .crashed, ?_, ?_⟩
      · rw [run_append, ran, Option.bind_some, run_cons, step, sampleStep, crashed, at_]
        rfl
      · intro served
        exact served.pointers r (setRequest_same _ _ _)
  | some _ =>
      have last : lastStartStop u.shared.stream.events = some .streamStopped := by
        rcases bad with reset | last
        · rw [queue] at reset
          cases reset
        · exact last
      refine ⟨more ++ [.sample r .sOk], { u.setRequest r .idle with
        shared := u.shared.modifyStream 0 (MediaStream.queued .mediaSample), holder := none },
        ?_, ?_⟩
      · rw [run_append, ran, Option.bind_some, run_cons, step, sampleStep, at_,
          RequestPc.statement_queueSample u.shared queue]
        rfl
      · intro served
        have events := served.events
        change Orderly (u.shared.modifyStream 0 _).stream.events at events
        rw [MediaSource.modifyStream_stream] at events
        exact ((orderly_snoc _ _).mp events).2 rfl last

theorem goes_wrong_after {t : Sampling R} {more : List (SamplingAction R)}
    (ran : run step s more = some t) (wrong : ∃ more u, run step t more = some u ∧ ¬ u.Served) :
    ∃ more u, run step s more = some u ∧ ¬ u.Served := by
  obtain ⟨rest, u, later, bad⟩ := wrong
  refine ⟨more ++ rest, u, ?_, bad⟩
  rw [run_append, ran]
  exact later

/-- A stop announced over a request's head. -/
theorem announceStop_goes_wrong {calls : Calls} {caller : Stopper}
    (relies : Relies s.source s.shared) (at_ : s.source = .announceStop calls caller)
    (accepted : (calls (.streamStoppedEvent 0)).failed = false)
    (holds : (s.requests r).holdsSample = true) (taken : s.sourceStep = some t) :
    ∃ more u, run step t more = some u ∧ ¬ u.Served := by
  have live : s.shared.Live := by
    have needs := relies.needs
    rw [at_] at needs
    exact needs
  have ends : s.source.statement.Ends s.shared
      (fun _ t => t = s.shared.modifyStream 0 (MediaStream.queued .streamStopped))
      (fun _ _ => False) := by
    rw [at_, SourcePc.statement, ends_bind]
    apply (MediaStream.queueEventParam_ends _ 0 .streamStopped s.shared live.2.2).mono
    · intro _ t ⟨_, same⟩
      rw [ends_pure]
      exact same
    · intro _ t ⟨failed, _⟩
      rw [accepted] at failed
      cases failed
  obtain ⟨outcome, requests⟩ := sourceStep_of_ends ends taken
  rcases outcome with same | ⟨_, _, impossible⟩
  · apply goes_wrong (r := r)
    · rw [requests]
      exact holds
    · right
      rw [same, MediaSource.modifyStream_stream]
      exact lastStartStop_snoc _ _
  · exact impossible.elim

/-- A queue pointer reset under a request's feet. -/
theorem closeStream_goes_wrong (at_ : s.source = .closeStream) (bound : s.Bound r)
    (taken : s.sourceStep = some t) : ∃ more u, run step t more = some u ∧ ¬ u.Served := by
  have ends : s.source.statement.Ends s.shared
      (fun _ t => t = s.shared.modifyStream 0 MediaStream.released) (fun _ _ => False) := by
    rw [at_]
    exact rfl
  obtain ⟨outcome, requests⟩ := sourceStep_of_ends ends taken
  rcases outcome with same | ⟨_, _, impossible⟩
  · have stream : t.shared.stream = MediaStream.released s.shared.stream := by
      rw [same]
      exact MediaSource.modifyStream_stream _ _
    have reset : t.shared.stream.queue = none := by
      rw [stream]
      rfl
    rcases bound with holds | allocates
    · apply goes_wrong (r := r)
      · rw [requests]
        exact holds
      · exact Or.inl reset
    · have still : (t.requests r).Allocates t.shared := by
        rw [requests]
        cases pc : s.requests r with
        | allocate token =>
            rw [pc] at allocates
            obtain ⟨allocator, known, ready⟩ := allocates
            refine ⟨allocator, ?_, ?_⟩
            · rw [stream]
              exact known
            · rw [same]
              exact ready
        | _ =>
            rw [pc] at allocates
            exact allocates.elim
      obtain ⟨active, token, goes⟩ :=
        (t.requests r).statement_allocates .sOk t.shared still rfl
      have given : run step t [.sample r .sOk] = some (t.setRequest r (.setTime token)) := by
        rw [run_cons, step, sampleStep_goes active goes]
        rfl
      apply goes_wrong_after given
      apply goes_wrong (r := r)
      · rw [setRequest_same]
        rfl
      · exact Or.inl reset
  · exact impossible.elim

theorem allocate_goes_wrong (allocates : (s.requests r).Allocates s.shared)
    (given : hr.failed = false)
    (last : lastStartStop s.shared.stream.events = some .streamStopped)
    (taken : s.sampleStep r hr = some t) : ∃ more u, run step t more = some u ∧ ¬ u.Served := by
  obtain ⟨active, token, goes⟩ := (s.requests r).statement_allocates hr s.shared allocates given
  rw [sampleStep_goes active goes] at taken
  cases taken
  apply goes_wrong (r := r)
  · rw [setRequest_same]
    rfl
  · exact Or.inr last

/-- Each step that disturbs a request lets it go wrong. -/
theorem disturbed_goes_wrong {a : SamplingAction R} (relies : Relies s.source s.shared)
    (taken : s.step a = some t) (disturbed : ¬ s.Undisturbed a) :
    ∃ more u, run step t more = some u ∧ ¬ u.Served := by
  cases a with
  | call call => exact (disturbed trivial).elim
  | request r token => exact (disturbed trivial).elim
  | source =>
      rcases not_and_or.mp disturbed with announced | reset
      · simp only [Classical.not_forall, Bool.not_eq_false] at announced
        obtain ⟨calls, caller, at_, accepted, r, holds⟩ := announced
        exact announceStop_goes_wrong relies at_ accepted holds taken
      · simp only [Classical.not_forall, Classical.not_not] at reset
        obtain ⟨at_, r, bound⟩ := reset
        exact closeStream_goes_wrong at_ bound taken
  | sample r hr =>
      simp only [Undisturbed, Classical.not_forall, Classical.not_not] at disturbed
      obtain ⟨allocates, given, last⟩ := disturbed
      exact allocate_goes_wrong allocates given last taken

theorem relies_step (s : Sampling R) (a : SamplingAction R) (t : Sampling R)
    (held : Relies s.source s.shared) (taken : s.step a = some t) : Relies t.source t.shared := by
  cases a with
  | call call =>
      simp only [step, callStep] at taken
      split at taken
      · cases taken
        exact ⟨held.closed, trivial⟩
      · cases taken
  | source => exact (sourceStep_advances held taken).1.relies
  | request r token =>
      simp only [step, requestStep] at taken
      split at taken
      · cases taken
        exact held
      · cases taken
  | sample r hr =>
      cases sampleStep_samples taken with
      | queues last queue => exact held.sampled
      | _ => exact held

/-- What keeps the requests served, in every step that leaves them undisturbed. -/
theorem serving_step (s : Sampling R) (a : SamplingAction R) (t : Sampling R)
    (held : Serving s ∧ Relies s.source s.shared) (undisturbed : s.Undisturbed a)
    (taken : s.step a = some t) : Serving t ∧ Relies t.source t.shared := by
  refine ⟨?_, relies_step s a t held.2 taken⟩
  cases a with
  | call call =>
      simp only [step, callStep] at taken
      split at taken
      · cases taken
        exact ⟨⟨held.1.served.events, held.1.served.pointers⟩, held.1.waiting, held.1.holding⟩
      · cases taken
  | source => exact held.1.source held.2 undisturbed taken
  | request r token =>
      simp only [step, requestStep] at taken
      split at taken
      · cases taken
        have moved := held.1.moves (r := r) (.guard token) nofun nofun nofun
        exact ⟨⟨moved.served.events, moved.served.pointers⟩, moved.waiting, moved.holding⟩
      · cases taken
  | sample r hr => exact held.1.sample undisturbed taken

end Requests

theorem relies_initial (allocator : Option Nat) (selected initialized : Nat → Bool) :
    Relies (initial R allocator selected initialized).source
      (initial R allocator selected initialized).shared :=
  ⟨nofun, trivial⟩

theorem serving_initial (allocator : Option Nat) (selected initialized : Nat → Bool) :
    Serving (initial R allocator selected initialized) where
  served := by
    refine ⟨?_, nofun⟩
    intro before after split
    have empty : ([] : List MediaEvent) = before ++ .mediaSample :: after := split
    exact (List.append_ne_nil_of_right_ne_nil before (List.cons_ne_nil _ after) empty.symm).elim
  waiting := nofun
  holding := nofun

end Steps

/-- Every state some interleaving of the calls leads to. -/
abbrev Reachable [DecidableEq R] : Sampling R → Prop :=
  Run.Reachable (fun s => ∃ allocator selected initialized,
    s = initial R allocator selected initialized) step

theorem relies_reachable [DecidableEq R] {s : Sampling R} (reached : Reachable s) :
    Relies s.source s.shared := by
  apply invariant_reachable _ relies_step reached
  intro s ⟨allocator, selected, initialized, same⟩
  rw [same]
  exact relies_initial allocator selected initialized

/-- Requests are served in every run that leaves them undisturbed, and wherever one is
disturbed, a run that does not serve it goes on from there. -/
theorem requests_served_iff_undisturbed [DecidableEq R] :
    (∀ (allocator : Option Nat) (selected initialized : Nat → Bool)
      (actions : List (SamplingAction R)) (t : Sampling R),
      Along step Undisturbed (initial R allocator selected initialized) actions →
      run step (initial R allocator selected initialized) actions = some t → t.Served) ∧
    ∀ (s t : Sampling R) (a : SamplingAction R), Reachable s → step s a = some t →
      ¬ s.Undisturbed a → ∃ more u, run step t more = some u ∧ ¬ u.Served := by
  constructor
  · intro allocator selected initialized actions t along ends
    have start := And.intro (serving_initial (R := R) allocator selected initialized)
      (relies_initial (R := R) allocator selected initialized)
    exact (invariant_along serving_step actions _ t start along ends).1.served
  · intro s t a reached taken disturbed
    exact disturbed_goes_wrong (relies_reachable reached) taken disturbed

/-- Every call succeeds: the stream is started, a request has its sample rendered, and
the source stops before the sample is queued. -/
def stopDuringRender : List (SamplingAction Unit) :=
  let ok : Calls := fun _ => .sOk
  [.call (.start ok ⟨some [⟨true, 0⟩], true, false⟩), .source, .source, .source, .source, .source,
    .source, .source, .source,
    .request () false, .sample () .sOk, .sample () .sOk, .sample () .sOk, .sample () .sOk,
    .sample () .sOk,
    .call (.stop ok), .source, .source, .source, .source,
    .sample () .sOk]

theorem stopDuringRender_late_sample :
    ∃ u, run step (initial Unit (some 7) (fun _ => false) fun _ => false) stopDuringRender =
        some u ∧
      u.shared.stream.events = [.streamStarted, .streamStopped, .mediaSample] ∧ ¬ u.Served := by
  refine ⟨_, rfl, rfl, ?_⟩
  intro served
  exact served.events [.streamStarted, .streamStopped] [] rfl rfl

end Sampling

end Obs2Mf.Vcam
