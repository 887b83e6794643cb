import Obs2Mf.Vcam.Source

set_option autoImplicit false

/- What `Start`, `Stop` and `SetDefaultAllocator` leave when one of the calls they make
fails: each returns at once, and nothing is taken back. -/
namespace Obs2Mf.Vcam

open Method

/-- A stream whose selection has been changed to the flag: selected and started, or
deselected and stopped. -/
inductive Changed (s : MediaSource) (index : Nat) : Bool → MediaSource → Prop where
  | started (allocator : Nat) (known : (s.streams index).allocator = some allocator) :
      Changed s index true
        (MediaStream.started ((s.select index true).queued (.newStream index)) index allocator)
  | stopped (allocator : Nat) (known : (s.streams index).allocator = some allocator) :
      Changed s index false (MediaStream.stopped (s.select index false) index allocator)

/-- The same with a call that fails: the stream itself is as it was, the flag and
`MENewStream` are left behind. -/
inductive HalfChanged (s : MediaSource) (index : Nat) : Bool → MediaSource → Prop where
  | untouched (selected : Bool) : HalfChanged s index selected s
  | flagged (selected : Bool) : HalfChanged s index selected (s.select index selected)
  | announced : HalfChanged s index true ((s.select index true).queued (.newStream index))
  | prepared (allocator : Nat) (known : (s.streams index).allocator = some allocator) :
      HalfChanged s index true
        (((s.select index true).queued (.newStream index)).setInitialized allocator true)
  | released (allocator : Nat) (known : (s.streams index).allocator = some allocator) :
      HalfChanged s index false ((s.select index false).setInitialized allocator false)

/-- One position of the presentation descriptor, done with. -/
inductive Round (wanted : StreamEntry) (i : Nat) (s : MediaSource) : MediaSource → Prop where
  | kept (same : wanted.selected = s.correctedSelection wanted.id i) : Round wanted i s s
  | changed (t : MediaSource) (differs : wanted.selected ≠ s.correctedSelection wanted.id i)
      (changed : Changed s wanted.id wanted.selected t) : Round wanted i s t

/-- The first positions of the presentation descriptor, each done with. -/
inductive Processed (presentation : PresentationDescriptor) (s : MediaSource) :
    Nat → MediaSource → Prop where
  | none : Processed presentation s 0 s
  | next (k : Nat) (t u : MediaSource) (before : Processed presentation s k t)
      (round : Round (presentation.getD k ⟨false, 0⟩) k t u) : Processed presentation s (k + 1) u

/-- A `Start` that fails has processed the positions before the one at which it
failed, and has at most begun with that one. -/
inductive StartLeaves (args : StartArgs) (s : MediaSource) : MediaSource → Prop where
  | refused : StartLeaves args s s
  | between (presentation : PresentationDescriptor) (k : Nat) (t u : MediaSource)
      (given : args.presentation = some presentation) (inside : k < presentation.length)
      (processed : Processed presentation s k t)
      (begun : HalfChanged t (presentation.getD k ⟨false, 0⟩).id
        (presentation.getD k ⟨false, 0⟩).selected u) : StartLeaves args s u
  | unannounced (presentation : PresentationDescriptor) (t : MediaSource)
      (given : args.presentation = some presentation)
      (processed : Processed presentation s presentation.length t) : StartLeaves args s t

/-- The first streams, each stopped and deselected. -/
inductive StoppedFirst (s : MediaSource) : Nat → MediaSource → Prop where
  | none : StoppedFirst s 0 s
  | next (k : Nat) (t : MediaSource) (allocator : Nat) (before : StoppedFirst s k t)
      (known : (t.streams k).allocator = some allocator) :
      StoppedFirst s (k + 1) ((MediaStream.stopped t k allocator).select k false)

/-- A `Stop` that fails has stopped and deselected the streams before the one at which
it failed, and has at most stopped that one. -/
inductive StopLeaves (s : MediaSource) : MediaSource → Prop where
  | between (k : Nat) (t : MediaSource) (inside : k ≤ s.numStreams)
      (before : StoppedFirst s k t) : StopLeaves s t
  | released (k : Nat) (t : MediaSource) (allocator : Nat) (inside : k < s.numStreams)
      (before : StoppedFirst s k t) (known : (t.streams k).allocator = some allocator) :
      StopLeaves s (t.setInitialized allocator false)
  | stopped (k : Nat) (t : MediaSource) (allocator : Nat) (inside : k < s.numStreams)
      (before : StoppedFirst s k t) (known : (t.streams k).allocator = some allocator) :
      StopLeaves s (MediaStream.stopped t k allocator)

/-- A `SetDefaultAllocator` that fails has at most taken the stream's allocator away. -/
inductive SetDefaultAllocatorLeaves (id : Nat) (s : MediaSource) : MediaSource → Prop where
  | untouched : SetDefaultAllocatorLeaves id s s
  | cleared (inside : id < s.numStreams) :
      SetDefaultAllocatorLeaves id s (s.modifyStream id (MediaStream.withAllocator none))

namespace MediaSource

variable (calls : Calls) {s : MediaSource}

theorem changeSelection_ends (i index : Nat) (selected : Bool) (queue : s.queue = some ())
    (descriptor : s.descriptor = some ()) :
    (changeSelection calls i index selected).Ends s (fun _ t => Changed s index selected t)
      (fun _ t => HalfChanged s index selected t) := by
  have live : (s.select index true).queue = some () := queue
  simp only [changeSelection, queueEventParam, ends_bind, ends_read, returnIfFailed, ends_exitIf,
    ends_modify, ends_ite, ends_deref_some, descriptor, live]
  constructor
  · intro chosen
    subst chosen
    refine ⟨fun _ => .untouched true, fun _ => ⟨fun _ => .flagged true, fun _ =>
      ⟨fun _ => .flagged true, fun _ => ⟨fun _ => .announced, fun _ =>
        ⟨fun _ => .announced, fun _ => ?_⟩⟩⟩⟩⟩
    apply (MediaStream.start_ends calls i index true _).mono
    · rintro _ t ⟨allocator, _, known, same⟩
      rw [same]
      exact .started allocator known
    · intro _ t outcome
      rcases outcome with same | ⟨allocator, known, _, same⟩
      · rw [same]
        exact .announced
      · rw [same]
        exact .prepared allocator known
  · intro dropped
    have dropped : selected = false := Bool.eq_false_iff.mpr dropped
    subst dropped
    refine ⟨fun _ => .untouched false, fun _ => ?_⟩
    apply (MediaStream.stop_ends calls i index _).mono
    · rintro _ t ⟨allocator, _, known, _, same⟩
      rw [same]
      exact .stopped allocator known
    · intro _ t outcome
      rcases outcome with ⟨same, _⟩ | ⟨allocator, known, _, same⟩
      · rw [same]
        exact .flagged false
      · rw [same]
        exact .released allocator known

theorem startStream_ends (presentation : PresentationDescriptor) (i : Nat)
    (queue : s.queue = some ()) (descriptor : s.descriptor = some ()) :
    (startStream calls presentation i).Ends s
      (fun _ t => Round (presentation.getD i ⟨false, 0⟩) i s t)
      (fun _ t => HalfChanged s (presentation.getD i ⟨false, 0⟩).id
        (presentation.getD i ⟨false, 0⟩).selected t) := by
  simp only [startStream, ends_bind, ends_read, returnIfFailed, ends_exitIf]
  refine ⟨fun _ => .untouched _, fun _ => ⟨fun _ => .untouched _, fun _ => ?_⟩⟩
  cases found : s.getStreamIndexById calls i (presentation.getD i ⟨false, 0⟩).id with
  | none =>
      dsimp only
      rw [returnHrIf, ends_exitIf]
      exact ⟨fun _ => .untouched _, by simp⟩
  | some index =>
      have same := (getStreamIndexById_some found).1
      subst same
      simp only [ends_bind, ends_deref_some, ends_exitIf, ends_ite, descriptor]
      refine ⟨fun _ => .untouched _, fun _ => ⟨fun differs => ?_, fun same => ?_⟩⟩
      · apply (changeSelection_ends calls i _ _ queue descriptor).mono
        · intro _ t changed
          exact .changed t differs changed
        · intro _ _ begun
          exact begun
      · rw [ends_pure]
        exact .kept (Classical.not_not.mp same)

end MediaSource

section Pointers

variable {s t : MediaSource}

theorem Round.pointers {wanted : StreamEntry} {i : Nat} (round : Round wanted i s t) :
    t.queue = s.queue ∧ t.descriptor = s.descriptor := by
  cases round with
  | kept same => exact ⟨rfl, rfl⟩
  | changed t differs changed =>
      generalize wanted.selected = selected at changed
      cases changed with
      | started allocator known => exact ⟨rfl, rfl⟩
      | stopped allocator known => exact ⟨rfl, rfl⟩

theorem Processed.pointers {presentation : PresentationDescriptor} {k : Nat}
    (processed : Processed presentation s k t) :
    t.queue = s.queue ∧ t.descriptor = s.descriptor := by
  induction processed with
  | none => exact ⟨rfl, rfl⟩
  | next k t u before round ih =>
      have last := round.pointers
      exact ⟨last.1.trans ih.1, last.2.trans ih.2⟩

theorem StoppedFirst.pointers {k : Nat} (before : StoppedFirst s k t) :
    t.queue = s.queue ∧ t.descriptor = s.descriptor := by
  induction before with
  | none => exact ⟨rfl, rfl⟩
  | next k t allocator before known ih => exact ih

end Pointers

section Allocators

variable {s t : MediaSource}

theorem Round.allocators {wanted : StreamEntry} {i : Nat} (round : Round wanted i s t) (j : Nat) :
    (t.streams j).allocator = (s.streams j).allocator := by
  cases round with
  | kept same => rfl
  | changed t differs changed =>
      generalize wanted.selected = selected at changed
      cases changed with
      | started allocator known => exact MediaStream.started_allocator _ _ _ j
      | stopped allocator known => exact MediaStream.stopped_allocator _ _ _ j

theorem Processed.allocators {presentation : PresentationDescriptor} {k : Nat}
    (processed : Processed presentation s k t) (j : Nat) :
    (t.streams j).allocator = (s.streams j).allocator := by
  induction processed with
  | none => rfl
  | next k t u before round ih => exact (round.allocators j).trans ih

/-- A `Start` that fails leaves every stream its allocator. -/
theorem StartLeaves.allocators {args : StartArgs} (leaves : StartLeaves args s t) (j : Nat) :
    (t.streams j).allocator = (s.streams j).allocator := by
  cases leaves with
  | refused => rfl
  | between presentation k t u given inside processed begun =>
      have before := processed.allocators j
      generalize (presentation.getD k ⟨false, 0⟩).selected = selected at begun
      cases begun <;> exact before
  | unannounced presentation t given processed => exact processed.allocators j

theorem StoppedFirst.allocators {k : Nat} (before : StoppedFirst s k t) (j : Nat) :
    (t.streams j).allocator = (s.streams j).allocator := by
  induction before with
  | none => rfl
  | next k t allocator before known ih => exact (MediaStream.stopped_allocator _ _ _ j).trans ih

/-- So does a `Stop` that fails. -/
theorem StopLeaves.allocators (leaves : StopLeaves s t) (j : Nat) :
    (t.streams j).allocator = (s.streams j).allocator := by
  cases leaves with
  | between k t inside before => exact before.allocators j
  | released k t allocator inside before known => exact before.allocators j
  | stopped k t allocator inside before known =>
      exact (MediaStream.stopped_allocator _ _ _ j).trans (before.allocators j)

end Allocators

section Failures

variable (calls : Calls) (s : MediaSource)

theorem live_of_guard {s : MediaSource} (guard : (s.queue.isNone || s.descriptor.isNone) = false) :
    s.queue = some () ∧ s.descriptor = some () := by
  rw [Bool.or_eq_false_iff, Option.isNone_eq_false_iff, Option.isNone_eq_false_iff] at guard
  obtain ⟨_, queue⟩ := Option.isSome_iff_exists.mp guard.1
  obtain ⟨_, descriptor⟩ := Option.isSome_iff_exists.mp guard.2
  exact ⟨queue, descriptor⟩

theorem start_leaves (args : StartArgs) :
    (MediaSource.start calls args).Ends s
      (fun _ t => ∃ presentation u, args.presentation = some presentation ∧
        Processed presentation s presentation.length u ∧ t = u.queued .sourceStarted)
      (fun _ t => StartLeaves args s t) := by
  have out : StartLeaves args s s := .refused
  unfold MediaSource.start
  split
  · rw [returnHrIf, ends_exitIf]
    exact ⟨fun _ => out, by simp⟩
  · rename_i presentation given
    simp only [ends_bind, ends_read, returnHrIf, returnIfFailed, ends_exitIf]
    refine ⟨fun _ => out, fun _ => ⟨fun _ => out, fun _ => ⟨fun _ => out, fun guard =>
      ⟨fun _ => out, fun _ => ⟨fun _ => out, fun _ => ⟨fun _ => out, fun _ => ?_⟩⟩⟩⟩⟩⟩
    obtain ⟨queue, descriptor⟩ := live_of_guard guard
    have rounds := ends_forRange (fun k t => Processed presentation s k t)
      (fun _ t => StartLeaves args s t) presentation.length
      (MediaSource.startStream calls presentation) (.none : Processed presentation s 0 s)
      (by
        intro k inside t processed
        obtain ⟨sameQueue, sameDescriptor⟩ := processed.pointers
        apply (MediaSource.startStream_ends calls presentation k (sameQueue.trans queue)
          (sameDescriptor.trans descriptor)).mono
        · intro _ u round
          exact .next k t u processed round
        · intro _ u begun
          exact .between presentation k t u given inside processed begun)
    apply rounds.mono
    · intro _ t processed
      have live : t.queue = some () := processed.pointers.1.trans queue
      simp only [MediaSource.queueEventParam, ends_bind, ends_read, returnIfFailed, ends_exitIf,
        ends_modify, ends_deref_some, live]
      exact ⟨fun _ => .unannounced presentation t given processed,
        fun _ => ⟨presentation, t, given, processed, rfl⟩⟩
    · intro _ _ leaves
      exact leaves

theorem stop_leaves :
    (MediaSource.stop calls).Ends s
      (fun _ t => ∃ u, StoppedFirst s s.numStreams u ∧ t = u.queued .sourceStopped)
      (fun _ t => StopLeaves s t) := by
  have refused : StopLeaves s s := .between 0 s (Nat.zero_le _) .none
  simp only [MediaSource.stop, ends_bind, ends_read, returnHrIf, returnIfFailed, ends_exitIf]
  refine ⟨fun _ => refused, fun guard => ⟨fun _ => refused, fun _ => ?_⟩⟩
  obtain ⟨queue, descriptor⟩ := live_of_guard guard
  have rounds := ends_forRange (fun k t => StoppedFirst s k t) (fun _ t => StopLeaves s t)
    s.numStreams (MediaSource.stopStream calls) (.none : StoppedFirst s 0 s)
    (by
      intro k inside t before
      have live : t.descriptor = some () := before.pointers.2.trans descriptor
      rw [MediaSource.stopStream, ends_bind]
      apply (MediaStream.stop_ends calls k k t).mono
      · rintro _ u ⟨allocator, _, known, _, same⟩
        subst same
        have still : (MediaStream.stopped t k allocator).descriptor = some () := live
        simp only [ends_bind, ends_read, ends_deref_some, returnIfFailed, ends_exitIf,
          ends_modify, still]
        exact ⟨fun _ => .stopped k t allocator inside before known,
          fun _ => .next k t allocator before known⟩
      · intro _ u outcome
        rcases outcome with ⟨same, _⟩ | ⟨allocator, known, _, same⟩
        · rw [same]
          exact .between k t (Nat.le_of_lt inside) before
        · rw [same]
          exact .released k t allocator inside before known)
  apply rounds.mono
  · intro _ t before
    have live : t.queue = some () := before.pointers.1.trans queue
    simp only [MediaSource.queueEventParam, ends_bind, ends_read, returnIfFailed, ends_exitIf,
      ends_modify, ends_deref_some, live]
    exact ⟨fun _ => .between _ t (Nat.le_refl _) before, fun _ => ⟨t, before, rfl⟩⟩
  · intro _ _ leaves
    exact leaves

theorem setDefaultAllocator_leaves (id : Nat) (allocator : Option Nat) :
    (MediaSource.setDefaultAllocator calls id allocator).Ends s
      (fun _ t => id < s.numStreams ∧
        t = (s.modifyStream id (MediaStream.withAllocator none)).modifyStream id
          (MediaStream.withAllocator allocator))
      (fun _ t => SetDefaultAllocatorLeaves id s t) := by
  have out : SetDefaultAllocatorLeaves id s s := .untouched
  simp only [MediaSource.setDefaultAllocator, ends_bind, ends_read, returnHrIf, ends_exitIf]
  refine ⟨fun _ => out, fun _ => ?_⟩
  cases found : s.getStreamIndexById calls 0 id with
  | none =>
      dsimp only
      rw [ends_exitIf]
      exact ⟨fun _ => out, by simp⟩
  | some index =>
      obtain ⟨same, inside⟩ := MediaSource.getStreamIndexById_some found
      subst same
      simp only [ends_bind, ends_exitIf]
      refine ⟨fun _ => out, fun _ => ?_⟩
      apply (MediaStream.setAllocator_ends calls index allocator s).mono
      · intro _ t same
        exact ⟨inside, same⟩
      · intro _ t outcome
        rcases outcome with same | same
        · rw [same]
          exact out
        · rw [same]
          exact .cleared inside

end Failures

/-- Whatever call fails: `Start` and `Stop` leave the streams before it done with and
the stream at it half done, and `SetDefaultAllocator` leaves at most a stream without
an allocator. -/
theorem failed_calls_leave_prefix (calls : Calls) (s : MediaSource) :
    (∀ args, (MediaSource.start calls args).Ends s (fun _ _ => True)
      (fun _ t => StartLeaves args s t ∧
        ∀ j, (t.streams j).allocator = (s.streams j).allocator)) ∧
    (MediaSource.stop calls).Ends s (fun _ _ => True)
      (fun _ t => StopLeaves s t ∧ ∀ j, (t.streams j).allocator = (s.streams j).allocator) ∧
    ∀ id allocator, (MediaSource.setDefaultAllocator calls id allocator).Ends s (fun _ _ => True)
      (fun _ t => SetDefaultAllocatorLeaves id s t) := by
  refine ⟨fun args => ?_, ?_, fun id allocator => ?_⟩
  · apply (start_leaves calls s args).mono
    · intro _ _ _
      trivial
    · intro _ _ leaves
      exact ⟨leaves, leaves.allocators⟩
  · apply (stop_leaves calls s).mono
    · intro _ _ _
      trivial
    · intro _ _ leaves
      exact ⟨leaves, leaves.allocators⟩
  · apply (setDefaultAllocator_leaves calls s id allocator).mono
    · intro _ _ _
      trivial
    · intro _ _ leaves
      exact leaves

/-- `InitializeSampleAllocator` fails, and so does the query of the next allocator. -/
def refusingAllocator : Calls
  | .initializeSampleAllocator _ => .callee 1
  | .queryAllocator => .callee 2
  | _ => .sOk

/-- A stream is left selected and announced but not started, and then without its
allocator. -/
theorem failed_start_leaves_selection :
    ∃ s t u, (MediaSource.setDefaultAllocator (fun _ => .sOk) 0 (some 7)).final
        (MediaSource.initial 1 (fun _ => false) fun _ => false) = some s ∧
      (MediaSource.start refusingAllocator ⟨some [⟨true, 0⟩], true, false⟩).run s =
        .returned (.callee 1) t ∧
      s.selected 0 = false ∧ s.events = [] ∧ t.selected 0 = true ∧
      t.events = [.newStream 0] ∧ (t.streams 0).state = MF_STREAM_STATE_STOPPED ∧
      (MediaSource.setDefaultAllocator refusingAllocator 0 (some 8)).run t =
        .returned (.callee 2) u ∧
      (t.streams 0).allocator = some 7 ∧ (u.streams 0).allocator = none :=
  ⟨_, _, _, rfl, rfl, rfl, rfl, rfl, rfl, rfl, rfl, rfl, rfl⟩

end Obs2Mf.Vcam
