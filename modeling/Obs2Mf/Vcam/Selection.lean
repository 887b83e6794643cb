import Mathlib.Data.List.Count
import Obs2Mf.Foundation.Rounds
import Obs2Mf.Foundation.Run
import Obs2Mf.Vcam.Unfinished

set_option autoImplicit false

/- Which streams run after a `Start`, against the selection it was given. -/
namespace Obs2Mf.Vcam

open Method
open Run

namespace PresentationDescriptor

/-- The entry at a position. -/
def entry (p : PresentationDescriptor) (i : Nat) : StreamEntry := p.getD i ⟨false, 0⟩

/-- The descriptors of `n` streams, in any order. -/
def Lists (p : PresentationDescriptor) (n : Nat) : Prop :=
  (p.map StreamEntry.id).Perm (List.range n)

instance (p : PresentationDescriptor) (n : Nat) : Decidable (p.Lists n) :=
  inferInstanceAs (Decidable ((p.map StreamEntry.id).Perm (List.range n)))

theorem entry_mem {p : PresentationDescriptor} {i : Nat} (inside : i < p.length) :
    p.entry i ∈ p := by
  rw [entry, ← List.getElem_eq_getD (h := inside)]
  exact List.getElem_mem inside

theorem exists_entry {p : PresentationDescriptor} {e : StreamEntry} (member : e ∈ p) :
    ∃ i, i < p.length ∧ p.entry i = e := by
  obtain ⟨i, inside, same⟩ := List.getElem_of_mem member
  refine ⟨i, inside, ?_⟩
  rw [entry, ← List.getElem_eq_getD (h := inside), same]

/-- No two positions name the same stream. -/
theorem Lists.distinct {p : PresentationDescriptor} {n i k : Nat} (lists : p.Lists n)
    (before : i < k) (inside : k < p.length) : (p.entry k).id ≠ (p.entry i).id := by
  have once : (p.map StreamEntry.id).Nodup := lists.nodup_iff.mpr List.nodup_range
  have apart := List.pairwise_iff_getElem.mp once i k
    (by rw [List.length_map]; omega) (by rw [List.length_map]; omega) before
  rw [List.getElem_map, List.getElem_map] at apart
  rw [entry, entry, ← List.getElem_eq_getD (h := inside),
    ← List.getElem_eq_getD (h := Nat.lt_trans before inside)]
  exact apart.symm

/-- Whether each stream runs after the first rounds of the loop in `Start`: a round looks
at the stream at its position and changes the stream of its entry. -/
def runs (p : PresentationDescriptor) (ran : Nat → Bool) : Nat → Nat → Bool :=
  Rounds.entries (fun k => (p.entry k).id)
    (fun k before => if (p.entry k).selected = before k then before (p.entry k).id
      else (p.entry k).selected) ran

/-- The streams announced by the first rounds. -/
def announced (p : PresentationDescriptor) (ran : Nat → Bool) : Nat → List Nat
  | 0 => []
  | k + 1 => p.announced ran k ++
      if (p.entry k).selected && !p.runs ran k k then [(p.entry k).id] else []

/-- Whether the stream at a position runs when its turn comes, if all went well so far. -/
def due (p : PresentationDescriptor) (ran : Nat → Bool) (i : Nat) : Bool :=
  match (p.take i).find? (fun e => e.id = i) with
  | some e => e.selected
  | none => ran i

/-- The stream that a round looks at says what the stream it changes would have said: for
an entry that is selected, always; for one that is not, where there is something to stop. -/
def Matching (p : PresentationDescriptor) (ran : Nat → Bool) : Prop :=
  ∀ i, i < p.length →
    ((p.entry i).selected = true → p.due ran i = ran (p.entry i).id) ∧
      ((p.entry i).selected = false → ran (p.entry i).id = true → p.due ran i = true)

instance (p : PresentationDescriptor) (ran : Nat → Bool) : Decidable (p.Matching ran) :=
  inferInstanceAs (Decidable (∀ i, i < p.length → _))

/-- What is expected of a stream at the end. -/
def Granted (p : PresentationDescriptor) (ran : Nat → Bool) (i : Nat) : Prop :=
  p.runs ran p.length (p.entry i).id = (p.entry i).selected ∧
    (p.announced ran p.length).count (p.entry i).id =
      if (p.entry i).selected && !ran (p.entry i).id then 1 else 0

section Rounds

variable {p : PresentationDescriptor} {n : Nat} (lists : p.Lists n) (ran : Nat → Bool)
include lists

/-- A stream is changed in the round of its entry and then no more. -/
theorem runs_settled {i k : Nat} (done : i < k) (inside : k ≤ p.length) :
    p.runs ran k (p.entry i).id =
      if (p.entry i).selected = p.runs ran i i then ran (p.entry i).id
      else (p.entry i).selected := by
  have untouched : p.runs ran i (p.entry i).id = ran (p.entry i).id :=
    Rounds.entries_untouched _ _ ran _ i fun l before =>
      (lists.distinct before (by omega)).symm
  have settled := Rounds.entries_settled (fun k => (p.entry k).id)
    (fun k before => if (p.entry k).selected = before k then before (p.entry k).id
      else (p.entry k).selected) ran i k done
    fun l after before => lists.distinct after (by omega)
  rw [← untouched]
  exact settled

theorem count_announced_later {i k : Nat} (later : k ≤ i) (inside : i < p.length) :
    (p.announced ran k).count (p.entry i).id = 0 := by
  induction k with
  | zero => rfl
  | succ k ih =>
      have apart := lists.distinct later inside
      have round : (if (p.entry k).selected && !p.runs ran k k then [(p.entry k).id]
          else []).count (p.entry i).id = 0 := by
        split
        · exact List.count_singleton.trans (if_neg (by simpa using apart.symm))
        · rfl
      rw [announced, List.count_append, ih (by omega), round]

/-- A stream is announced in the round of its entry and in no other. -/
theorem count_announced {i k : Nat} (done : i < k) (inside : k ≤ p.length) :
    (p.announced ran k).count (p.entry i).id =
      if (p.entry i).selected && !p.runs ran i i then 1 else 0 := by
  induction k with
  | zero => exact absurd done (Nat.not_lt_zero i)
  | succ k ih =>
      rw [announced, List.count_append]
      by_cases last : i = k
      · rw [last, count_announced_later lists ran (Nat.le_refl k) (by omega), Nat.zero_add]
        split
        · exact List.count_singleton_self
        · rfl
      · have apart := lists.distinct (show i < k by omega) (by omega)
        rw [ih (by omega) (by omega), Nat.add_eq_left]
        split
        · exact List.count_singleton.trans (if_neg (by simpa using apart))
        · rfl

omit lists in
theorem mem_before {i : Nat} {e : StreamEntry} :
    e ∈ p.take i ↔ ∃ k, k < i ∧ k < p.length ∧ p.entry k = e := by
  rw [List.mem_take_iff_getElem]
  constructor
  · rintro ⟨k, inside, same⟩
    refine ⟨k, by omega, by omega, ?_⟩
    rw [entry, ← List.getElem_eq_getD (h := by omega), same]
  · rintro ⟨k, before, inside, same⟩
    refine ⟨k, by omega, ?_⟩
    rw [List.getElem_eq_getD ⟨false, 0⟩]
    exact same

omit lists in
/-- What a round finds, if the rounds before it did what they should. -/
theorem runs_due {i : Nat} (inside : i ≤ p.length)
    (well : ∀ k, k < i → p.runs ran i (p.entry k).id = (p.entry k).selected) :
    p.runs ran i i = p.due ran i := by
  unfold due
  cases found : (p.take i).find? (fun e => e.id = i) with
  | none =>
      apply Rounds.entries_untouched
      intro k before same
      have absent := List.find?_eq_none.mp found (p.entry k)
        (mem_before.mpr ⟨k, before, by omega, rfl⟩)
      exact absent (decide_eq_true same)
  | some e =>
      obtain ⟨k, before, _, same⟩ := mem_before.mp (List.mem_of_find?_eq_some found)
      have here : e.id = i := by simpa using List.find?_some found
      have settled := well k before
      rw [same, here] at settled
      exact settled

omit lists in
/-- Streams that are listed in the source's own order give each round its own stream to
look at. -/
theorem matching_own (own : ∀ i, i < p.length → (p.entry i).id = i) : p.Matching ran := by
  intro i inside
  have first : p.due ran i = ran i := by
    unfold due
    cases found : (p.take i).find? (fun e => e.id = i) with
    | none => rfl
    | some e =>
        obtain ⟨k, before, _, same⟩ := mem_before.mp (List.mem_of_find?_eq_some found)
        have here : e.id = i := by simpa using List.find?_some found
        have there := own k (by omega)
        rw [same, here] at there
        omega
  rw [own i inside, first]
  exact ⟨fun _ => rfl, fun _ runs => runs⟩

/-- Where every stream gets what is expected, each round found what was due. -/
theorem runs_eq_due {i : Nat} (inside : i < p.length)
    (well : ∀ k, k < i → p.runs ran p.length (p.entry k).id = (p.entry k).selected) :
    p.runs ran i i = p.due ran i := by
  apply runs_due ran (Nat.le_of_lt inside)
  intro k before
  rw [← well k before, runs_settled lists ran before (by omega),
    runs_settled lists ran (show k < p.length by omega) (Nat.le_refl _)]

theorem granted_round {i : Nat} (inside : i < p.length)
    (found : p.runs ran i i = p.due ran i) :
    p.Granted ran i ↔ ((p.entry i).selected = true → p.due ran i = ran (p.entry i).id) ∧
      ((p.entry i).selected = false → ran (p.entry i).id = true → p.due ran i = true) := by
  rw [Granted, runs_settled lists ran inside (Nat.le_refl _),
    count_announced lists ran inside (Nat.le_refl _), found]
  generalize (p.entry i).selected = selected
  generalize p.due ran i = due
  generalize ran (p.entry i).id = running
  cases selected <;> cases due <;> cases running <;> decide

theorem granted_iff : (∀ i, i < p.length → p.Granted ran i) ↔ p.Matching ran := by
  constructor
  · intro granted i inside
    have found := runs_eq_due lists ran inside fun k before => (granted k (by omega)).1
    exact (granted_round lists ran inside found).mp (granted i inside)
  · intro matching i
    induction i using Nat.strongRecOn with
    | ind i ih =>
        intro inside
        have found := runs_eq_due lists ran inside fun k before => (ih k before (by omega)).1
        exact (granted_round lists ran inside found).mpr (matching i inside)

end Rounds

end PresentationDescriptor

/-- What a client does to the streams of a source, with what the outside answers. -/
inductive SelectionCall where
  | setDefaultAllocator (calls : Calls) (id : Nat) (allocator : Option Nat)
  | start (calls : Calls) (args : StartArgs)
  | stop (calls : Calls)

def SelectionCall.method : SelectionCall → SourceMethod Unit
  | .setDefaultAllocator calls id allocator => MediaSource.setDefaultAllocator calls id allocator
  | .start calls args => MediaSource.start calls args
  | .stop calls => MediaSource.stop calls

def SelectionCall.step (s : MediaSource) (call : SelectionCall) : Option MediaSource :=
  call.method.final s

/-- A source of `n` streams, just made. -/
def MediaSource.Made (n : Nat) (s : MediaSource) : Prop :=
  ∃ selected initialized, s = MediaSource.initial n selected initialized

/-- The stream is not stopped. -/
def MediaSource.running (s : MediaSource) (j : Nat) : Bool :=
  (s.streams j).state ≠ MF_STREAM_STATE_STOPPED

/-- No call makes a stream pause. -/
structure Switched (n : Nat) (s : MediaSource) : Prop where
  count : s.numStreams = n
  queue : s.queue = some ()
  descriptor : s.descriptor = some ()
  states : ∀ j, (s.streams j).state = MF_STREAM_STATE_STOPPED ∨
    (s.streams j).state = MF_STREAM_STATE_RUNNING

theorem switched_initial {n : Nat} {s : MediaSource} (made : s.Made n) : Switched n s := by
  obtain ⟨selected, initialized, rfl⟩ := made
  exact ⟨rfl, rfl, rfl, fun _ => Or.inl rfl⟩

theorem Switched.running {n : Nat} {s : MediaSource} (held : Switched n s) (j : Nat) :
    s.running j = true ↔ (s.streams j).state = MF_STREAM_STATE_RUNNING := by
  rw [MediaSource.running, decide_eq_true_iff]
  constructor
  · intro active
    exact (held.states j).resolve_left active
  · intro runs
    rw [runs]
    decide

section Streams

variable (s : MediaSource) (index allocator j : Nat)

theorem modified_state (f : MediaStream → MediaStream) :
    ((s.modifyStream index f).streams j).state =
      if j = index then (f (s.streams index)).state else (s.streams j).state := by
  by_cases same : j = index
  · rw [if_pos same, same, MediaSource.modifyStream_same]
  · rw [if_neg same, MediaSource.modifyStream_other s index j f same]

theorem started_state :
    ((MediaStream.started s index allocator).streams j).state =
      if j = index then MF_STREAM_STATE_RUNNING else (s.streams j).state := by
  rw [MediaStream.started, modified_state, modified_state]
  split
  · rfl
  · rfl

theorem stopped_state :
    ((MediaStream.stopped s index allocator).streams j).state =
      if j = index then MF_STREAM_STATE_STOPPED else (s.streams j).state := by
  rw [MediaStream.stopped, modified_state, modified_state]
  split
  · rfl
  · rfl

end Streams

section Runs

variable {n : Nat} {s t : MediaSource}

/-- What of a source's state the calls keep. -/
def switching (n : Nat) : Method.Guarantee MediaSource where
  inv := Switched n
  moves _ _ := True
  refl _ := trivial
  trans _ _ _ _ _ := trivial

theorem Switched.started (held : Switched n s) (index allocator : Nat) :
    Switched n (MediaStream.started s index allocator) := by
  refine ⟨held.count, held.queue, held.descriptor, ?_⟩
  intro j
  rw [started_state]
  split
  · exact Or.inr rfl
  · exact held.states j

theorem Switched.stopped (held : Switched n s) (index allocator : Nat) :
    Switched n (MediaStream.stopped s index allocator) := by
  refine ⟨held.count, held.queue, held.descriptor, ?_⟩
  intro j
  rw [stopped_state]
  split
  · exact Or.inl rfl
  · exact held.states j

theorem Switched.selected (held : Switched n s) (index : Nat) (flag : Bool) :
    Switched n (s.select index flag) :=
  ⟨held.count, held.queue, held.descriptor, held.states⟩

theorem Switched.queued (held : Switched n s) (event : MediaEvent) :
    Switched n (s.queued event) :=
  ⟨held.count, held.queue, held.descriptor, held.states⟩

theorem Switched.initialized (held : Switched n s) (allocator : Nat) (value : Bool) :
    Switched n (s.setInitialized allocator value) :=
  ⟨held.count, held.queue, held.descriptor, held.states⟩

theorem Switched.allocated (held : Switched n s) (id : Nat) (allocator : Option Nat) :
    Switched n (s.modifyStream id (MediaStream.withAllocator allocator)) := by
  refine ⟨held.count, held.queue, held.descriptor, ?_⟩
  intro j
  rw [modified_state]
  split
  · exact held.states id
  · exact held.states j

theorem switching_carries (calls : Calls) (n : Nat) : Carries (switching n) calls n where
  count s held := held.count
  queue s held := held.queue
  descriptor s held := held.descriptor
  select s index flag held := ⟨Switched.selected held index flag, trivial⟩
  queued s event held := ⟨Switched.queued held event, trivial⟩
  streamStart i index type inside := by
    intro s held
    apply (MediaStream.start_ends calls i index type s).mono
    · rintro _ t ⟨allocator, _, _, same⟩
      rw [same]
      exact ⟨Switched.started held index allocator, trivial⟩
    · intro _ t outcome
      rcases outcome with same | ⟨allocator, _, _, same⟩
      · rw [same]
        exact ⟨held, trivial⟩
      · rw [same]
        exact ⟨Switched.initialized held allocator true, trivial⟩
  streamStop i index inside := by
    intro s held
    apply (MediaStream.stop_ends calls i index s).mono
    · rintro _ t ⟨allocator, _, _, _, same⟩
      rw [same]
      exact ⟨Switched.stopped held index allocator, trivial⟩
    · intro _ t outcome
      rcases outcome with ⟨same, _⟩ | ⟨allocator, _, _, same⟩
      · rw [same]
        exact ⟨held, trivial⟩
      · rw [same]
        exact ⟨Switched.initialized held allocator false, trivial⟩

theorem switched_step {call : SelectionCall} (held : Switched n s)
    (taken : call.step s = some t) : Switched n t := by
  cases call with
  | setDefaultAllocator calls id allocator =>
      have ends : (MediaSource.setDefaultAllocator calls id allocator).Ends s
          (fun _ t => Switched n t) (fun _ t => Switched n t) := by
        apply (setDefaultAllocator_leaves calls s id allocator).mono
        · rintro _ u ⟨_, same⟩
          rw [same]
          exact (held.allocated id none).allocated id allocator
        · intro _ u leaves
          cases leaves with
          | untouched => exact held
          | cleared inside => exact held.allocated id none
      exact ends.final taken
  | start calls args => exact (((switching_carries calls n).start args s held).final taken).1
  | stop calls => exact (((switching_carries calls n).stop s held).final taken).1

theorem switched_reachable (reached : Reachable (MediaSource.Made n) SelectionCall.step s) :
    Switched n s :=
  invariant_reachable (fun _ made => switched_initial made)
    (fun _ _ _ held taken => switched_step held taken) reached

/-- One round of `Start`, on the states of the streams and the source's queue. -/
theorem Round.effect {wanted : StreamEntry} {i : Nat} (round : Round wanted i s t)
    (held : Switched n s) :
    Switched n t ∧
      (∀ j, t.running j = Function.update s.running wanted.id
        (if wanted.selected = s.running i then s.running wanted.id else wanted.selected) j) ∧
      t.events = s.events ++
        (if wanted.selected && !s.running i then [wanted.id] else []).map MediaEvent.newStream := by
  cases round with
  | kept same =>
      rw [MediaSource.correctedSelection_eq] at same
      change wanted.selected = s.running i at same
      refine ⟨held, fun j => ?_, ?_⟩
      · rw [if_pos same, Function.update_eq_self]
      · rw [same, Bool.and_not_self]
        exact (List.append_nil _).symm
  | changed t differs changed =>
      rw [MediaSource.correctedSelection_eq] at differs
      change wanted.selected ≠ s.running i at differs
      rw [if_neg differs]
      generalize wanted.selected = selected at differs changed
      cases changed with
      | started allocator known =>
          have stopped : s.running i = false := by simpa using differs.symm
          refine ⟨((held.selected _ true).queued _).started _ allocator, fun j => ?_, ?_⟩
          · rw [MediaSource.running, started_state, Function.update_apply]
            split
            · rfl
            · rfl
          · rw [stopped]
            rfl
      | stopped allocator known =>
          refine ⟨(held.selected _ false).stopped _ allocator, fun j => ?_,
            (List.append_nil _).symm⟩
          rw [MediaSource.running, stopped_state, Function.update_apply]
          split
          · rfl
          · rfl

theorem Processed.effect {p : PresentationDescriptor} {k : Nat} (processed : Processed p s k t)
    (held : Switched n s) :
    Switched n t ∧ t.running = p.runs s.running k ∧
      t.events = s.events ++ (p.announced s.running k).map MediaEvent.newStream := by
  induction processed with
  | none => exact ⟨held, rfl, (List.append_nil _).symm⟩
  | next k t u before round ih =>
      obtain ⟨heldThen, runs, events⟩ := ih
      obtain ⟨heldNow, next, announced⟩ := round.effect heldThen
      refine ⟨heldNow, ?_, ?_⟩
      · funext j
        rw [next j, runs]
        rfl
      · rw [announced, events, runs, PresentationDescriptor.announced, List.map_append,
          List.append_assoc]
        rfl

/-- What `Start` is for: the streams that run are those that are selected, and a stream
is announced when it was stopped before. -/
structure AsSelected (s : MediaSource) (p : PresentationDescriptor) (t : MediaSource) : Prop where
  running : ∀ e ∈ p, (t.streams e.id).state = MF_STREAM_STATE_RUNNING ↔ e.selected = true
  announced : ∀ e ∈ p, t.events.count (.newStream e.id) = s.events.count (.newStream e.id) +
    if (s.streams e.id).state = MF_STREAM_STATE_STOPPED ∧ e.selected = true then 1 else 0

theorem start_effect {calls : Calls} {args : StartArgs} {p : PresentationDescriptor}
    (held : Switched n s) (given : args.presentation = some p)
    (ok : (MediaSource.start calls args).run s = .next () t) :
    Switched n t ∧ t.running = p.runs s.running p.length ∧
      t.events = s.events ++ (p.announced s.running p.length).map MediaEvent.newStream ++
        [.sourceStarted] := by
  have ends := start_leaves calls s args
  rw [Method.Ends, ok] at ends
  obtain ⟨_, u, same, processed, rfl⟩ := ends
  rw [given] at same
  cases same
  obtain ⟨heldThen, runs, events⟩ := processed.effect held
  refine ⟨heldThen.queued _, runs, ?_⟩
  rw [MediaSource.queued, events]

theorem asSelected_iff {calls : Calls} {args : StartArgs} {p : PresentationDescriptor}
    (held : Switched n s) (lists : p.Lists n) (given : args.presentation = some p)
    (ok : (MediaSource.start calls args).run s = .next () t) :
    AsSelected s p t ↔ p.Matching s.running := by
  obtain ⟨heldThen, runs, events⟩ := start_effect held given ok
  have stream (e : StreamEntry) : ((t.streams e.id).state = MF_STREAM_STATE_RUNNING ↔
      e.selected = true) ↔ p.runs s.running p.length e.id = e.selected := by
    rw [← heldThen.running e.id, runs, ← Bool.eq_iff_iff]
  have queue (e : StreamEntry) : (t.events.count (.newStream e.id) =
      s.events.count (.newStream e.id) +
        if (s.streams e.id).state = MF_STREAM_STATE_STOPPED ∧ e.selected = true then 1 else 0) ↔
      (p.announced s.running p.length).count e.id =
        if e.selected && !s.running e.id then 1 else 0 := by
    have fresh : ((p.announced s.running p.length).map MediaEvent.newStream).count
        (.newStream e.id) = (p.announced s.running p.length).count e.id :=
      List.count_map_of_injective _ _ (fun _ _ same => MediaEvent.newStream.inj same) _
    have last : [MediaEvent.sourceStarted].count (.newStream e.id) = 0 := rfl
    have stopped : (s.streams e.id).state = MF_STREAM_STATE_STOPPED ∧ e.selected = true ↔
        (e.selected && !s.running e.id) = true := by
      rw [MediaSource.running, and_comm]
      simp
    rw [events, List.count_append, List.count_append, fresh, last, if_congr stopped rfl rfl]
    omega
  rw [← PresentationDescriptor.granted_iff lists s.running]
  constructor
  · intro expected i inside
    have member := PresentationDescriptor.entry_mem inside
    exact ⟨(stream _).mp (expected.running _ member), (queue _).mp (expected.announced _ member)⟩
  · intro granted
    constructor
    · intro e member
      obtain ⟨i, inside, rfl⟩ := PresentationDescriptor.exists_entry member
      exact (stream _).mpr (granted i inside).1
    · intro e member
      obtain ⟨i, inside, rfl⟩ := PresentationDescriptor.exists_entry member
      exact (queue _).mpr (granted i inside).2

end Runs

/-- From every state that the calls reach, for every two orders of the same selection. -/
theorem start_selects_iff {n : Nat} {s t t' : MediaSource}
    (reached : Reachable (MediaSource.Made n) SelectionCall.step s)
    {p p' : PresentationDescriptor} (lists : p.Lists n) (reordered : p.Perm p')
    (calls calls' : Calls) (args args' : StartArgs) (given : args.presentation = some p)
    (given' : args'.presentation = some p')
    (ok : (MediaSource.start calls args).run s = .next () t)
    (ok' : (MediaSource.start calls' args').run s = .next () t') :
    (AsSelected s p t ∧ AsSelected s p' t' ∧
        ∀ j, j < n → (t.streams j).state = (t'.streams j).state) ↔
      p.Matching s.running ∧ p'.Matching s.running := by
  have held := switched_reachable reached
  have lists' : p'.Lists n := (reordered.map StreamEntry.id).symm.trans lists
  rw [← asSelected_iff held lists given ok, ← asSelected_iff held lists' given' ok']
  constructor
  · rintro ⟨first, second, _⟩
    exact ⟨first, second⟩
  · rintro ⟨first, second⟩
    refine ⟨first, second, fun j inside => ?_⟩
    obtain ⟨e, member, rfl⟩ : ∃ e ∈ p, e.id = j := by
      have listed := lists.mem_iff.mpr (List.mem_range.mpr inside)
      exact List.mem_map.mp listed
    have same := (first.running e member).trans
      (second.running e (reordered.mem_iff.mp member)).symm
    have states := (start_effect held given ok).1.states e.id
    have states' := (start_effect held given' ok').1.states e.id
    rcases states with stopped | runs
    · rcases states' with stopped' | runs'
      · rw [stopped, stopped']
      · rw [same.mpr runs', runs']
    · rw [runs, same.mp runs]

/-- Two streams, each with an allocator. -/
def pair : List SelectionCall :=
  [.setDefaultAllocator (fun _ => .sOk) 0 (some 7), .setDefaultAllocator (fun _ => .sOk) 1 (some 8)]

def wanted (first second : StreamEntry) : StartArgs := ⟨some [first, second], true, false⟩

theorem start_selects_pair :
    ∃ s t t', run SelectionCall.step (MediaSource.initial 2 (fun _ => false) fun _ => false) pair =
        some s ∧
      (MediaSource.start (fun _ => .sOk) (wanted ⟨true, 0⟩ ⟨false, 1⟩)).run s = .next () t ∧
      (MediaSource.start (fun _ => .sOk) (wanted ⟨false, 1⟩ ⟨true, 0⟩)).run s = .next () t' ∧
      AsSelected s [⟨true, 0⟩, ⟨false, 1⟩] t ∧ AsSelected s [⟨false, 1⟩, ⟨true, 0⟩] t' ∧
        ∀ j, j < 2 → (t.streams j).state = (t'.streams j).state := by
  refine ⟨_, _, _, rfl, rfl, rfl, ?_⟩
  exact (start_selects_iff (n := 2) ⟨_, pair, ⟨_, _, rfl⟩, rfl⟩ (by decide) (by decide)
    (fun _ => .sOk) (fun _ => .sOk) (wanted ⟨true, 0⟩ ⟨false, 1⟩) (wanted ⟨false, 1⟩ ⟨true, 0⟩)
    rfl rfl rfl rfl).mpr ⟨by decide, by decide⟩

/-- One of two streams runs, and both are selected. The order in which they are listed
decides whether the other one is started too, or the first one announced again. -/
theorem start_depends_on_order :
    ∃ s t u, run SelectionCall.step (MediaSource.initial 2 (fun _ => false) fun _ => false)
        (pair ++ [.start (fun _ => .sOk) (wanted ⟨true, 0⟩ ⟨false, 1⟩)]) = some s ∧
      (MediaSource.start (fun _ => .sOk) (wanted ⟨true, 1⟩ ⟨true, 0⟩)).run s = .next () t ∧
      (MediaSource.start (fun _ => .sOk) (wanted ⟨true, 0⟩ ⟨true, 1⟩)).run s = .next () u ∧
      (t.streams 1).state = MF_STREAM_STATE_STOPPED ∧
      (u.streams 1).state = MF_STREAM_STATE_RUNNING ∧
      t.events.count (.newStream 0) = s.events.count (.newStream 0) + 1 ∧
      ¬ AsSelected s [⟨true, 1⟩, ⟨true, 0⟩] t := by
  refine ⟨_, _, _, rfl, rfl, rfl, rfl, rfl, rfl, ?_⟩
  intro expected
  have runs := (expected.running ⟨true, 1⟩ (by decide)).mpr rfl
  exact absurd runs (by decide)

end Obs2Mf.Vcam
