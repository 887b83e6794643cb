import Obs2Mf.Broker.Journal
import Obs2Mf.Broker.Service

set_option autoImplicit false

/- The lines about the source, and the frames that they are about. -/
namespace Obs2Mf.Broker.Process

open Entries
open Run

variable {C : Type}

/-- The sources that the tray offers. -/
def Served (kind : SourceKind) : Prop := kind = .sourceOBS ∨ kind = .sourceTest

/-- What the producer announces: what the tray offers, and OBS only if it was asked for. -/
structure Offering (p : Broker.State) : Prop where
  source : Served p.g_source
  reported : p.pc.inOBS = true ∨ p.pc.inTest = true ∨ p.pc = .publish →
    Served p.reported ∧ (p.reported = .sourceOBS → p.src = .sourceOBS)
  published : ∀ q ∈ p.published,
    q.hdr.sourceKind = SourceKind.sourceOBS.code ∧ q.src = .sourceOBS ∨
      q.hdr.sourceKind = SourceKind.sourceTest.code

theorem offering_initial : Offering .initial where
  source := Or.inl rfl
  reported := by simp [Broker.State.initial, Pc.inOBS, Pc.inTest]
  published := by simp [Broker.State.initial]

theorem branch_offered {p : Broker.State} (chosen : p.reported = p.src) (served : Served p.src) :
    Served p.branch.reported ∧ (p.branch.reported = .sourceOBS → p.branch.src = .sourceOBS) := by
  unfold State.branch
  repeat' split
  all_goals
    rw [chosen]
    exact ⟨served, id⟩

theorem fetched_offered {bars : Int → Int × Int × Int} {p : Broker.State} (beyond : Int → Pipe.Byte)
    (served : Served p.reported) (chosen : p.reported = .sourceOBS → p.src = .sourceOBS) :
    Served (p.fetched bars beyond).reported ∧
      ((p.fetched bars beyond).reported = .sourceOBS →
        (p.fetched bars beyond).src = .sourceOBS) := by
  simp only [State.fetched]
  generalize (if p.obs.running = true then p.obs.getFrame beyond p.frame
    else (false, p.frame)) = got
  split
  · exact ⟨served, chosen⟩
  · exact ⟨Or.inr rfl, by simp⟩

theorem publish_offered {p : Broker.State} (now : BitVec 64) (served : Served p.reported)
    (chosen : p.reported = .sourceOBS → p.src = .sourceOBS) :
    (p.header now).sourceKind = SourceKind.sourceOBS.code ∧ p.src = .sourceOBS ∨
      (p.header now).sourceKind = SourceKind.sourceTest.code := by
  rcases served with obs | test
  · exact Or.inl ⟨congrArg SourceKind.code obs, chosen obs⟩
  · exact Or.inr (congrArg SourceKind.code test)

theorem offering_step {bars : Int → Int × Int × Int} (p : Broker.State) (a : Broker.Action)
    (q : Broker.State) (held : Offering p) (offered : ∀ kind, a = .select kind → Served kind)
    (taken : Broker.step bars p a = some q) : Offering q := by
  obtain ⟨source, reported, published⟩ := held
  cases a with
  | select kind =>
      cases taken
      exact ⟨offered kind rfl, reported, published⟩
  | publish now =>
      simp only [Broker.step] at taken
      split at taken
      · rename_i here
        cases taken
        obtain ⟨served, chosen⟩ := reported (Or.inr (Or.inr here))
        refine ⟨source, by simp [State.publish, Pc.inOBS, Pc.inTest], ?_⟩
        intro q member
        rcases List.mem_append.mp member with old | new
        · exact published q old
        · rw [List.mem_singleton.mp new]
          exact publish_offered now served chosen
      · cases taken
  | load =>
      have same := own_published (by simp) taken
      simp only [Broker.step] at taken
      split at taken
      · cases taken
        refine ⟨?_, fun _ => branch_offered rfl source, ?_⟩
        · unfold State.branch
          repeat' split
          all_goals exact source
        · rw [same]
          exact published
      · cases taken
  | fetch beyond =>
      have same := own_published (by simp) taken
      simp only [Broker.step] at taken
      split at taken
      · rename_i here
        cases taken
        obtain ⟨served, chosen⟩ := reported (Or.inl (by rw [here]; rfl))
        refine ⟨?_, fun _ => fetched_offered beyond served chosen, ?_⟩
        · simp only [State.fetched]
          repeat' split
          all_goals exact source
        · rw [same]
          exact published
      · cases taken
  | build outcome =>
      have same := own_published (by simp) taken
      simp only [Broker.step] at taken
      split at taken
      · rename_i here
        cases taken
        have known := reported (Or.inl (by rw [here]; rfl))
        rw [← same] at published
        cases outcome with
        | rendered media =>
            simp only [State.built] at published ⊢
            split
            · exact ⟨source, fun _ => known, by simpa only [*, ↓reduceIte] using published⟩
            · exact ⟨source, fun _ => known, by simpa only [*, ↓reduceIte] using published⟩
        | _ => exact ⟨source, fun _ => known, published⟩
      · cases taken
  | clear =>
      have same := own_published (by simp) taken
      simp only [Broker.step] at taken
      split at taken
      · rename_i after here
        cases taken
        rw [here] at reported
        cases after with
        | retry => exact ⟨source, fun _ => reported (Or.inl rfl), same ▸ published⟩
        | fill => exact ⟨source, fun _ => reported (Or.inr (Or.inl rfl)), same ▸ published⟩
        | exit =>
            refine ⟨source, ?_, same ▸ published⟩
            simp [State.resume, Pc.inOBS, Pc.inTest]
      · cases taken
  | _ =>
      have same := own_published (by simp) taken
      simp only [Broker.step] at taken
      refine ⟨?_, ?_, same ▸ published⟩
      · grind [State.filled]
      · grind [State.filled, Pc.inOBS, Pc.inTest, After.inOBS, After.inTest]

/-- The line that goes with a frame. -/
def lineOf (p : Published) : SourceLine :=
  if p.src = .sourceOBS ∧ p.hdr.sourceKind = SourceKind.sourceOBS.code then .live
  else if p.src = .sourceOBS ∧ p.hdr.sourceKind = SourceKind.sourceTest.code then .fallback
  else .test

/-- One line for the first frame, and one for each frame that announces another source than
the one before it. -/
def sourceLines (frames : List Published) : List SourceLine :=
  (changes (fun p => p.hdr.sourceKind) frames).map lineOf

/-- The frame that would be published now, and the line that goes with it. -/
theorem publish_line (p : Broker.State) (now : BitVec 64) : ∃ frame,
    (p.publish now).published = p.published ++ [frame] ∧
      frame.hdr.sourceKind = p.reported.code ∧ lineOf frame = sourceLine p.src p.reported := by
  refine ⟨_, rfl, rfl, ?_⟩
  simp only [lineOf, sourceLine, State.header, SourceKind.code_inj]

/-- The lines about the source are those of the published frames; a line is logged before
its frame is published. -/
structure Sourced (s : State C) : Prop where
  lines : s.stage ≠ .announced → s.log.filterMap Line.sourceLine = sourceLines s.producer.published
  ahead : s.stage = .announced → ∀ now,
    s.log.filterMap Line.sourceLine = sourceLines (s.producer.publish now).published
  last : s.stage ≠ .announced →
    s.lastReported.map SourceKind.code = s.producer.published.getLast?.map (·.hdr.sourceKind)
  next : s.stage = .announced → s.lastReported = some s.producer.reported

theorem sourced_initial : Sourced (State.initial C) where
  lines := fun _ => rfl
  ahead := by simp [State.initial]
  last := fun _ => rfl
  next := by simp [State.initial]

section Steps

variable {s t : State C}

/-- A step that neither logs a source nor publishes. -/
theorem Sourced.apart (held : Sourced s)
    (heard : t.log.filterMap Line.sourceLine = s.log.filterMap Line.sourceLine)
    (announced : t.stage = .announced ↔ s.stage = .announced)
    (last : t.lastReported = s.lastReported)
    (published : t.producer.published = s.producer.published)
    (reading : s.stage = .announced → t.producer.reported = s.producer.reported ∧
      ∀ now, (t.producer.publish now).published = (s.producer.publish now).published) :
    Sourced t where
  lines := by
    rw [heard, published, ne_eq, announced]
    exact held.lines
  ahead := by
    intro here now
    have before := announced.mp here
    rw [heard, (reading before).2 now]
    exact held.ahead before now
  last := by
    rw [last, published, ne_eq, announced]
    exact held.last
  next := by
    intro here
    have before := announced.mp here
    rw [last, (reading before).1]
    exact held.next before

/-- The new frame is one change more exactly if its source is not the last one reported. -/
theorem Sourced.changes (held : Sourced s) (working : s.stage = .working) (now : BitVec 64) :
    sourceLines (s.producer.publish now).published =
      sourceLines s.producer.published ++
        if some s.producer.reported = s.lastReported then []
        else [sourceLine s.producer.src s.producer.reported] := by
  have last := held.last (by rw [working]; simp)
  obtain ⟨new, published, kind, line⟩ := publish_line s.producer now
  rw [published, sourceLines, sourceLines]
  cases ends : s.producer.published.getLast? with
  | none =>
      rw [ends, Option.map_none, Option.map_eq_none_iff] at last
      rw [List.getLast?_eq_none_iff.mp ends, last]
      simp [line]
  | some frame =>
      rw [ends, Option.map_some] at last
      obtain ⟨before, reported, code⟩ := Option.map_eq_some_iff.mp last
      have same : frame.hdr.sourceKind = new.hdr.sourceKind ↔
          some s.producer.reported = s.lastReported := by
        rw [reported, ← code, kind, SourceKind.code_inj, Option.some.injEq]
        exact eq_comm
      rw [changes_concat _ _ ends, List.map_append]
      by_cases unchanged : some s.producer.reported = s.lastReported
      · rw [if_pos (same.mpr unchanged), if_pos unchanged, List.map_nil]
      · rw [if_neg fun equal => unchanged (same.mp equal), if_neg unchanged, List.map_singleton,
          line]

theorem Sourced.announce (held : Sourced s) (working : s.stage = .working) :
    Sourced s.announce := by
  have lines := held.lines (by rw [working]; simp)
  have changes := held.changes working
  unfold State.announce
  split
  · rename_i unchanged
    refine ⟨by simp, fun _ now => ?_, by simp, fun _ => unchanged.symm⟩
    rw [changes now, if_pos unchanged, List.append_nil]
    exact lines
  · rename_i changed
    refine ⟨by simp [State.say], fun _ now => ?_, by simp [State.say], fun _ => rfl⟩
    show List.filterMap _ (s.log ++ [_]) = sourceLines (s.producer.publish now).published
    rw [changes now, if_neg changed, List.filterMap_append, lines]
    rfl

/-- Between logging and publishing nothing touches what the frame is made of. -/
theorem publish_same {p q : Broker.State} (published : q.published = p.published)
    (frame : q.frame = p.frame) (seq : q.seq = p.seq) (reported : q.reported = p.reported)
    (src : q.src = p.src) (seen : q.seen = p.seen) (srcW : q.obs.srcW = p.obs.srcW)
    (srcH : q.obs.srcH = p.obs.srcH) (now : BitVec 64) :
    (q.publish now).published = (p.publish now).published := by
  simp only [State.publish, State.header, published, frame, seq, reported, src, seen, srcW, srcH]

theorem bufferCB_size (obs : Impl) (delivery : Delivery) :
    (obs.bufferCB delivery).srcW = obs.srcW ∧ (obs.bufferCB delivery).srcH = obs.srcH := by
  unfold Impl.bufferCB
  split <;> exact ⟨rfl, rfl⟩

theorem Sourced.publish (held : Sourced s) (announced : s.stage = .announced) (now : BitVec 64)
    (pipe : Pipe.State Unit C) :
    Sourced { s with producer := s.producer.publish now, pipe, stage := .publishing } where
  lines := fun _ => held.ahead announced now
  ahead := by simp
  last := by
    intro _
    obtain ⟨frame, published, kind, _⟩ := publish_line s.producer now
    rw [published, List.getLast?_concat, held.next announced, Option.map_some, Option.map_some,
      kind]
  next := by simp

/-- A stage after the frame is published. -/
theorem Sourced.staged (held : Sourced s) (before : s.stage ≠ .announced)
    (after : t.stage ≠ .announced) (log : t.log = s.log) (last : t.lastReported = s.lastReported)
    (producer : t.producer = s.producer) : Sourced t where
  lines := by
    intro _
    rw [log, producer]
    exact held.lines before
  ahead := fun announced => (after announced).elim
  last := by
    intro _
    rw [last, producer]
    exact held.last before
  next := fun announced => (after announced).elim

end Steps

section Runs

variable [DecidableEq C] {bars : Int → Int × Int × Int}

theorem sourced_step (s : State C) (a : Action C) (t : State C) (held : Sourced s)
    (taken : step bars s a = some t) : Sourced t := by
  have said := step_said taken
  have unheard (other : a.speaker ≠ some .producer) :=
    said.unheard Line.sourceLine (sourceLine_producer other)
  cases step_steps taken with
  | main a t steps =>
      have managed := steps.managed
      refine held.apart (unheard (by simp [Action.speaker])) (by rw [managed.stage])
        managed.lastReported ?_ ?_
      · rcases managed.producer with same | ⟨_, _, same⟩ | same <;> rw [same]
      · intro _
        rcases managed.producer with same | ⟨_, _, same⟩ | same <;> rw [same] <;>
          exact ⟨rfl, fun _ => rfl⟩
  | own b _ working own producer stepped =>
      have published := own_published (by rintro now rfl; cases own) stepped
      refine held.apart rfl Iff.rfl rfl published ?_
      intro announced
      rw [working] at announced
      cases announced
  | announce _ working => exact held.announce working
  | publish now announced => exact held.publish announced now _
  | slot b publishing =>
      apply held.staged <;> simp [publishing]
      cases b <;> simp [afterSlot]
  | effective stage | received stage | counted stage =>
      apply held.staged <;> simp [stage]
  | callback delivery producer stepped =>
      simp only [Broker.step] at stepped
      split at stepped
      · cases stepped
        refine held.apart rfl Iff.rfl rfl rfl fun _ => ⟨rfl, ?_⟩
        exact publish_same rfl rfl rfl rfl rfl rfl (bufferCB_size _ _).1 (bufferCB_size _ _).2
      · cases stepped
  | telemetry a t stepped =>
      have heard := unheard (by simp [Action.speaker])
      obtain ⟨_, _, rfl⟩ := telemetryStep_some stepped
      exact held.apart heard Iff.rfl rfl rfl fun _ => ⟨rfl, fun _ => rfl⟩
  | _ => exact held.apart rfl Iff.rfl rfl rfl fun _ => ⟨rfl, fun _ => rfl⟩

theorem offering_run (actions : List (Action C)) (s : State C)
    (ends : run (step bars) (.initial C) actions = some s) : Offering s.producer := by
  have keep (s : State C) (a : Action C) (t : State C) (held : Offering s.producer)
      (taken : step bars s a = some t) : Offering t.producer := by
    have moved {b : Broker.Action} {q : Broker.State} (other : ∀ kind, b ≠ .select kind)
        (stepped : Broker.step bars s.producer b = some q) : Offering q :=
      offering_step _ b q held (fun kind select => (other kind select).elim) stepped
    cases step_steps taken with
    | main a t steps =>
        rcases steps.managed.producer with same | ⟨kind, offered, same⟩ | same
        · rw [same]
          exact held
        · rw [same]
          exact ⟨offered, held.reported, held.published⟩
        · rw [same]
          exact ⟨held.source, held.reported, held.published⟩
    | own b _ _ own producer stepped => exact moved (by rintro kind rfl; cases own) stepped
    | announce =>
        unfold State.announce
        split <;> exact held
    | publish now _ _ _ here =>
        exact moved (b := .publish now) (by simp) (by simp only [Broker.step, here])
    | callback delivery producer stepped => exact moved (by simp) stepped
    | telemetry a t stepped =>
        obtain ⟨_, _, rfl⟩ := telemetryStep_some stepped
        exact held
    | _ => exact held
  exact invariant_run keep actions _ s offering_initial ends

/-- Whether a frame is live is what its line says. -/
theorem lineOf_live {p : Published}
    (offered : p.hdr.sourceKind = SourceKind.sourceOBS.code ∧ p.src = .sourceOBS ∨
      p.hdr.sourceKind = SourceKind.sourceTest.code) :
    (lineOf p = .live ↔ p.hdr.sourceKind = SourceKind.sourceOBS.code) ∧
      (lineOf p ≠ .live ↔ p.hdr.sourceKind = SourceKind.sourceTest.code) := by
  have different : SourceKind.sourceTest.code ≠ SourceKind.sourceOBS.code := by decide
  rcases offered with ⟨kind, src⟩ | kind
  · simp [lineOf, kind, src, different.symm]
  · simp only [lineOf, kind, different, and_false, and_true, ↓reduceIte]
    split <;> simp

/-- What the lines about the source tell of the frames: they are one for each change, live
and not live in turn, and the last one up to a frame says whether that frame is live. -/
structure Told (frames : List Published) (lines : List SourceLine) : Prop where
  changes : lines = sourceLines frames
  alternate : lines.IsChain fun a b => a = .live ↔ b ≠ .live
  each : ∀ (i : Nat) (p : Published), frames[i]? = some p →
    ∃ line, (sourceLines (frames.take (i + 1))).getLast? = some line ∧
      (line = .live ↔ p.hdr.sourceKind = SourceKind.sourceOBS.code) ∧
      (line ≠ .live ↔ p.hdr.sourceKind = SourceKind.sourceTest.code)

theorem told {frames : List Published}
    (offered : ∀ p ∈ frames, p.hdr.sourceKind = SourceKind.sourceOBS.code ∧ p.src = .sourceOBS ∨
      p.hdr.sourceKind = SourceKind.sourceTest.code) : Told frames (sourceLines frames) where
  changes := rfl
  alternate := by
    rw [sourceLines, List.isChain_map]
    refine (changes_chain _ frames).imp_of_mem_imp ?_
    intro p q pIn qIn differ
    have pLive := lineOf_live (offered p (changes_mem _ pIn))
    have qLive := lineOf_live (offered q (changes_mem _ qIn))
    rw [pLive.1, qLive.2]
    rcases offered p (changes_mem _ pIn) with ⟨obs, _⟩ | test
    · rcases offered q (changes_mem _ qIn) with ⟨same, _⟩ | other
      · exact (differ (obs.trans same.symm)).elim
      · exact ⟨fun _ => other, fun _ => obs⟩
    · rcases offered q (changes_mem _ qIn) with ⟨other, _⟩ | same
      · rw [test, other]
        decide
      · exact (differ (test.trans same.symm)).elim
  each := by
    intro i p there
    have ends : (frames.take (i + 1)).getLast? = some p := by
      simp [List.getLast?_take, there]
    obtain ⟨change, found, same⟩ := changes_last (fun p => p.hdr.sourceKind) ends
    have member := List.mem_of_mem_take (changes_mem _ (List.mem_of_getLast? found))
    have live := lineOf_live (offered change member)
    refine ⟨lineOf change, ?_, ?_⟩
    · rw [sourceLines, List.getLast?_map, found, Option.map_some]
    · rw [← same]
      exact live

/-- In every run of the broker the lines about the source tell what the consumers are given,
frame by frame; while a new frame is announced and not yet published, they tell of it too. -/
theorem source_lines_tell (bars : Int → Int × Int × Int) (actions : List (Action C)) (s : State C)
    (ends : run (step bars) (.initial C) actions = some s) :
    (s.stage ≠ .announced →
        Told s.producer.published (s.log.filterMap Line.sourceLine)) ∧
      (s.stage = .announced → ∀ now,
        Told (s.producer.publish now).published (s.log.filterMap Line.sourceLine)) := by
  have sourced := invariant_run sourced_step actions _ s sourced_initial ends
  have offering := offering_run actions s ends
  constructor
  · intro quiet
    rw [sourced.lines quiet]
    exact told offering.published
  · intro announced now
    rw [sourced.ahead announced now]
    have staged := (run_phased actions s ends).staged
    simp only [State.Staged, announced] at staged
    have published : Broker.step bars s.producer (.publish now) =
        some (s.producer.publish now) := by
      simp only [Broker.step, staged]
    exact told (offering_step _ _ _ offering (by simp) published).published

theorem asking_tells : ∃ s : State Unit, s.pipe.published ≠ [] ∧
    (s.stage ≠ .announced → Told s.producer.published (s.log.filterMap Line.sourceLine)) ∧
      (s.stage = .announced → ∀ now,
        Told (s.producer.publish now).published (s.log.filterMap Line.sourceLine)) := by
  obtain ⟨s, asked⟩ := asking_asked
  exact ⟨s, asked.published, source_lines_tell (fun _ => (0, 0, 0)) asking s asked.ends⟩

end Runs

end Obs2Mf.Broker.Process
