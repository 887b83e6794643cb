import Obs2Mf.Broker.GraphRuns
import Obs2Mf.Foundation.Projection

set_option autoImplicit false

/- The producer thread with the capture in full: its calls of `Start` and `Stop` run on the
capture's pointers, and are runs of the thread that knows only whether they succeed. -/
namespace Obs2Mf.Broker.Graph

open Method References Run

/-- The thread's state, of which the capture's part is read off the capture. -/
structure Thread where
  producer : State
  capture : Owner Capture

def Thread.initial : Thread := ⟨.initial, ⟨.empty, .new (.ofNat 32 kW) (.ofNat 32 kH)⟩⟩

inductive ThreadAction where
  | start (a : Answers)
  | stop
  | sample (delivery : Delivery)
  | other (a : Action)

/-- The steps of the thread that call nothing of the graph. -/
def outside : Action → Bool
  | .select _ | .quit | .test | .load | .fetch _ | .fill | .publish _ => true
  | _ => false

/-- What a method answers, and what it leaves. -/
def answer (m : ObsMethod Unit) (w : Owner Capture) : Option (Bool × Owner Capture) :=
  match m.run w with
  | .next _ v => some (true, v)
  | .returned ok v => some (ok, v)
  | .crashed => none

/-- The graph was run, if only to fail. -/
def Answers.runs (a : Answers) : Bool :=
  match a.verdict with
  | .capturing _ _ => true
  | .runFailed => a.control
  | _ => false

def Thread.holding (t : Thread) (v : Owner Capture) : Thread :=
  ⟨{ t.producer with obs := v.own.impl, graph := v.own.flowing }, v⟩

/-- `if (!obs.Start()) retryDelay = 60;` -/
def Thread.started (t : Thread) (a : Answers) (ok : Bool) (v : Owner Capture) : Thread :=
  { t.holding v with
    producer := { (t.holding v).producer with
      session := if a.runs then [] else t.producer.session
      retryDelay := if ok then t.producer.retryDelay else 60
      pc := .fetch } }

def Thread.stopped (t : Thread) (after : After) (v : Owner Capture) : Thread :=
  ⟨(t.holding v).producer.resume after, v⟩

def Thread.sampled (t : Thread) (delivery : Delivery) (v : Owner Capture) : Thread :=
  if t.capture.own.flowing && t.capture.own.callback then
    { t.holding v with
      producer := { (t.holding v).producer with
        session := t.producer.session ++ delivery.bytes.toList } }
  else t

def threadStep (bars : Int → Int × Int × Int) (t : Thread) : ThreadAction → Option Thread
  | .start a =>
      match t.producer.pc with
      | .build => (answer (start a) t.capture).map fun (ok, v) => t.started a ok v
      | _ => none
  | .stop =>
      match t.producer.pc with
      | .stop after => (perform t.capture .stop).map (t.stopped after)
      | _ => none
  | .sample delivery => (perform t.capture (.sample delivery)).map (t.sampled delivery)
  | .other a =>
      if outside a then (step bars t.producer a).map fun s => ⟨s, t.capture⟩ else none

/-- The calls go as they may, and a size that is told is one that can be scaled. -/
def ThreadAction.Proper (_ : Thread) : ThreadAction → Prop
  | .start a => a.Proper ∧ Sized .initial (.build (.rendered a.size))
  | _ => True

/-- The two views of the capture. -/
structure Thread.Coupled (t : Thread) : Prop where
  obs : t.producer.obs = t.capture.own.impl
  graph : t.producer.graph = t.capture.own.flowing
  accounted : Accounted t.capture
  build : t.producer.pc = .build → t.producer.obs.running = false

section Start

/-- How far an attempt gets, as the producer sees it. -/
def Answers.outcome (a : Answers) : Build :=
  if (a.graph && a.builder) = false then .noGraph
  else if a.source = false then .noSource
  else if (a.grabberFilter && a.grabber) = false then .noGrabber
  else if a.nullRenderer = false then .noRenderer
  else if a.renderStream.failed = true then .notRendered
  else .rendered a.size

/-- The producer's own steps for an attempt. -/
def Answers.actions (a : Answers) : List Action :=
  .build a.outcome :: match a.verdict with
    | .capturing _ _ => [.control true, .ran true]
    | .runFailed =>
        if a.control then [.control true, .ran false, .stop, .stopped, .clear]
        else [.control false, .stop, .clear]
    | _ => [.stop, .clear]

variable {bars : Int → Int × Int × Int} {s : State} {a : Answers}

theorem idle_clear {obs : Impl} {graph : Bool} (idle : Idle obs graph) : obs.clear = obs := by
  obtain ⟨dstW, dstH, running, control, native, srcW, srcH, frames⟩ := obs
  obtain ⟨off, noControl, _, empty, flat, low⟩ := idle
  dsimp only at off noControl empty flat low
  subst off noControl empty flat low
  rfl

/-- What the producer's steps for an attempt come to. -/
def attempted (s : State) (a : Answers) : State :=
  { s with
    obs := if a.verdict.live then
        { s.obs.connected a.size with running := true, control := true }
      else s.obs
    graph := a.verdict.live
    session := if a.runs then [] else s.session
    retryDelay := if a.verdict.live then s.retryDelay else 60
    pc := .fetch }

/-- The three ways for an attempt to go: it does not get to a graph with a known size, the
graph cannot be run, or it runs. -/
inductive Answers.Goes (a : Answers) : Prop where
  | givenUp (dead : a.verdict.live = false) (still : a.runs = false)
      (actions : a.actions = [.build a.outcome, .stop, .clear])
      (unsized : ∀ biWidth biHeight : Int, a.outcome = .rendered (some (biWidth, biHeight)) →
        biWidth ≤ 0 ∨ biHeight.natAbs ≤ 0)
  | failed (biWidth biHeight : Int) (verdict : a.verdict = .runFailed)
      (outcome : a.outcome = .rendered a.size) (size : a.size = some (biWidth, biHeight))
      (positive : ¬(biWidth ≤ 0 ∨ biHeight.natAbs ≤ 0))
  | runs (biWidth biHeight : Int) (verdict : a.verdict = .capturing biWidth biHeight.natAbs)
      (outcome : a.outcome = .rendered a.size) (size : a.size = some (biWidth, biHeight))
      (positive : ¬(biWidth ≤ 0 ∨ biHeight.natAbs ≤ 0))

theorem Answers.goes (a : Answers) : a.Goes := by
  by_cases unmade : (a.graph && a.builder) = false
  · refine .givenUp ?_ ?_ ?_ ?_ <;>
      simp [verdict, runs, actions, outcome, unmade, ObsLine.live]
  by_cases unfound : a.source = false
  · refine .givenUp ?_ ?_ ?_ ?_ <;>
      simp [verdict, runs, actions, outcome, unmade, unfound, ObsLine.live]
  by_cases ungrabbed : (a.grabberFilter && a.grabber) = false
  · refine .givenUp ?_ ?_ ?_ ?_ <;>
      simp [verdict, runs, actions, outcome, unmade, unfound, ungrabbed, ObsLine.live]
  by_cases unrendered : a.nullRenderer = false
  · refine .givenUp ?_ ?_ ?_ ?_ <;>
      simp [verdict, runs, actions, outcome, unmade, unfound, ungrabbed, unrendered, ObsLine.live]
  by_cases refused : a.renderStream.failed = true
  · refine .givenUp ?_ ?_ ?_ ?_ <;>
      simp [verdict, runs, actions, outcome, unmade, unfound, ungrabbed, unrendered, refused,
        ObsLine.live]
  have measured : a.verdict = a.measured := by
    rw [verdict, if_neg unmade, if_neg unfound, if_neg ungrabbed, if_neg unrendered,
      if_neg refused]
  have rendered : a.outcome = .rendered a.size := by
    rw [outcome, if_neg unmade, if_neg unfound, if_neg ungrabbed, if_neg unrendered,
      if_neg refused]
  rw [Answers.measured] at measured
  cases size : a.size with
  | none =>
      rw [size] at measured
      refine .givenUp ?_ ?_ ?_ ?_ <;> simp [runs, actions, measured, rendered, size, ObsLine.live]
  | some told =>
      obtain ⟨biWidth, biHeight⟩ := told
      rw [size] at measured
      dsimp only at measured
      by_cases flat : biWidth ≤ 0 ∨ biHeight.natAbs ≤ 0
      · rw [if_pos flat] at measured
        refine .givenUp ?_ ?_ ?_ ?_
        · rw [measured]
          rfl
        · rw [runs, measured]
        · rw [actions, measured]
        · intro width height told
          rw [rendered, size] at told
          cases told
          exact flat
      · rw [if_neg flat] at measured
        by_cases stalled : (a.control && !a.run.failed) = false
        · rw [if_pos stalled] at measured
          exact .failed biWidth biHeight measured rendered size flat
        · rw [if_neg stalled] at measured
          exact .runs biWidth biHeight measured rendered size flat

theorem built_flat (idle : Idle s.obs s.graph) {outcome : Build}
    (unsized : ∀ biWidth biHeight : Int, outcome = .rendered (some (biWidth, biHeight)) →
      biWidth ≤ 0 ∨ biHeight.natAbs ≤ 0) :
    ∃ obs : Impl, s.built outcome = { s with obs, pc := .stop .retry } ∧
      obs.control = false ∧ obs.clear = s.obs := by
  have same := idle_clear idle
  cases outcome with
  | rendered media =>
      refine ⟨s.obs.connected media, ?_, ?_, ?_⟩
      · have flat : (s.obs.connected media).srcW ≤ 0 ∨ (s.obs.connected media).srcH ≤ 0 := by
          cases media with
          | none => exact .inl (Int.le_of_eq idle.srcW)
          | some size =>
              have flat := unsized size.1 size.2 rfl
              simp only [Impl.connected]
              omega
        simp only [State.built, if_pos flat]
      · cases media <;> exact idle.control
      · cases media <;> exact same
  | noGraph | noSource | noGrabber | noRenderer | notRendered =>
      exact ⟨s.obs, rfl, idle.control, same⟩

theorem built_sized {biWidth biHeight : Int} (positive : ¬(biWidth ≤ 0 ∨ biHeight.natAbs ≤ 0)) :
    s.built (.rendered (some (biWidth, biHeight))) =
      { s with obs := s.obs.connected (some (biWidth, biHeight)), pc := .control } := by
  have wide : ¬((s.obs.connected (some (biWidth, biHeight))).srcW ≤ 0 ∨
      (s.obs.connected (some (biWidth, biHeight))).srcH ≤ 0) := by
    simp only [Impl.connected]
    omega
  simp only [State.built, if_neg wide]

theorem run_actions (atBuild : s.pc = .build) (idle : Idle s.obs s.graph) :
    run (step bars) s a.actions = some (attempted s a) := by
  have same := idle_clear idle
  have first (outcome : Build) : step bars s (.build outcome) = some (s.built outcome) := by
    rw [step, atBuild]
  cases a.goes with
  | givenUp dead still actions unsized =>
      obtain ⟨obs, built, noControl, cleared⟩ := built_flat idle unsized
      have after : attempted s a = { s with graph := false, retryDelay := 60, pc := .fetch } := by
        simp only [attempted, dead, still, Bool.false_eq_true, ↓reduceIte]
      rw [actions, after, run_cons, first, Option.bind_some, built]
      simp only [run_cons, run_nil, step, noControl, Bool.false_eq_true, ↓reduceIte,
        Option.bind_some, State.resume, cleared, idle.graph]
  | failed biWidth biHeight verdict outcome size positive =>
      have cleared : (s.obs.connected (some (biWidth, biHeight))).clear = s.obs := same
      have noControl : (s.obs.connected (some (biWidth, biHeight))).control = false := idle.control
      rw [Answers.actions, verdict, outcome, size, run_cons, first, Option.bind_some,
        built_sized positive]
      cases found : a.control with
      | true =>
          have cleared (control : Bool) :
              ({ s.obs.connected (some (biWidth, biHeight)) with control } : Impl).clear = s.obs :=
            same
          simp [run_cons, step, attempted, verdict, ObsLine.live, Answers.runs, found,
            State.resume, cleared]
      | false =>
          simp [run_cons, step, attempted, verdict, ObsLine.live, Answers.runs, found,
            State.resume, noControl, cleared, idle.graph]
  | runs biWidth biHeight verdict outcome size positive =>
      rw [Answers.actions, verdict, outcome, size, run_cons, first, Option.bind_some,
        built_sized positive]
      simp [run_cons, step, attempted, verdict, size, ObsLine.live, Answers.runs]

theorem Capture.Idle.impl {c : Capture} (idle : c.Idle) : Broker.Idle c.impl c.flowing where
  running := (congrArg Capture.running idle).symm
  control := by
    have null : c.control = none := (congrArg Capture.control idle).symm
    rw [Capture.impl, null]
    rfl
  graph := (congrArg Capture.flowing idle).symm
  native := (congrArg Capture.native idle).symm
  srcW := (congrArg Capture.srcW idle).symm
  srcH := (congrArg Capture.srcH idle).symm

theorem answer_of_ends {m : ObsMethod Unit} {w : Owner Capture} {live : Bool}
    {after : Owner Capture → Prop}
    (ends : m.Ends w (fun _ v => live = true ∧ after v) fun ok v => live = ok ∧ after v) :
    ∃ v, answer m w = some (live, v) ∧ after v := by
  unfold Ends at ends
  unfold answer
  cases outcome : m.run w with
  | next value v =>
      rw [outcome] at ends
      exact ⟨v, by rw [ends.1], ends.2⟩
  | returned ok v =>
      rw [outcome] at ends
      exact ⟨v, by rw [ends.1], ends.2⟩
  | crashed =>
      rw [outcome] at ends
      exact ends.elim

/-- `Start` on the pointers answers and leaves what the producer's steps do. -/
theorem answer_start {t : Thread} (coupled : t.Coupled) (atBuild : t.producer.pc = .build)
    (proper : a.Proper) :
    ∃ v, answer (start a) t.capture = some (a.verdict.live, v) ∧ Accounted v ∧
      (t.started a a.verdict.live v).producer = attempted t.producer a := by
  obtain ⟨s, l, c⟩ := t
  obtain ⟨obs, graph, accounted, build⟩ := coupled
  dsimp only at obs graph build atBuild
  have off : c.running = false := by
    rw [← build atBuild, obs]
    rfl
  have idle : c.Idle := by
    rcases accounted.state with live | idle
    · exact absurd (off.symm.trans live.running) Bool.false_ne_true
    · exact idle
  have nothing : Owns [] l := by
    have owns := accounted.owns
    rw [idle.members] at owns
    exact owns
  apply answer_of_ends
  refine ends_start nothing idle proper (fun l d went live owns impl _ => ?_)
    fun failed l owns => ?_
  · refine ⟨went, ⟨owns, .inl live⟩, ?_⟩
    simp only [Thread.started, Thread.holding, attempted, went, ↓reduceIte, impl, live.flowing,
      obs]
  · have still := saying_idle idle a.said
    refine ⟨failed, ⟨?_, .inr still⟩, ?_⟩
    · rw [still.members]
      exact owns
    · have dead : (c.saying a.said).flowing = false := still.impl.graph
      simp only [Thread.started, Thread.holding, attempted, failed, Bool.false_eq_true,
        ↓reduceIte, obs, dead]
      rfl

end Start

section Steps

variable {bars : Int → Int × Int × Int} {t u : Thread}

/-- The steps outside leave the capture alone, and do not start one that runs. -/
theorem outside_kept {s s' : State} {a : Action} (out : outside a = true)
    (taken : step bars s a = some s') :
    s'.obs = s.obs ∧ s'.graph = s.graph ∧
      (s'.pc = .build → s.obs.running = false ∨ s.pc = .build) := by
  cases a with
  | select kind | quit =>
      cases taken
      exact ⟨rfl, rfl, .inr⟩
  | test =>
      rw [step] at taken
      split at taken
      · cases taken
        refine ⟨rfl, rfl, fun atBuild => ?_⟩
        dsimp only at atBuild
        split at atBuild <;> cases atBuild
      · cases taken
  | load =>
      rw [step] at taken
      split at taken
      · cases taken
        simp only [State.branch]
        split
        · split
          · exact ⟨rfl, rfl, fun atBuild => by cases atBuild⟩
          · rename_i off
            have off := (Bool.not_eq_true _).mp off
            split <;> exact ⟨rfl, rfl, fun _ => .inl off⟩
        · split <;> exact ⟨rfl, rfl, fun atBuild => by cases atBuild⟩
      · cases taken
  | fetch beyond =>
      rw [step] at taken
      split at taken
      · cases taken
        simp only [State.fetched]
        split
        · split <;> exact ⟨rfl, rfl, fun atBuild => by cases atBuild⟩
        · exact ⟨rfl, rfl, fun atBuild => by cases atBuild⟩
      · cases taken
  | fill =>
      rw [step] at taken
      split at taken
      · cases taken
        exact ⟨rfl, rfl, fun atBuild => by cases atBuild⟩
      · cases taken
  | publish now =>
      rw [step] at taken
      split at taken
      · cases taken
        exact ⟨rfl, rfl, fun atBuild => by cases atBuild⟩
      · cases taken
  | bufferCB _ | build _ | control _ | ran _ | stop | stopped | clear => cases out

theorem build_of_actions {a : Answers} {outcome : Build} (member : .build outcome ∈ a.actions) :
    outcome = a.outcome := by
  rw [Answers.actions] at member
  rcases List.mem_cons.mp member with same | later
  · cases same
    rfl
  · split at later
    · simp at later
    · split at later <;> simp at later
    · simp at later

theorem outcome_rendered {a : Answers} {size : Option (Int × Int)}
    (rendered : a.outcome = .rendered size) : size = a.size := by
  rw [Answers.outcome] at rendered
  split_ifs at rendered
  cases rendered
  rfl

theorem start_simulated {a : Answers} (coupled : t.Coupled) (proper : a.Proper)
    (sized : Sized .initial (.build (.rendered a.size)))
    (taken : threadStep bars t (.start a) = some u) :
    ∃ own, Along (step bars) Sized t.producer own ∧
      run (step bars) t.producer own = some u.producer ∧ u.Coupled := by
  rw [threadStep] at taken
  split at taken
  · rename_i atBuild
    obtain ⟨v, answered, accounted, same⟩ := answer_start coupled atBuild proper
    rw [answered, Option.map_some, Option.some.injEq] at taken
    have idle : Broker.Idle t.producer.obs t.producer.graph := by
      rw [coupled.obs, coupled.graph]
      rcases coupled.accounted.state with live | idle
      · have off := coupled.build atBuild
        rw [coupled.obs] at off
        exact absurd (off.symm.trans live.running) Bool.false_ne_true
      · exact idle.impl
    refine ⟨a.actions, ?_, ?_, ?_⟩
    · apply along_of_forall
      intro b member s biWidth biHeight built
      rw [built] at member
      have size := outcome_rendered (build_of_actions member).symm
      exact sized biWidth biHeight (by rw [size])
    · rw [run_actions atBuild idle, ← same, ← taken]
    · rw [← taken]
      exact ⟨rfl, rfl, accounted, fun atBuild => by cases atBuild⟩
  · cases taken

/-- The producer's steps for a `Stop`. -/
def stopActions (control : Bool) : List Action :=
  if control then [.stop, .stopped, .clear] else [.stop, .clear]

theorem run_stopActions {s : State} {after : After} (atStop : s.pc = .stop after)
    (still : s.obs.control = false → s.graph = false) :
    run (step bars) s (stopActions s.obs.control) =
      some ({ s with obs := s.obs.clear, graph := false }.resume after) := by
  cases control : s.obs.control with
  | true => simp [stopActions, run_cons, step, atStop, control, State.resume]
  | false => simp [stopActions, run_cons, step, atStop, control, State.resume, still control]

theorem stop_simulated (coupled : t.Coupled) (taken : threadStep bars t .stop = some u) :
    ∃ own, Along (step bars) Sized t.producer own ∧
      run (step bars) t.producer own = some u.producer ∧ u.Coupled := by
  rw [threadStep] at taken
  split at taken
  · rename_i after atStop
    obtain ⟨l, stopped, owns⟩ := perform_stop coupled.accounted
    rw [stopped, Option.map_some, Option.some.injEq] at taken
    have still : t.producer.obs.control = false → t.producer.graph = false := by
      rw [coupled.obs, coupled.graph]
      intro noControl
      rcases coupled.accounted.state with live | idle
      · exact absurd (noControl.symm.trans live.control) Bool.false_ne_true
      · exact idle.impl.graph
    refine ⟨stopActions t.producer.obs.control, ?_, ?_, ?_⟩
    · apply along_of_forall
      intro b member s biWidth biHeight built
      rw [built, stopActions] at member
      split at member <;> simp at member
    · rw [run_stopActions atStop still, ← taken, coupled.obs]
      rfl
    · rw [← taken]
      refine ⟨?_, ?_, ⟨owns, .inr (stopped_idle _)⟩, ?_⟩
      · cases after <;> rfl
      · cases after <;> rfl
      · intro atBuild
        cases after <;> cases atBuild
  · cases taken

theorem impl_bufferCB (c : Capture) (delivery : Delivery) :
    (c.bufferCB delivery).impl = c.impl.bufferCB delivery := by
  unfold Capture.bufferCB Impl.bufferCB
  cases delivery.bytes <;> rfl

theorem bufferCB_flowing (c : Capture) (delivery : Delivery) :
    (c.bufferCB delivery).flowing = c.flowing := by
  unfold Capture.bufferCB
  cases delivery.bytes <;> rfl

theorem sample_simulated {delivery : Delivery} (coupled : t.Coupled)
    (taken : threadStep bars t (.sample delivery) = some u) :
    ∃ own, Along (step bars) Sized t.producer own ∧
      run (step bars) t.producer own = some u.producer ∧ u.Coupled := by
  obtain ⟨v, performed, accounted, _, running⟩ := perform_sample coupled.accounted delivery
  rw [threadStep, performed, Option.map_some, Option.some.injEq, Thread.sampled] at taken
  rw [perform] at performed
  split at performed
  · rename_i flows
    cases performed
    rw [if_pos flows] at taken
    have graph : t.producer.graph = true := by
      rw [coupled.graph]
      exact (Bool.and_eq_true _ _ ▸ flows).1
    subst taken
    refine ⟨[.bufferCB delivery], ⟨?_, fun _ _ => trivial⟩, ?_, ⟨rfl, rfl, accounted, ?_⟩⟩
    · intro biWidth biHeight built
      cases built
    · have flowing : (t.capture.own.bufferCB delivery).flowing = t.producer.graph := by
        rw [bufferCB_flowing, coupled.graph]
      rw [run_cons, step, if_pos graph, Option.bind_some, run_nil, coupled.obs, ← impl_bufferCB]
      simp only [Thread.holding, flowing]
    · intro atBuild
      have off := coupled.build atBuild
      rw [coupled.obs] at off
      exact running.trans off
  · rename_i still
    cases performed
    rw [if_neg still] at taken
    rw [← taken]
    exact ⟨[], trivial, rfl, coupled⟩

theorem other_simulated {a : Action} (coupled : t.Coupled)
    (taken : threadStep bars t (.other a) = some u) :
    ∃ own, Along (step bars) Sized t.producer own ∧
      run (step bars) t.producer own = some u.producer ∧ u.Coupled := by
  rw [threadStep] at taken
  split at taken
  · rename_i out
    obtain ⟨s, stepped, same⟩ := Option.map_eq_some_iff.mp taken
    obtain ⟨obs, graph, build⟩ := outside_kept out stepped
    subst same
    refine ⟨[a], ⟨?_, fun _ _ => trivial⟩, ?_, ?_⟩
    · intro biWidth biHeight built
      rw [built] at out
      cases out
    · rw [run_cons, stepped]
      rfl
    · refine ⟨obs.trans coupled.obs, graph.trans coupled.graph, coupled.accounted, ?_⟩
      intro atBuild
      rw [obs]
      exact (build atBuild).elim id coupled.build
  · cases taken

/-- Whatever the thread does with its pointers is a run of the producer. -/
theorem thread_simulates (bars : Int → Int × Int × Int) :
    Simulates (threadStep bars) (step bars) (fun t s => s = t.producer ∧ t.Coupled)
      ThreadAction.Proper Sized := by
  rintro t a u s ⟨rfl, coupled⟩ proper taken
  have simulated : ∃ own, Along (step bars) Sized t.producer own ∧
      run (step bars) t.producer own = some u.producer ∧ u.Coupled := by
    cases a with
    | start a => exact start_simulated coupled proper.1 proper.2 taken
    | stop => exact stop_simulated coupled taken
    | sample delivery => exact sample_simulated coupled taken
    | other a => exact other_simulated coupled taken
  obtain ⟨own, sized, ran, kept⟩ := simulated
  exact ⟨own, u.producer, sized, ran, rfl, kept⟩

theorem coupled_initial : Thread.initial.Coupled :=
  ⟨rfl, rfl, accounted_new _ _, fun atBuild => by cases atBuild⟩

end Steps

/-- The producer thread with all of the capture's pointers does nothing that the producer does
not do: its run is one of the producer's, every frame that it publishes is what its header
says, and what it holds of the graph is what the capture points to. Where it calls `Start` or
`Stop`, the call goes through. -/
theorem thread_refines (bars : Int → Int × Int × Int) (actions : List ThreadAction) (t : Thread)
    (proper : Along (threadStep bars) ThreadAction.Proper .initial actions)
    (ends : run (threadStep bars) .initial actions = some t) :
    (∃ own, Along (step bars) Sized .initial own ∧
      run (step bars) .initial own = some t.producer) ∧
      (∀ (i : Nat) (p : Published), t.producer.published[i]? = some p → p.Faithful bars i) ∧
      Owns t.capture.own.members t.capture.ledger ∧
      (t.producer.pc = .build → ∀ a : Answers, a.Proper →
        (threadStep bars t (.start a)).isSome) ∧
      ∀ after, t.producer.pc = .stop after → (threadStep bars t .stop).isSome := by
  obtain ⟨own, s, sized, ran, same, coupled⟩ :=
    (thread_simulates bars).run actions ⟨rfl, coupled_initial⟩ proper ends
  subst same
  have held : Inv bars t.producer :=
    invariant_along step_inv own .initial t.producer (inv_initial bars) sized ran
  refine ⟨⟨own, sized, ran⟩, held.faithful, coupled.accounted.owns, ?_, ?_⟩
  · intro atBuild a proper
    obtain ⟨v, answered, _⟩ := answer_start coupled atBuild proper
    rw [threadStep, atBuild, answered]
    rfl
  · intro after atStop
    obtain ⟨l, stopped, _⟩ := perform_stop coupled.accounted
    rw [threadStep, atStop, stopped]
    rfl

/-- The first round of the thread, with the camera there. -/
def firstRound : List ThreadAction := [.other .test, .other .load, .start camera]

/-- About to call `Start` for the first time. -/
def Thread.waiting : Thread :=
  { Thread.initial with
    producer := { State.initial with src := .sourceOBS, reported := .sourceOBS, pc := .build } }

theorem waiting_starts (bars : Int → Int × Int × Int) (a : Answers) :
    run (threadStep bars) .initial [.other .test, .other .load, .start a] =
      (answer (start a) Thread.waiting.capture).map
        fun (ok, v) => Thread.waiting.started a ok v := by
  show (threadStep bars Thread.waiting (.start a)).bind some = _
  rw [Option.bind_fun_some]
  rfl

theorem firstRound_refines :
    ∃ t, run (threadStep fun _ => (0, 0, 0)) .initial firstRound = some t ∧
      ((∃ own, Along (step fun _ => (0, 0, 0)) Sized .initial own ∧
        run (step fun _ => (0, 0, 0)) .initial own = some t.producer) ∧
        (∀ (i : Nat) (p : Published), t.producer.published[i]? = some p →
          p.Faithful (fun _ => (0, 0, 0)) i) ∧
        Owns t.capture.own.members t.capture.ledger ∧
        (t.producer.pc = .build → ∀ a : Answers, a.Proper →
          (threadStep (fun _ => (0, 0, 0)) t (.start a)).isSome) ∧
        ∀ after, t.producer.pc = .stop after →
          (threadStep (fun _ => (0, 0, 0)) t .stop).isSome) := by
  have proper : Along (threadStep fun _ => (0, 0, 0)) ThreadAction.Proper .initial firstRound := by
    apply along_of_forall
    intro a member t
    simp only [firstRound, List.mem_cons, List.not_mem_nil, or_false] at member
    rcases member with rfl | rfl | rfl
    · trivial
    · trivial
    · refine ⟨camera_proper, ?_⟩
      rintro biWidth biHeight ⟨⟩
      exact .inr (.inr (by decide))
  have coupled : Thread.waiting.Coupled := ⟨rfl, rfl, accounted_new _ _, fun _ => rfl⟩
  obtain ⟨v, answered, _⟩ := answer_start coupled rfl camera_proper
  have ran : run (threadStep fun _ => (0, 0, 0)) .initial firstRound =
      some (Thread.waiting.started camera camera.verdict.live v) := by
    rw [firstRound, waiting_starts, answered, Option.map_some]
  exact ⟨_, ran, thread_refines _ firstRound _ proper ran⟩

end Obs2Mf.Broker.Graph
