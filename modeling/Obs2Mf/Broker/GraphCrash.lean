import Obs2Mf.Broker.GraphRuns

set_option autoImplicit false

/- The one way in which the capture takes the broker down with it: a device with a null
string for its friendly name, asked before the source is found. -/
namespace Obs2Mf.Broker.Graph

open Method References
open Run

section Search

variable {c : Capture} {l : Ledger} {refs : List Ref}

theorem tryDevice_crashes (d : Device) (m : Option Ref) (w : Owner Capture) :
    (tryDevice d none m none).run w = .crashed := rfl

theorem visit_crashes {d : Device} (owns : Owns refs l) (nameless : d.nameless = true) :
    (visit d none).run ⟨l, c⟩ = .crashed := by
  rw [Device.nameless, Bool.and_eq_true, beq_iff_eq] at nameless
  obtain ⟨storage, name⟩ := nameless
  rw [visit]
  apply run_bind_of_ends
  refine ends_obtain owns fun m l mLive owns => ?_
  apply run_bind_of_ends
  rw [ends_use owns mLive held_first]
  apply run_bind_of_ends
  refine ends_obtain owns fun bag l bound owns => ?_
  have bagLive : bag.isSome = true := bound.trans storage
  apply run_bind_crashed
  rw [if_pos bagLive, inspect]
  apply run_bind_of_ends
  rw [ends_use owns bagLive held_first]
  apply run_bind_of_ends
  refine ends_obtain owns fun v l _ owns => ?_
  simp only [name]
  exact run_bind_crashed (tryDevice_crashes d m ⟨l, c⟩)

/-- The search reads one name after the other, up to the first that is null. -/
theorem enumerate_crashes {en : Option Ref} {devices : List Device}
    (owns : Owns (en.toList ++ refs) l) (enLive : en.isSome = true)
    (trips : trips devices = true) : (enumerate en devices none).run ⟨l, c⟩ = .crashed := by
  induction devices generalizing l c with
  | nil => cases trips
  | cons d rest ih =>
      rw [Graph.trips, Bool.or_eq_true, Bool.and_eq_true, Bool.not_eq_true'] at trips
      rw [enumerate]
      apply run_bind_of_ends
      rw [ends_use owns enLive held_first]
      cases nameless : d.nameless with
      | true => exact run_bind_crashed (visit_crashes owns nameless)
      | false =>
          rw [nameless] at trips
          obtain ⟨missed, later⟩ := trips.resolve_left Bool.false_ne_true
          apply run_bind_of_ends
          have owns : Owns ((none : Option Ref).toList ++ (en.toList ++ refs)) l := owns
          refine ends_visit owns (fun _ => nameless) fun l after found owns => ?_
          rw [missed] at found
          cases after with
          | none => exact ih owns later
          | some r => cases found

theorem findObsSource_crashes {a : Answers} (owns : Owns refs l) (trips : a.trips = true) :
    (findObsSource a).run ⟨l, c⟩ = .crashed := by
  rw [Answers.trips, Answers.searches, Bool.and_eq_true, Bool.and_eq_true] at trips
  obtain ⟨⟨created, listed⟩, trips⟩ := trips
  rw [findObsSource]
  apply run_bind_of_ends
  refine ends_obtain owns fun devEnum l some owns => ?_
  have devEnumLive : devEnum.isSome = true := some.trans created
  have there : ¬devEnum.isNone = true := by
    rw [Option.isNone_eq_false_iff.mpr devEnumLive]
    exact Bool.false_ne_true
  rw [if_neg there]
  apply run_bind_of_ends
  rw [ends_use owns devEnumLive held_first]
  apply run_bind_of_ends
  refine ends_obtain owns fun en l some owns => ?_
  have enLive : en.isSome = true := some.trans listed
  apply run_bind_crashed
  rw [search, if_pos enLive]
  exact run_bind_crashed (enumerate_crashes owns enLive trips)

end Search

section Start

variable {w : Owner Capture} {a : Answers}

theorem start_crashes (held : Accounted w) (off : w.own.running = false)
    (made : (a.graph && a.builder) = true) (trips : a.trips = true) :
    (start a).run w = .crashed := by
  obtain ⟨l, c⟩ := w
  have idle : c.Idle := by
    rcases held.state with live | idle
    · exact absurd (off.symm.trans live.running) Bool.false_ne_true
    · exact idle
  have noGraph : c.graph = none := (congrArg Capture.graph idle).symm
  have noBuilder : c.builder = none := (congrArg Capture.builder idle).symm
  rw [start]
  apply run_bind_of_ends
  rw [ends_own]
  apply run_bind_of_ends
  rw [ends_exitIf]
  refine ⟨fun on => absurd (off.symm.trans on) Bool.false_ne_true, fun _ => ?_⟩
  apply run_bind_of_ends
  refine ends_createGraph held.owns idle.wired noGraph noBuilder
    (fun l graph builder _ _ _ owns => ?_) fun unmade => ?_
  · apply run_bind_crashed
    rw [addSource]
    exact run_bind_crashed (findObsSource_crashes owns trips)
  · exact absurd (unmade.symm.trans made) Bool.false_ne_true

/-- A start that is looked at, and asks a device without a name. -/
def Answers.Trips (a : Answers) (w : Owner Capture) : Prop :=
  w.own.running = false ∧ (a.graph && a.builder) = true ∧ a.trips = true

theorem perform_start_none (held : Accounted w) (media : ∀ mt ∈ a.connected, mt.Proper) :
    perform w (.start a) = none ↔ a.Trips w := by
  constructor
  · intro crashed
    have off : w.own.running = false := by
      rw [← Bool.not_eq_true]
      intro on
      have ends : (start a).Ends w (fun _ _ => True) (fun _ _ => True) :=
        ends_start_running on trivial
      obtain ⟨v, left⟩ := ends.some_final
      rw [perform, left] at crashed
      cases crashed
    by_contra smooth
    have proper : a.Proper := by
      refine ⟨media, fun made => ?_⟩
      rw [← Bool.not_eq_true]
      exact fun trips => smooth ⟨off, made, trips⟩
    obtain ⟨v, performed, _⟩ := perform_start held proper
    rw [performed] at crashed
    cases crashed
  · rintro ⟨off, made, trips⟩
    rw [perform, Method.final, start_crashes held off made trips]

/-- A call crashes for this reason, or leaves the capture as calls do. -/
theorem perform_cases (held : Accounted w) {call : Call}
    (media : ∀ a, call = .start a → ∀ mt ∈ a.connected, mt.Proper) :
    (∃ a, call = .start a ∧ a.Trips w ∧ perform w call = none) ∨
      ∃ v, perform w call = some v ∧ Accounted v := by
  by_cases proper : call.Proper
  · obtain ⟨v, performed, kept, _⟩ := perform_accounted held proper
    exact .inr ⟨v, performed, kept⟩
  · cases call with
    | stop | sample _ => exact (proper trivial).elim
    | start a =>
        cases performed : perform w (.start a) with
        | none => exact .inl ⟨a, rfl, (perform_start_none held (media a rfl)).mp performed, rfl⟩
        | some v =>
            have smooth : ¬a.Trips w := by
              intro trips
              rw [(perform_start_none held (media a rfl)).mpr trips] at performed
              cases performed
            cases running : w.own.running with
            | true =>
                have same : (start a).Ends w (fun _ v => v = w) (fun _ v => v = w) :=
                  ends_start_running running rfl
                rw [same.final performed]
                exact .inr ⟨w, rfl, held⟩
            | false =>
                refine (proper ⟨media a rfl, fun made => ?_⟩).elim
                rw [← Bool.not_eq_true]
                exact fun trips => smooth ⟨running, made, trips⟩

theorem run_none_iff {calls : List Call} (held : Accounted w)
    (media : ∀ a, .start a ∈ calls → ∀ mt ∈ a.connected, mt.Proper) :
    run perform w calls = none ↔
      ∃ before a after u, calls = before ++ .start a :: after ∧
        run perform w before = some u ∧ a.Trips u := by
  induction calls generalizing w with
  | nil => simp
  | cons call rest ih =>
      have first : ∀ a, call = .start a → ∀ mt ∈ a.connected, mt.Proper := by
        rintro a rfl
        exact media a List.mem_cons_self
      have later : ∀ a, .start a ∈ rest → ∀ mt ∈ a.connected, mt.Proper :=
        fun a member => media a (List.mem_cons_of_mem call member)
      rcases perform_cases held first with ⟨a, rfl, trips, crashed⟩ | ⟨v, performed, kept⟩
      · rw [run_cons, crashed]
        simp only [Option.bind_none, true_iff]
        exact ⟨[], a, rest, w, rfl, rfl, trips⟩
      · rw [run_cons, performed, Option.bind_some, ih kept later]
        constructor
        · rintro ⟨before, a, after, u, rfl, ran, trips⟩
          refine ⟨call :: before, a, after, u, rfl, ?_, trips⟩
          rw [run_cons, performed]
          exact ran
        · rintro ⟨before, a, after, u, split, ran, trips⟩
          cases before with
          | nil =>
              cases split
              cases ran
              rw [(perform_start_none held (first a rfl)).mpr trips] at performed
              cases performed
          | cons start before =>
              cases split
              rw [run_cons, performed] at ran
              exact ⟨before, a, after, u, rfl, ran, trips⟩

end Start

/-- The calls of the thread crash exactly if a start, made while the capture is not running
and given its two graph objects, asks a device for its name before it has found the source,
and the device answers with a null string. -/
theorem capture_crashes_iff (w h : BitVec 32) (calls : List Call)
    (media : ∀ a, .start a ∈ calls → ∀ mt ∈ a.connected, mt.Proper) :
    run perform ⟨.empty, .new w h⟩ calls = none ↔
      ∃ before a after u, calls = before ++ .start a :: after ∧
        run perform ⟨.empty, .new w h⟩ before = some u ∧
        u.own.running = false ∧ (a.graph && a.builder) = true ∧ a.trips = true :=
  run_none_iff (accounted_new w h) media

/-- A device without a name comes before the camera. -/
def unnamed : Answers :=
  { camera with devices := ⟨true, .string none, true⟩ :: camera.devices }

theorem unnamed_crashes :
    (run perform ⟨.empty, .new 1280#32 720#32⟩ [.stop, .start unnamed] = none ↔
      ∃ before a after u, [.stop, .start unnamed] = before ++ .start a :: after ∧
        run perform ⟨.empty, .new 1280#32 720#32⟩ before = some u ∧
        u.own.running = false ∧ (a.graph && a.builder) = true ∧ a.trips = true) ∧
      run perform ⟨.empty, .new 1280#32 720#32⟩ [.stop, .start unnamed] = none := by
  refine ⟨capture_crashes_iff 1280#32 720#32 [.stop, .start unnamed] ?_, rfl⟩
  intro a member mt connected
  simp only [List.mem_cons, Call.start.injEq, List.not_mem_nil, or_false, reduceCtorEq,
    false_or] at member
  subst member
  cases connected
  decide

end Obs2Mf.Broker.Graph
