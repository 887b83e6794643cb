import Obs2Mf.Broker.GraphSearch

set_option autoImplicit false

/- `Start`, stage by stage. Each has the pointers it needs and goes on to the next one, or
gives up and leaves nothing behind. -/
namespace Obs2Mf.Broker.Graph

open Method References

section Stages

variable {c : Capture} {l : Ledger} {a : Answers} {next : Unit → Owner Capture → Prop}
  {returned : Bool → Owner Capture → Prop}

theorem Capture.Wired.kept {d : Capture} (wired : c.Wired) (grabber : d.grabber = c.grabber)
    (callback : d.callback = c.callback) (control : d.control = c.control)
    (flowing : d.flowing = c.flowing) : d.Wired := by
  constructor
  · rw [grabber, callback]
    exact wired.callback
  · rw [control, flowing]
    exact wired.flowing

theorem ends_useGraph (owns : Owns c.members l) (live : c.graph.isSome = true) :
    (use c.graph : ObsMethod Unit).Ends ⟨l, c⟩ next returned ↔ next () ⟨l, c⟩ := by
  apply ends_use owns live
  intro r here
  simp [Capture.members, Option.mem_def.mp here]

theorem ends_useBuilder (owns : Owns c.members l) (live : c.builder.isSome = true) :
    (use c.builder : ObsMethod Unit).Ends ⟨l, c⟩ next returned ↔ next () ⟨l, c⟩ := by
  apply ends_use owns live
  intro r here
  simp [Capture.members, Option.mem_def.mp here]

theorem ends_useGrabber (owns : Owns c.members l) (live : c.grabber.isSome = true) :
    (use c.grabber : ObsMethod Unit).Ends ⟨l, c⟩ next returned ↔ next () ⟨l, c⟩ := by
  apply ends_use owns live
  intro r here
  simp [Capture.members, Option.mem_def.mp here]

theorem ends_createGraph (owns : Owns c.members l) (wired : c.Wired) (noGraph : c.graph = none)
    (noBuilder : c.builder = none)
    (go : ∀ l graph builder, (a.graph && a.builder) = true → graph.isSome = true →
      builder.isSome = true → Owns ({ c with graph, builder } : Capture).members l →
      next () ⟨l, { c with graph, builder }⟩)
    (exit : (a.graph && a.builder) = false → ∀ l, Owns [] l →
      returned false ⟨l, (c.say .noGraphObjects).stopped⟩) :
    (createGraph a).Ends ⟨l, c⟩ next returned := by
  have added (l : Ledger) (graph builder : Option Ref)
      (owns : Owns (builder.toList ++ (graph.toList ++ c.members)) l) :
      Owns ({ c with graph, builder } : Capture).members l := by
    refine owns.reorder fun r => ?_
    simp only [Capture.members, noGraph, noBuilder, Option.toList_none, List.count_append,
      List.count_nil]
    omega
  -- both objects are there, or the attempt is given up
  have checked (l : Ledger) (graph builder : Option Ref)
      (made : (graph.isSome && builder.isSome) = (a.graph && a.builder))
      (owns : Owns ({ c with graph, builder } : Capture).members l) :
      (do
        let c ← own
        onlyIf (c.graph.isNone || c.builder.isNone) (giveUp .noGraphObjects)
        use c.builder : ObsMethod Unit).Ends ⟨l, { c with graph, builder }⟩ next returned := by
    rw [ends_bind, ends_own, ends_bind, ends_onlyIf]
    constructor
    · intro null
      refine ends_giveUp owns (wired.kept rfl rfl rfl rfl) fun l owns => exit ?_ l owns
      rw [← made, ← Bool.not_eq_true, Bool.and_eq_true]
      intro both
      cases graph <;> cases builder <;> simp_all
    · intro live
      have graphLive : graph.isSome = true := by
        cases graph <;> simp_all
      have builderLive : builder.isSome = true := by
        cases builder <;> simp_all
      refine (ends_useBuilder owns builderLive).mpr ?_
      refine go l graph builder ?_ graphLive builderLive owns
      rw [← made, graphLive, builderLive]
      rfl
  rw [createGraph, ends_bind]
  refine ends_obtain owns fun graph l created owns => ?_
  rw [ends_bind, ends_assign, ends_bind, ends_onlyIf]
  constructor
  · intro graphLive
    rw [ends_bind]
    refine ends_obtain owns fun builder l built owns => ?_
    rw [ends_assign]
    refine checked l graph builder ?_ (added l graph builder owns)
    rw [created, built]
  · intro null
    have plain : ({ c with graph } : Capture) = { c with graph, builder := none } := by
      rw [← noBuilder]
    rw [plain]
    refine checked l graph none ?_ (added l graph none owns)
    rw [← created, null]
    rfl

theorem ends_addSource (owns : Owns c.members l) (wired : c.Wired) (noSource : c.source = none)
    (graphLive : c.graph.isSome = true) (named : a.trips = false)
    (go : ∀ l source, a.source = true → source.isSome = true →
      Owns ({ c.saying a.lines with source } : Capture).members l →
      next () ⟨l, { c.saying a.lines with source }⟩)
    (exit : a.source = false → ∀ l, Owns [] l →
      returned false ⟨l, ((c.saying a.lines).say .notFound).stopped⟩) :
    (addSource a).Ends ⟨l, c⟩ next returned := by
  rw [addSource, ends_bind]
  refine ends_findObsSource owns named fun l source found owns => ?_
  have owns : Owns ({ c.saying a.lines with source } : Capture).members l := by
    refine owns.reorder fun r => ?_
    simp only [Capture.members, Capture.saying, noSource, Option.toList_none, List.count_append,
      List.count_nil]
    omega
  rw [ends_bind, ends_assign, ends_bind, ends_onlyIf]
  constructor
  · intro null
    refine ends_giveUp owns (wired.kept rfl rfl rfl rfl) fun l owns => exit ?_ l owns
    rw [← found, Option.isNone_iff_eq_none.mp null]
    rfl
  · intro live
    have sourceLive : source.isSome = true := by
      cases source <;> simp_all
    rw [ends_bind, ends_own]
    refine (ends_useGraph owns graphLive).mpr ?_
    exact go l source (found.symm.trans sourceLive) sourceLive owns

theorem ends_addGrabber (owns : Owns c.members l) (wired : c.Wired)
    (noFilter : c.grabberFilter = none) (noGrabber : c.grabber = none)
    (graphLive : c.graph.isSome = true)
    (go : ∀ l grabberFilter grabber, (a.grabberFilter && a.grabber) = true →
      grabberFilter.isSome = true → grabber.isSome = true →
      Owns ({ c with grabberFilter, grabber, callback := true } : Capture).members l →
      next () ⟨l, { c with grabberFilter, grabber, callback := true }⟩)
    (exit : (a.grabberFilter && a.grabber) = false → ∀ l, Owns [] l →
      returned false ⟨l, (c.say .noGrabber).stopped⟩) :
    (addGrabber a).Ends ⟨l, c⟩ next returned := by
  have silent := wired.callback noGrabber
  have added (l : Ledger) (grabberFilter grabber : Option Ref)
      (owns : Owns (grabber.toList ++ (grabberFilter.toList ++ c.members)) l) :
      Owns ({ c with grabberFilter, grabber } : Capture).members l := by
    refine owns.reorder fun r => ?_
    simp only [Capture.members, noFilter, noGrabber, Option.toList_none, List.count_append,
      List.count_nil]
    omega
  have checked (l : Ledger) (grabberFilter grabber : Option Ref)
      (made : (grabberFilter.isSome && grabber.isSome) = (a.grabberFilter && a.grabber))
      (owns : Owns ({ c with grabberFilter, grabber } : Capture).members l) :
      (do
        let c ← own
        onlyIf (c.grabberFilter.isNone || c.grabber.isNone) (giveUp .noGrabber)
        use c.grabber
        assign fun c => { c with callback := true }
        use c.graph : ObsMethod Unit).Ends ⟨l, { c with grabberFilter, grabber }⟩ next
          returned := by
    rw [ends_bind, ends_own, ends_bind, ends_onlyIf]
    constructor
    · intro null
      refine ends_giveUp owns ⟨fun _ => silent, wired.flowing⟩ fun l owns => exit ?_ l owns
      rw [← made, ← Bool.not_eq_true, Bool.and_eq_true]
      intro both
      cases grabberFilter <;> cases grabber <;> simp_all
    · intro live
      have filterLive : grabberFilter.isSome = true := by
        cases grabberFilter <;> simp_all
      have grabberLive : grabber.isSome = true := by
        cases grabber <;> simp_all
      rw [ends_bind]
      refine (ends_useGrabber owns grabberLive).mpr ?_
      rw [ends_bind, ends_assign]
      refine (ends_useGraph (c := { c with grabberFilter, grabber, callback := true }) owns
        graphLive).mpr ?_
      refine go l grabberFilter grabber ?_ filterLive grabberLive owns
      rw [← made, filterLive, grabberLive]
      rfl
  rw [addGrabber, ends_bind]
  refine ends_obtain owns fun grabberFilter l created owns => ?_
  rw [ends_bind, ends_assign, ends_bind, ends_onlyIf]
  constructor
  · intro filterLive
    rw [ends_bind, ends_use owns filterLive held_first, ends_bind]
    refine ends_obtain owns fun grabber l asked owns => ?_
    rw [ends_assign]
    refine checked l grabberFilter grabber ?_ (added l grabberFilter grabber owns)
    rw [created, asked]
  · intro null
    have plain : ({ c with grabberFilter } : Capture) =
        { c with grabberFilter, grabber := none } := by
      rw [← noGrabber]
    rw [plain]
    refine checked l grabberFilter none ?_ (added l grabberFilter none owns)
    rw [← created, null]
    rfl

theorem ends_addRenderer (owns : Owns c.members l) (wired : c.Wired)
    (noRenderer : c.nullRenderer = none) (graphLive : c.graph.isSome = true)
    (go : ∀ l nullRenderer, a.nullRenderer = true → nullRenderer.isSome = true →
      Owns ({ c with nullRenderer } : Capture).members l → next () ⟨l, { c with nullRenderer }⟩)
    (exit : a.nullRenderer = false → ∀ l, Owns [] l →
      returned false ⟨l, (c.say .noRenderer).stopped⟩) :
    (addRenderer a).Ends ⟨l, c⟩ next returned := by
  rw [addRenderer, ends_bind]
  refine ends_obtain owns fun nullRenderer l created owns => ?_
  have owns : Owns ({ c with nullRenderer } : Capture).members l := by
    refine owns.reorder fun r => ?_
    simp only [Capture.members, noRenderer, Option.toList_none, List.count_append, List.count_nil]
    omega
  rw [ends_bind, ends_assign, ends_bind, ends_onlyIf]
  constructor
  · intro null
    refine ends_giveUp owns (wired.kept rfl rfl rfl rfl) fun l owns => exit ?_ l owns
    rw [← created, Option.isNone_iff_eq_none.mp null]
    rfl
  · intro live
    have rendererLive : nullRenderer.isSome = true := by
      cases nullRenderer <;> simp_all
    rw [ends_bind, ends_own]
    refine (ends_useGraph owns graphLive).mpr ?_
    exact go l nullRenderer (created.symm.trans rendererLive) rendererLive owns

theorem ends_render (owns : Owns c.members l) (wired : c.Wired)
    (builderLive : c.builder.isSome = true)
    (go : a.renderStream.failed = false → next () ⟨l, c⟩)
    (exit : a.renderStream.failed = true → ∀ l, Owns [] l →
      returned false ⟨l, (c.say (.renderFailed a.renderStream)).stopped⟩) :
    (render a).Ends ⟨l, c⟩ next returned := by
  rw [render, ends_bind, ends_own, ends_bind, ends_useBuilder owns builderLive, ends_onlyIf]
  constructor
  · intro failed
    exact ends_giveUp owns wired fun l owns => exit failed l owns
  · exact go

/-- The size that the connected media type tells, if it is one of a video. -/
def Answers.size (a : Answers) : Option (Int × Int) :=
  match a.connected with
  | some mt => if mt.videoInfo then mt.pbFormat else none
  | none => none

def Capture.sized (c : Capture) : Option (Int × Int) → Capture
  | none => c
  | some (biWidth, biHeight) => { c with srcW := biWidth, srcH := biHeight.natAbs }

/-- A media type has a format block exactly if it says that one is there. -/
def MediaType.Proper (mt : MediaType) : Prop := mt.cbFormat ≠ 0 ↔ mt.pbFormat.isSome = true

instance (mt : MediaType) : Decidable mt.Proper :=
  inferInstanceAs (Decidable (mt.cbFormat ≠ 0 ↔ mt.pbFormat.isSome = true))

theorem sized_members (c : Capture) (size : Option (Int × Int)) :
    (c.sized size).members = c.members := by
  cases size <;> rfl

theorem sized_stopped (c : Capture) (size : Option (Int × Int)) (line : ObsLine) :
    ((c.sized size).say line).stopped = (c.say line).stopped := by
  cases size <;> rfl

theorem sized_wired (size : Option (Int × Int)) (wired : c.Wired) : (c.sized size).Wired := by
  cases size with
  | none => exact wired
  | some size => exact wired.kept rfl rfl rfl rfl

theorem ends_freeMediaType {mt : MediaType} (proper : mt.Proper) {pbFormat pUnk : Option Ref}
    (block : pbFormat.isSome = mt.pbFormat.isSome)
    (owns : Owns (pUnk.toList ++ (pbFormat.toList ++ c.members)) l)
    (given : ∀ l, Owns c.members l → next () ⟨l, c⟩) :
    (freeMediaType mt pbFormat pUnk).Ends ⟨l, c⟩ next returned := by
  have counted : (decide (mt.cbFormat ≠ 0) && pbFormat.isSome) = pbFormat.isSome := by
    rw [block]
    by_cases there : mt.cbFormat ≠ 0
    · rw [proper.mp there, decide_eq_true there]
      rfl
    · have absent : mt.pbFormat.isSome = false := by
        rw [← Bool.not_eq_true]
        exact fun some => there (proper.mpr some)
      rw [absent, Bool.and_false]
  have owns : Owns (pbFormat.toList ++ (pUnk.toList ++ c.members)) l := by
    refine owns.reorder fun r => ?_
    simp only [List.count_append]
    omega
  rw [freeMediaType, counted, ends_bind]
  refine ends_releaseIf owns fun l owns => ?_
  exact ends_releaseIf owns fun l owns => given l owns

theorem ends_readConnected (owns : Owns c.members l) (proper : ∀ mt ∈ a.connected, mt.Proper)
    (given : ∀ l, Owns (c.sized a.size).members l → next () ⟨l, c.sized a.size⟩) :
    (readConnected a.connected).Ends ⟨l, c⟩ next returned := by
  cases connected : a.connected with
  | none =>
      have none : a.size = none := by simp only [Answers.size, connected]
      rw [none] at given
      exact given l owns
  | some mt =>
      have size : a.size = if mt.videoInfo then mt.pbFormat else none := by
        simp only [Answers.size, connected]
      rw [readConnected, ends_bind]
      refine ends_obtain owns fun pbFormat l block owns => ?_
      rw [ends_bind]
      refine ends_obtain owns fun pUnk l _ owns => ?_
      have done (l : Ledger)
          (owns : Owns (pUnk.toList ++ (pbFormat.toList ++ (c.sized a.size).members)) l) :
          (freeMediaType mt pbFormat pUnk).Ends ⟨l, c.sized a.size⟩ next returned :=
        ends_freeMediaType (proper mt (by rw [connected]; rfl)) block owns given
      rw [sized_members] at done
      rw [ends_bind, readSize]
      split
      · rename_i biWidth biHeight video format
        have live : pbFormat.isSome = true := by rw [block, format]; rfl
        have here : ∀ r ∈ pbFormat, r ∈ pUnk.toList ++ (pbFormat.toList ++ c.members) := by
          intro r there
          exact List.mem_append_right _ (held_first r there)
        rw [ends_bind, ends_use owns live here, ends_assign]
        have done := done l owns
        rw [size, video, if_pos rfl, format] at done
        exact done
      · rename_i other
        have none : a.size = none := by
          rw [size]
          cases video : mt.videoInfo with
          | false => rfl
          | true =>
              cases format : mt.pbFormat with
              | none => rfl
              | some size => exact (other size.1 size.2 video format).elim
        have done := done l owns
        rw [none] at done
        exact done

theorem ends_measure (owns : Owns c.members l) (wired : c.Wired)
    (grabberLive : c.grabber.isSome = true) (proper : ∀ mt ∈ a.connected, mt.Proper)
    (go : ∀ l, 0 < (c.sized a.size).srcW → 0 < (c.sized a.size).srcH →
      Owns (c.sized a.size).members l → next () ⟨l, c.sized a.size⟩)
    (exit : (c.sized a.size).srcW ≤ 0 ∨ (c.sized a.size).srcH ≤ 0 → ∀ l, Owns [] l →
      returned false ⟨l, (c.say .noSize).stopped⟩) :
    (measure a).Ends ⟨l, c⟩ next returned := by
  rw [measure, ends_bind, ends_own, ends_bind, ends_useGrabber owns grabberLive, ends_bind]
  refine ends_readConnected owns proper fun l owns => ?_
  rw [ends_bind, ends_own, ends_onlyIf]
  constructor
  · intro flat
    refine ends_giveUp owns (sized_wired a.size wired) fun l owns => ?_
    rw [sized_stopped]
    exact exit (of_decide_eq_true flat) l owns
  · intro positive
    have positive := of_decide_eq_false positive
    exact go l (by omega) (by omega) owns

theorem ends_runGraph (owns : Owns c.members l) (wired : c.Wired) (noControl : c.control = none)
    (graphLive : c.graph.isSome = true)
    (go : ∀ l control, a.control = true → a.run.failed = false → control.isSome = true →
      Owns ({ c with control } : Capture).members l →
      next () ⟨l, ({ c with control, flowing := true, running := true } : Capture).say
        (.capturing c.srcW c.srcH)⟩)
    (exit : (a.control && !a.run.failed) = false → ∀ l, Owns [] l →
      returned false ⟨l, (c.say .runFailed).stopped⟩) :
    (runGraph a).Ends ⟨l, c⟩ next returned := by
  rw [runGraph, ends_bind, ends_own, ends_bind, ends_useGraph owns graphLive, ends_bind]
  refine ends_obtain owns fun mf l _ owns => ?_
  -- the media filter is a local
  have filter (later : Unit → Owner Capture → Prop)
      (goes : ∀ l, Owns c.members l → later () ⟨l, c⟩) :
      (onlyIf mf.isSome (do use mf; release mf) : ObsMethod Unit).Ends ⟨l, c⟩ later returned := by
    rw [ends_onlyIf]
    constructor
    · intro live
      rw [ends_bind, ends_use owns live held_first]
      exact ends_release owns live fun l owns => goes l owns
    · intro null
      rw [Option.isSome_eq_false_iff, Option.isNone_iff_eq_none] at null
      rw [null] at owns
      exact goes l owns
  rw [ends_bind]
  refine filter _ fun l owns => ?_
  rw [ends_bind]
  refine ends_obtain owns fun control l found owns => ?_
  have owns : Owns ({ c with control } : Capture).members l := by
    refine owns.reorder fun r => ?_
    simp only [Capture.members, noControl, Option.toList_none, List.count_append, List.count_nil]
    omega
  rw [ends_bind, ends_assign, ends_bind, ends_onlyIf]
  constructor
  · intro live
    have here : ∀ r ∈ control, r ∈ ({ c with control } : Capture).members := by
      intro r there
      exact held_first r there
    rw [ends_bind, ends_use owns live here, ends_assign, ends_bind, ends_onlyIf]
    constructor
    · intro failed
      refine ends_giveUp (c := { c with control, flowing := true }) owns ⟨wired.callback, ?_⟩
        fun l owns => exit ?_ l owns
      · intro null
        have absent : control = none := null
        rw [absent] at live
        cases live
      · have failed : a.run.failed = true := by
          cases control <;> simp_all
        rw [failed, Bool.not_true, Bool.and_false]
    · intro ran
      have ran : a.run.failed = false := by
        cases control <;> simp_all
      rw [ends_bind, ends_assign, ends_assign]
      exact go l control (found.symm.trans live) ran live owns
  · intro null
    have still : ({ c with control } : Capture).Wired := by
      refine ⟨wired.callback, fun _ => ?_⟩
      exact wired.flowing noControl
    rw [ends_bind, ends_onlyIf]
    constructor
    · intro _
      refine ends_giveUp owns still fun l owns => exit ?_ l owns
      rw [← found, null, Bool.false_and]
    · intro live
      rw [Option.isSome_eq_false_iff] at null
      rw [null, Bool.true_or] at live
      cases live

end Stages

section Outcome

/-- The line that an attempt ends with once the graph is connected. -/
def Answers.measured (a : Answers) : ObsLine :=
  match a.size with
  | none => .noSize
  | some (biWidth, biHeight) =>
      if biWidth ≤ 0 ∨ biHeight.natAbs ≤ 0 then .noSize
      else if (a.control && !a.run.failed) = false then .runFailed
      else .capturing biWidth biHeight.natAbs

/-- The line that an attempt to start ends with. -/
def Answers.verdict (a : Answers) : ObsLine :=
  if (a.graph && a.builder) = false then .noGraphObjects
  else if a.source = false then .notFound
  else if (a.grabberFilter && a.grabber) = false then .noGrabber
  else if a.nullRenderer = false then .noRenderer
  else if a.renderStream.failed = true then .renderFailed a.renderStream
  else a.measured

def ObsLine.live : ObsLine → Bool
  | .capturing _ _ => true
  | _ => false

/-- The lines of an attempt to start. -/
def Answers.said (a : Answers) : List ObsLine :=
  (if (a.graph && a.builder) = true then a.lines else []) ++ [a.verdict]

/-- What other code keeps to: media types are proper, and every device that is asked has a
name. -/
structure Answers.Proper (a : Answers) : Prop where
  media : ∀ mt ∈ a.connected, mt.Proper
  named : (a.graph && a.builder) = true → a.trips = false

/-- The capture runs, with every pointer set. -/
structure Capture.Live (c : Capture) : Prop where
  running : c.running = true
  graph : c.graph.isSome = true
  builder : c.builder.isSome = true
  source : c.source.isSome = true
  grabberFilter : c.grabberFilter.isSome = true
  nullRenderer : c.nullRenderer.isSome = true
  grabber : c.grabber.isSome = true
  control : c.control.isSome = true
  callback : c.callback = true
  flowing : c.flowing = true

/-- Nothing is left for `Stop` to do. -/
def Capture.Idle (c : Capture) : Prop := c.stopped = c

/-- The capture as the producer sees it. -/
def Capture.impl (c : Capture) : Impl :=
  ⟨c.dstW, c.dstH, c.running, c.control.isSome, c.native, c.srcW, c.srcH, c.frames⟩

variable {c : Capture} {l : Ledger} {a : Answers} {next : Unit → Owner Capture → Prop}
  {returned : Bool → Owner Capture → Prop}

/-- A size is known only from the media type. -/
theorem size_of_positive (unknown : c.srcW = 0) {size : Option (Int × Int)}
    (wide : 0 < (c.sized size).srcW) (high : 0 < (c.sized size).srcH) :
    ∃ biWidth biHeight : Int, size = some (biWidth, biHeight) ∧
      ¬(biWidth ≤ 0 ∨ biHeight.natAbs ≤ 0) := by
  cases size with
  | none =>
      have null : (c.sized none).srcW = 0 := unknown
      omega
  | some size =>
      obtain ⟨biWidth, biHeight⟩ := size
      refine ⟨biWidth, biHeight, rfl, ?_⟩
      simp only [Capture.sized] at wide high
      omega

theorem flat_of_size {size : Option (Int × Int)}
    (flat : (c.sized size).srcW ≤ 0 ∨ (c.sized size).srcH ≤ 0) {biWidth biHeight : Int}
    (same : size = some (biWidth, biHeight)) : biWidth ≤ 0 ∨ biHeight.natAbs ≤ 0 := by
  subst same
  simp only [Capture.sized] at flat
  omega

/-- `Start` on a capture that is not running: it either runs with every pointer set and a
reference held for each, or it is as before and nothing is held. -/
theorem ends_start (owns : Owns [] l) (idle : c.Idle) (proper : a.Proper)
    (go : ∀ l d, a.verdict.live = true → d.Live → Owns d.members l →
      d.impl = { c.impl.connected a.size with running := true, control := true } →
      d.log = c.log ++ a.said → next () ⟨l, d⟩)
    (exit : a.verdict.live = false → ∀ l, Owns [] l → returned false ⟨l, c.saying a.said⟩) :
    (start a).Ends ⟨l, c⟩ next returned := by
  have noGraph : c.graph = none := (congrArg Capture.graph idle).symm
  have noBuilder : c.builder = none := (congrArg Capture.builder idle).symm
  have noSource : c.source = none := (congrArg Capture.source idle).symm
  have noFilter : c.grabberFilter = none := (congrArg Capture.grabberFilter idle).symm
  have noRenderer : c.nullRenderer = none := (congrArg Capture.nullRenderer idle).symm
  have noGrabber : c.grabber = none := (congrArg Capture.grabber idle).symm
  have noControl : c.control = none := (congrArg Capture.control idle).symm
  have off : c.running = false := (congrArg Capture.running idle).symm
  have silent : c.callback = false := (congrArg Capture.callback idle).symm
  have still : c.flowing = false := (congrArg Capture.flowing idle).symm
  have nothing : c.members = [] := by
    simp only [Capture.members, noGraph, noBuilder, noSource, noFilter, noRenderer, noGrabber,
      noControl, Option.toList_none, List.append_nil]
  have wired : c.Wired := ⟨fun _ => silent, fun _ => still⟩
  rw [← nothing] at owns
  -- a failure after the search leaves the capture as it was, but for the log
  have failed (line : ObsLine) (verdict : a.verdict = line) (dead : line.live = false)
      (made : (a.graph && a.builder) = true) (l : Ledger) (nothing : Owns [] l) :
      returned false ⟨l, ((c.saying a.lines).say line).stopped⟩ := by
    have same : ((c.saying a.lines).say line).stopped = c.saying a.said := by
      rw [Answers.said, if_pos made, verdict, ← saying_append]
      show (c.stopped.saying a.lines).saying [line] = _
      rw [idle]
    rw [same]
    exact exit (by rw [verdict, dead]) l nothing
  rw [start, ends_bind, ends_own, ends_bind, ends_exitIf]
  refine ⟨fun on => absurd (off.symm.trans on) Bool.false_ne_true, fun _ => ?_⟩
  rw [ends_bind]
  refine ends_createGraph owns wired noGraph noBuilder
    (fun l graph builder made graphLive builderLive owns => ?_) fun unmade l owns => ?_
  rotate_left
  · have verdict : a.verdict = .noGraphObjects := by rw [Answers.verdict, if_pos unmade]
    have same : (c.say .noGraphObjects).stopped = c.saying a.said := by
      rw [Answers.said, unmade, if_neg Bool.false_ne_true, verdict]
      show c.stopped.saying [_] = _
      rw [idle]
      rfl
    rw [same]
    exact exit (by rw [verdict]; rfl) l owns
  rw [ends_bind]
  refine ends_addSource owns (wired.kept rfl rfl rfl rfl) noSource graphLive (proper.named made)
    (fun l source found sourceLive owns => ?_) fun missing l owns => ?_
  rotate_left
  · refine failed .notFound ?_ rfl made l owns
    simp [Answers.verdict, made, missing]
  rw [ends_bind]
  refine ends_addGrabber owns (wired.kept rfl rfl rfl rfl) noFilter noGrabber graphLive
    (fun l grabberFilter grabber grabs filterLive grabberLive owns => ?_) fun missing l owns => ?_
  rotate_left
  · refine failed .noGrabber ?_ rfl made l owns
    simp [Answers.verdict, made, found, missing]
  have awake (d : Capture) (same : d.grabber = grabber) : d.grabber ≠ none := by
    intro null
    rw [same] at null
    rw [null] at grabberLive
    cases grabberLive
  rw [ends_bind]
  refine ends_addRenderer owns ⟨fun null => (awake _ rfl null).elim, fun _ => still⟩ noRenderer
    graphLive (fun l nullRenderer renders rendererLive owns => ?_) fun missing l owns => ?_
  rotate_left
  · refine failed .noRenderer ?_ rfl made l owns
    simp [Answers.verdict, made, found, grabs, missing]
  rw [ends_bind]
  refine ends_render owns ⟨fun null => (awake _ rfl null).elim, fun _ => still⟩ builderLive
    (fun connects => ?_) fun refused l owns => ?_
  rotate_left
  · refine failed (.renderFailed a.renderStream) ?_ rfl made l owns
    simp [Answers.verdict, made, found, grabs, renders, refused]
  have verdict : a.verdict = a.measured := by
    simp [Answers.verdict, made, found, grabs, renders, connects]
  rw [ends_bind]
  refine ends_measure owns ⟨fun null => (awake _ rfl null).elim, fun _ => still⟩ grabberLive
    proper.media (fun l wide high owns => ?_) fun flat l owns => ?_
  rotate_left
  · refine failed .noSize ?_ rfl made l owns
    rw [verdict, Answers.measured]
    cases size : a.size with
    | none => rfl
    | some told => exact if_pos (flat_of_size flat (size.trans rfl))
  have unknown : c.srcW = 0 := (congrArg Capture.srcW idle).symm
  obtain ⟨biWidth, biHeight, size, positive⟩ := size_of_positive (by exact unknown) wide high
  have verdict : a.verdict = if (a.control && !a.run.failed) = false then .runFailed
      else .capturing biWidth biHeight.natAbs := by
    simp only [verdict, Answers.measured, size, if_neg positive]
  rw [size] at owns ⊢
  refine ends_runGraph owns ⟨fun null => (awake _ rfl null).elim, fun _ => still⟩ noControl
    graphLive (fun l control answered ran controlLive owns => ?_) fun missing l owns => ?_
  rotate_left
  · refine failed .runFailed ?_ rfl made l owns
    rw [verdict, if_pos missing]
  have verdict : a.verdict = .capturing biWidth biHeight.natAbs := by
    rw [verdict, answered, ran]
    rfl
  refine go l _ (by rw [verdict]; rfl) ?_ owns ?_ ?_
  · exact ⟨rfl, graphLive, builderLive, sourceLive, filterLive, rendererLive, grabberLive,
      controlLive, rfl, rfl⟩
  · rw [size]
    show Impl.mk _ _ _ control.isSome _ _ _ _ = _
    rw [controlLive]
    rfl
  · rw [Answers.said, if_pos made, verdict, ← List.append_assoc]
    rfl

end Outcome

end Obs2Mf.Broker.Graph
