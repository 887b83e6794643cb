import Obs2Mf.Vcam.Rendering

set_option autoImplicit false

/- All the calls a stream makes of its generator: what each `EnsureRenderTarget` leaves
of what was made before it, and which sample request goes through a null bitmap. -/
namespace Obs2Mf.Vcam.Rendering

open Method
open Pipe
open Renderer
open Run

/-- `NUM_IMAGE_COLS` and `NUM_IMAGE_ROWS`. -/
def numImageCols : BitVec 32 := 1280#32

def numImageRows : BitVec 32 := 720#32

/-- `Start` ensures the target, each sample request generates. -/
inductive Action where
  | ensureRenderTarget (a : Answers)
  | generate (a : Answers) (beyond : Nat → Byte) (lock : Except HRESULT Locked)

def perform (r : Renderer) : Action → Option Renderer
  | .ensureRenderTarget a => (ensureRenderTarget a numImageCols numImageRows).final r
  | .generate a beyond lock => (generate a beyond lock).final r

/-- What is there to draw the picture with. -/
inductive Shape where
  /-- Not all that is drawn with. -/
  | lacking
  /-- All of it, and the bitmap the target draws into. -/
  | whole
  /-- All of it, but not the bitmap. -/
  | broken
  deriving DecidableEq, Repr

def Shape.after : Shape → Reached → Shape
  | s, .nothing => s
  | .whole, .noBitmap => .broken
  | s, .noBitmap => s
  | _, .part => .lacking
  | _, .resources => .whole

/-- How far each `EnsureRenderTarget` of a run got. -/
def ensured (actions : List Action) : List Reached :=
  actions.filterMap fun
    | .ensureRenderTarget a => some a.reached
    | .generate _ _ _ => none

/-- All was made, and the calls since then did not come to the bitmap. -/
def Kept : List Reached → Prop := Since (fun _ x => x = .resources) (· = .nothing)

/-- From there, the bitmap could not be made again, and nothing else was. -/
def Lost : List Reached → Prop :=
  Since (fun before x => Kept before ∧ x = .noBitmap) fun x => x = .nothing ∨ x = .noBitmap

namespace Renderer

/-- A bitmap of the stream's size. -/
def Sized (r : Renderer) (bitmap : Nat) : Prop :=
  (r.bitmaps bitmap).width = numImageCols ∧ (r.bitmaps bitmap).height = numImageRows

def Is (r : Renderer) : Shape → Prop
  | .lacking => r.ready = false
  | .whole => r.ready = true ∧
      ∃ bitmap, r.bitmap = some bitmap ∧ r.renderTarget = some bitmap ∧ r.Sized bitmap
  | .broken => r.ready = true ∧ r.bitmap = none

/-- Without a texture, and of a shape. -/
structure Held (r : Renderer) (s : Shape) : Prop where
  cpu : r.texture = none
  is : r.Is s

end Renderer

theorem held_new (pipe : FramePipeClient) (bitmaps : Nat → Bitmap) :
    (new pipe bitmaps).Held .lacking := ⟨rfl, rfl⟩

section Steps

variable {r : Renderer} {s : Shape}

/-- The pointers, and the bitmaps but for their pixels. -/
structure Alike (before after : Renderer) : Prop where
  texture : after.texture = before.texture
  ready : after.ready = before.ready
  bitmap : after.bitmap = before.bitmap
  renderTarget : after.renderTarget = before.renderTarget
  layout : ∀ i, ∃ pixels, after.bitmaps i = { before.bitmaps i with pixels := pixels }

/-- The size, and a frame counter that is `n` further. -/
structure Counts (n : BitVec 64) (before after : Renderer) : Prop where
  width : after.generator.width = before.generator.width
  height : after.generator.height = before.generator.height
  frame : after.generator.frame = before.generator.frame + n

theorem Alike.trans {before mid after : Renderer} (first : Alike before mid)
    (second : Alike mid after) : Alike before after := by
  refine ⟨second.texture.trans first.texture, second.ready.trans first.ready,
    second.bitmap.trans first.bitmap, second.renderTarget.trans first.renderTarget, fun i => ?_⟩
  obtain ⟨_, old⟩ := first.layout i
  obtain ⟨pixels, new⟩ := second.layout i
  rw [old] at new
  exact ⟨pixels, new⟩

theorem Renderer.Held.alike {t : Renderer} (held : r.Held s) (alike : Alike r t) : t.Held s := by
  obtain ⟨cpu, is⟩ := held
  refine ⟨alike.texture.trans cpu, ?_⟩
  cases s with
  | lacking => exact alike.ready.trans is
  | broken => exact ⟨alike.ready.trans is.1, alike.bitmap.trans is.2⟩
  | whole =>
      obtain ⟨ready, bitmap, here, target, sized⟩ := is
      refine ⟨alike.ready.trans ready, bitmap, alike.bitmap.trans here,
        alike.renderTarget.trans target, ?_⟩
      obtain ⟨_, same⟩ := alike.layout bitmap
      rw [Sized, same]
      exact sized

theorem alike_of_bitmaps {before after : Renderer} (texture : after.texture = before.texture)
    (ready : after.ready = before.ready) (bitmap : after.bitmap = before.bitmap)
    (target : after.renderTarget = before.renderTarget)
    (bitmaps : after.bitmaps = before.bitmaps) : Alike before after := by
  refine ⟨texture, ready, bitmap, target, fun i => ⟨(before.bitmaps i).pixels, ?_⟩⟩
  rw [bitmaps]

theorem alike_received (fetched : Fetched) (r : Renderer) : Alike r (r.received fetched) :=
  alike_of_bitmaps rfl rfl rfl rfl rfl

theorem alike_counted (r : Renderer) : Alike r r.counted := alike_of_bitmaps rfl rfl rfl rfl rfl

theorem alike_drawn (a : Answers) (target : Nat) (r : Renderer) : Alike r (r.drawn a target) := by
  refine ⟨rfl, rfl, rfl, rfl, fun i => ?_⟩
  simp only [drawn, painted]
  split
  · exact ⟨_, rfl⟩
  · exact ⟨_, rfl⟩

theorem Renderer.Held.withoutBitmap (held : r.Held s) :
    r.withoutBitmap.Held (s.after .noBitmap) := by
  obtain ⟨cpu, is⟩ := held
  refine ⟨cpu, ?_⟩
  cases s with
  | lacking => exact is
  | whole => exact ⟨is.1, rfl⟩
  | broken => exact ⟨is.1, rfl⟩

theorem held_equipped (a : Answers) (cpu : r.texture = none) :
    (r.equipped a numImageCols numImageRows).Held .whole := by
  have here : (r.equipped a numImageCols numImageRows).bitmaps r.made =
      ⟨numImageCols, numImageRows, a.stride, a.size, a.blank⟩ := if_pos rfl
  refine ⟨cpu, rfl, r.made, rfl, rfl, ?_⟩
  rw [Sized, here]
  exact ⟨rfl, rfl⟩

/-- Ensuring never crashes, and the shape follows from how far it got. -/
theorem ensure_held (a : Answers) (held : r.Held s) :
    (ensureRenderTarget a numImageCols numImageRows).Ends r
      (fun _ t => t.Held (s.after a.reached)) (fun _ t => t.Held (s.after a.reached)) := by
  have remade : s.after .resources = .whole := by
    cases s <;> rfl
  have parted : s.after .part = .lacking := by
    cases s <;> rfl
  have unchanged : s.after .nothing = s := by
    cases s <;> rfl
  apply (ensureRenderTarget_ends a numImageCols numImageRows held.cpu).mono
  · rintro _ t ⟨all, _, rfl⟩
    rw [all, remade]
    exact (held_equipped a held.cpu).alike (alike_of_bitmaps rfl rfl rfl rfl rfl)
  · rintro _ t (⟨none_made, rfl⟩ | ⟨no_bitmap, rfl⟩ | ⟨part, lacking⟩ | ⟨all, _, rfl⟩)
    · rw [none_made, unchanged]
      exact held
    · rw [no_bitmap]
      exact held.withoutBitmap
    · rw [part, parted]
      exact ⟨lacking.texture.trans held.cpu, lacking.unready⟩
    · rw [all, remade]
      exact held_equipped a held.cpu

/-- The request goes through the bitmap's pointer: no live frame, and the drawing ends
well. -/
def Draws (a : Answers) (r : Renderer) : Prop :=
  r.live = false ∧ (a.call .endDraw).succeeded = true

theorem not_failed {hr : HRESULT} : hr.failed = false ↔ hr.succeeded = true := by
  rw [HRESULT.failed, Bool.not_eq_false']

theorem generate_broken (a : Answers) (beyond : Nat → Byte) (dst : Locked)
    (held : r.Held .broken) (draws : Draws a r) :
    (generate a beyond (.ok dst)).final r = none := by
  have ready : (r.received r.fetch).ready = true := held.is.1
  obtain ⟨target, made⟩ := target_of_ready ready
  rw [final, generate_waiting a beyond dst draws.1, fallback_ready a dst ready made,
    not_failed.mpr draws.2, if_neg Bool.false_ne_true, convertBitmap_crashes]
  exact held.is.2

theorem tall_and_narrow {i : Nat} (sized : r.Sized i) :
    (r.bitmaps i).height ≠ 0#32 ∧ (r.bitmaps i).width.toNat < 2 ^ 31 := by
  rw [sized.1, sized.2]
  decide

/-- Every other request ends, and only a sample that is handed out is counted. -/
theorem generate_ends (a : Answers) (beyond : Nat → Byte) (lock : Except HRESULT Locked)
    (held : r.Held s) (fine : s = .broken → (∃ dst, lock = .ok dst) → ¬Draws a r) :
    (generate a beyond lock).Ends r (fun _ t => Alike r t ∧ Counts 1 r t)
      (fun _ t => Alike r t ∧ Counts 0 r t) := by
  have still : r.generator.frame = r.generator.frame + 0 := (BitVec.add_zero _).symm
  cases lock with
  | error hr =>
      rw [Ends, generate_unlocked]
      exact ⟨alike_of_bitmaps rfl rfl rfl rfl rfl, rfl, rfl, still⟩
  | ok dst =>
      have received := alike_received r.fetch r
      cases live : r.live with
      | true =>
          rw [Ends, generate_live a beyond dst live]
          exact ⟨received.trans (alike_counted _), rfl, rfl, rfl⟩
      | false =>
          rw [ends_generate_waiting a beyond dst live]
          cases ready : (r.received r.fetch).ready with
          | false =>
              rw [Ends, fallback_unready a dst ready]
              exact ⟨received, rfl, rfl, still⟩
          | true =>
              obtain ⟨target, made⟩ := target_of_ready ready
              have painted := received.trans (alike_drawn a target _)
              rw [ends_fallback_ready a dst ready made]
              refine ⟨fun _ => ⟨painted, rfl, rfl, still⟩, fun ended => ?_⟩
              cases s with
              | lacking =>
                  exact absurd ((held.alike received).is.symm.trans ready) Bool.false_ne_true
              | broken => exact (fine rfl ⟨dst, rfl⟩ ⟨live, not_failed.mp ended⟩).elim
              | whole =>
                  obtain ⟨_, bitmap, here, _, sized⟩ := (held.alike painted).is
                  obtain ⟨tall, narrow⟩ := tall_and_narrow sized
                  apply (convertBitmap_ends a dst here tall narrow).mono
                  · rintro _ _ ⟨rfl, _⟩
                    exact ⟨painted.trans (alike_counted _), rfl, rfl, rfl⟩
                  · rintro _ _ ⟨rfl, _⟩
                    exact ⟨painted, rfl, rfl, still⟩

theorem generate_held (a : Answers) (beyond : Nat → Byte) (lock : Except HRESULT Locked)
    (held : r.Held s) (fine : s = .broken → (∃ dst, lock = .ok dst) → ¬Draws a r) :
    (generate a beyond lock).Ends r (fun _ t => t.Held s) (fun _ t => t.Held s) := by
  apply (generate_ends a beyond lock held fine).mono
  · intro _ _ kept
    exact held.alike kept.1
  · intro _ _ kept
    exact held.alike kept.1

/-- What an action does to the shape. -/
def Shape.next (s : Shape) : Action → Shape
  | .ensureRenderTarget a => s.after a.reached
  | .generate _ _ _ => s

/-- The action is a request that goes through a null bitmap. -/
def Trips (r : Renderer) (s : Shape) (action : Action) : Prop :=
  ∃ a beyond dst, action = .generate a beyond (.ok dst) ∧ s = .broken ∧ Draws a r

theorem perform_trips {action : Action} (held : r.Held s) (trips : Trips r s action) :
    perform r action = none := by
  obtain ⟨a, beyond, dst, rfl, rfl, draws⟩ := trips
  exact generate_broken a beyond dst held draws

theorem perform_held (action : Action) (held : r.Held s) (fine : ¬Trips r s action) :
    ∃ t, perform r action = some t ∧ t.Held (s.next action) := by
  cases action with
  | ensureRenderTarget a =>
      have ends := ensure_held a held
      obtain ⟨t, left⟩ := ends.some_final
      exact ⟨t, left, ends.final left⟩
  | generate a beyond lock =>
      have ends := generate_held a beyond lock held fun broken ⟨dst, here⟩ draws =>
        fine ⟨a, beyond, dst, by rw [here], broken, draws⟩
      obtain ⟨t, left⟩ := ends.some_final
      exact ⟨t, left, ends.final left⟩

theorem run_held (actions : List Action) {t : Renderer} (held : r.Held s)
    (ran : run perform r actions = some t) : ∃ s, t.Held s := by
  induction actions generalizing r s with
  | nil =>
      cases ran
      exact ⟨s, held⟩
  | cons action rest ih =>
      have fine : ¬Trips r s action := by
        intro trips
        rw [run_cons, perform_trips held trips] at ran
        cases ran
      obtain ⟨u, performed, kept⟩ := perform_held action held fine
      rw [run_cons, performed] at ran
      exact ih kept ran

theorem foldl_next (actions : List Action) (s : Shape) :
    actions.foldl Shape.next s = (ensured actions).foldl Shape.after s := by
  induction actions generalizing s with
  | nil => rfl
  | cons action rest ih =>
      cases action with
      | ensureRenderTarget a => exact ih (s.after a.reached)
      | generate _ _ _ => exact ih s

theorem run_none_iff (actions : List Action) (held : r.Held s) :
    run perform r actions = none ↔
      ∃ before action after u, actions = before ++ action :: after ∧
        run perform r before = some u ∧ Trips u (before.foldl Shape.next s) action := by
  induction actions generalizing r s with
  | nil => simp
  | cons action rest ih =>
      by_cases trips : Trips r s action
      · rw [run_cons, perform_trips held trips]
        simp only [Option.bind_none, true_iff]
        exact ⟨[], action, rest, r, rfl, rfl, trips⟩
      · obtain ⟨t, performed, kept⟩ := perform_held action held trips
        rw [run_cons, performed, Option.bind_some, ih kept]
        constructor
        · rintro ⟨before, last, after, u, rfl, ran, tripped⟩
          refine ⟨action :: before, last, after, u, rfl, ?_, tripped⟩
          rw [run_cons, performed]
          exact ran
        · rintro ⟨before, last, after, u, split, ran, tripped⟩
          cases before with
          | nil =>
              cases split
              cases ran
              exact absurd tripped trips
          | cons first before =>
              cases split
              rw [run_cons, performed] at ran
              exact ⟨before, last, after, u, rfl, ran, tripped⟩

end Steps

theorem shape_iff (reached : List Reached) :
    (reached.foldl Shape.after .lacking = .whole ↔ Kept reached) ∧
      (reached.foldl Shape.after .lacking = .broken ↔ Lost reached) := by
  induction reached using List.reverseRecOn with
  | nil => exact ⟨⟨Shape.noConfusion, fun kept => absurd kept since_nil⟩,
      ⟨Shape.noConfusion, fun lost => absurd lost since_nil⟩⟩
  | append_singleton rest x ih =>
      obtain ⟨kept, lost⟩ := ih
      rw [List.foldl_append, Kept, Lost, since_append, since_append]
      change (_ ↔ x = .resources ∨ x = .nothing ∧ Kept rest) ∧
        (_ ↔ (Kept rest ∧ x = .noBitmap) ∨ (x = .nothing ∨ x = .noBitmap) ∧ Lost rest)
      rw [← kept, ← lost]
      generalize rest.foldl Shape.after .lacking = s
      cases x <;> cases s <;> decide

/-- A run of the stream's calls goes through a null pointer exactly if a sample is requested,
no live frame comes and the drawing ends well, when the bitmap could not be made again since
all was made: the guard of `RenderFallbackNV12` does not look at it. -/
theorem generate_crashes_iff (pipe : FramePipeClient) (bitmaps : Nat → Bitmap)
    (actions : List Action) :
    run perform (new pipe bitmaps) actions = none ↔
      ∃ before a beyond dst after u,
        actions = before ++ .generate a beyond (.ok dst) :: after ∧
        run perform (new pipe bitmaps) before = some u ∧
        u.live = false ∧ (a.call .endDraw).succeeded = true ∧ Lost (ensured before) := by
  rw [run_none_iff actions (held_new pipe bitmaps)]
  constructor
  · rintro ⟨before, _, after, u, split, ran, a, beyond, dst, rfl, broken, waiting, ended⟩
    rw [foldl_next, (shape_iff _).2] at broken
    exact ⟨before, a, beyond, dst, after, u, split, ran, waiting, ended, broken⟩
  · rintro ⟨before, a, beyond, dst, after, u, split, ran, waiting, ended, lost⟩
    rw [← (shape_iff _).2, ← foldl_next] at lost
    exact ⟨before, _, after, u, split, ran, a, beyond, dst, rfl, lost, waiting, ended⟩

/-- Some calls fail, and drawing leaves the pixels as they are. -/
def failing (fails : RenderCall → Bool) : Answers where
  call c := if fails c then .eFail else .sOk
  stride := 5120#32
  size := 3686400#32
  blank _ := 0
  paint _ pixels := pixels

/-- A second start without a bitmap, and then a sample. -/
example : run perform (new ⟨none, []⟩ fun _ => ⟨0, 0, 0, 0, fun _ => 0⟩)
    [.ensureRenderTarget (failing fun _ => false),
      .ensureRenderTarget (failing fun c => c = .createBitmap),
      .generate (failing fun _ => false) (fun _ => 0) (.ok ⟨fun _ => 0, 1280⟩)] = none := rfl

end Obs2Mf.Vcam.Rendering
