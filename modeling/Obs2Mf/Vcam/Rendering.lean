import Obs2Mf.Foundation.Method
import Obs2Mf.Foundation.Run
import Obs2Mf.Log.Logger
import Obs2Mf.Vcam.FrameGenerator
import Obs2Mf.Vcam.Tools

set_option autoImplicit false

/- The media source's own picture: how `EnsureRenderTarget` makes what it is drawn with,
and how `RenderFallbackNV12` draws it when there is no live frame. -/
namespace Obs2Mf.Vcam.Rendering

open Copies
open Decimal (digits)
open Log (WString wide)
open Method
open Pipe

/-- The calls of Direct2D, DirectWrite and WIC that answer with a status. -/
inductive RenderCall where
  | d2d1CreateFactory
  | createImagingFactory
  | createBitmap
  | createWicBitmapRenderTarget
  | createSolidColorBrush
  | dwriteCreateFactory
  | createTextFormat
  | setParagraphAlignment
  | setTextAlignment
  | createBar
  | createTextLayout
  | endDraw
  | lock
  | getSize
  | getStride
  | getDataPointer
  deriving DecidableEq, Repr

structure Bitmap where
  width : BitVec 32
  height : BitVec 32
  stride : BitVec 32
  size : BitVec 32
  pixels : Nat → Byte

/-- Red, green and blue in hundredths. -/
structure ColorF where
  r : Nat
  g : Nat
  b : Nat
  deriving DecidableEq, Repr

def white : ColorF := ⟨100, 100, 100⟩

/-- What a render target is asked to draw. -/
inductive Command where
  | clear (color : ColorF)
  | fillRectangle (left top right bottom : Int) (brush : ColorF)
  | drawRectangle (left top right bottom : Int) (brush : ColorF)
  | drawTextLayout (text : WString) (maxWidth maxHeight : Nat) (brush : ColorF)
  deriving DecidableEq, Repr

/-- What the components answer during one method: their statuses, the layout and first
pixels of a bitmap that is made, and what drawing leaves of a bitmap's pixels. -/
structure Answers where
  call : RenderCall → HRESULT
  stride : BitVec 32
  size : BitVec 32
  blank : Nat → Byte
  paint : List Command → (Nat → Byte) → Nat → Byte

/-- The generator with the members for its own picture. Bitmaps are numbered as they are
made, and a render target knows the one it draws into. -/
structure Renderer where
  generator : FrameGenerator
  texture : Option Unit
  renderTarget : Option Nat
  whiteBrush : Option Unit
  textFormat : Option Unit
  dwrite : Option Unit
  bitmap : Option Nat
  bitmaps : Nat → Bitmap
  made : Nat

abbrev RenderMethod := Method HRESULT Renderer

/-- `RETURN_IF_FAILED`. -/
def returnIfFailed (hr : HRESULT) : RenderMethod Unit := exitIf hr.failed hr

namespace Renderer

/-- The constructor. -/
def new (pipe : FramePipeClient) (bitmaps : Nat → Bitmap) : Renderer where
  generator := ⟨0, 0, 0, pipe, []⟩
  texture := none
  renderTarget := none
  whiteBrush := none
  textFormat := none
  dwrite := none
  bitmap := none
  bitmaps := bitmaps
  made := 0

def hasD3DManager (r : Renderer) : Bool := r.texture.isSome

def withTarget (target : Option Nat) (r : Renderer) : Renderer := { r with renderTarget := target }

def withBrush (brush : Option Unit) (r : Renderer) : Renderer := { r with whiteBrush := brush }

def withFormat (format : Option Unit) (r : Renderer) : Renderer := { r with textFormat := format }

def withDwrite (dwrite : Option Unit) (r : Renderer) : Renderer := { r with dwrite := dwrite }

def withoutBitmap (r : Renderer) : Renderer := { r with bitmap := none }

def withBitmap (a : Answers) (width height : BitVec 32) (r : Renderer) : Renderer :=
  { r with
    bitmap := some r.made
    bitmaps := fun i =>
      if i = r.made then ⟨width, height, a.stride, a.size, a.blank⟩ else r.bitmaps i
    made := r.made + 1 }

def sized (width height : BitVec 32) (r : Renderer) : Renderer :=
  { r with generator := { r.generator with width := width, height := height } }

/-- `_frame = 0`. -/
def restarted (r : Renderer) : Renderer :=
  { r with generator := { r.generator with frame := 0 } }

/-- `_frame++`. -/
def counted (r : Renderer) : Renderer :=
  { r with generator := { r.generator with frame := r.generator.frame + 1 } }

def received (fetched : Fetched) (r : Renderer) : Renderer :=
  { r with generator :=
    { r.generator with pipe := fetched.client, pipeBuf := fetched.payload } }

def painted (paint : (Nat → Byte) → Nat → Byte) (target : Nat) (r : Renderer) : Renderer :=
  { r with bitmaps := fun i =>
    if i = target then { r.bitmaps i with pixels := paint (r.bitmaps i).pixels } else r.bitmaps i }

/-- `_renderTarget && _textFormat && _dwrite && _whiteBrush`. -/
def ready (r : Renderer) : Bool :=
  r.renderTarget.isSome && r.textFormat.isSome && r.dwrite.isSome && r.whiteBrush.isSome

end Renderer

open Renderer

section Resources

variable {β : Type}

/-- A call that makes an object for a member. The address of the member is taken first,
which resets it. -/
def create (hr : HRESULT) (assign : Option β → Renderer → Renderer) (object : β) :
    RenderMethod Unit := do
  modify (assign none)
  returnIfFailed hr
  modify (assign (some object))

end Resources

def createBitmap (a : Answers) (width height : BitVec 32) : RenderMethod Unit := do
  modify withoutBitmap
  returnIfFailed (a.call .createBitmap)
  modify (withBitmap a width height)

def createRenderTargetResources (a : Answers) (width height : BitVec 32) : RenderMethod Unit := do
  let r ← read
  let _ ← deref r.renderTarget
  create (a.call .createSolidColorBrush) withBrush ()
  create (a.call .dwriteCreateFactory) withDwrite ()
  let r ← read
  let _ ← deref r.dwrite
  create (a.call .createTextFormat) withFormat ()
  let r ← read
  let _ ← deref r.textFormat
  returnIfFailed (a.call .setParagraphAlignment)
  returnIfFailed (a.call .setTextAlignment)
  modify (sized width height)

/-- The branch of `EnsureRenderTarget` without a texture. -/
def createRenderTarget (a : Answers) (width height : BitVec 32) : RenderMethod Unit := do
  returnIfFailed (a.call .d2d1CreateFactory)
  returnIfFailed (a.call .createImagingFactory)
  createBitmap a width height
  let r ← read
  let bitmap ← deref r.bitmap
  create (a.call .createWicBitmapRenderTarget) withTarget bitmap
  createRenderTargetResources a width height

def ensureRenderTarget (a : Answers) (width height : BitVec 32) : RenderMethod Unit := do
  let r ← read
  let _ ← (if r.hasD3DManager then pure () else createRenderTarget a width height)
  modify restarted

/-- Where the moving bar starts. -/
def barLeft (g : FrameGenerator) : Nat :=
  (g.frame * 8#64).toNat % (if g.width ≠ 0#32 then g.width else 1#32).toNat

/-- `OBS2MF\nWaiting for OBS2MF service...\nFrame# %I64u\n%u x %u`. -/
def text (g : FrameGenerator) : WString :=
  wide "OBS2MF\nWaiting for OBS2MF service...\nFrame# " ++ digits g.frame.toNat ++ wide "\n" ++
    digits g.width.toNat ++ wide " x " ++ digits g.height.toNat

/-- What is drawn between `BeginDraw` and `EndDraw`; the bar and the text are left out
where their objects cannot be made. -/
def commands (a : Answers) (g : FrameGenerator) : List Command :=
  [.clear ⟨0, 0, 30⟩] ++
    (if (a.call .createBar).succeeded then
      [.fillRectangle (barLeft g) 0 (barLeft g + 40) g.height.toNat ⟨20, 60, 100⟩] else []) ++
    [.drawRectangle 2 2 (g.width.toNat - 2) (g.height.toNat - 2) white] ++
    (if (a.call .createTextLayout).succeeded then
      [.drawTextLayout (text g) g.width.toNat g.height.toNat white] else [])

/-- The arguments of `RGB32ToNV12`. -/
def conversion (bitmap : Bitmap) (dst : Locked) : Conversion where
  input := some bitmap.pixels
  inputSize := bitmap.size
  inputStride := bitmap.stride
  width := bitmap.width
  height := bitmap.height
  output := some fun i => dst.scanline i
  ouputSize := (BitVec.ofInt 64 dst.pitch * bitmap.height.setWidth 64 * 3#64 / 2#64).setWidth 32
  outputStride := BitVec.ofInt 32 dst.pitch

/-- More rounds than either loop of the conversion has. -/
def fuel (bitmap : Bitmap) : Nat := bitmap.width.toNat + bitmap.height.toNat + 2

/-- The destination once the conversion has written from its first scanline on. -/
def written (dst : Locked) (output : Option (Nat → Byte)) : Int → Byte := fun i =>
  match output with
  | some after => if 0 ≤ i then after i.toNat else dst.scanline i
  | none => dst.scanline i

/-- `RenderFallbackNV12` once the picture is drawn. A conversion that does not end goes
nowhere. -/
def convertBitmap (a : Answers) (dst : Locked) : RenderMethod (Int → Byte) := do
  let r ← read
  let bitmap ← deref r.bitmap
  returnIfFailed (a.call .lock)
  returnIfFailed (a.call .getSize)
  returnIfFailed (a.call .getStride)
  returnIfFailed (a.call .getDataPointer)
  let (hr, output) ← deref
    ((conversion (r.bitmaps bitmap) dst).rgb32ToNV12 (fuel (r.bitmaps bitmap)))
  returnIfFailed hr
  return written dst output

/-- Answers with the destination's bytes. -/
def renderFallbackNV12 (a : Answers) (dst : Locked) : RenderMethod (Int → Byte) := do
  let r ← read
  exitIf (!r.ready) .eFail
  let target ← deref r.renderTarget
  modify (painted (a.paint (commands a r.generator)) target)
  returnIfFailed (a.call .endDraw)
  convertBitmap a dst

/-- What `Generate` hands out: whether it is a live frame, and the sample's bytes. -/
structure Delivered where
  served : Bool
  scanline : Int → Byte

/-- `Lock2DSize` and the calls before it. -/
def locked (lock : Except HRESULT Locked) : RenderMethod Locked := fun r =>
  match lock with
  | .ok dst => .next dst r
  | .error hr => .returned hr r

namespace Renderer

def fetch (r : Renderer) : Fetched := r.generator.pipe.fetch .zero r.generator.pipeBuf

/-- The next fetch gives a frame that is copied. -/
def live (r : Renderer) : Bool :=
  r.fetch.ok && r.generator.accepts r.fetch.hdr r.fetch.payload

end Renderer

/-- The sample's bytes after the row copies, from a payload that `beyond` follows. -/
def copied (beyond : Nat → Byte) (r : Renderer) (dst : Locked) : Int → Byte :=
  applyCopies (FrameGenerator.heapAt r.fetch.payload beyond) dst.scanline
    (r.generator.rowCopies r.fetch.hdr dst.pitch)

def generate (a : Answers) (beyond : Nat → Byte) (lock : Except HRESULT Locked) :
    RenderMethod Delivered := do
  let dst ← locked lock
  let r ← read
  modify (received r.fetch)
  let scanline ← (if r.live then pure (copied beyond r dst) else renderFallbackNV12 a dst)
  modify counted
  return ⟨r.live, scanline⟩

/-- How far an `EnsureRenderTarget` gets with what it makes. -/
inductive Reached where
  | nothing
  | noBitmap
  | part
  | resources
  deriving DecidableEq, Repr

namespace Answers

variable (a : Answers)

/-- The brush, the factory and the format are made. -/
def furnished : Bool :=
  !(a.call .createSolidColorBrush).failed && !(a.call .dwriteCreateFactory).failed &&
    !(a.call .createTextFormat).failed

def reached : Reached :=
  if (a.call .d2d1CreateFactory).failed || (a.call .createImagingFactory).failed then .nothing
  else if (a.call .createBitmap).failed then .noBitmap
  else if (a.call .createWicBitmapRenderTarget).failed || !a.furnished then .part
  else .resources

/-- The text format takes its two alignments. -/
def aligned : Bool :=
  !(a.call .setParagraphAlignment).failed && !(a.call .setTextAlignment).failed

end Answers

namespace Renderer

/-- With what a target draws with. -/
def furnished (r : Renderer) : Renderer :=
  { r with whiteBrush := some (), textFormat := some (), dwrite := some () }

/-- With a new bitmap, a target that draws into it, and what it draws with. -/
def equipped (a : Answers) (width height : BitVec 32) (r : Renderer) : Renderer :=
  ((r.withBitmap a width height).withTarget (some r.made)).furnished

/-- Some of what is drawn with is missing. -/
structure Lacking (before after : Renderer) : Prop where
  unready : after.ready = false
  generator : after.generator = before.generator
  texture : after.texture = before.texture

end Renderer

section Ends

variable {β : Type} {next : Unit → Renderer → Prop} {returned : HRESULT → Renderer → Prop}

theorem ends_returnIfFailed (hr : HRESULT) {r : Renderer} :
    (returnIfFailed hr).Ends r next returned ↔
      (hr.failed = true → returned hr r) ∧ (hr.failed = false → next () r) :=
  ends_exitIf hr.failed hr

theorem ends_create (hr : HRESULT) (assign : Option β → Renderer → Renderer) (object : β)
    {r : Renderer} :
    (create hr assign object).Ends r next returned ↔
      (hr.failed = true → returned hr (assign none r)) ∧
        (hr.failed = false → next () (assign (some object) (assign none r))) := by
  rw [create, ends_bind, ends_modify, ends_bind, ends_returnIfFailed, ends_modify]

theorem ends_createBitmap (a : Answers) (width height : BitVec 32) {r : Renderer} :
    (createBitmap a width height).Ends r next returned ↔
      ((a.call .createBitmap).failed = true → returned (a.call .createBitmap) r.withoutBitmap) ∧
        ((a.call .createBitmap).failed = false → next () (r.withBitmap a width height)) := by
  rw [createBitmap, ends_bind, ends_modify, ends_bind, ends_returnIfFailed, ends_modify]
  rfl

end Ends

section Ensures

variable (a : Answers) (width height : BitVec 32) {r : Renderer}

/-- The call that fails leaves its own member reset. -/
theorem createRenderTargetResources_ends {target : Nat} (made : r.renderTarget = some target) :
    (createRenderTargetResources a width height).Ends r
      (fun _ t => a.furnished = true ∧ a.aligned = true ∧ t = r.furnished.sized width height)
      (fun _ t => a.furnished = false ∧ r.Lacking t ∨
        a.furnished = true ∧ a.aligned = false ∧ t = r.furnished) := by
  unfold Answers.furnished Answers.aligned
  rw [createRenderTargetResources, ends_bind, ends_read, ends_bind, made, ends_deref_some,
    ends_bind, ends_create]
  constructor
  · intro brush
    rw [brush]
    refine .inl ⟨rfl, ?_, rfl, rfl⟩
    simp only [ready, withBrush, Option.isSome_none, Bool.and_false]
  intro brush
  rw [brush, ends_bind, ends_create]
  constructor
  · intro dwrite
    rw [dwrite]
    refine .inl ⟨rfl, ?_, rfl, rfl⟩
    simp only [ready, withDwrite, Option.isSome_none, Bool.and_false, Bool.false_and]
  intro dwrite
  rw [dwrite, ends_bind, ends_read, ends_bind]
  simp only [withDwrite, ends_deref_some]
  rw [ends_bind, ends_create]
  constructor
  · intro format
    rw [format]
    refine .inl ⟨rfl, ?_, rfl, rfl⟩
    simp only [ready, withFormat, Option.isSome_none, Bool.and_false, Bool.false_and]
  intro format
  rw [format, ends_bind, ends_read, ends_bind]
  simp only [withFormat, ends_deref_some]
  rw [ends_bind, ends_returnIfFailed]
  constructor
  · intro paragraph
    rw [paragraph]
    exact .inr ⟨rfl, rfl, rfl⟩
  intro paragraph
  rw [paragraph, ends_bind, ends_returnIfFailed]
  constructor
  · intro text
    rw [text]
    exact .inr ⟨rfl, rfl, rfl⟩
  · intro text
    rw [text, ends_modify]
    exact ⟨rfl, rfl, rfl⟩

theorem ready_withTarget_none (r : Renderer) : (r.withTarget none).ready = false := rfl

/-- What `EnsureRenderTarget` does, by how far it gets. -/
theorem ensureRenderTarget_ends (cpu : r.texture = none) :
    (ensureRenderTarget a width height).Ends r
      (fun _ t => a.reached = .resources ∧ a.aligned = true ∧
        t = ((r.equipped a width height).sized width height).restarted)
      (fun _ t => a.reached = .nothing ∧ t = r ∨ a.reached = .noBitmap ∧ t = r.withoutBitmap ∨
        a.reached = .part ∧ r.Lacking t ∨
        a.reached = .resources ∧ a.aligned = false ∧ t = r.equipped a width height) := by
  unfold Answers.reached
  have texture : r.hasD3DManager = false := by
    rw [hasD3DManager, cpu]
    rfl
  rw [ensureRenderTarget, ends_bind, ends_read, ends_bind, texture, if_neg Bool.false_ne_true,
    createRenderTarget, ends_bind, ends_returnIfFailed]
  constructor
  · intro factory
    rw [factory]
    exact .inl ⟨rfl, rfl⟩
  intro factory
  rw [factory, ends_bind, ends_returnIfFailed]
  constructor
  · intro imaging
    rw [imaging]
    exact .inl ⟨rfl, rfl⟩
  intro imaging
  rw [imaging, ends_bind, ends_createBitmap]
  constructor
  · intro bitmap
    rw [bitmap]
    exact .inr (.inl ⟨rfl, rfl⟩)
  intro bitmap
  rw [bitmap, ends_bind, ends_read, ends_bind]
  simp only [withBitmap, ends_deref_some]
  rw [ends_bind, ends_create]
  constructor
  · intro target
    rw [target]
    exact .inr (.inr (.inl ⟨rfl, ready_withTarget_none _, rfl, rfl⟩))
  intro target
  rw [target]
  apply (createRenderTargetResources_ends a width height rfl).mono
  · rintro _ _ ⟨furnished, aligned, rfl⟩
    rw [furnished, ends_modify]
    exact ⟨rfl, aligned, rfl⟩
  · rintro _ t (⟨unfurnished, lacking⟩ | ⟨furnished, misaligned, rfl⟩)
    · rw [unfurnished]
      exact .inr (.inr (.inl ⟨rfl, lacking.unready, lacking.generator, lacking.texture⟩))
    · rw [furnished]
      exact .inr (.inr (.inr ⟨rfl, misaligned, rfl⟩))

end Ensures

/-- A picture that has lines is converted in that many rounds, well or badly. -/
theorem rgb32ToNV12_ends (bitmap : Bitmap) (dst : Locked) (tall : bitmap.height ≠ 0#32)
    (narrow : bitmap.width.toNat < 2 ^ 31) :
    ∃ result, (conversion bitmap dst).rgb32ToNV12 (fuel bitmap) = some result := by
  have blocks := (conversion bitmap dst).blocks_eq (fuel bitmap) tall narrow
    (show (bitmap.width.toNat + 1) / 2 < fuel bitmap by rw [fuel]; omega)
    (show bitmap.height.toNat / 2 < fuel bitmap by rw [fuel]; omega)
  unfold Conversion.rgb32ToNV12
  rw [blocks]
  dsimp only [conversion]
  by_cases input : (conversion bitmap dst).inputTooSmall = true
  · exact ⟨_, if_pos input⟩
  · by_cases output : (conversion bitmap dst).outputTooSmall = true
    · exact ⟨_, (if_neg input).trans (if_pos output)⟩
    · exact ⟨_, (if_neg input).trans (if_neg output)⟩

namespace Renderer

/-- The target's bitmap after a drawing. -/
def drawn (a : Answers) (target : Nat) (r : Renderer) : Renderer :=
  r.painted (a.paint (commands a r.generator)) target

end Renderer

section Fallback

variable (a : Answers) (dst : Locked) {r : Renderer} {next : (Int → Byte) → Renderer → Prop}
  {returned : HRESULT → Renderer → Prop}

theorem convertBitmap_crashes (lost : r.bitmap = none) :
    (convertBitmap a dst).run r = .crashed := by
  rw [convertBitmap, run_bind, run_read]
  dsimp only
  apply run_bind_crashed
  rw [lost]
  rfl

/-- What the conversion needs of the bitmap's lock. -/
def reading : List RenderCall := [.lock, .getSize, .getStride, .getDataPointer]

/-- A bitmap that has lines is read, and nothing else changes. -/
theorem convertBitmap_ends {bitmap : Nat} (here : r.bitmap = some bitmap)
    (tall : (r.bitmaps bitmap).height ≠ 0#32) (narrow : (r.bitmaps bitmap).width.toNat < 2 ^ 31) :
    (convertBitmap a dst).Ends r
      (fun scanline t => t = r ∧ ∃ hr output, hr.failed = false ∧
        (conversion (r.bitmaps bitmap) dst).rgb32ToNV12 (fuel (r.bitmaps bitmap)) =
          some (hr, output) ∧ scanline = written dst output)
      (fun hr t => t = r ∧ hr.failed = true ∧ ((∃ call ∈ reading, a.call call = hr) ∨
        ∃ output, (conversion (r.bitmaps bitmap) dst).rgb32ToNV12 (fuel (r.bitmaps bitmap)) =
          some (hr, output))) := by
  obtain ⟨⟨hr, output⟩, ends⟩ := rgb32ToNV12_ends (r.bitmaps bitmap) dst tall narrow
  rw [convertBitmap, ends_bind, ends_read, ends_bind, here, ends_deref_some]
  rw [ends_bind, ends_returnIfFailed]
  refine ⟨fun failed => ⟨rfl, failed, .inl ⟨.lock, by decide, rfl⟩⟩, fun _ => ?_⟩
  rw [ends_bind, ends_returnIfFailed]
  refine ⟨fun failed => ⟨rfl, failed, .inl ⟨.getSize, by decide, rfl⟩⟩, fun _ => ?_⟩
  rw [ends_bind, ends_returnIfFailed]
  refine ⟨fun failed => ⟨rfl, failed, .inl ⟨.getStride, by decide, rfl⟩⟩, fun _ => ?_⟩
  rw [ends_bind, ends_returnIfFailed]
  refine ⟨fun failed => ⟨rfl, failed, .inl ⟨.getDataPointer, by decide, rfl⟩⟩, fun _ => ?_⟩
  rw [ends_bind, ends, ends_deref_some]
  dsimp only
  rw [ends_bind, ends_returnIfFailed]
  refine ⟨fun failed => ⟨rfl, failed, .inr ⟨output, rfl⟩⟩, fun succeeded => ?_⟩
  rw [ends_pure]
  exact ⟨rfl, hr, output, succeeded, rfl, rfl⟩

theorem fallback_unready (unready : r.ready = false) :
    (renderFallbackNV12 a dst).run r = .returned .eFail r := by
  rw [renderFallbackNV12, run_bind, run_read]
  dsimp only
  rw [run_bind, run_exitIf, unready]
  rfl

theorem fallback_ready {target : Nat} (ready : r.ready = true)
    (made : r.renderTarget = some target) :
    (renderFallbackNV12 a dst).run r =
      if (a.call .endDraw).failed then .returned (a.call .endDraw) (r.drawn a target)
      else (convertBitmap a dst).run (r.drawn a target) := by
  rw [renderFallbackNV12, run_bind, run_read]
  dsimp only
  rw [run_bind, run_exitIf, ready, Bool.not_true, if_neg Bool.false_ne_true, made]
  change (returnIfFailed _ >>= fun _ => convertBitmap a dst).run (r.drawn a target) = _
  rw [run_bind, returnIfFailed, run_exitIf]
  cases (a.call .endDraw).failed <;> rfl

theorem ends_fallback_ready {target : Nat} (ready : r.ready = true)
    (made : r.renderTarget = some target) :
    (renderFallbackNV12 a dst).Ends r next returned ↔
      ((a.call .endDraw).failed = true → returned (a.call .endDraw) (r.drawn a target)) ∧
        ((a.call .endDraw).failed = false →
          (convertBitmap a dst).Ends (r.drawn a target) next returned) := by
  rw [Ends, Ends, fallback_ready a dst ready made]
  cases (a.call .endDraw).failed
  · exact ⟨fun ends => ⟨fun failed => absurd failed Bool.false_ne_true, fun _ => ends⟩,
      fun ends => ends.2 rfl⟩
  · exact ⟨fun ends => ⟨fun _ => ends, fun ended => absurd ended.symm Bool.false_ne_true⟩,
      fun ends => ends.1 rfl⟩

theorem target_of_ready (ready : r.ready = true) : ∃ target, r.renderTarget = some target := by
  simp only [Renderer.ready, Bool.and_eq_true] at ready
  exact Option.isSome_iff_exists.mp ready.1.1.1

end Fallback

section Generates

variable (a : Answers) (beyond : Nat → Byte) (dst : Locked) {r : Renderer}

theorem generate_unlocked (hr : HRESULT) :
    (generate a beyond (.error hr)).run r = .returned hr r := rfl

theorem generate_live (live : r.live = true) :
    (generate a beyond (.ok dst)).run r =
      .next ⟨true, copied beyond r dst⟩ (r.received r.fetch).counted := by
  change ((if r.live then pure (copied beyond r dst) else renderFallbackNV12 a dst) >>=
    fun scanline => modify counted >>= fun _ => pure (⟨r.live, scanline⟩ : Delivered)).run
      (r.received r.fetch) = _
  rw [live]
  rfl

theorem generate_waiting (waiting : r.live = false) :
    (generate a beyond (.ok dst)).run r =
      match (renderFallbackNV12 a dst).run (r.received r.fetch) with
      | .next scanline t => .next ⟨false, scanline⟩ t.counted
      | .returned hr t => .returned hr t
      | .crashed => .crashed := by
  change ((if r.live then pure (copied beyond r dst) else renderFallbackNV12 a dst) >>=
    fun scanline => modify counted >>= fun _ => pure (⟨r.live, scanline⟩ : Delivered)).run
      (r.received r.fetch) = _
  rw [waiting, if_neg Bool.false_ne_true, run_bind]
  cases (renderFallbackNV12 a dst).run (r.received r.fetch) <;> rfl

theorem ends_generate_waiting (waiting : r.live = false) {next : Delivered → Renderer → Prop}
    {returned : HRESULT → Renderer → Prop} :
    (generate a beyond (.ok dst)).Ends r next returned ↔
      (renderFallbackNV12 a dst).Ends (r.received r.fetch)
        (fun scanline t => next ⟨false, scanline⟩ t.counted) returned := by
  rw [Ends, Ends, generate_waiting a beyond dst waiting]
  cases (renderFallbackNV12 a dst).run (r.received r.fetch) <;> rfl

end Generates

section Refinement

variable (a : Answers) (dst : Locked) {r : Renderer}

/-- Whatever the picture comes to, the generator's own members stay, and a status that is
returned is a failure. -/
def Keeps {β : Type} (r : Renderer) : Outcome HRESULT Renderer β → Prop
  | .next _ t => t.generator = r.generator
  | .returned hr t => hr.failed = true ∧ t.generator = r.generator
  | .crashed => True

theorem convertBitmap_keeps : Keeps r ((convertBitmap a dst).run r) := by
  have exits {β : Type} (hr : HRESULT) (rest : RenderMethod β) (kept : Keeps r (rest.run r)) :
      Keeps r ((returnIfFailed hr >>= fun _ => rest).run r) := by
    rw [run_bind, returnIfFailed, run_exitIf]
    cases failed : hr.failed with
    | true => exact ⟨failed, rfl⟩
    | false => exact kept
  cases here : r.bitmap with
  | none =>
      rw [convertBitmap_crashes a dst here]
      trivial
  | some bitmap =>
      rw [convertBitmap, run_bind, run_read]
      dsimp only
      rw [run_bind, run_deref, here]
      refine exits _ _ (exits _ _ (exits _ _ (exits _ _ ?_)))
      rw [run_bind, run_deref]
      cases (conversion (r.bitmaps bitmap) dst).rgb32ToNV12 (fuel (r.bitmaps bitmap)) with
      | none => trivial
      | some result => exact exits _ _ rfl

theorem fallback_keeps : Keeps r ((renderFallbackNV12 a dst).run r) := by
  cases ready : r.ready with
  | false =>
      rw [fallback_unready a dst ready]
      exact ⟨rfl, rfl⟩
  | true =>
      obtain ⟨target, made⟩ := target_of_ready ready
      rw [fallback_ready a dst ready made]
      cases failed : (a.call .endDraw).failed with
      | true => exact ⟨failed, rfl⟩
      | false => exact convertBitmap_keeps a dst

/-- The picture, as `FrameGenerator.generate` asks for it: a status, and the bytes. -/
def fallback (r : Renderer) (g : FrameGenerator) (dst : Locked) : HRESULT × (Int → Byte) :=
  match (renderFallbackNV12 a dst).run { r with generator := g } with
  | .next scanline _ => (.sOk, scanline)
  | .returned hr _ => (hr, dst.scanline)
  | .crashed => (.eFail, dst.scanline)

/-- What a request comes to, by what `FrameGenerator.generate` says of it. -/
def Told (shot : Generated) : Outcome HRESULT Renderer Delivered → Prop
  | .next sample t => shot.hr = .sOk ∧ shot.served = sample.served ∧
      shot.generator = t.generator ∧ shot.scanline = sample.scanline
  | .returned hr t => shot.hr = hr ∧ shot.served = false ∧ shot.generator = t.generator
  | .crashed => shot.served = false

/-- `Generate` with its picture is the one that copies live frames, its fallback filled in. -/
theorem generate_refines (beyond : Nat → Byte) (lock : Except HRESULT Locked) :
    Told (r.generator.generate (fallback a r) beyond lock) ((generate a beyond lock).run r) := by
  cases lock with
  | error hr => exact ⟨rfl, rfl, rfl⟩
  | ok dst =>
      cases live : r.live with
      | true =>
          have served : r.generator.generate (fallback a r) beyond (.ok dst) =
              ⟨.sOk, true, (r.received r.fetch).counted.generator,
                r.generator.rowCopies r.fetch.hdr dst.pitch, copied beyond r dst⟩ := if_pos live
          rw [generate_live a beyond dst live, served]
          exact ⟨rfl, rfl, rfl, rfl⟩
      | false =>
          have waiting : ¬ r.live = true := by
            rw [live]
            exact Bool.false_ne_true
          have drawn : r.generator.generate (fallback a r) beyond (.ok dst) =
              let shown := fallback a r (r.received r.fetch).generator dst
              ⟨shown.1, false, { (r.received r.fetch).generator with
                frame :=
                  if shown.1.succeeded then r.generator.frame + 1 else r.generator.frame }, [],
                shown.2⟩ := if_neg waiting
          have keeps := fallback_keeps a dst (r := r.received r.fetch)
          have same : fallback a r (r.received r.fetch).generator dst =
              match (renderFallbackNV12 a dst).run (r.received r.fetch) with
              | .next scanline _ => (.sOk, scanline)
              | .returned hr _ => (hr, dst.scanline)
              | .crashed => (.eFail, dst.scanline) := rfl
          rw [generate_waiting a beyond dst live, drawn, same]
          cases outcome : (renderFallbackNV12 a dst).run (r.received r.fetch) with
          | next scanline t =>
              rw [outcome] at keeps
              have kept : t.generator = (r.received r.fetch).generator := keeps
              refine ⟨rfl, rfl, ?_, rfl⟩
              simp only [counted, kept]
              rfl
          | returned hr t =>
              rw [outcome] at keeps
              obtain ⟨failed, kept⟩ : hr.failed = true ∧
                t.generator = (r.received r.fetch).generator := keeps
              have unsuccessful : hr.succeeded = false := by
                simpa [HRESULT.failed] using failed
              refine ⟨rfl, rfl, ?_⟩
              simp only [unsuccessful, kept]
              rfl
          | crashed => rfl

end Refinement

end Obs2Mf.Vcam.Rendering
