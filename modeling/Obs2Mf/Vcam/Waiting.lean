import Obs2Mf.Vcam.ConverterPicture
import Obs2Mf.Vcam.RenderingRuns

set_option autoImplicit false

/- The picture that stands in for a live frame, from the numbers on it to the bytes of
the sample. -/
namespace Obs2Mf.Vcam.Rendering

open Decimal (digits)
open Log (wide)
open Method
open Pipe
open Renderer
open Run
open Stores

/-- The text always ends inside `text[256]`, with room for its null. -/
theorem text_length_lt (g : FrameGenerator) : (text g).length < 256 := by
  have frame : (digits g.frame.toNat).length ≤ 20 :=
    (Decimal.digits_length_le (by decide)).mpr (Nat.lt_of_lt_of_le g.frame.isLt (by decide))
  have side (n : BitVec 32) : (digits n.toNat).length ≤ 10 :=
    (Decimal.digits_length_le (by decide)).mpr (Nat.lt_of_lt_of_le n.isLt (by decide))
  have width := side g.width
  have height := side g.height
  have heading : (wide "OBS2MF\nWaiting for OBS2MF service...\nFrame# ").length = 44 := by decide
  have newline : (wide "\n").length = 1 := by decide
  have times : (wide " x ").length = 3 := by decide
  simp only [text, List.length_append]
  omega

/-- What is drawn for the sample with `n` samples before it, `n` below `2^64`. -/
def waitingPicture (a : Answers) (n : Nat) : List Command :=
  [.clear ⟨0, 0, 30⟩] ++
    (if (a.call .createBar).succeeded then
      let left : Nat := n * 8 % 2 ^ 64 % 1280
      [.fillRectangle left 0 (left + 40) 720 ⟨20, 60, 100⟩] else []) ++
    [.drawRectangle 2 2 1278 718 white] ++
    (if (a.call .createTextLayout).succeeded then
      [.drawTextLayout (wide "OBS2MF\nWaiting for OBS2MF service...\nFrame# " ++ digits n ++
        wide "\n1280 x 720") 1280 720 white] else [])

theorem commands_eq (a : Answers) {g : FrameGenerator} (width : g.width = numImageCols)
    (height : g.height = numImageRows) : commands a g = waitingPicture a g.frame.toNat := by
  have left : barLeft g = g.frame.toNat * 8 % 2 ^ 64 % 1280 := by
    rw [barLeft, width, BitVec.toNat_mul]
    rfl
  have size : wide "\n" ++ digits numImageCols.toNat ++ wide " x " ++ digits numImageRows.toNat =
      wide "\n1280 x 720" := by decide
  have words : text g = wide "OBS2MF\nWaiting for OBS2MF service...\nFrame# " ++
      digits g.frame.toNat ++ wide "\n1280 x 720" := by
    rw [text, width, height, ← size]
    simp only [List.append_assoc]
  rw [commands, waitingPicture, left, words, width, height]
  rfl

/-- The bitmap's layout holds a picture of the stream's size. -/
structure Answers.Fits (e : Answers) : Prop where
  rows : 5120 ≤ e.stride.toNat
  size : e.stride.toNat * 720 ≤ e.size.toNat
  long : e.stride.toNat * 720 < 2 ^ 31

/-- So does the sample's buffer. -/
structure Fitting (dst : Locked) : Prop where
  rows : 1280 ≤ dst.pitch
  long : dst.pitch * 1080 < 2 ^ 31

theorem Fitting.pitch_toNat {dst : Locked} (fitting : Fitting dst) (w : Nat) (wide : 31 ≤ w) :
    (BitVec.ofInt w dst.pitch).toNat = dst.pitch.toNat := by
  have rows := fitting.rows
  have long := fitting.long
  have most : 2 ^ 31 ≤ 2 ^ w := Nat.pow_le_pow_right (by decide) wide
  rw [BitVec.toNat_ofInt, Int.emod_eq_of_lt (by omega)]
  omega

theorem ouputSize_toNat {dst : Locked} (fitting : Fitting dst) :
    ((BitVec.ofInt 64 dst.pitch * numImageRows.setWidth 64 * 3#64 / 2#64).setWidth 32).toNat =
      dst.pitch.toNat * 1080 := by
  have long := fitting.long
  have rows : (numImageRows.setWidth 64).toNat = 720 := by decide
  rw [BitVec.toNat_setWidth, BitVec.toNat_udiv, BitVec.toNat_mul, BitVec.toNat_mul, rows,
    fitting.pitch_toNat 64 (by decide)]
  simp only [BitVec.toNat_ofNat, Nat.reducePow, Nat.reduceMod]
  omega

theorem counts_conversion {e : Answers} (fits : e.Fits) {bitmap : Bitmap} {dst : Locked}
    (width : bitmap.width = numImageCols) (height : bitmap.height = numImageRows)
    (stride : bitmap.stride = e.stride) (size : bitmap.size = e.size) (fitting : Fitting dst) :
    (conversion bitmap dst).Counts := by
  have rows := fitting.rows
  have long := fitting.long
  have columns : (conversion bitmap dst).width.toNat = 1280 := by
    rw [conversion, width]
    rfl
  have lines : (conversion bitmap dst).height.toNat = 720 := by
    rw [conversion, height]
    rfl
  have blockColumns : (conversion bitmap dst).blockColumns = 640 := by
    rw [Conversion.blockColumns, columns]
  have blockRows : (conversion bitmap dst).blockRows = 360 := by
    rw [Conversion.blockRows, lines]
  have inputStride : (conversion bitmap dst).inputStride = e.stride := stride
  have inputSize : (conversion bitmap dst).inputSize = e.size := size
  have outputStride : (conversion bitmap dst).outputStride.toNat = dst.pitch.toNat :=
    fitting.pitch_toNat 32 (by decide)
  have ouputSize : (conversion bitmap dst).ouputSize.toNat = dst.pitch.toNat * 1080 := by
    rw [conversion, height]
    exact ouputSize_toNat fitting
  obtain ⟨wideRows, enough, below⟩ := fits
  constructor
  · rw [blockRows]
    decide
  · rw [columns, blockColumns]
  · rw [lines, blockRows]
  · have least : 4 * (conversion bitmap dst).width.toNat = 5120 := by rw [columns]
    rw [least, inputStride]
    exact wideRows
  · omega
  · rw [blockRows, inputStride, inputSize]
    omega
  · rw [blockRows, outputStride, ouputSize]
    omega
  · rw [blockRows, inputStride]
    omega
  · rw [blockRows, outputStride]
    omega

/-- The sample has the picture in rows of the pitch, and around it what it had before. -/
structure Displays (dst : Locked) (picture : Nv12.Picture Byte) (scanline : Int → Byte) :
    Prop where
  shows : Nv12.Shows dst.pitch.toNat 1280 720 picture fun i => scanline i
  around : ∀ i : Int, (∀ j : Nat, i = j → ¬Nv12.Sample dst.pitch.toNat 1280 720 j) →
    scanline i = dst.scanline i

section Conversions

variable {e : Answers} {bitmap : Bitmap} {dst : Locked}

theorem written_displays (fits : e.Fits) (width : bitmap.width = numImageCols)
    (height : bitmap.height = numImageRows) (stride : bitmap.stride = e.stride)
    (size : bitmap.size = e.size) (fitting : Fitting dst) :
    ∃ output, (conversion bitmap dst).rgb32ToNV12 (fuel bitmap) = some (.sOk, output) ∧
      Displays dst (converted bitmap.pixels e.stride.toNat) (written dst output) := by
  have counts := counts_conversion fits width height stride size fitting
  have columns : (conversion bitmap dst).width.toNat = 1280 := by
    rw [conversion, width]
    rfl
  have lines : (conversion bitmap dst).height.toNat = 720 := by
    rw [conversion, height]
    rfl
  have source : converted bitmap.pixels (conversion bitmap dst).inputStride.toNat =
      converted bitmap.pixels e.stride.toNat := by
    rw [conversion, stride]
  have pitch : (conversion bitmap dst).outputStride.toNat = dst.pitch.toNat :=
    fitting.pitch_toNat 32 (by decide)
  have rounds : (conversion bitmap dst).blockColumns < fuel bitmap ∧
      (conversion bitmap dst).blockRows < fuel bitmap := by
    have wide := counts.columns
    have tall := counts.lines
    have enough : fuel bitmap = 2002 := by
      rw [fuel, width, height]
      rfl
    omega
  have ends := Conversion.rgb32ToNV12_eq counts bitmap.pixels (fun i => dst.scanline i) rfl rfl
    (fuel bitmap) rounds.1 rounds.2
  refine ⟨_, ends, ?_, ?_⟩
  · have shows := Nv12.applyStores_shows
      (converted bitmap.pixels (conversion bitmap dst).inputStride.toNat)
      (fun i => dst.scanline i) _ counts.outputStride
      (agree_nested _ _ _ _ fun row column below right =>
        Conversion.lasting_agree counts bitmap.pixels below right)
      (fun x y right below => Conversion.luma_stored counts bitmap.pixels right below)
      (fun cx cy part right below pair =>
        Conversion.chroma_stored counts bitmap.pixels right below pair)
    rw [columns, lines, source, pitch] at shows
    exact shows
  · intro i outside
    unfold written
    dsimp only
    split
    · rename_i least
      obtain ⟨j, rfl⟩ := Int.eq_ofNat_of_zero_le least
      apply applyStores_frame
      intro store member here
      have sample := Conversion.sample_stored counts bitmap.pixels member
      rw [columns, lines, pitch, here] at sample
      exact outside j rfl sample
    · rfl

theorem convertBitmap_displays (a : Answers) {r : Renderer} {i : Nat} (fits : e.Fits)
    (here : r.bitmap = some i) (sized : r.Sized i)
    (layout : (r.bitmaps i).stride = e.stride ∧ (r.bitmaps i).size = e.size)
    (fitting : Fitting dst) :
    (convertBitmap a dst).Ends r
      (fun scanline t => t = r ∧
        Displays dst (converted (r.bitmaps i).pixels e.stride.toNat) scanline)
      (fun hr t => t = r ∧ hr.failed = true ∧ ∃ call ∈ reading, a.call call = hr) := by
  obtain ⟨output, ends, displays⟩ :=
    written_displays fits sized.1 sized.2 layout.1 layout.2 fitting
  obtain ⟨tall, narrow⟩ := tall_and_narrow sized
  apply (convertBitmap_ends a dst here tall narrow).mono
  · rintro _ t ⟨same, hr, written, _, converted, rfl⟩
    rw [ends] at converted
    cases converted
    exact ⟨same, displays⟩
  · rintro hr t ⟨same, failed, read | ⟨written, converted⟩⟩
    · exact ⟨same, failed, read⟩
    · rw [ends] at converted
      cases converted
      cases failed

end Conversions

/-- The request hands out a sample. -/
def delivers (r : Renderer) : Action → Bool
  | .ensureRenderTarget _ => false
  | .generate a beyond lock =>
      match (generate a beyond lock).run r with
      | .next _ _ => true
      | .returned _ _ => false
      | .crashed => false

/-- The samples a run hands out. -/
def samples : Renderer → List Action → Nat
  | _, [] => 0
  | r, action :: rest =>
      (delivers r action).toNat + (perform r action).elim 0 fun t => samples t rest

/-- All is made, in the layout that `e` answered, and `n` samples have been counted. -/
structure Numbered (e : Answers) (n : Nat) (r : Renderer) : Prop where
  held : r.Held .whole
  width : r.generator.width = numImageCols
  height : r.generator.height = numImageRows
  frame : r.generator.frame = BitVec.ofNat 64 n
  layout : ∀ i, r.bitmap = some i → (r.bitmaps i).stride = e.stride ∧ (r.bitmaps i).size = e.size

section Numbers

variable {e : Answers} {n : Nat} {r t : Renderer}

theorem numbered_restarted (cpu : r.texture = none) :
    Numbered e 0 ((r.equipped e numImageCols numImageRows).sized numImageCols
      numImageRows).restarted := by
  refine ⟨(held_equipped e cpu).alike (alike_of_bitmaps rfl rfl rfl rfl rfl), rfl, rfl, rfl, ?_⟩
  rintro i here
  cases here
  have made : ((r.equipped e numImageCols numImageRows).sized numImageCols
      numImageRows).restarted.bitmaps r.made =
      ⟨numImageCols, numImageRows, e.stride, e.size, e.blank⟩ := if_pos rfl
  rw [made]
  exact ⟨rfl, rfl⟩

theorem Numbered.alike (numbered : Numbered e n r) (alike : Alike r t) {b : Bool}
    (counts : Counts (BitVec.ofNat 64 b.toNat) r t) : Numbered e (n + b.toNat) t := by
  refine ⟨numbered.held.alike alike, counts.width.trans numbered.width,
    counts.height.trans numbered.height, ?_, fun i here => ?_⟩
  · rw [counts.frame, numbered.frame, BitVec.ofNat_add]
  · obtain ⟨_, same⟩ := alike.layout i
    rw [same]
    exact numbered.layout i (alike.bitmap.symm.trans here)

/-- A request counts the sample it hands out. -/
theorem numbered_step (a : Answers) (beyond : Nat → Byte) (lock : Except HRESULT Locked)
    (numbered : Numbered e n r) (performed : perform r (.generate a beyond lock) = some t) :
    Numbered e (n + (delivers r (.generate a beyond lock)).toNat) t := by
  have ends := generate_ends a beyond lock numbered.held fun broken => by cases broken
  rcases ends.cases performed with ⟨_, out, alike, counts⟩ | ⟨_, out, alike, counts⟩
  · rw [delivers, out]
    exact numbered.alike alike (b := true) counts
  · rw [delivers, out]
    exact numbered.alike alike (b := false) counts

theorem numbered_run (requests : List Action)
    (only : ∀ action ∈ requests, ∃ a beyond lock, action = .generate a beyond lock)
    (numbered : Numbered e n r) (ran : run perform r requests = some t) :
    Numbered e (n + samples r requests) t := by
  induction requests generalizing n r with
  | nil =>
      cases ran
      exact numbered
  | cons action rest ih =>
      obtain ⟨u, performed, later⟩ := Option.bind_eq_some_iff.mp ran
      obtain ⟨a, beyond, lock, rfl⟩ := only action List.mem_cons_self
      have next := numbered_step a beyond lock numbered performed
      have all := ih (fun action member => only action (List.mem_cons_of_mem _ member)) next later
      rw [samples, performed, ← Nat.add_assoc]
      exact all

/-- An `EnsureRenderTarget` that succeeds starts the numbers again. -/
theorem numbered_ensured {pipe : FramePipeClient} {bitmaps : Nat → Bitmap} {before : List Action}
    (made : e.reached = .resources) (aligned : e.aligned = true)
    (ran : run perform (new pipe bitmaps) (before ++ [.ensureRenderTarget e]) = some t) :
    Numbered e 0 t := by
  rw [run_append] at ran
  obtain ⟨u, first, last⟩ := Option.bind_eq_some_iff.mp ran
  rw [run_cons] at last
  obtain ⟨v, performed, same⟩ := Option.bind_eq_some_iff.mp last
  cases same
  obtain ⟨s, held⟩ := run_held before (held_new pipe bitmaps) first
  have ends := ensureRenderTarget_ends e numImageCols numImageRows held.cpu
  rcases ends.cases performed with ⟨_, _, _, _, rfl⟩ |
    ⟨_, _, ⟨other, _⟩ | ⟨other, _⟩ | ⟨other, _⟩ | ⟨_, other, _⟩⟩
  · exact numbered_restarted held.cpu
  · exact absurd (made.symm.trans other) (by decide)
  · exact absurd (made.symm.trans other) (by decide)
  · exact absurd (made.symm.trans other) (by decide)
  · exact absurd (aligned.symm.trans other) (by decide)

/-- A request without a live frame draws the picture with its number and converts that. -/
theorem Numbered.displays (a : Answers) (beyond : Nat → Byte) {dst : Locked}
    (numbered : Numbered e n r) (fits : e.Fits) (fitting : Fitting dst)
    (waiting : r.live = false) :
    (generate a beyond (.ok dst)).Ends r
      (fun sample _ => sample.served = false ∧ ∃ pixels,
        Displays dst (converted (a.paint (waitingPicture a (n % 2 ^ 64)) pixels) e.stride.toNat)
          sample.scanline)
      (fun hr _ => hr.failed = true ∧ ∃ call ∈ .endDraw :: reading, a.call call = hr) := by
  have still (u : Renderer) : u.generator.frame = u.generator.frame + 0 := (BitVec.add_zero _).symm
  have fetched : Numbered e n (r.received r.fetch) :=
    numbered.alike (alike_received r.fetch r) (b := false) ⟨rfl, rfl, still _⟩
  obtain ⟨ready, i, here, target, sized⟩ := fetched.held.is
  have drawing : commands a (r.received r.fetch).generator = waitingPicture a (n % 2 ^ 64) := by
    rw [commands_eq a fetched.width fetched.height, fetched.frame, BitVec.toNat_ofNat]
  have drawn : Numbered e n ((r.received r.fetch).drawn a i) :=
    fetched.alike (alike_drawn a i _) (b := false) ⟨rfl, rfl, still _⟩
  have pixels : (((r.received r.fetch).drawn a i).bitmaps i).pixels =
      a.paint (waitingPicture a (n % 2 ^ 64)) ((r.received r.fetch).bitmaps i).pixels := by
    rw [Renderer.drawn, painted, drawing]
    dsimp only
    rw [if_pos rfl]
  obtain ⟨_, j, same, _, kept⟩ := drawn.held.is
  have target_bitmap : i = j := Option.some.inj (here.symm.trans same)
  subst target_bitmap
  rw [ends_generate_waiting a beyond dst waiting, ends_fallback_ready a dst ready target]
  refine ⟨fun failed => ⟨failed, .endDraw, List.mem_cons_self, rfl⟩, fun _ => ?_⟩
  apply (convertBitmap_displays a fits same kept (drawn.layout i same) fitting).mono
  · rintro _ _ ⟨_, displays⟩
    rw [pixels] at displays
    exact ⟨rfl, _, displays⟩
  · rintro hr _ ⟨_, failed, call, member, answered⟩
    exact ⟨failed, call, List.mem_cons_of_mem _ member, answered⟩

end Numbers

/-- After an `EnsureRenderTarget` that succeeds, each sample requested without a live frame
shows the picture drawn for it, which has the number of samples handed out since then, or
the request fails with the status of the drawing or of the bitmap's lock. -/
theorem waiting_shows (pipe : FramePipeClient) (bitmaps : Nat → Bitmap)
    (before requests : List Action) (e a : Answers) (beyond : Nat → Byte) (dst : Locked)
    (start r : Renderer)
    (restarted : run perform (new pipe bitmaps) (before ++ [.ensureRenderTarget e]) = some start)
    (made : e.reached = .resources) (aligned : e.aligned = true) (fits : e.Fits)
    (only : ∀ action ∈ requests, ∃ a beyond lock, action = .generate a beyond lock)
    (ran : run perform start requests = some r) (waiting : r.live = false)
    (fitting : Fitting dst) :
    (generate a beyond (.ok dst)).Ends r
      (fun sample _ => sample.served = false ∧ ∃ pixels,
        Displays dst (converted (a.paint (waitingPicture a (samples start requests % 2 ^ 64))
          pixels) e.stride.toNat) sample.scanline)
      (fun hr _ => hr.failed = true ∧ ∃ call ∈ .endDraw :: reading, a.call call = hr) := by
  have numbered := numbered_run requests only (numbered_ensured made aligned restarted) ran
  rw [Nat.zero_add] at numbered
  exact numbered.displays a beyond fits fitting waiting

/-- A level of colour in hundredths, as a byte of a pixel. -/
def level (hundredths : Nat) : Byte := .ofNat (hundredths * 255 / 100)

/-- Pixels of one colour. -/
def plain (color : ColorF) (i : Nat) : Byte :=
  [level color.b, level color.g, level color.r, 255].getD (i % 4) 0

/-- Every call succeeds, bitmaps are packed, and of a drawing only `Clear` is seen. -/
def smooth : Answers where
  call _ := .sOk
  stride := 5120#32
  size := 3686400#32
  blank _ := 0
  paint
    | .clear color :: _, _ => plain color
    | _, pixels => pixels

theorem smooth_fits : smooth.Fits := by
  constructor
  · decide
  · decide
  · decide

/-- No service to fetch from. -/
def alone : Renderer := new ⟨none, []⟩ fun _ => ⟨0, 0, 0, 0, fun _ => 0⟩

/-- After a start. No check is to unfold it and run the conversion on it. -/
@[irreducible] def waited : Renderer :=
  ((alone.equipped smooth numImageCols numImageRows).sized numImageCols numImageRows).restarted

/-- A sample buffer without gaps between its rows. -/
def packed : Locked := ⟨fun _ => 7, 1280⟩

def request : Action := .generate smooth (fun _ => 0) (.ok packed)

theorem waited_start : run perform alone ([] ++ [.ensureRenderTarget smooth]) = some waited := by
  unfold waited
  rfl

theorem packed_fitting : Fitting packed := by
  constructor
  · decide
  · decide

theorem live_without_service {r : Renderer} (gone : r.generator.pipe = ⟨none, []⟩) :
    r.live = false := by
  rw [live, Renderer.fetch, gone]
  rfl

/-- The first sample is handed out, and the next one is still without a live frame. -/
theorem waited_request : ∃ r, run perform waited [request] = some r ∧
    samples waited [request] = 1 ∧ r.live = false := by
  have gone : waited.generator.pipe = ⟨none, []⟩ := by
    unfold waited
    rfl
  have waiting := live_without_service gone
  have numbered : Numbered smooth 0 waited := numbered_ensured rfl rfl waited_start
  have ends := numbered.displays smooth (fun _ => 0) smooth_fits packed_fitting waiting
  obtain ⟨r, left⟩ := ends.some_final
  have performed : perform waited request = some r := left
  rcases ends.cases left with ⟨sample, out, _⟩ | ⟨hr, out, failed, call, _, answered⟩
  · have handed : delivers waited request = true := by
      rw [request, delivers, out]
    refine ⟨r, ?_, ?_, ?_⟩
    · rw [run_cons, performed]
      rfl
    · rw [samples, handed, performed]
      rfl
    · have told := generate_refines smooth (r := waited) (fun _ => 0) (.ok packed)
      rw [out] at told
      apply live_without_service
      rw [← told.2.2.1, FrameGenerator.generate_pipe, gone]
      rfl
  · rw [← answered] at failed
    cases failed

theorem waited_shows : ∃ r, run perform waited [request] = some r ∧
    samples waited [request] = 1 ∧
    (generate smooth (fun _ => 0) (.ok packed)).Ends r
      (fun sample _ => sample.served = false ∧
        Displays packed (converted (plain ⟨0, 0, 30⟩) 5120) sample.scanline)
      fun _ _ => False := by
  obtain ⟨r, ran, one, waiting⟩ := waited_request
  have only : ∀ action ∈ [request], ∃ a beyond lock, action = .generate a beyond lock := by
    intro action member
    rw [List.mem_singleton.mp member]
    exact ⟨_, _, _, rfl⟩
  have ends := waiting_shows ⟨none, []⟩ _ [] [request] smooth smooth (fun _ => 0) packed waited r
    waited_start rfl rfl smooth_fits only ran waiting packed_fitting
  refine ⟨r, ran, one, ends.mono ?_ ?_⟩
  · rintro sample _ ⟨waits, _, displays⟩
    exact ⟨waits, displays⟩
  · rintro hr _ ⟨failed, call, _, answered⟩
    rw [← answered] at failed
    cases failed

end Obs2Mf.Vcam.Rendering
