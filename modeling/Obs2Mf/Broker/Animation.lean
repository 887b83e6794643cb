import Obs2Mf.Broker.TestPattern

set_option autoImplicit false

/- The test pattern over time: the frame number, multiplied in unsigned arithmetic and
cast to int, moves the bars, and past half of its range it does so wrongly. -/
namespace Obs2Mf.Broker

open Pipe (Byte)
open Stores

/-- The values that `RgbToYuv` computes on its way, each an int. -/
def yuvTerms (rgb : Int × Int × Int) : List Int :=
  let (r, g, b) := rgb
  [66 * r, 129 * g, 66 * r + 129 * g, 25 * b, 66 * r + 129 * g + 25 * b,
    66 * r + 129 * g + 25 * b + 128, ((66 * r + 129 * g + 25 * b + 128) >>> (8 : Nat)) + 16,
    -38 * r, 74 * g, -38 * r - 74 * g, 112 * b, -38 * r - 74 * g + 112 * b,
    -38 * r - 74 * g + 112 * b + 128,
    ((-38 * r - 74 * g + 112 * b + 128) >>> (8 : Nat)) + 128,
    112 * r, 94 * g, 112 * r - 94 * g, 18 * b, 112 * r - 94 * g - 18 * b,
    112 * r - 94 * g - 18 * b + 128,
    ((112 * r - 94 * g - 18 * b + 128) >>> (8 : Nat)) + 128]

/-- What is expected of the picture of a frame number and of the next one. -/
structure Animated (frame : BitVec 32) : Prop where
  index : ∀ blockX, blockX < kW / 2 →
    0 ≤ barIndex frame (blockX * 2) ∧ barIndex frame (blockX * 2) < 8
  fits : ∀ blockX, blockX < kW / 2 → Int32.Fits ((blockX * 2 : Nat) + scroll frame)
  colours : ∀ beyond blockX, blockX < kW / 2 →
    ∀ value ∈ yuvTerms (barAt beyond (barIndex frame (blockX * 2))), Int32.Fits value
  written : ∀ beyond i, i < kFrameBytes →
    ∃ store ∈ nested (kH / 2) (kW / 2) (blockStores beyond frame), store.offset = i
  luma : ∀ beyond (buf next : List Byte) x y, buf.length = kFrameBytes →
    next.length = kFrameBytes → x < kW → y < kH →
      (fillTestPatternNV12 beyond next (frame + 1#32))[Nv12.lumaOffset kW x y]? =
        (fillTestPatternNV12 beyond buf frame)[Nv12.lumaOffset kW ((x + 4) % kW) y]?
  chroma : ∀ beyond (buf next : List Byte) cx cy part, buf.length = kFrameBytes →
    next.length = kFrameBytes → cx < kW / 2 → cy < kH / 2 → part < 2 →
      (fillTestPatternNV12 beyond next (frame + 1#32))[Nv12.chromaOffset kW kH cx cy + part]? =
        (fillTestPatternNV12 beyond buf frame)[
          Nv12.chromaOffset kW kH ((cx + 2) % (kW / 2)) cy + part]?

section Bytes

variable (beyond : Int → Int × Int × Int) (frame : BitVec 32) (buf : List Byte)

theorem fill_luma {x y : Nat} (sized : buf.length = kFrameBytes) (right : x < kW)
    (below : y < kH) :
    (fillTestPatternNV12 beyond buf frame)[Nv12.lumaOffset kW x y]? =
      some (colourAt beyond frame (x / 2 * 2)).y := by
  have drawn := fillTestPatternNV12_eq beyond frame buf sized
  unfold testPattern at drawn
  rw [drawn, Nv12.getElem?_luma _ blocks right below]
  rfl

theorem fill_chroma {cx cy part : Nat} (sized : buf.length = kFrameBytes)
    (right : cx < kW / 2) (below : cy < kH / 2) (pair : part < 2) :
    (fillTestPatternNV12 beyond buf frame)[Nv12.chromaOffset kW kH cx cy + part]? =
      some (if part = 0 then (colourAt beyond frame (cx * 2)).u
        else (colourAt beyond frame (cx * 2)).v) := by
  have drawn := fillTestPatternNV12_eq beyond frame buf sized
  unfold testPattern at drawn
  rw [drawn, Nv12.getElem?_chroma _ blocks pair right below]
  rfl

end Bytes

section Scroll

variable (frame : BitVec 32)

theorem scroll_eq : scroll frame =
    if (frame * 4#32).toNat < 2 ^ 31 then ((frame * 4#32).toNat : Int)
    else ((frame * 4#32).toNat : Int) - 2 ^ 32 := by
  rw [scroll, BitVec.toInt_eq_toNat_cond]
  split
  · rw [if_pos (by omega)]
  · rw [if_neg (by omega)]
    rfl

/-- The scroll distance moves in steps of four, modulo the range of the counter. -/
theorem distance_next :
    ((frame + 1#32) * 4#32).toNat = ((frame * 4#32).toNat + 4) % 2 ^ 32 ∧
      (frame * 4#32).toNat % 4 = 0 ∧ (frame * 4#32).toNat < 2 ^ 32 := by
  have small := frame.isLt
  refine ⟨?_, ?_, BitVec.isLt _⟩
  · simp only [BitVec.toNat_mul, BitVec.toNat_add, BitVec.toNat_ofNat]
    omega
  · simp only [BitVec.toNat_mul, BitVec.toNat_ofNat]
    omega

/-- The index of a column, where neither sum overflows nor is negative. -/
theorem barIndex_eq {x : Nat} (small : x < 1280)
    (early : (frame * 4#32).toNat + x < 2 ^ 31) :
    barIndex frame x = (((x + (frame * 4#32).toNat) / 160 % 8 : Nat) : Int) := by
  have scrolled : scroll frame = ((frame * 4#32).toNat : Int) := by
    rw [scroll_eq, if_pos (by omega)]
  have sum : Int32.add x (scroll frame) = ((x + (frame * 4#32).toNat : Nat) : Int) := by
    rw [scrolled, Int32.add_of_fits]
    · exact (Int.natCast_add _ _).symm
    · unfold Int32.Fits
      omega
  rw [barIndex, sum]
  show (((x + (frame * 4#32).toNat : Nat) : Int).tdiv ((160 : Nat) : Int)).tmod
    ((8 : Nat) : Int) = _
  rw [← Int.ofNat_tdiv, ← Int.ofNat_tmod]

/-- The index of a column left of the picture's origin: the division rounds towards
zero, and the remainder takes the sign of what it is a remainder of. -/
theorem barIndex_negative {x left : Nat} (small : x < 1280)
    (late : 2 ^ 31 ≤ (frame * 4#32).toNat)
    (distance : x + (frame * 4#32).toNat + left = 2 ^ 32) :
    barIndex frame x = -((left / 160 % 8 : Nat) : Int) := by
  have scrolled : scroll frame = ((frame * 4#32).toNat : Int) - 2 ^ 32 := by
    rw [scroll_eq, if_neg (by omega)]
  have sum : Int32.add x (scroll frame) = -(left : Int) := by
    rw [scrolled, Int32.add_of_fits]
    · omega
    · unfold Int32.Fits
      omega
  rw [barIndex, sum]
  show ((-(left : Int)).tdiv ((160 : Nat) : Int)).tmod ((8 : Nat) : Int) = _
  rw [Int.neg_tdiv, Int.neg_tmod, ← Int.ofNat_tdiv, ← Int.ofNat_tmod]

theorem bars_fit {k : Nat} (inside : k < 8) :
    ∀ value ∈ yuvTerms (bars.getD k (0, 0, 0)), Int32.Fits value := by
  have all : ∀ k < 8, ∀ value ∈ yuvTerms (bars.getD k (0, 0, 0)), Int32.Fits value := by decide
  exact all k inside

/-- The next picture, four columns further on, while the sums stay in range. -/
theorem barIndex_next {x : Nat} (right : x < 1280)
    (early : (frame * 4#32).toNat < 2 ^ 31 - 1280) :
    barIndex (frame + 1#32) (x / 2 * 2) = barIndex frame ((x + 4) % 1280 / 2 * 2) := by
  obtain ⟨next, fourth, _⟩ := distance_next frame
  rw [barIndex_eq frame (show (x + 4) % 1280 / 2 * 2 < 1280 by omega) (by omega),
    barIndex_eq (frame + 1#32) (show x / 2 * 2 < 1280 by omega) (by omega), next]
  apply congrArg Int.ofNat
  omega

theorem animated_early (early : (frame * 4#32).toNat < 2 ^ 31 - 1280) : Animated frame := by
  have index (blockX : Nat) (right : blockX < 640) :
      barIndex frame (blockX * 2) =
        (((blockX * 2 + (frame * 4#32).toNat) / 160 % 8 : Nat) : Int) :=
    barIndex_eq frame (by omega) (by omega)
  refine ⟨?_, ?_, ?_, ?_, ?_, ?_⟩
  · intro blockX right
    rw [index blockX right]
    omega
  · intro blockX right
    have right : blockX < 640 := right
    rw [scroll_eq, if_pos (by omega)]
    unfold Int32.Fits
    omega
  · intro beyond blockX right
    have inside := Nat.mod_lt ((blockX * 2 + (frame * 4#32).toNat) / 160) (by decide : 0 < 8)
    rw [index blockX right, barAt, if_pos (by omega), Int.toNat_natCast]
    exact bars_fit inside
  · intro beyond i inside
    rcases Nv12.offset_cases blocks inside with
      ⟨x, y, right, below, rfl⟩ | ⟨cx, cy, part, right, below, pair, rfl⟩
    · exact luma_stored beyond frame right below
    · exact chroma_stored beyond frame right below pair
  · intro beyond buf next x y sized nextSized right below
    have wrapped : (x + 4) % kW < kW := Nat.mod_lt _ (by decide)
    rw [fill_luma beyond _ next nextSized right below,
      fill_luma beyond frame buf sized wrapped below, colourAt, colourAt]
    show some (rgbToYuv (barAt beyond (barIndex _ (x / 2 * 2)))).y =
      some (rgbToYuv (barAt beyond (barIndex frame ((x + 4) % 1280 / 2 * 2)))).y
    rw [barIndex_next frame right early]
  · intro beyond buf next cx cy part sized nextSized right below pair
    have wrapped : (cx + 2) % (kW / 2) < kW / 2 := Nat.mod_lt _ (by decide)
    have right : cx < 640 := right
    have moved := barIndex_next frame (show cx * 2 < 1280 by omega) early
    have here : cx * 2 / 2 * 2 = cx * 2 := by omega
    have there : (cx * 2 + 4) % 1280 / 2 * 2 = (cx + 2) % 640 * 2 := by omega
    rw [here, there] at moved
    rw [fill_chroma beyond _ next nextSized right below pair,
      fill_chroma beyond frame buf sized wrapped below pair, colourAt, colourAt]
    show some (if part = 0 then (rgbToYuv (barAt beyond (barIndex _ (cx * 2)))).u
        else (rgbToYuv (barAt beyond (barIndex _ (cx * 2)))).v) =
      some (if part = 0 then (rgbToYuv (barAt beyond (barIndex frame ((cx + 2) % 640 * 2)))).u
        else (rgbToYuv (barAt beyond (barIndex frame ((cx + 2) % 640 * 2)))).v)
    rw [moved]

/-- The seam of two pictures: the last block of one is the first of the one before. -/
theorem Animated.seam {frame : BitVec 32} (animated : Animated frame)
    (beyond : Int → Int × Int × Int) :
    (colourAt beyond (frame + 1#32) 1276).y = (colourAt beyond frame 0).y := by
  have sized : (List.replicate kFrameBytes (0 : Byte)).length = kFrameBytes :=
    List.length_replicate
  have same := animated.luma beyond _ _ 1276 0 sized sized (by decide) (by decide)
  rw [fill_luma beyond _ _ sized (by decide) (by decide),
    fill_luma beyond _ _ sized (by decide) (by decide)] at same
  exact Option.some.inj same

/-- Just before the counter wraps around, the next picture ends in the eighth bar. -/
theorem barIndex_next_last (far : 2 ^ 32 - 160 < (frame * 4#32).toNat) :
    barIndex (frame + 1#32) 1276 = 7 := by
  obtain ⟨next, fourth, below⟩ := distance_next frame
  by_cases wraps : (frame * 4#32).toNat = 2 ^ 32 - 4
  · rw [barIndex_eq (frame + 1#32) (by omega) (by omega), next]
    omega
  · have scrolled : Int32.add (1276 : Nat) (scroll (frame + 1#32)) =
        ((1280 + (frame * 4#32).toNat - 2 ^ 32 : Nat) : Int) := by
      rw [scroll_eq, if_neg (by omega), Int32.add_of_fits]
      · omega
      · unfold Int32.Fits
        omega
    rw [barIndex, scrolled]
    show ((_ : Int).tdiv ((160 : Nat) : Int)).tmod ((8 : Nat) : Int) = _
    rw [← Int.ofNat_tdiv, ← Int.ofNat_tmod]
    omega

/-- Past half of the counter's range the sum overflows, then is negative, and where its
index is in range again the seam shows. -/
theorem not_animated_late (late : 2 ^ 31 - 1280 ≤ (frame * 4#32).toNat) : ¬ Animated frame := by
  obtain ⟨next, fourth, below⟩ := distance_next frame
  intro animated
  have noneIndex (blockX left : Nat) (right : blockX < 640)
      (negative : 2 ^ 31 ≤ (frame * 4#32).toNat)
      (distance : blockX * 2 + (frame * 4#32).toNat + left = 2 ^ 32) : left / 160 % 8 = 0 := by
    have index := (animated.index blockX right).1
    rw [barIndex_negative frame (by omega) negative distance] at index
    omega
  by_cases negative : 2 ^ 31 ≤ (frame * 4#32).toNat
  · by_cases far : (frame * 4#32).toNat ≤ 2 ^ 32 - 160
    · -- The two leftmost bars cannot both have an index that is a multiple of eight.
      have first := noneIndex 0 (2 ^ 32 - (frame * 4#32).toNat) (by omega) negative (by omega)
      have second := noneIndex 80 (2 ^ 32 - 160 - (frame * 4#32).toNat) (by omega) negative
        (by omega)
      omega
    · -- Every index rounds to the first bar, where the eighth should follow.
      have here : barIndex frame 0 = 0 := by
        rw [barIndex_negative frame (show 0 < 1280 by omega) negative
          (show 0 + (frame * 4#32).toNat + (2 ^ 32 - (frame * 4#32).toNat) = 2 ^ 32 by omega)]
        omega
      have seam := animated.seam fun _ => (0, 0, 0)
      rw [colourAt, colourAt, here, barIndex_next_last frame (by omega)] at seam
      exact absurd seam (by decide)
  · by_cases edge : (frame * 4#32).toNat = 2 ^ 31 - 1280
    · -- The sum overflows in the next picture: its index is that of no bar.
      have here : barIndex frame 0 = 4 := by
        rw [barIndex_eq frame (by omega) (by omega), edge]
        rfl
      have there : barIndex (frame + 1#32) 1276 = -4 := by
        have scrolled : scroll (frame + 1#32) = 2147482372 := by
          rw [scroll_eq, if_pos (by omega), next, edge]
          rfl
        rw [barIndex, scrolled]
        rfl
      have seam := animated.seam fun _ => (0, 0, 0)
      rw [colourAt, colourAt, here, there] at seam
      exact absurd seam (by decide)
    · have fits := animated.fits 639 (by decide)
      rw [scroll_eq, if_pos (by omega)] at fits
      unfold Int32.Fits at fits
      omega

end Scroll

/-- The animation is what it should be exactly up to the frame number whose scroll
distance comes within a picture's width of half the counter's range. -/
theorem animated_iff (frame : BitVec 32) :
    Animated frame ↔ (frame * 4#32).toNat < 2 ^ 31 - 1280 := by
  constructor
  · intro animated
    apply Nat.lt_of_not_le
    intro late
    exact not_animated_late frame late animated
  · exact animated_early frame

/-- The frame number `2 ^ 29`, whose scroll distance is the smallest int. -/
theorem barIndex_out_of_range :
    barIndex 536870912#32 0 = -4 ∧ ¬ Animated 536870912#32 := by
  have index : barIndex 536870912#32 0 = -4 := by decide
  refine ⟨index, ?_⟩
  intro animated
  have inside := (animated.index 0 (by decide)).1
  rw [Nat.zero_mul, index] at inside
  exact absurd inside (by decide)

end Obs2Mf.Broker
