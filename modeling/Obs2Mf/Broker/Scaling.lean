import Obs2Mf.Broker.ObsCapture
import Obs2Mf.Broker.TestPattern

set_option autoImplicit false

/- What `GetFrame` makes of a source picture of another size, and for which sizes its
loops stay inside the captured buffer. -/
namespace Obs2Mf.Broker

open Pipe (Byte)

/-- Even sizes of at least two, whose products fit in an int. -/
structure Scalable (srcW srcH dstW dstH : Nat) : Prop where
  src : Nv12.Blocks srcW srcH
  dst : Nv12.Blocks dstW dstH
  wide : 2 ≤ srcW
  high : 2 ≤ srcH
  across : 2 ≤ dstW
  down : 2 ≤ dstH
  columns : dstW * srcW < 2 ^ 31
  rows : dstH * srcH < 2 ^ 31

namespace Scalable

variable {srcW srcH dstW dstH : Nat} (scalable : Scalable srcW srcH dstW dstH)

include scalable

theorem fitting : Fitting srcW srcH dstW dstH where
  src := scalable.src
  dst := scalable.dst
  wide := scalable.wide
  high := scalable.high
  across := scalable.across
  down := scalable.down
  columns := by
    have less : (dstW - 1) * srcW ≤ dstW * srcW := Nat.mul_le_mul_right srcW (Nat.sub_le dstW 1)
    have whole := scalable.columns
    omega
  rows := by
    have less : (dstH - 1) * srcH ≤ dstH * srcH := Nat.mul_le_mul_right srcH (Nat.sub_le dstH 1)
    have whole := scalable.rows
    omega

/-- The destination's sizes survive their conversion to int. -/
theorem sizes {obs : Impl} (srcWidth : obs.srcW = srcW) (srcHeight : obs.srcH = srcH)
    (dstWidth : obs.dstW.toNat = dstW) (dstHeight : obs.dstH.toNat = dstH) :
    obs.Sizes srcW srcH dstW dstH := by
  have columns := scalable.columns
  have rows := scalable.rows
  have narrow : dstW * 1 ≤ dstW * srcW := Nat.mul_le_mul_left dstW (by
    have wide := scalable.wide
    omega)
  have low : dstH * 1 ≤ dstH * srcH := Nat.mul_le_mul_left dstH (by
    have high := scalable.high
    omega)
  refine ⟨srcWidth, srcHeight, ?_, ?_⟩
  · rw [BitVec.toInt_eq_toNat_of_lt (by omega), dstWidth]
  · rw [BitVec.toInt_eq_toNat_of_lt (by omega), dstHeight]

end Scalable

/-- Halves of even sizes scale as the sizes do: the chroma pair of a block is that of
the source block around the luma sample taken for the block's first pixel. -/
theorem half_nearest {src dst : Nat} (i : Nat) (srcEven : src % 2 = 0) (dstEven : dst % 2 = 0) :
    i * (src / 2) / (dst / 2) = 2 * i * src / dst / 2 := by
  have srcTwice : src = 2 * (src / 2) := by omega
  have dstTwice : dst = 2 * (dst / 2) := by omega
  have product : 2 * i * src = 4 * (i * (src / 2)) := by
    calc 2 * i * src = 2 * i * (2 * (src / 2)) := congrArg (2 * i * ·) srcTwice
      _ = 2 * 2 * (i * (src / 2)) := Nat.mul_mul_mul_comm 2 i 2 (src / 2)
  have divisor : dst * 2 = 4 * (dst / 2) := by omega
  rw [Nat.div_div_eq_div_mul, product, divisor, Nat.mul_div_mul_left _ _ (by decide)]

theorem same_nearest {n : Nat} (i : Nat) (positive : 0 < n) : i * n / n = i :=
  Nat.mul_div_cancel i positive

/-- A picture scaled to its own size. -/
theorem scaled_same {width height : Nat} (blocks : Nv12.Blocks width height) (wide : 2 ≤ width)
    (high : 2 ≤ height) (native : List Byte) (full : Nv12.size width height ≤ native.length) :
    scaled width height width height native = native.take (Nv12.size width height) := by
  have same : Nv12.scale width height width height (Nv12.ofBytes width height native) =
      Nv12.ofBytes width height native := by
    have halfWidth : 0 < width / 2 := by omega
    have halfHeight : 0 < height / 2 := by omega
    simp only [Nv12.scale, same_nearest _ (show 0 < width by omega),
      same_nearest _ (show 0 < height by omega), same_nearest _ halfWidth,
      same_nearest _ halfHeight]
  rw [scaled, same, Nv12.bytes_ofBytes blocks native full]

/-- `GetFrame` scales luma and chroma to matching samples, replaces all of the buffer,
and copies a picture of the right size. -/
theorem getFrame_scales :
    (∀ (obs : Impl) (beyond : Int → Byte) (srcW srcH dstW dstH : Nat) (out : List Byte),
      Scalable srcW srcH dstW dstH → obs.srcW = srcW → obs.srcH = srcH →
      obs.dstW.toNat = dstW → obs.dstH.toNat = dstH →
      srcW * srcH * 3 / 2 ≤ obs.native.length → out.length = dstW * dstH * 3 / 2 →
      let shot := obs.getFrame beyond out
      shot.1 = true ∧ shot.2.length = dstW * dstH * 3 / 2 ∧
        (∀ x y, x < dstW → y < dstH →
          ∃ luma, shot.2[y * dstW + x]? = some luma ∧
            obs.native[y * srcH / dstH * srcW + x * srcW / dstW]? = some luma) ∧
        (∀ cx cy part, cx < dstW / 2 → cy < dstH / 2 → part < 2 →
          ∃ chroma, shot.2[dstW * dstH + (cy * dstW + cx * 2) + part]? = some chroma ∧
            obs.native[srcW * srcH + (2 * cy * srcH / dstH / 2 * srcW +
              2 * cx * srcW / dstW / 2 * 2) + part]? = some chroma) ∧
        (∀ other : List Byte, other.length = out.length → obs.getFrame beyond other = shot) ∧
        (srcW = dstW → srcH = dstH → shot.2 = obs.native.take (srcW * srcH * 3 / 2))) ∧
    ∀ (obs : Impl) (beyond : Int → Byte) (out : List Byte),
      (obs.getFrame beyond out).1 = false → (obs.getFrame beyond out).2 = out := by
  constructor
  · intro obs beyond srcW srcH dstW dstH out scalable srcWidth srcHeight dstWidth dstHeight full
      sized
    have fits := scalable.fitting
    have sizes := scalable.sizes srcWidth srcHeight dstWidth dstHeight
    have result (buf : List Byte) (sized : buf.length = Nv12.size dstW dstH) :=
      Impl.getFrame_full sizes fits full beyond buf sized
    dsimp only
    rw [result out sized]
    refine ⟨rfl, scaled_length srcW srcH dstW dstH obs.native, ?_, ?_, ?_, ?_⟩
    · intro x y right below
      have inside := fits.luma_inside right below
      refine ⟨_, ?_, List.getElem?_eq_getElem (Nat.lt_of_lt_of_le inside full)⟩
      show (scaled srcW srcH dstW dstH obs.native)[Nv12.lumaOffset dstW x y]? = _
      rw [scaled, Nv12.getElem?_luma _ fits.dst right below]
      exact congrArg some (List.getElem_eq_getD default).symm
    · intro cx cy part right below pair
      have inside := Nat.lt_of_lt_of_le (fits.chroma_inside right below) full
      rw [half_nearest cx fits.src.width fits.dst.width,
        half_nearest cy fits.src.height fits.dst.height, Nv12.chromaOffset] at inside
      refine ⟨_, ?_, List.getElem?_eq_getElem (by omega)⟩
      show (scaled srcW srcH dstW dstH obs.native)[Nv12.chromaOffset dstW dstH cx cy + part]? = _
      rw [scaled, Nv12.getElem?_chroma _ fits.dst pair right below]
      apply congrArg some
      simp only [Nv12.scale, Nv12.ofBytes, half_nearest cx fits.src.width fits.dst.width,
        half_nearest cy fits.src.height fits.dst.height, Nv12.chromaOffset]
      have which : part = 0 ∨ part = 1 := by omega
      rcases which with rfl | rfl
      · exact (List.getElem_eq_getD default).symm
      · exact (List.getElem_eq_getD default).symm
    · intro other same
      exact result other (same.trans sized)
    · rintro rfl rfl
      exact scaled_same fits.src fits.wide fits.high obs.native full
  · intro obs beyond out refused
    unfold Impl.getFrame at refused ⊢
    split
    · rfl
    · split
      · rfl
      · rename_i known enough
        rw [if_neg known, if_neg enough] at refused
        cases refused

/-- A picture of four by four halved. -/
def quarter : Impl := ⟨2, 2, true, true, (List.range 24).map .ofNat, 4, 4, 1⟩

theorem quarter_scales :
    (quarter.getFrame (fun _ => 0) [9, 9, 9, 9, 9, 9]).1 = true ∧
      quarter.getFrame (fun _ => 0) [0, 0, 0, 0, 0, 0] =
        quarter.getFrame (fun _ => 0) [9, 9, 9, 9, 9, 9] ∧
      (quarter.getFrame (fun _ => 0) [9, 9, 9, 9, 9, 9]).2 = [0, 2, 8, 10, 16, 17] := by
  have shot := getFrame_scales.1 quarter (fun _ => 0) 4 4 2 2 [9, 9, 9, 9, 9, 9]
    ⟨⟨rfl, rfl⟩, ⟨rfl, rfl⟩, by decide, by decide, by decide, by decide, by decide, by decide⟩
    rfl rfl rfl rfl (by decide) rfl
  exact ⟨shot.1, shot.2.2.2.2.1 [0, 0, 0, 0, 0, 0] rfl, by decide⟩

namespace Impl

/-- Where the luma loop reads. -/
def lumaRead (obs : Impl) (y x : Nat) : Int :=
  (Int32.mul y obs.srcH).tdiv obs.dstH.toInt * obs.srcW +
    (Int32.mul x obs.srcW).tdiv obs.dstW.toInt

def chromaRow (obs : Impl) (cy : Nat) : Int :=
  obs.srcW * obs.srcH +
    (Int32.mul cy (obs.srcH.tdiv 2)).tdiv (obs.dstH.toInt.tdiv 2) * obs.srcW

def chromaColumn (obs : Impl) (cx : Nat) : Int :=
  Int32.mul ((Int32.mul cx (obs.srcW.tdiv 2)).tdiv (obs.dstW.toInt.tdiv 2)) 2

/-- The two loops are stores of what they read. -/
theorem stores_reads (obs : Impl) (beyond : Int → Byte) :
    (obs.lumaStores beyond = Stores.nested obs.dstH.toInt.toNat obs.dstW.toInt.toNat fun y x =>
      [⟨y * obs.dstW.toInt.toNat + x, obs.read beyond (obs.lumaRead y x)⟩]) ∧
    obs.chromaStores beyond = Stores.nested (obs.dstH.toInt.tdiv 2).toNat
      (obs.dstW.toInt.tdiv 2).toNat fun cy cx =>
        let drow := obs.dstW.toInt.toNat * obs.dstH.toInt.toNat +
          (cy * obs.dstW.toInt.toNat + cx * 2)
        [⟨drow, obs.read beyond (obs.chromaRow cy + obs.chromaColumn cx)⟩,
          ⟨drow + 1, obs.read beyond (obs.chromaRow cy + Int32.add (obs.chromaColumn cx) 1)⟩] :=
  ⟨rfl, rfl⟩

def Within (obs : Impl) (offset : Int) : Prop := 0 ≤ offset ∧ offset < obs.native.length

/-- No product of an index and a size overflows, and both loops read captured bytes only. -/
structure Safe (obs : Impl) : Prop where
  rows : ∀ y : Nat, y < obs.dstH.toInt.toNat → Int32.Fits (y * obs.srcH)
  columns : ∀ x : Nat, x < obs.dstW.toInt.toNat → Int32.Fits (x * obs.srcW)
  chromaRows : ∀ cy : Nat, cy < (obs.dstH.toInt.tdiv 2).toNat →
    Int32.Fits (cy * obs.srcH.tdiv 2)
  chromaColumns : ∀ cx : Nat, cx < (obs.dstW.toInt.tdiv 2).toNat →
    Int32.Fits (cx * obs.srcW.tdiv 2)
  luma : ∀ y x : Nat, y < obs.dstH.toInt.toNat → x < obs.dstW.toInt.toNat →
    obs.Within (obs.lumaRead y x)
  chroma : ∀ cy cx : Nat, cy < (obs.dstH.toInt.tdiv 2).toNat →
    cx < (obs.dstW.toInt.tdiv 2).toNat →
      obs.Within (obs.chromaRow cy + obs.chromaColumn cx) ∧
        obs.Within (obs.chromaRow cy + Int32.add (obs.chromaColumn cx) 1)

end Impl

/-- The chroma byte furthest into the captured buffer that the loops ask for. -/
def lastChroma (srcW srcH dstW dstH : Nat) : Nat :=
  srcW * srcH + (dstH / 2 - 1) * (srcH / 2) / (dstH / 2) * srcW +
    (dstW / 2 - 1) * (srcW / 2) / (dstW / 2) * 2 + 1

section Products

variable {i n m : Nat}

/-- The largest index decides whether all products fit. -/
theorem product_lt (inside : i < n) (last : (n - 1) * m < 2 ^ 31) : i * m < 2 ^ 31 := by
  calc i * m ≤ (n - 1) * m := Nat.mul_le_mul_right m (by omega)
    _ < 2 ^ 31 := last

theorem factor_lt (two : 2 ≤ n) (last : (n - 1) * m < 2 ^ 31) : m < 2 ^ 31 := by
  have one := product_lt (show 1 < n by omega) last
  omega

theorem half_product_lt (inside : i < n / 2) (last : (n - 1) * m < 2 ^ 31) :
    i * (m / 2) < 2 ^ 31 := by
  calc i * (m / 2) ≤ i * m := Nat.mul_le_mul_left i (Nat.div_le_self m 2)
    _ < 2 ^ 31 := product_lt (by omega) last

theorem fits_product : Int32.Fits ((i : Int) * (m : Int)) ↔ i * m < 2 ^ 31 := by
  have cast := Int.natCast_mul i m
  unfold Int32.Fits
  omega

end Products

section LastChroma

variable {srcW srcH dstW dstH : Nat}

/-- The loops reach the last chroma pair in the last block of the destination. -/
theorem le_lastChroma {cx cy : Nat} (right : cx < dstW / 2) (below : cy < dstH / 2) :
    srcW * srcH + cy * (srcH / 2) / (dstH / 2) * srcW + cx * (srcW / 2) / (dstW / 2) * 2 + 1 ≤
      lastChroma srcW srcH dstW dstH := by
  have row : cy * (srcH / 2) / (dstH / 2) * srcW ≤
      (dstH / 2 - 1) * (srcH / 2) / (dstH / 2) * srcW := by
    apply Nat.mul_le_mul_right
    apply Nat.div_le_div_right
    exact Nat.mul_le_mul_right _ (by omega)
  have column : cx * (srcW / 2) / (dstW / 2) ≤ (dstW / 2 - 1) * (srcW / 2) / (dstW / 2) := by
    apply Nat.div_le_div_right
    exact Nat.mul_le_mul_right _ (by omega)
  unfold lastChroma
  omega

/-- A source with a whole block in each direction holds what the loops ask for. -/
theorem lastChroma_lt (wide : 2 ≤ srcW) (high : 2 ≤ srcH) (across : 2 ≤ dstW)
    (down : 2 ≤ dstH) : lastChroma srcW srcH dstW dstH < srcW * srcH * 3 / 2 := by
  have row : (dstH / 2 - 1) * (srcH / 2) / (dstH / 2) < srcH / 2 :=
    nearest_lt (by omega) (by omega)
  have column : (dstW / 2 - 1) * (srcW / 2) / (dstW / 2) < srcW / 2 :=
    nearest_lt (by omega) (by omega)
  have inside : (dstH / 2 - 1) * (srcH / 2) / (dstH / 2) * srcW +
      ((dstW / 2 - 1) * (srcW / 2) / (dstW / 2) * 2 + 1) < srcW * (srcH / 2) :=
    Nv12.row_inside (by omega) row
  have half : srcW * (srcH / 2) * 2 ≤ srcW * srcH := by
    rw [Nat.mul_assoc]
    exact Nat.mul_le_mul_left srcW (Nat.div_mul_le_self srcH 2)
  unfold lastChroma
  omega

end LastChroma

namespace Impl

section Reads

variable {obs : Impl} {srcW srcH dstW dstH : Nat}

theorem lumaRead_eq (sizes : obs.Sizes srcW srcH dstW dstH) {y x : Nat}
    (column : x * srcW < 2 ^ 31) (row : y * srcH < 2 ^ 31) :
    obs.lumaRead y x = ((y * srcH / dstH * srcW + x * srcW / dstW : Nat) : Int) := by
  rw [lumaRead, sizes.srcW, sizes.srcH, sizes.dstW, sizes.dstH]
  exact luma_index column row

theorem chromaRow_eq (sizes : obs.Sizes srcW srcH dstW dstH) {cy : Nat}
    (product : cy * (srcH / 2) < 2 ^ 31) :
    obs.chromaRow cy = ((srcW * srcH + cy * (srcH / 2) / (dstH / 2) * srcW : Nat) : Int) := by
  rw [chromaRow, sizes.srcW, sizes.srcH, sizes.dstH, half_eq, half_eq]
  exact chroma_row product

theorem chromaColumn_eq (sizes : obs.Sizes srcW srcH dstW dstH) {cx : Nat}
    (right : cx < dstW / 2) (positive : 0 < srcW) (narrow : srcW < 2 ^ 31)
    (product : cx * (srcW / 2) < 2 ^ 31) :
    obs.chromaColumn cx = ((cx * (srcW / 2) / (dstW / 2) * 2 : Nat) : Int) ∧
      Int32.add (obs.chromaColumn cx) 1 =
        ((cx * (srcW / 2) / (dstW / 2) * 2 + 1 : Nat) : Int) := by
  have column := column_index right positive narrow product
  rw [chromaColumn, sizes.srcW, sizes.dstW, half_eq, half_eq, column.1]
  exact ⟨rfl, column.2⟩

theorem within_iff (offset : Nat) : obs.Within offset ↔ offset < obs.native.length := by
  unfold Within
  omega

section Safe

variable (sizes : obs.Sizes srcW srcH dstW dstH) (wide : 0 < srcW)
include sizes wide

/-- The last products and the last chroma pair are among what the loops compute and read. -/
theorem Safe.bounds (safe : obs.Safe) (across : 2 ≤ dstW) (down : 2 ≤ dstH) :
    (dstW - 1) * srcW < 2 ^ 31 ∧ (dstH - 1) * srcH < 2 ^ 31 ∧
      lastChroma srcW srcH dstW dstH < obs.native.length := by
  have columns := safe.columns (dstW - 1) (by rw [sizes.dstW, Int.toNat_natCast]; omega)
  have rows := safe.rows (dstH - 1) (by rw [sizes.dstH, Int.toNat_natCast]; omega)
  rw [sizes.srcW, fits_product] at columns
  rw [sizes.srcH, fits_product] at rows
  have narrow := factor_lt across columns
  have right : dstW / 2 - 1 < dstW / 2 := by omega
  have below : dstH / 2 - 1 < dstH / 2 := by omega
  have last := (safe.chroma (dstH / 2 - 1) (dstW / 2 - 1)
    (by rw [sizes.dstH, half_eq, Int.toNat_natCast]; exact below)
    (by rw [sizes.dstW, half_eq, Int.toNat_natCast]; exact right)).2
  rw [chromaRow_eq sizes (half_product_lt below rows),
    (chromaColumn_eq sizes right wide narrow (half_product_lt right columns)).2,
    ← Int.natCast_add, within_iff] at last
  exact ⟨columns, rows, last⟩

/-- And everything else that they compute and read is smaller. -/
theorem safe_of_bounds (high : 0 < srcH) (across : 2 ≤ dstW)
    (columns : (dstW - 1) * srcW < 2 ^ 31) (rows : (dstH - 1) * srcH < 2 ^ 31)
    (area : srcW * srcH ≤ obs.native.length)
    (last : lastChroma srcW srcH dstW dstH < obs.native.length) : obs.Safe := by
  have narrow := factor_lt across columns
  refine ⟨?_, ?_, ?_, ?_, ?_, ?_⟩
  · intro y below
    rw [sizes.dstH, Int.toNat_natCast] at below
    rw [sizes.srcH, fits_product]
    exact product_lt below rows
  · intro x right
    rw [sizes.dstW, Int.toNat_natCast] at right
    rw [sizes.srcW, fits_product]
    exact product_lt right columns
  · intro cy below
    rw [sizes.dstH, half_eq, Int.toNat_natCast] at below
    rw [sizes.srcH, half_eq, fits_product]
    exact half_product_lt below rows
  · intro cx right
    rw [sizes.dstW, half_eq, Int.toNat_natCast] at right
    rw [sizes.srcW, half_eq, fits_product]
    exact half_product_lt right columns
  · intro y x below right
    rw [sizes.dstH, Int.toNat_natCast] at below
    rw [sizes.dstW, Int.toNat_natCast] at right
    rw [lumaRead_eq sizes (product_lt right columns) (product_lt below rows), within_iff]
    have inside := Nv12.row_inside (nearest_lt right wide) (nearest_lt below high)
    omega
  · intro cy cx below right
    rw [sizes.dstH, half_eq, Int.toNat_natCast] at below
    rw [sizes.dstW, half_eq, Int.toNat_natCast] at right
    have column := chromaColumn_eq sizes right wide narrow (half_product_lt right columns)
    have reach := @le_lastChroma srcW srcH dstW dstH cx cy right below
    rw [column.2, column.1, chromaRow_eq sizes (half_product_lt below rows),
      ← Int.natCast_add, ← Int.natCast_add, within_iff, within_iff]
    omega

/-- The sizes for which `GetFrame`, past its guards, computes with sense: the last
products fit, and the last chroma pair is there, which the guard only makes sure of for
sources of at least two by two. -/
theorem safe_iff (high : 0 < srcH) (across : 2 ≤ dstW) (down : 2 ≤ dstH)
    (whole : srcW * srcH * 3 / 2 ≤ obs.native.length) :
    obs.Safe ↔ (dstW - 1) * srcW < 2 ^ 31 ∧ (dstH - 1) * srcH < 2 ^ 31 ∧
      (2 ≤ srcW ∧ 2 ≤ srcH ∨ lastChroma srcW srcH dstW dstH < obs.native.length) := by
  constructor
  · intro safe
    obtain ⟨columns, rows, last⟩ := safe.bounds sizes wide across down
    exact ⟨columns, rows, Or.inr last⟩
  · rintro ⟨columns, rows, reached⟩
    have last : lastChroma srcW srcH dstW dstH < obs.native.length := by
      rcases reached with ⟨two, twice⟩ | inside
      · exact Nat.lt_of_lt_of_le (lastChroma_lt two twice across down) whole
      · exact inside
    exact safe_of_bounds sizes wide high across columns rows (by omega) last

end Safe

end Reads

end Impl

/-- For the broker's 1280x720 frame: which sources `GetFrame` can read in full. -/
theorem getFrame_safe_iff (obs : Impl) (dstW : obs.dstW = .ofNat 32 kW)
    (dstH : obs.dstH = .ofNat 32 kH) (wide : 0 < obs.srcW) (high : 0 < obs.srcH)
    (srcW : Int32.Fits obs.srcW) (srcH : Int32.Fits obs.srcH)
    (enough : obs.need ≤ obs.native.length) :
    obs.Safe ↔ 1279 * obs.srcW < 2 ^ 31 ∧ 719 * obs.srcH < 2 ^ 31 ∧
      (2 ≤ obs.srcW ∧ 2 ≤ obs.srcH ∨
        lastChroma obs.srcW.toNat obs.srcH.toNat kW kH < obs.native.length) := by
  obtain ⟨width, srcWidth⟩ := Int.eq_ofNat_of_zero_le (Int.le_of_lt wide)
  obtain ⟨height, srcHeight⟩ := Int.eq_ofNat_of_zero_le (Int.le_of_lt high)
  rw [srcWidth] at wide srcW
  rw [srcHeight] at high srcH
  unfold Int32.Fits at srcW srcH
  have sizes : obs.Sizes width height kW kH := by
    refine ⟨srcWidth, srcHeight, ?_, ?_⟩
    · rw [dstW]
      rfl
    · rw [dstH]
      rfl
  have whole : width * height * 3 / 2 ≤ obs.native.length := by
    have area : width * height < 2 ^ 31 * 2 ^ 31 :=
      Nat.mul_lt_mul'' (by omega) (by omega)
    rw [Impl.need, srcWidth, srcHeight, Int.toNat_natCast, Int.toNat_natCast,
      Nat.mod_eq_of_lt (by omega)] at enough
    exact enough
  rw [Impl.safe_iff sizes (by omega) (by omega) (by decide) (by decide) whole, srcWidth,
    srcHeight, Int.toNat_natCast, Int.toNat_natCast]
  show 1279 * width < 2 ^ 31 ∧ 719 * height < 2 ^ 31 ∧ _ ↔ _
  omega

/-- A captured picture of four by two is within reach. -/
theorem getFrame_safe_small :
    Impl.Safe ⟨1280, 720, true, true, List.replicate 12 0, 4, 2, 1⟩ :=
  (getFrame_safe_iff ⟨1280, 720, true, true, List.replicate 12 0, 4, 2, 1⟩ rfl rfl (by decide)
    (by decide) (by decide) (by decide) (by decide)).mpr (by decide)

/-- Sources that pass the guards: one row of two pixels, whose chroma the loops look for
past its three bytes, and two rows too wide for the product with a column. -/
theorem getFrame_unsafe :
    (∃ obs : Impl, obs.dstW = 1280 ∧ obs.dstH = 720 ∧ obs.srcW = 2 ∧ obs.srcH = 1 ∧
      obs.native = [1, 2, 3] ∧ obs.need ≤ obs.native.length ∧
      ¬ obs.Within (obs.chromaRow 0 + Int32.add (obs.chromaColumn 0) 1)) ∧
    ∃ obs : Impl, obs.dstW = 1280 ∧ obs.dstH = 720 ∧ obs.srcW = 1700000 ∧ obs.srcH = 2 ∧
      obs.native.length = 5100000 ∧ obs.need ≤ obs.native.length ∧
      ¬ Int32.Fits (1279 * obs.srcW) := by
  constructor
  · refine ⟨⟨1280, 720, true, true, [1, 2, 3], 2, 1, 1⟩, rfl, rfl, rfl, rfl, rfl, by decide, ?_⟩
    unfold Impl.Within
    decide
  · refine ⟨⟨1280, 720, true, true, List.replicate 5100000 0, 1700000, 2, 1⟩, rfl, rfl, rfl, rfl,
      List.length_replicate, ?_, by decide⟩
    show Impl.need _ ≤ (List.replicate 5100000 0).length
    rw [List.length_replicate]
    decide

end Obs2Mf.Broker
