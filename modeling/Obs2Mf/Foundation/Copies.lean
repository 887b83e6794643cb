set_option autoImplicit false

/- Block copies between two byte-addressed regions. Offsets into the destination
are signed: a picture may be stored bottom row first. -/
namespace Obs2Mf.Copies

structure Copy where
  dst : Int
  src : Nat
  len : Nat
  deriving DecidableEq, Repr

/-- The destination after one block copy out of `heap`. -/
def Copy.apply (heap : Nat → UInt8) (mem : Int → UInt8) (copy : Copy) : Int → UInt8 :=
  fun address =>
    if copy.dst ≤ address ∧ address < copy.dst + copy.len then
      heap (copy.src + (address - copy.dst).toNat)
    else mem address

def applyCopies (heap : Nat → UInt8) (mem : Int → UInt8) (copies : List Copy) : Int → UInt8 :=
  copies.foldl (Copy.apply heap) mem

/-- Every source byte the copy reads lies in the first `size` bytes. -/
def Copy.ReadsWithin (size : Nat) (copy : Copy) : Prop :=
  ∀ i, i < copy.len → copy.src + i < size

/-- `count` rows of `len` bytes, each row `pitch` further on in the destination
and `stride` further on in the source. -/
def rows (count : Nat) (dst pitch : Int) (src stride len : Nat) : List Copy :=
  (List.range count).map fun (y : Nat) => ⟨dst + y * pitch, src + y * stride, len⟩

theorem Copy.readsWithin_iff (size : Nat) (copy : Copy) :
    copy.ReadsWithin size ↔ copy.len = 0 ∨ copy.src + copy.len ≤ size := by
  constructor
  · intro within
    by_cases empty : copy.len = 0
    · exact Or.inl empty
    · have last := within (copy.len - 1) (by omega)
      exact Or.inr (by omega)
  · intro bound i inside
    omega

/-- The copy writes this byte of the destination. -/
def Copy.Writes (copy : Copy) (address : Int) : Prop :=
  copy.dst ≤ address ∧ address < copy.dst + copy.len

theorem applyCopies_frame (heap : Nat → UInt8) (mem : Int → UInt8) (copies : List Copy)
    (address : Int) (outside : ∀ copy ∈ copies, ¬ copy.Writes address) :
    applyCopies heap mem copies address = mem address := by
  induction copies generalizing mem with
  | nil => rfl
  | cons copy rest ih =>
      have first : copy.apply heap mem address = mem address :=
        if_neg (outside copy List.mem_cons_self)
      have later : ∀ other ∈ rest, ¬ other.Writes address := by
        intro other member
        exact outside other (List.mem_cons_of_mem copy member)
      show applyCopies heap (copy.apply heap mem) rest address = mem address
      rw [ih _ later, first]

/-- A byte on which all copies that write it agree, however often it is written. -/
theorem applyCopies_written (heap : Nat → UInt8) (mem : Int → UInt8) (copies : List Copy)
    (address : Int) (byte : UInt8)
    (agree : ∀ copy ∈ copies, copy.Writes address →
      heap (copy.src + (address - copy.dst).toNat) = byte)
    (written : mem address = byte ∨ ∃ copy ∈ copies, copy.Writes address) :
    applyCopies heap mem copies address = byte := by
  induction copies generalizing mem with
  | nil =>
      rcases written with already | ⟨_, impossible, _⟩
      · exact already
      · cases impossible
  | cons copy rest ih =>
      show applyCopies heap (copy.apply heap mem) rest address = byte
      apply ih
      · intro other member
        exact agree other (List.mem_cons_of_mem copy member)
      · by_cases here : copy.Writes address
        · left
          have first : copy.apply heap mem address =
              heap (copy.src + (address - copy.dst).toNat) := if_pos here
          rw [first, agree copy List.mem_cons_self here]
        · have first : copy.apply heap mem address = mem address := if_neg here
          rcases written with already | ⟨other, member, there⟩
          · left
            rw [first, already]
          · right
            rcases List.mem_cons.mp member with same | member
            · rw [same] at there
              exact (here there).elim
            · exact ⟨other, member, there⟩

theorem mem_rows {count : Nat} {dst pitch : Int} {src stride len : Nat} {copy : Copy} :
    copy ∈ rows count dst pitch src stride len ↔
      ∃ y : Nat, y < count ∧ copy = ⟨dst + y * pitch, src + y * stride, len⟩ := by
  simp only [rows, List.mem_map, List.mem_range]
  constructor
  · rintro ⟨y, below, same⟩
    exact ⟨y, below, same.symm⟩
  · rintro ⟨y, below, same⟩
    exact ⟨y, below, same.symm⟩

/-- Rows that go on where others end, on both sides. -/
theorem rows_append (first second : Nat) (dst pitch : Int) (src stride len : Nat) :
    rows first dst pitch src stride len ++
        rows second (dst + first * pitch) pitch (src + first * stride) stride len =
      rows (first + second) dst pitch src stride len := by
  simp only [rows, List.range_add, List.map_append, List.map_map]
  apply congrArg
  apply List.map_congr_left
  intro y _
  have there : dst + first * pitch + y * pitch = dst + ((first + y : Nat) : Int) * pitch := by
    rw [Int.natCast_add, Int.add_mul, Int.add_assoc]
  have here : src + first * stride + y * stride = src + (first + y) * stride := by
    rw [Nat.add_mul, Nat.add_assoc]
  rw [there, here]
  rfl

section Rows

variable (heap : Nat → UInt8) (mem : Int → UInt8) (dst : Int) (src stride : Nat)

/-- Rows no longer than the pitch do not overlap. -/
theorem row_unique {pitch : Int} {len y other x : Nat} (narrow : (len : Int) ≤ pitch)
    (right : x < len) (writes : Copy.Writes ⟨dst + other * pitch, src + other * stride, len⟩
      (dst + y * pitch + x)) : other = y := by
  obtain ⟨low, high⟩ := writes
  dsimp only at low high
  have positive : 0 ≤ pitch := by omega
  rcases Nat.lt_trichotomy other y with before | same | after
  · have step : ((other + 1 : Nat) : Int) * pitch ≤ y * pitch :=
      Int.mul_le_mul_of_nonneg_right (by omega) positive
    rw [Int.natCast_add, Int.add_mul] at step
    omega
  · exact same
  · have step : ((y + 1 : Nat) : Int) * pitch ≤ other * pitch :=
      Int.mul_le_mul_of_nonneg_right (by omega) positive
    rw [Int.natCast_add, Int.add_mul] at step
    omega

theorem applyCopies_rows_inside {count len y x : Nat} {pitch : Int}
    (narrow : (len : Int) ≤ pitch) (below : y < count) (right : x < len) :
    applyCopies heap mem (rows count dst pitch src stride len) (dst + y * pitch + x) =
      heap (src + y * stride + x) := by
  apply applyCopies_written
  · intro copy member writes
    obtain ⟨other, _, rfl⟩ := mem_rows.mp member
    have same := row_unique dst src stride narrow right writes
    have column : (dst + y * pitch + x - (dst + y * pitch)).toNat = x := by omega
    rw [same]
    show heap (src + y * stride + (dst + y * pitch + x - (dst + y * pitch)).toNat) = _
    rw [column]
  · right
    refine ⟨_, mem_rows.mpr ⟨y, below, rfl⟩, ?_⟩
    show dst + y * pitch ≤ dst + y * pitch + x ∧ dst + y * pitch + x < dst + y * pitch + len
    omega

theorem applyCopies_rows_outside {count len : Nat} {pitch address : Int}
    (outside : ∀ y x : Nat, y < count → x < len → address ≠ dst + y * pitch + x) :
    applyCopies heap mem (rows count dst pitch src stride len) address = mem address := by
  apply applyCopies_frame
  intro copy member writes
  obtain ⟨y, below, rfl⟩ := mem_rows.mp member
  obtain ⟨low, high⟩ := writes
  dsimp only at low high
  apply outside y (address - (dst + y * pitch)).toNat below
  · omega
  · omega

end Rows

/-- The last row reaches furthest, so it alone decides. -/
theorem rows_readsWithin_iff (size count : Nat) (dst pitch : Int) (src stride len : Nat) :
    (∀ copy ∈ rows count dst pitch src stride len, copy.ReadsWithin size) ↔
      len = 0 ∨ count = 0 ∨ src + (count - 1) * stride + len ≤ size := by
  simp only [rows, List.forall_mem_map, List.mem_range, Copy.readsWithin_iff]
  constructor
  · intro within
    by_cases none : count = 0
    · exact Or.inr (Or.inl none)
    · rcases within (count - 1) (by omega) with empty | bound
      · exact Or.inl empty
      · exact Or.inr (Or.inr bound)
  · rintro (empty | none | bound) y inside
    · exact Or.inl empty
    · omega
    · have before : y * stride ≤ (count - 1) * stride := Nat.mul_le_mul_right stride (by omega)
      exact Or.inr (by omega)

end Obs2Mf.Copies
