import Mathlib.Algebra.Ring.Nat

set_option autoImplicit false

/- Packed little-endian records: what a `#pragma pack(1)` structure of unsigned
integers is as bytes. -/
namespace Obs2Mf.Bytes

/-- The low `width` bytes of a number, least significant first. -/
def leBytes : Nat → Nat → List UInt8
  | 0, _ => []
  | width + 1, value => UInt8.ofNat value :: leBytes width (value / 256)

/-- The number that little-endian bytes spell. -/
def leValue : List UInt8 → Nat
  | [] => 0
  | byte :: rest => byte.toNat + 256 * leValue rest

@[simp] theorem leBytes_length (width value : Nat) : (leBytes width value).length = width := by
  induction width generalizing value with
  | zero => rfl
  | succ width ih => simp only [leBytes, List.length_cons, ih]

theorem leValue_leBytes (width value : Nat) :
    leValue (leBytes width value) = value % 256 ^ width := by
  induction width generalizing value with
  | zero => simp only [leBytes, leValue, Nat.pow_zero, Nat.mod_one]
  | succ width ih =>
      have low : (UInt8.ofNat value).toNat = value % 256 := UInt8.toNat_ofNat'
      rw [leBytes, leValue, ih, low, Nat.pow_succ, Nat.mul_comm (256 ^ width), Nat.mod_mul]

/-- Bytes are recovered from the number they spell. -/
theorem leBytes_leValue (bytes : List UInt8) : leBytes bytes.length (leValue bytes) = bytes := by
  induction bytes with
  | nil => rfl
  | cons byte rest ih =>
      have low : UInt8.ofNat (byte.toNat + 256 * leValue rest) = byte := by
        apply UInt8.toNat_inj.mp
        have small := byte.toNat_lt
        rw [UInt8.toNat_ofNat']
        omega
      have high : (byte.toNat + 256 * leValue rest) / 256 = leValue rest := by
        have small := byte.toNat_lt
        omega
      rw [List.length_cons, leValue, leBytes, low, high, ih]

theorem leValue_lt (bytes : List UInt8) : leValue bytes < 256 ^ bytes.length := by
  induction bytes with
  | nil => exact Nat.one_pos
  | cons byte rest ih =>
      have small := byte.toNat_lt
      rw [List.length_cons, leValue, Nat.pow_succ]
      omega

/-- Reads every field of a packed record, in order of declaration. -/
def unpack : List Nat → List UInt8 → List Nat
  | [], _ => []
  | width :: widths, bytes => leValue (bytes.take width) :: unpack widths (bytes.drop width)

/-- The bytes of a packed record. -/
def pack : List Nat → List Nat → List UInt8
  | width :: widths, value :: values => leBytes width value ++ pack widths values
  | _, _ => []

/-- Each value fits the width of its field. -/
def Fits : List Nat → List Nat → Prop
  | [], [] => True
  | width :: widths, value :: values => value < 256 ^ width ∧ Fits widths values
  | _, _ => False

theorem pack_length (widths values : List Nat) (fits : Fits widths values) :
    (pack widths values).length = widths.sum := by
  induction widths generalizing values with
  | nil => cases values <;> rfl
  | cons width widths ih =>
      cases values with
      | nil => exact fits.elim
      | cons value values =>
          simp only [pack, List.length_append, leBytes_length, List.sum_cons, ih values fits.2]

/-- Reading a record back gives its values, whatever bytes follow it. -/
theorem unpack_pack (widths values : List Nat) (rest : List UInt8) (fits : Fits widths values) :
    unpack widths (pack widths values ++ rest) = values := by
  induction widths generalizing values with
  | nil => cases values with
    | nil => rfl
    | cons value values => exact fits.elim
  | cons width widths ih =>
      cases values with
      | nil => exact fits.elim
      | cons value values =>
          have front : (leBytes width value ++ (pack widths values ++ rest)).take width =
              leBytes width value :=
            List.take_left' (leBytes_length width value)
          have back : (leBytes width value ++ (pack widths values ++ rest)).drop width =
              pack widths values ++ rest :=
            List.drop_left' (leBytes_length width value)
          simp only [pack, List.append_assoc, unpack, front, back, leValue_leBytes,
            Nat.mod_eq_of_lt fits.1, ih values fits.2]

end Obs2Mf.Bytes
