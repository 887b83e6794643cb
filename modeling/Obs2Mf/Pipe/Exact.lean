import Mathlib.Data.List.GetD
import Obs2Mf.Foundation.Attempts
import Obs2Mf.Pipe.Client

set_option autoImplicit false

/- The two loops on which the frame protocol rests, call by call: what each call is asked for,
and what becomes of the buffer. -/
namespace Obs2Mf.Pipe

open Attempts Transfer

/-- Memory with some bytes put into it. -/
def fill (memory : Int → Byte) (offset : Nat) (bytes : List Byte) : Int → Byte := fun address =>
  if offset ≤ address ∧ address < offset + bytes.length then
    bytes.getD (address - offset).toNat 0
  else memory address

/-- The bytes in some place of memory. -/
def buffer (memory : Int → Byte) (offset count : Nat) : List Byte :=
  (List.range count).map fun k => memory ((offset + k : Nat) : Int)

/-- The reading end: its memory, from where the buffer begins, what the pipe has for it from now
on, and how the calls that come will cut it. -/
structure Reader where
  memory : Int → Byte
  stream : List Byte
  calls : Nat → Call

/-- The writing end: its memory, what it has put into the pipe, and how the calls will cut it. -/
structure Writer where
  memory : Int → Byte
  outgoing : List Byte
  calls : Nat → Call

namespace Reader

/-- `ReadFile(h, p + offset, want, &r, nullptr)`. -/
def readFile (offset want : BitVec 32) (r : Reader) : Bool × BitVec 32 × Reader :=
  let count := (r.calls 0).amount want.toNat r.stream.length
  (r.calls 0 ≠ .failed, .ofNat 32 count,
    ⟨fill r.memory offset.toNat (r.stream.take count), r.stream.drop count,
      fun k => r.calls (k + 1)⟩)

def readExact (n : BitVec 32) (r : Reader) (fuel : Nat) : Option (Attempts.Outcome 32 Reader) :=
  loop n readFile fuel 0#32 [] r

end Reader

namespace Writer

/-- `WriteFile(h, p + offset, want, &w, nullptr)`. -/
def writeFile (offset want : BitVec 32) (w : Writer) : Bool × BitVec 32 × Writer :=
  let count := (w.calls 0).amount want.toNat want.toNat
  (w.calls 0 ≠ .failed, .ofNat 32 count,
    ⟨w.memory, w.outgoing ++ buffer w.memory offset.toNat count, fun k => w.calls (k + 1)⟩)

def writeExact (n : BitVec 32) (w : Writer) (fuel : Nat) : Option (Attempts.Outcome 32 Writer) :=
  loop n writeFile fuel 0#32 [] w

end Writer

section Memory

variable (memory : Int → Byte)

theorem fill_nil (offset : Nat) : fill memory offset [] = memory := by
  funext address
  apply if_neg
  simp only [List.length_nil]
  omega

theorem fill_append {front : List Byte} {offset : Nat} (sized : front.length = offset)
    (back : List Byte) :
    fill (fill memory 0 front) offset back = fill memory 0 (front ++ back) := by
  subst sized
  funext address
  simp only [fill, List.length_append]
  by_cases late : (front.length : Int) ≤ address ∧ address < front.length + back.length
  · have place : address.toNat - front.length = (address - front.length).toNat := by omega
    rw [if_pos late, if_pos (by omega), Int.natCast_zero, Int.sub_zero,
      List.getD_append_right _ _ _ _ (by omega), place]
  · rw [if_neg late]
    by_cases early : (0 : Int) ≤ address ∧ address < front.length
    · rw [if_pos (by omega), if_pos (by omega), Int.natCast_zero, Int.sub_zero,
        List.getD_append _ _ _ _ (by omega)]
    · rw [if_neg (by omega), if_neg (by omega)]

theorem fill_inside {bytes : List Byte} {i : Nat} (inside : i < bytes.length) :
    fill memory 0 bytes i = bytes[i] := by
  rw [fill, if_pos (by omega), Int.natCast_zero, Int.sub_zero, Int.toNat_natCast,
    List.getD_eq_getElem _ _ inside]

theorem fill_outside {bytes : List Byte} {address : Int}
    (outside : address < 0 ∨ bytes.length ≤ address) :
    fill memory 0 bytes address = memory address := by
  apply if_neg
  omega

theorem buffer_append (front back : Nat) :
    buffer memory 0 front ++ buffer memory front back = buffer memory 0 (front + back) := by
  simp only [buffer, List.range_add, List.map_append, List.map_map, Nat.zero_add]
  rfl

end Memory

/-- What `got` bytes read leave. -/
structure Reader.After (r : Reader) (got : Nat) (now : Reader) : Prop where
  there : got ≤ r.stream.length
  stream : now.stream = r.stream.drop got
  memory : now.memory = fill r.memory 0 (r.stream.take got)

/-- What `put` bytes written leave. -/
structure Writer.After (w : Writer) (put : Nat) (now : Writer) : Prop where
  outgoing : now.outgoing = w.outgoing ++ buffer w.memory 0 put
  memory : now.memory = w.memory

theorem ofNat_amount (want : BitVec 32) (call : Call) (available : Nat) :
    (BitVec.ofNat 32 (call.amount want.toNat available)).toNat =
      call.amount want.toNat available := by
  have bounded := call.amount_le_want want.toNat available
  have size := want.isLt
  rw [BitVec.toNat_ofNat, Nat.mod_eq_of_lt (by omega)]

theorem ofNat_amount_failed (want : BitVec 32) (call : Call) (available : Nat)
    (failed : decide (call ≠ .failed) = false) :
    BitVec.ofNat 32 (call.amount want.toNat available) = 0#32 := by
  have same : call = .failed := by simpa using failed
  rw [same]
  rfl

theorem Reader.readFile_after {r now : Reader} {got : BitVec 32} (after : r.After got.toNat now)
    (want : BitVec 32) :
    (readFile got want now).2.1.toNat ≤ want.toNat ∧
      ((readFile got want now).1 = false → (readFile got want now).2.1 = 0#32) ∧
      r.After (got.toNat + (readFile got want now).2.1.toNat) (readFile got want now).2.2 := by
  have bounded := (now.calls 0).amount_le_want want.toNat now.stream.length
  have available := (now.calls 0).amount_le_available want.toNat now.stream.length
  have left : now.stream.length = r.stream.length - got.toNat := by
    rw [after.stream, List.length_drop]
  have there := after.there
  have length : (r.stream.take got.toNat).length = got.toNat := by
    rw [List.length_take]
    omega
  simp only [readFile, ofNat_amount]
  refine ⟨bounded, ofNat_amount_failed want _ _, by omega, ?_, ?_⟩
  · rw [after.stream, List.drop_drop]
  · rw [List.take_add, after.memory, after.stream, fill_append _ length]

theorem Writer.writeFile_after {w now : Writer} {put : BitVec 32} (after : w.After put.toNat now)
    (want : BitVec 32) :
    (writeFile put want now).2.1.toNat ≤ want.toNat ∧
      ((writeFile put want now).1 = false → (writeFile put want now).2.1 = 0#32) ∧
      w.After (put.toNat + (writeFile put want now).2.1.toNat) (writeFile put want now).2.2 := by
  have bounded := (now.calls 0).amount_le_want want.toNat want.toNat
  simp only [writeFile, ofNat_amount]
  refine ⟨bounded, ofNat_amount_failed want _ _, ?_, after.memory⟩
  rw [after.outgoing, after.memory, List.append_assoc, buffer_append]

/-- `ReadExact`, whatever happens on the pipe. -/
theorem Reader.readExact_ends (n : BitVec 32) (r : Reader) :
    ∃ o last, (∀ fuel, n.toNat < fuel → r.readExact n fuel = some o) ∧
      Transferred n readFile r r.After o last := by
  have start : r.After 0 r := ⟨Nat.zero_le _, rfl, (fill_nil _ _).symm⟩
  exact loop_transfers (fun got now _ after => Reader.readFile_after after (n - got)) start

/-- `WriteExact`, whatever happens on the pipe. -/
theorem Writer.writeExact_ends (n : BitVec 32) (w : Writer) :
    ∃ o last, (∀ fuel, n.toNat < fuel → w.writeExact n fuel = some o) ∧
      Transferred n writeFile w w.After o last := by
  have start : w.After 0 w := ⟨(List.append_nil _).symm, rfl⟩
  exact loop_transfers (fun put now _ after => Writer.writeFile_after after (n - put)) start

theorem Reader.After.received {n : BitVec 32} {r now : Reader} (after : r.After n.toNat now) :
    buffer now.memory 0 n.toNat = r.stream.take n.toNat := by
  have there := after.there
  have sized : (r.stream.take n.toNat).length = n.toNat := by
    rw [List.length_take]
    omega
  apply List.ext_getElem
  · simp [buffer, there]
  · intro i inside inside'
    simp only [buffer, List.getElem_map, List.getElem_range, Nat.zero_add]
    rw [after.memory, fill_inside _ inside']

@[simp] theorem buffer_length (memory : Int → Byte) (offset count : Nat) :
    (buffer memory offset count).length = count := by
  simp [buffer]

theorem buffer_take (memory : Int → Byte) (offset : Nat) {part count : Nat}
    (inside : part ≤ count) :
    (buffer memory offset count).take part = buffer memory offset part := by
  rw [buffer, buffer, ← List.map_take, List.take_range, Nat.min_eq_left inside]

section Links

variable (n : BitVec 32) (link : Link) (memory : Int → Byte)

/-- A reading end whose calls are cut as a list says, and fail from there on. -/
def Reader.cut (memory : Int → Byte) (stream : List Byte) (reads : List Call) : Reader :=
  ⟨memory, stream, fun k => reads.getD k .failed⟩

def Writer.cut (memory : Int → Byte) (outgoing : List Byte) (writes : List Call) : Writer :=
  ⟨memory, outgoing, fun k => writes.getD k .failed⟩

theorem headD_eq_getD (calls : List Call) : calls.headD .failed = calls.getD 0 .failed := by
  cases calls with
  | nil => rfl
  | cons first calls => rfl

theorem getD_tail (calls : List Call) :
    (fun k => calls.getD (k + 1) .failed) = fun k => calls.tail.getD k .failed := by
  cases calls with
  | nil => rfl
  | cons first calls => rfl

/-- The loop of `ReadExact` does what its model does to a link. -/
theorem Reader.readExact_link (fuel : Nat) (enough : n.toNat < fuel) :
    ∃ o, readExact n (cut memory link.incoming link.reads) fuel = some o ∧
      o.ok = (link.readExact n.toNat).1 ∧
      o.device = cut (fill memory 0 (link.readExact n.toNat).2.1)
        (link.readExact n.toNat).2.2.incoming (link.readExact n.toNat).2.2.reads := by
  have start : cut memory link.incoming link.reads =
      cut (fill memory 0 []) link.incoming link.reads := by
    rw [fill_nil]
  have one (calls : List Call) (done rest : List Byte) (device : Reader) (got : BitVec 32)
      (same : device = cut (fill memory 0 done) rest calls) (sized : done.length = got.toNat)
      (short : got < n) : ∃ next,
      readFile got (n - got) device = (decide (calls.headD .failed ≠ .failed),
        BitVec.ofNat 32 ((calls.headD .failed).amount (n.toNat - done.length) rest.length), next) ∧
      next = cut (fill memory 0
          (done ++ rest.take ((calls.headD .failed).amount (n.toNat - done.length) rest.length)))
        (rest.drop ((calls.headD .failed).amount (n.toNat - done.length) rest.length))
        calls.tail := by
    have left : (n - got).toNat = n.toNat - done.length := by
      rw [sized, BitVec.toNat_sub_of_le (BitVec.le_def.mpr (Nat.le_of_lt (BitVec.lt_def.mp short)))]
    refine ⟨_, ?_, rfl⟩
    subst same
    simp only [readFile, cut, left, headD_eq_getD, getD_tail]
    rw [fill_append _ sized]
    rfl
  exact loop_exactly one link.reads [] link.incoming _ 0#32 [] fuel start rfl
    (BitVec.le_def.mpr (Nat.zero_le _)) (by simpa using enough)

/-- The same for `WriteExact`. -/
theorem Writer.writeExact_link (fuel : Nat) (enough : n.toNat < fuel) :
    ∃ o, writeExact n (cut memory link.outgoing link.writes) fuel = some o ∧
      o.ok = (link.writeExact (buffer memory 0 n.toNat)).1 ∧
      o.device = cut memory (link.writeExact (buffer memory 0 n.toNat)).2.outgoing
        (link.writeExact (buffer memory 0 n.toNat)).2.writes := by
  have one (calls : List Call) (done rest : List Byte) (device : Writer) (put : BitVec 32)
      (same : device = cut memory (link.outgoing ++ done) calls ∧
        done ++ rest = buffer memory 0 n.toNat)
      (sized : done.length = put.toNat) (short : put < n) : ∃ next,
      writeFile put (n - put) device = (decide (calls.headD .failed ≠ .failed),
        BitVec.ofNat 32 ((calls.headD .failed).amount (n.toNat - done.length) rest.length), next) ∧
      next = cut memory (link.outgoing ++
          (done ++ rest.take ((calls.headD .failed).amount (n.toNat - done.length) rest.length)))
        calls.tail ∧
      (done ++ rest.take ((calls.headD .failed).amount (n.toNat - done.length) rest.length)) ++
        rest.drop ((calls.headD .failed).amount (n.toNat - done.length) rest.length) =
        buffer memory 0 n.toNat := by
    obtain ⟨rfl, whole⟩ := same
    have below := BitVec.lt_def.mp short
    have left : (n - put).toNat = n.toNat - done.length := by
      rw [sized, BitVec.toNat_sub_of_le (BitVec.le_def.mpr (Nat.le_of_lt below))]
    have unsent : rest = buffer memory put.toNat (n.toNat - done.length) := by
      have split := buffer_append memory put.toNat (n.toNat - put.toNat)
      rw [Nat.add_sub_cancel' (Nat.le_of_lt below), ← whole] at split
      rw [sized]
      exact (List.append_inj_right split (by rw [buffer_length, sized])).symm
    have length : rest.length = n.toNat - done.length := by
      rw [unsent, buffer_length]
    refine ⟨_, ?_, ⟨rfl, ?_⟩⟩
    · have bounded := (calls.headD .failed).amount_le_want (n.toNat - done.length)
        (n.toNat - done.length)
      rw [headD_eq_getD] at bounded ⊢
      simp only [writeFile, cut, left, length, getD_tail]
      rw [unsent, buffer_take memory _ bounded, List.append_assoc]
      rfl
    · rw [List.append_assoc, List.take_append_drop, whole]
  have start : cut memory link.outgoing link.writes =
      cut memory (link.outgoing ++ []) link.writes ∧
      [] ++ buffer memory 0 n.toNat = buffer memory 0 n.toNat := by
    rw [List.append_nil]
    exact ⟨rfl, rfl⟩
  obtain ⟨o, ended, ok, device, _⟩ := loop_exactly one link.writes [] (buffer memory 0 n.toNat) _
    0#32 [] fuel start rfl (BitVec.le_def.mpr (Nat.zero_le _)) (by simpa using enough)
  refine ⟨o, ended, ?_, ?_⟩
  · rw [ok, Link.writeExact, buffer_length]
  · rw [device, Link.writeExact, buffer_length]

end Links

/-- Both loops end. They make call after call, each for what the calls before it left, until all
bytes are across or a call moves none. `true` means that all are across, and then they are the
next bytes of the stream, or those of the buffer, however the pipe has cut them. -/
theorem exact_transfers (n : BitVec 32) :
    (∀ r : Reader, ∃ o last, (∀ fuel, n.toNat < fuel → r.readExact n fuel = some o) ∧
      Transferred n Reader.readFile r r.After o last ∧
      (∀ address : Int, address < 0 ∨ n.toNat ≤ address →
        o.device.memory address = r.memory address) ∧
      (o.ok = true → n.toNat ≤ r.stream.length ∧ o.device.stream = r.stream.drop n.toNat ∧
        buffer o.device.memory 0 n.toNat = r.stream.take n.toNat)) ∧
    (∀ w : Writer, ∃ o last, (∀ fuel, n.toNat < fuel → w.writeExact n fuel = some o) ∧
      Transferred n Writer.writeFile w w.After o last ∧
      (o.ok = true → o.device.outgoing = w.outgoing ++ buffer w.memory 0 n.toNat)) ∧
    ∀ (w : Writer) (r : Reader) (later : List Byte) (sent : Attempts.Outcome 32 Writer)
      (got : Attempts.Outcome 32 Reader) (fuel fuel' : Nat),
      w.writeExact n fuel = some sent → sent.ok = true →
      r.stream = sent.device.outgoing.drop w.outgoing.length ++ later →
      r.readExact n fuel' = some got → got.ok = true →
      buffer got.device.memory 0 n.toNat = buffer w.memory 0 n.toNat ∧
        got.device.stream = later := by
  have read (r : Reader) (o : Attempts.Outcome 32 Reader) (last : Nat)
      (done : Transferred n Reader.readFile r r.After o last) (ok : o.ok = true) :
      n.toNat ≤ r.stream.length ∧ o.device.stream = r.stream.drop n.toNat ∧
        buffer o.device.memory 0 n.toNat = r.stream.take n.toNat := by
    have after := done.device
    rw [done.ok.mp ok] at after
    exact ⟨after.there, after.stream, after.received⟩
  have written (w : Writer) (o : Attempts.Outcome 32 Writer) (last : Nat)
      (done : Transferred n Writer.writeFile w w.After o last) (ok : o.ok = true) :
      o.device.outgoing = w.outgoing ++ buffer w.memory 0 n.toNat := by
    have after := done.device
    rw [done.ok.mp ok] at after
    exact after.outgoing
  refine ⟨?_, ?_, ?_⟩
  · intro r
    obtain ⟨o, last, ended, done⟩ := r.readExact_ends n
    refine ⟨o, last, ended, done, ?_, read r o last done⟩
    intro address outside
    have inside := done.inside
    rw [done.device.memory, fill_outside]
    rw [List.length_take]
    omega
  · intro w
    obtain ⟨o, last, ended, done⟩ := w.writeExact_ends n
    exact ⟨o, last, ended, done, written w o last done⟩
  · intro w r later sent got fuel fuel' writes wrote stream reads ok
    obtain ⟨o, last, ended, done⟩ := w.writeExact_ends n
    obtain ⟨o', last', ended', done'⟩ := r.readExact_ends n
    have same : sent = o := loop_unique writes (ended _ (Nat.lt_succ_self _))
    have same' : got = o' := loop_unique reads (ended' _ (Nat.lt_succ_self _))
    subst same same'
    obtain ⟨_, left, received⟩ := read r got last' done' ok
    rw [written w sent last done wrote, List.drop_left] at stream
    rw [received, left, stream, List.take_left' (buffer_length _ _ _),
      List.drop_left' (buffer_length _ _ _)]
    exact ⟨rfl, rfl⟩

/-- Two bytes are written one by one and read at once, in front of a third. -/
theorem pair_transfers : ∃ got : Attempts.Outcome 32 Reader,
    (⟨fun _ => 0, [7, 8, 9], fun _ => .moved 2⟩ : Reader).readExact 2#32 3 = some got ∧
      buffer got.device.memory 0 2 = [7, 8] ∧ got.device.stream = [9] :=
  ⟨_, rfl, (exact_transfers 2#32).2.2
    ⟨fun address => if address = 0 then 7 else 8, [], fun _ => .moved 1⟩
    ⟨fun _ => 0, [7, 8, 9], fun _ => .moved 2⟩ [9] _ _ 3 3 rfl rfl rfl rfl rfl⟩

end Obs2Mf.Pipe
