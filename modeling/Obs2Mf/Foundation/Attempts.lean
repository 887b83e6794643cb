import Mathlib.Algebra.Order.Group.Nat
import Obs2Mf.Foundation.Transfer

set_option autoImplicit false

/- Loops that call a device until a number of units is across, where each call is asked for
what is left and moves as much of it as it likes. -/
namespace Obs2Mf.Attempts

open Transfer

variable {w : Nat} {σ : Type}

/-- A call: where in the buffer, how much was asked for, and how much was moved. -/
structure Attempt (w : Nat) where
  offset : BitVec w
  want : BitVec w
  moved : BitVec w
  deriving DecidableEq, Repr

/-- What a loop leaves behind. -/
structure Outcome (w : Nat) (σ : Type) where
  ok : Bool
  attempts : List (Attempt w)
  device : σ

/-- `while (got < n) { if (!call(p + got, n - got, &r) || r == 0) return false; got += r; }`. -/
def loop (n : BitVec w) (call : BitVec w → BitVec w → σ → Bool × BitVec w × σ) :
    Nat → BitVec w → List (Attempt w) → σ → Option (Outcome w σ)
  | 0, _, _, _ => none
  | fuel + 1, got, attempts, device =>
      if got < n then
        let (ok, r, device) := call got (n - got) device
        let attempts := attempts ++ [⟨got, n - got, r⟩]
        if !ok || r = 0#w then some ⟨false, attempts, device⟩
        else loop n call fuel (got + r) attempts device
      else some ⟨true, attempts, device⟩

/-- Each call of a chain is asked for exactly what the calls before it left of `n`. It ends
when nothing is left, or with a call that moves nothing. -/
inductive Chain {w : Nat} (n : Nat) : Nat → List (Attempt w) → Nat → Prop
  | full : Chain n n [] n
  | still (got : Nat) (attempt : Attempt w) (short : got < n)
      (offset : attempt.offset.toNat = got) (want : got + attempt.want.toNat = n)
      (moved : attempt.moved = 0#w) : Chain n got [attempt] got
  | call (got : Nat) (attempt : Attempt w) (rest : List (Attempt w)) (last : Nat)
      (offset : attempt.offset.toNat = got) (want : got + attempt.want.toNat = n)
      (some : attempt.moved ≠ 0#w) (moved : attempt.moved.toNat ≤ attempt.want.toNat)
      (later : Chain n (got + attempt.moved.toNat) rest last) :
      Chain n got (attempt :: rest) last

/-- The calls were made, one after the other, and answered so by the device. -/
inductive Made (call : BitVec w → BitVec w → σ → Bool × BitVec w × σ) :
    σ → List (Attempt w) → σ → Prop
  | none (device : σ) : Made call device [] device
  | call (device next after : σ) (ok : Bool) (attempt : Attempt w) (rest : List (Attempt w))
      (answered : call attempt.offset attempt.want device = (ok, attempt.moved, next))
      (later : Made call next rest after) : Made call device (attempt :: rest) after

theorem Chain.le {n got last : Nat} {attempts : List (Attempt w)}
    (chain : Chain n got attempts last) (room : got ≤ n) : last ≤ n := by
  induction chain with
  | full => exact Nat.le_refl n
  | still got attempt short => exact room
  | call got attempt rest last offset want some moved later ih =>
      apply ih
      omega

/-- A chain that ends before all is across ends with a call that moved nothing. -/
theorem Chain.stopped {n got last : Nat} {attempts : List (Attempt w)}
    (chain : Chain n got attempts last) (short : last ≠ n) :
    ∃ attempt, attempts.getLast? = some attempt ∧ attempt.moved = 0#w := by
  induction chain with
  | full => exact absurd rfl short
  | still got attempt _ _ _ moved => exact ⟨attempt, rfl, moved⟩
  | call got attempt rest last _ _ _ _ _ ih =>
      obtain ⟨final, ends, moved⟩ := ih short
      refine ⟨final, ?_, moved⟩
      rw [List.getLast?_cons, ends]
      rfl

theorem loop_stops {n : BitVec w} {call : BitVec w → BitVec w → σ → Bool × BitVec w × σ}
    {got r : BitVec w} {ok : Bool} {device after : σ} (fuel : Nat) (attempts : List (Attempt w))
    (short : got < n) (made : call got (n - got) device = (ok, r, after))
    (still : (!ok || r = 0#w) = true) :
    loop n call (fuel + 1) got attempts device =
      some ⟨false, attempts ++ [⟨got, n - got, r⟩], after⟩ := by
  rw [loop, if_pos short, made]
  exact if_pos still

theorem loop_moves {n : BitVec w} {call : BitVec w → BitVec w → σ → Bool × BitVec w × σ}
    {got r : BitVec w} {ok : Bool} {device after : σ} (fuel : Nat) (attempts : List (Attempt w))
    (short : got < n) (made : call got (n - got) device = (ok, r, after))
    (moving : ¬ (!ok || r = 0#w) = true) :
    loop n call (fuel + 1) got attempts device =
      loop n call fuel (got + r) (attempts ++ [⟨got, n - got, r⟩]) after := by
  rw [loop, if_pos short, made]
  exact if_neg moving

theorem loop_full {n : BitVec w} (call : BitVec w → BitVec w → σ → Bool × BitVec w × σ)
    {got : BitVec w} (fuel : Nat) (attempts : List (Attempt w)) (device : σ) (full : ¬ got < n) :
    loop n call (fuel + 1) got attempts device = some ⟨true, attempts, device⟩ := by
  rw [loop, if_neg full]

/-- What a call moves of the units left does not overflow their count. -/
theorem add_within (n : BitVec w) {got r : BitVec w} (inside : got.toNat + r.toNat ≤ n.toNat) :
    (got + r).toNat = got.toNat + r.toNat := by
  have size := n.isLt
  rw [BitVec.toNat_add, Nat.mod_eq_of_lt (by omega)]

theorem loop_more {n : BitVec w} {call : BitVec w → BitVec w → σ → Bool × BitVec w × σ}
    {fuel more : Nat} {got : BitVec w} {attempts : List (Attempt w)} {device : σ} {o : Outcome w σ}
    (ended : loop n call fuel got attempts device = some o) (enough : fuel ≤ more) :
    loop n call more got attempts device = some o := by
  induction fuel generalizing more got attempts device with
  | zero => cases ended
  | succ fuel ih =>
      obtain ⟨more, rfl⟩ := Nat.exists_eq_add_of_le' (show 1 ≤ more by omega)
      simp only [loop] at ended ⊢
      split at ended
      · rename_i short
        rw [if_pos short]
        split at ended
        · rename_i stopped
          rw [if_pos stopped]
          exact ended
        · rename_i moving
          rw [if_neg moving]
          exact ih ended (by omega)
      · rename_i full
        rw [if_neg full]
        exact ended

theorem loop_unique {n : BitVec w} {call : BitVec w → BitVec w → σ → Bool × BitVec w × σ}
    {fuel fuel' : Nat} {got : BitVec w} {attempts : List (Attempt w)} {device : σ}
    {o o' : Outcome w σ} (ended : loop n call fuel got attempts device = some o)
    (ended' : loop n call fuel' got attempts device = some o') : o = o' := by
  have first := loop_more ended (Nat.le_max_left fuel fuel')
  have second := loop_more ended' (Nat.le_max_right fuel fuel')
  exact Option.some.inj (first.symm.trans second)

/-- The rule for these loops: where every call moves no more than it was asked for, moves nothing
when it fails, and takes `inv` from what is across before it to what is across after it. -/
theorem loop_ends {n : BitVec w} {call : BitVec w → BitVec w → σ → Bool × BitVec w × σ}
    {inv : Nat → σ → Prop}
    (fair : ∀ got device, got < n → inv got.toNat device →
      (call got (n - got) device).2.1.toNat ≤ (n - got).toNat ∧
      ((call got (n - got) device).1 = false → (call got (n - got) device).2.1 = 0#w) ∧
      inv (got.toNat + (call got (n - got) device).2.1.toNat) (call got (n - got) device).2.2)
    (fuel : Nat) (got : BitVec w) (attempts : List (Attempt w)) (device : σ)
    (room : got ≤ n) (enough : n.toNat - got.toNat < fuel) (start : inv got.toNat device) :
    ∃ o last more, loop n call fuel got attempts device = some o ∧
      o.attempts = attempts ++ more ∧ Chain n.toNat got.toNat more last ∧
      Made call device more o.device ∧ inv last o.device ∧ (o.ok = true ↔ last = n.toNat) := by
  induction fuel generalizing got attempts device with
  | zero => omega
  | succ fuel ih =>
      by_cases short : got < n
      · obtain ⟨bounded, silent, next⟩ := fair got device short start
        rcases made : call got (n - got) device with ⟨ok, r, after⟩
        rw [made] at bounded silent next
        dsimp only at bounded silent next
        have below : got.toNat < n.toNat := BitVec.lt_def.mp short
        have left : got.toNat + (n - got).toNat = n.toNat := by
          rw [BitVec.toNat_sub_of_le (BitVec.le_def.mpr (Nat.le_of_lt below))]
          omega
        by_cases stopped : (!ok || r = 0#w) = true
        · have none : r = 0#w := by
            cases ok with
            | false => exact silent rfl
            | true => simpa using stopped
          subst none
          refine ⟨⟨false, attempts ++ [⟨got, n - got, 0#w⟩], after⟩, got.toNat,
            [⟨got, n - got, 0#w⟩], ?_, rfl, ?_, ?_, ?_, ?_⟩
          · exact loop_stops fuel attempts short made stopped
          · exact Chain.still got.toNat _ below rfl left rfl
          · exact Made.call device after after ok _ [] made (Made.none after)
          · simpa using next
          · simp only [Bool.false_eq_true, false_iff]
            omega
        · have some : r ≠ 0#w := by
            intro zero
            apply stopped
            simp [zero]
          have positive : r.toNat ≠ 0 := fun zero => some (BitVec.eq_of_toNat_eq zero)
          have sum : (got + r).toNat = got.toNat + r.toNat := add_within n (by omega)
          have reached : got + r ≤ n := by
            rw [BitVec.le_def, sum]
            omega
          obtain ⟨o, last, more, ended, recorded, later, calls, final, full⟩ :=
            ih (got + r) (attempts ++ [⟨got, n - got, r⟩]) after reached (by omega)
              (by rw [sum]; exact next)
          rw [sum] at later
          refine ⟨o, last, ⟨got, n - got, r⟩ :: more, ?_, ?_, ?_, ?_, final, full⟩
          · rw [loop_moves fuel attempts short made stopped, ended]
          · rw [recorded, List.append_assoc]
            rfl
          · exact Chain.call got.toNat _ more last rfl left some bounded later
          · exact Made.call device after o.device ok _ more made calls
      · have full : got.toNat = n.toNat := by
          have above := BitVec.le_def.mp room
          have not_below : ¬ got.toNat < n.toNat := fun below => short (BitVec.lt_def.mpr below)
          omega
        refine ⟨⟨true, attempts, device⟩, got.toNat, [], ?_, ?_, ?_, Made.none device, start, ?_⟩
        · exact loop_full call fuel attempts device short
        · rw [List.append_nil]
        · rw [full]
          exact Chain.full
        · exact iff_of_true rfl full

/-- What a transfer of `n` units has done after its last call, when `last` units are across:
the calls it made of the device, and that it gave up at one that moved nothing or not at all. -/
structure Transferred (n : BitVec w) (call : BitVec w → BitVec w → σ → Bool × BitVec w × σ)
    (device : σ) (after : Nat → σ → Prop) (o : Outcome w σ) (last : Nat) : Prop where
  asked : Chain n.toNat 0 o.attempts last
  made : Made call device o.attempts o.device
  inside : last ≤ n.toNat
  ok : o.ok = true ↔ last = n.toNat
  gaveUp : o.ok = false → ∃ attempt, o.attempts.getLast? = some attempt ∧ attempt.moved = 0#w
  device : after last o.device

/-- The loop ends, after at most one call more than there are units to move. -/
theorem loop_transfers {n : BitVec w}
    {call : BitVec w → BitVec w → σ → Bool × BitVec w × σ} {after : Nat → σ → Prop}
    (fair : ∀ got device, got < n → after got.toNat device →
      (call got (n - got) device).2.1.toNat ≤ (n - got).toNat ∧
      ((call got (n - got) device).1 = false → (call got (n - got) device).2.1 = 0#w) ∧
      after (got.toNat + (call got (n - got) device).2.1.toNat) (call got (n - got) device).2.2)
    {device : σ} (start : after 0 device) :
    ∃ o last, (∀ fuel, n.toNat < fuel → loop n call fuel 0#w [] device = some o) ∧
      Transferred n call device after o last := by
  have zero : (0#w).toNat = 0 := by simp
  obtain ⟨o, last, attempts, ended, recorded, chain, made, final, full⟩ :=
    loop_ends fair (n.toNat + 1) 0#w [] device (BitVec.le_def.mpr (by omega)) (by omega)
      (zero.symm ▸ start)
  rw [zero] at chain
  refine ⟨o, last, ?_, ?_⟩
  · intro fuel enough
    exact loop_more ended enough
  · rw [List.nil_append] at recorded
    subst recorded
    refine ⟨chain, made, chain.le (Nat.zero_le _), full, ?_, final⟩
    intro failed
    apply chain.stopped
    intro reached
    rw [full.mpr reached] at failed
    cases failed

section Exactly

variable {β : Type} {n : BitVec w} {call : BitVec w → BitVec w → σ → Bool × BitVec w × σ}
  {R : List Call → List β → List β → σ → Prop}

/-- Where a call moves what `exactly` moves, so does the loop. -/
theorem loop_exactly
    (one : ∀ calls done rest device (got : BitVec w), R calls done rest device →
      done.length = got.toNat → got < n → ∃ next,
        call got (n - got) device = (decide (calls.headD .failed ≠ .failed),
          BitVec.ofNat w
            ((calls.headD .failed).amount (n.toNat - done.length) rest.length), next) ∧
        R calls.tail
          (done ++ rest.take ((calls.headD .failed).amount (n.toNat - done.length) rest.length))
          (rest.drop ((calls.headD .failed).amount (n.toNat - done.length) rest.length)) next)
    (calls : List Call) (done rest : List β) (device : σ) (got : BitVec w)
    (attempts : List (Attempt w)) (fuel : Nat) (related : R calls done rest device)
    (sized : done.length = got.toNat) (room : got ≤ n) (enough : n.toNat - got.toNat < fuel) :
    ∃ o, loop n call fuel got attempts device = some o ∧
      o.ok = (exactly n.toNat calls done rest).ok ∧
      R (exactly n.toNat calls done rest).calls (exactly n.toNat calls done rest).done
        (exactly n.toNat calls done rest).rest o.device := by
  induction fuel generalizing calls done rest device got attempts with
  | zero => omega
  | succ fuel ih =>
      by_cases short : got < n
      · have below : done.length < n.toNat := sized ▸ BitVec.lt_def.mp short
        obtain ⟨next, made, related⟩ := one calls done rest device got related sized short
        have bounded := (calls.headD .failed).amount_le_want (n.toNat - done.length) rest.length
        generalize count_eq :
          (calls.headD .failed).amount (n.toNat - done.length) rest.length = count
          at made related bounded
        have size := n.isLt
        have word : (BitVec.ofNat w count).toNat = count := by
          rw [BitVec.toNat_ofNat, Nat.mod_eq_of_lt (by omega)]
        by_cases none : count = 0
        · rw [none, List.take_zero, List.append_nil, List.drop_zero] at related
          rw [exactly_stops below (count_eq.trans none),
            loop_stops fuel attempts short made (by simp [none])]
          exact ⟨_, rfl, rfl, related⟩
        · cases calls with
          | nil => exact absurd count_eq.symm none
          | cons first calls =>
              have moving : first ≠ .failed := by
                rintro rfl
                exact none count_eq.symm
              have some : BitVec.ofNat w count ≠ 0#w := by
                intro zero
                rw [zero, BitVec.toNat_ofNat, Nat.zero_mod] at word
                exact none word.symm
              have sum : (got + BitVec.ofNat w count).toNat = got.toNat + count := by
                rw [add_within n (by omega), word]
              have available := first.amount_le_available (n.toNat - done.length) rest.length
              have moved : first.amount (n.toNat - done.length) rest.length = count := count_eq
              have step := exactly_moves calls below (moved.trans_ne none)
              rw [moved] at step
              have longer : (done ++ rest.take count).length = done.length + count := by
                rw [List.length_append, List.length_take]
                omega
              rw [step, loop_moves fuel attempts short made (by simp [moving, some])]
              apply ih _ _ _ _ _ _ related
              · rw [longer, sum, sized]
              · rw [BitVec.le_def, sum]
                omega
              · rw [sum]
                omega
      · have full : n.toNat ≤ done.length := by
          have not_below : ¬ got.toNat < n.toNat := fun below => short (BitVec.lt_def.mpr below)
          omega
        rw [exactly_full _ _ _ _ full, loop_full call fuel attempts device short]
        exact ⟨_, rfl, rfl, related⟩

end Exactly

end Obs2Mf.Attempts
