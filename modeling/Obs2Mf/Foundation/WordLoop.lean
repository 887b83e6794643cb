set_option autoImplicit false

/- Counting loops over a machine word, `for (; counter < bound; counter += step)`. A
round emits what it does and hands a state on; the counter wraps around. -/
namespace Obs2Mf.WordLoop

variable {w : Nat} {σ ε : Type}

/-- `none` when `fuel` tests of the condition do not see the loop end. -/
def forWord (bound step : BitVec w) (round : BitVec w → σ → Option (List ε × σ)) :
    Nat → BitVec w → σ → Option (List ε × σ)
  | 0, _, _ => none
  | fuel + 1, counter, s =>
      if counter < bound then
        (round counter s).bind fun now =>
          (forWord bound step round fuel (counter + step) now.2).map fun rest =>
            (now.1 ++ rest.1, rest.2)
      else some ([], s)

variable {bound step : BitVec w} {round : BitVec w → σ → Option (List ε × σ)}

/-- The counter after some rounds. -/
def after (step counter : BitVec w) (rounds : Nat) : BitVec w :=
  counter + BitVec.ofNat w rounds * step

theorem after_zero (step counter : BitVec w) : after step counter 0 = counter := by
  simp only [after, BitVec.zero_mul, BitVec.add_zero]

theorem after_succ (step counter : BitVec w) (rounds : Nat) :
    after step (counter + step) rounds = after step counter (rounds + 1) := by
  have next : BitVec.ofNat w (rounds + 1) * step = step + BitVec.ofNat w rounds * step := by
    rw [BitVec.ofNat_add, BitVec.add_mul, BitVec.one_mul, BitVec.add_comm]
  rw [after, after, next, BitVec.add_assoc]

/-- A loop whose condition holds for `rounds` rounds and then fails does these rounds
in turn, given enough fuel. -/
theorem forWord_ends (rounds fuel : Nat) (counter : BitVec w) (done : Nat → List ε)
    (state : Nat → σ) (enough : rounds < fuel)
    (goes : ∀ k, k < rounds → after step counter k < bound)
    (stops : ¬ after step counter rounds < bound)
    (each : ∀ k, k < rounds →
      round (after step counter k) (state k) = some (done k, state (k + 1))) :
    forWord bound step round fuel counter (state 0) =
      some ((List.range rounds).flatMap done, state rounds) := by
  induction rounds generalizing fuel counter done state with
  | zero =>
      obtain ⟨fuel, rfl⟩ := Nat.exists_eq_succ_of_ne_zero (Nat.ne_of_gt enough)
      rw [after_zero] at stops
      rw [forWord, if_neg stops]
      rfl
  | succ rounds ih =>
      obtain ⟨fuel, rfl⟩ := Nat.exists_eq_succ_of_ne_zero (Nat.ne_of_gt (Nat.zero_lt_of_lt enough))
      have first := goes 0 (Nat.succ_pos rounds)
      have now := each 0 (Nat.succ_pos rounds)
      rw [after_zero] at first now
      have rest := ih fuel (counter + step) (fun k => done (k + 1)) (fun k => state (k + 1))
        (by omega)
        (by
          intro k below
          rw [after_succ]
          exact goes (k + 1) (by omega))
        (by
          rw [after_succ]
          exact stops)
        (by
          intro k below
          rw [after_succ]
          exact each (k + 1) (by omega))
      rw [forWord, if_pos first, now, Option.bind_some, rest, Option.map_some,
        List.range_succ_eq_map, List.flatMap_cons, List.flatMap_map]

/-- A loop whose condition holds of every counter it can reach never ends. -/
theorem forWord_diverges (reached : BitVec w → Prop)
    (goes : ∀ counter, reached counter → counter < bound ∧ reached (counter + step)) (fuel : Nat)
    (counter : BitVec w) (s : σ) (start : reached counter) :
    forWord bound step round fuel counter s = none := by
  induction fuel generalizing counter s with
  | zero => rfl
  | succ fuel ih =>
      obtain ⟨inside, later⟩ := goes counter start
      rw [forWord, if_pos inside]
      cases round counter s with
      | none => rfl
      | some now =>
          rw [Option.bind_some, ih (counter + step) now.2 later]
          rfl

end Obs2Mf.WordLoop
