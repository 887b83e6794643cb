set_option autoImplicit false

/- Exact transfers over a channel that moves data in pieces of its own choosing. -/
namespace Obs2Mf.Transfer

variable {β : Type}

/-- The outcome of one read or write call: an error, or how much the channel was
ready to move. It never moves more than was asked for or is there. -/
inductive Call where
  | failed
  | moved (count : Nat)
  deriving DecidableEq, Repr

/-- How many elements a call asked for `want` moves out of `available`. -/
def Call.amount (want available : Nat) : Call → Nat
  | failed => 0
  | moved count => min count (min want available)

theorem Call.amount_le_want (call : Call) (want available : Nat) :
    call.amount want available ≤ want := by
  cases call with
  | failed => exact Nat.zero_le _
  | moved count => simp only [amount]; omega

theorem Call.amount_le_available (call : Call) (want available : Nat) :
    call.amount want available ≤ available := by
  cases call with
  | failed => exact Nat.zero_le _
  | moved count => simp only [amount]; omega

/-- What a transfer loop leaves behind. -/
structure Result (β : Type) where
  ok : Bool
  done : List β
  rest : List β
  calls : List Call
  deriving DecidableEq, Repr

/-- Call after call until `n` elements are across, giving up at the first call
that fails or moves nothing. A list of calls that ends stands for a channel that
fails from there on. -/
def exactly (n : Nat) : List Call → List β → List β → Result β
  | calls, done, rest =>
      if done.length < n then
        match calls with
        | [] => ⟨false, done, rest, []⟩
        | call :: calls =>
            let count := call.amount (n - done.length) rest.length
            if count = 0 then ⟨false, done, rest, calls⟩
            else exactly n calls (done ++ rest.take count) (rest.drop count)
      else ⟨true, done, rest, calls⟩

theorem exactly_full (n : Nat) (calls : List Call) (done rest : List β) (full : n ≤ done.length) :
    exactly n calls done rest = ⟨true, done, rest, calls⟩ := by
  unfold exactly
  exact if_neg (by omega)

/-- A call that moves nothing ends the loop, and so does having no call left. -/
theorem exactly_stops {n : Nat} {calls : List Call} {done rest : List β} (short : done.length < n)
    (still : (calls.headD .failed).amount (n - done.length) rest.length = 0) :
    exactly n calls done rest = ⟨false, done, rest, calls.tail⟩ := by
  unfold exactly
  rw [if_pos short]
  cases calls with
  | nil => rfl
  | cons call calls => exact if_pos still

theorem exactly_moves {n : Nat} {call : Call} {done rest : List β} (calls : List Call)
    (short : done.length < n) (moving : call.amount (n - done.length) rest.length ≠ 0) :
    exactly n (call :: calls) done rest =
      exactly n calls (done ++ rest.take (call.amount (n - done.length) rest.length))
        (rest.drop (call.amount (n - done.length) rest.length)) := by
  rw [exactly, if_pos short]
  exact if_neg moving

theorem moved_within {n : Nat} {done : List β} (call : Call) (rest : List β)
    (short : done.length < n) :
    (done ++ rest.take (call.amount (n - done.length) rest.length)).length ≤ n := by
  have bound := call.amount_le_want (n - done.length) rest.length
  rw [List.length_append, List.length_take]
  omega

/-- The loop only moves elements from one side to the other, in order. -/
theorem exactly_conserves (n : Nat) (calls : List Call) (done rest : List β) :
    (exactly n calls done rest).done ++ (exactly n calls done rest).rest = done ++ rest := by
  induction calls generalizing done rest with
  | nil => unfold exactly; split <;> rfl
  | cons call calls ih =>
      unfold exactly
      split
      · dsimp only
        split
        · rfl
        · rw [ih, List.append_assoc, List.take_append_drop]
      · rfl

theorem exactly_length_le (n : Nat) (calls : List Call) (done rest : List β)
    (room : done.length ≤ n) : (exactly n calls done rest).done.length ≤ n := by
  induction calls generalizing done rest with
  | nil => unfold exactly; split <;> exact room
  | cons call calls ih =>
      unfold exactly
      split
      · rename_i short
        dsimp only
        split
        · exact room
        · exact ih _ _ (moved_within call rest short)
      · exact room

/-- Success means that all `n` elements are across, and nothing else does. -/
theorem exactly_ok_iff (n : Nat) (calls : List Call) (done rest : List β)
    (room : done.length ≤ n) :
    (exactly n calls done rest).ok = true ↔ (exactly n calls done rest).done.length = n := by
  induction calls generalizing done rest with
  | nil =>
      unfold exactly
      split
      · rename_i short
        exact ⟨fun impossible => (Bool.false_ne_true impossible).elim, fun full => by
          dsimp only at full; omega⟩
      · exact ⟨fun _ => by dsimp only; omega, fun _ => rfl⟩
  | cons call calls ih =>
      unfold exactly
      split
      · rename_i short
        dsimp only
        split
        · exact ⟨fun impossible => (Bool.false_ne_true impossible).elim, fun full => by
            dsimp only at full; omega⟩
        · exact ih _ _ (moved_within call rest short)
      · exact ⟨fun _ => by dsimp only; omega, fun _ => rfl⟩

/-- A successful transfer from scratch moved the first `n` elements and no more,
however the channel cut them. -/
theorem exactly_ok (n : Nat) (calls : List Call) (rest : List β)
    (success : (exactly n calls [] rest).ok = true) :
    (exactly n calls [] rest).done = rest.take n ∧ (exactly n calls [] rest).rest = rest.drop n ∧
      n ≤ rest.length := by
  have full := (exactly_ok_iff n calls [] rest (Nat.zero_le n)).mp success
  have kept := exactly_conserves n calls [] rest
  rw [List.nil_append] at kept
  have front := congrArg (List.take n) kept
  have back := congrArg (List.drop n) kept
  have long := congrArg List.length kept
  rw [List.take_left' full] at front
  rw [List.drop_left' full] at back
  rw [List.length_append] at long
  exact ⟨front, back, by omega⟩

/-- A channel that moves the whole request at once. -/
theorem exactly_whole (n : Nat) (calls : List Call) (front back : List β)
    (sized : front.length = n) (some : 0 < n) :
    exactly n (.moved n :: calls) [] (front ++ back) = ⟨true, front, back, calls⟩ := by
  have count : (Call.moved n).amount (n - ([] : List β).length) (front ++ back).length = n := by
    simp only [Call.amount, List.length_nil, List.length_append]
    omega
  have reached : ([] ++ (front ++ back).take n : List β).length = n := by
    rw [List.nil_append, List.take_left' sized, sized]
  rw [exactly, if_pos (by simpa only [List.length_nil] using some)]
  dsimp only
  rw [count, if_neg (Nat.ne_of_gt some), exactly_full _ _ _ _ (by omega), List.nil_append,
    List.take_left' sized, List.drop_left' sized]

end Obs2Mf.Transfer
