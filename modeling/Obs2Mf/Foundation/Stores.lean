set_option autoImplicit false

/- Single stores into a buffer, and loops of them that leave nothing of what was there. -/
namespace Obs2Mf.Stores

variable {α : Type}

structure Store (α : Type) where
  offset : Nat
  value : α
  deriving DecidableEq, Repr

def writeAll (buf : List α) (stores : List (Store α)) : List α :=
  stores.foldl (fun buf store => buf.set store.offset store.value) buf

@[simp] theorem writeAll_cons (buf : List α) (store : Store α) (rest : List (Store α)) :
    writeAll buf (store :: rest) = writeAll (buf.set store.offset store.value) rest := rfl

@[simp] theorem writeAll_length (buf : List α) (stores : List (Store α)) :
    (writeAll buf stores).length = buf.length := by
  induction stores generalizing buf with
  | nil => rfl
  | cons store rest ih => rw [writeAll_cons, ih, List.length_set]

/-- Every store puts at its offset what belongs there. -/
def Agree (f : Nat → α) (stores : List (Store α)) : Prop :=
  ∀ store ∈ stores, store.value = f store.offset

def Covers (n : Nat) (stores : List (Store α)) : Prop :=
  ∀ i, i < n → ∃ store ∈ stores, store.offset = i

/-- An offset that some store writes ends up with what belongs there, and stays so. -/
theorem writeAll_written (f : Nat → α) (buf : List α) (stores : List (Store α)) (i : Nat)
    (agree : Agree f stores) (inside : i < buf.length)
    (written : buf[i]? = some (f i) ∨ ∃ store ∈ stores, store.offset = i) :
    (writeAll buf stores)[i]? = some (f i) := by
  induction stores generalizing buf with
  | nil =>
      rcases written with already | ⟨_, impossible, _⟩
      · exact already
      · cases impossible
  | cons store rest ih =>
      have value : store.value = f store.offset := agree store List.mem_cons_self
      have later : Agree f rest := by
        intro other member
        exact agree other (List.mem_cons_of_mem store member)
      rw [writeAll_cons]
      apply ih _ later
      · rw [List.length_set]
        exact inside
      · by_cases here : store.offset = i
        · left
          rw [← here, List.getElem?_set_self (by omega), value]
        · rcases written with already | ⟨other, member, there⟩
          · left
            rw [List.getElem?_set_ne here]
            exact already
          · right
            rcases List.mem_cons.mp member with same | member
            · rw [same] at there
              exact (here there).elim
            · exact ⟨other, member, there⟩

/-- Stores that cover the buffer decide all of it. -/
theorem writeAll_covered (f : Nat → α) (buf : List α) (stores : List (Store α))
    (agree : Agree f stores) (covers : Covers buf.length stores) :
    writeAll buf stores = (List.range buf.length).map f := by
  apply List.ext_getElem?
  intro i
  by_cases inside : i < buf.length
  · rw [writeAll_written f buf stores i agree inside (Or.inr (covers i inside)),
      List.getElem?_map, List.getElem?_range inside]
    rfl
  · have past : (writeAll buf stores)[i]? = none := by
      apply List.getElem?_eq_none
      rw [writeAll_length]
      omega
    have short : ((List.range buf.length).map f)[i]? = none := by
      apply List.getElem?_eq_none
      rw [List.length_map, List.length_range]
      omega
    rw [past, short]

/-- The same stores into memory that has no end. -/
def applyStores (mem : Nat → α) (stores : List (Store α)) : Nat → α :=
  stores.foldl (fun mem store address =>
    if address = store.offset then store.value else mem address) mem

@[simp] theorem applyStores_cons (mem : Nat → α) (store : Store α) (rest : List (Store α)) :
    applyStores mem (store :: rest) = applyStores
      (fun address => if address = store.offset then store.value else mem address) rest := rfl

theorem applyStores_append (mem : Nat → α) (first second : List (Store α)) :
    applyStores mem (first ++ second) = applyStores (applyStores mem first) second :=
  List.foldl_append

theorem applyStores_frame (mem : Nat → α) (stores : List (Store α)) (i : Nat)
    (outside : ∀ store ∈ stores, store.offset ≠ i) : applyStores mem stores i = mem i := by
  induction stores generalizing mem with
  | nil => rfl
  | cons store rest ih =>
      have later : ∀ other ∈ rest, other.offset ≠ i := by
        intro other member
        exact outside other (List.mem_cons_of_mem store member)
      rw [applyStores_cons, ih _ later]
      exact if_neg fun here => outside store List.mem_cons_self here.symm

/-- What an offset ends up with depends on what was there only if nothing is stored. -/
theorem applyStores_congr (mem other : Nat → α) (stores : List (Store α)) (i : Nat)
    (same : mem i = other i ∨ ∃ store ∈ stores, store.offset = i) :
    applyStores mem stores i = applyStores other stores i := by
  induction stores generalizing mem other with
  | nil =>
      rcases same with already | ⟨_, impossible, _⟩
      · exact already
      · cases impossible
  | cons store rest ih =>
      rw [applyStores_cons, applyStores_cons]
      apply ih
      by_cases here : i = store.offset
      · left
        rw [if_pos here, if_pos here]
      · rcases same with already | ⟨later, member, there⟩
        · left
          rw [if_neg here, if_neg here, already]
        · right
          rcases List.mem_cons.mp member with first | member
          · rw [first] at there
            exact (here there.symm).elim
          · exact ⟨later, member, there⟩

/-- A store that a later one overwrites leaves no trace. -/
theorem applyStores_overwritten (mem : Nat → α) (store : Store α) (rest : List (Store α))
    (later : ∃ other ∈ rest, other.offset = store.offset) :
    applyStores mem (store :: rest) = applyStores mem rest := by
  funext i
  rw [applyStores_cons]
  apply applyStores_congr
  by_cases here : i = store.offset
  · right
    obtain ⟨other, member, same⟩ := later
    exact ⟨other, member, same.trans here.symm⟩
  · exact Or.inl (if_neg here)

theorem applyStores_written (f : Nat → α) (mem : Nat → α) (stores : List (Store α)) (i : Nat)
    (agree : Agree f stores) (written : ∃ store ∈ stores, store.offset = i) :
    applyStores mem stores i = f i := by
  have same : applyStores f stores i = f i := by
    clear written
    induction stores with
    | nil => rfl
    | cons store rest ih =>
        have first : (fun address => if address = store.offset then store.value else f address) =
            f := by
          funext address
          split
          · rename_i here
            rw [here]
            exact agree store List.mem_cons_self
          · rfl
        rw [applyStores_cons, first]
        exact ih fun other member => agree other (List.mem_cons_of_mem store member)
  rw [← same]
  exact applyStores_congr mem f stores i (Or.inr written)

theorem applyStores_flatMap {β : Type} (mem : Nat → α) (list : List β)
    (first second : β → List (Store α))
    (same : ∀ b ∈ list, ∀ mem, applyStores mem (first b) = applyStores mem (second b)) :
    applyStores mem (list.flatMap first) = applyStores mem (list.flatMap second) := by
  induction list generalizing mem with
  | nil => rfl
  | cons b rest ih =>
      rw [List.flatMap_cons, List.flatMap_cons, applyStores_append, applyStores_append,
        same b List.mem_cons_self mem]
      exact ih _ fun other member => same other (List.mem_cons_of_mem b member)

/-- The body of a nested loop, for every row and column. -/
def nested (height width : Nat) (body : Nat → Nat → List (Store α)) : List (Store α) :=
  (List.range height).flatMap fun y => (List.range width).flatMap (body y)

theorem mem_nested {height width : Nat} {body : Nat → Nat → List (Store α)} {store : Store α} :
    store ∈ nested height width body ↔
      ∃ y x, y < height ∧ x < width ∧ store ∈ body y x := by
  simp only [nested, List.mem_flatMap, List.mem_range]
  constructor
  · intro ⟨y, below, x, right, member⟩
    exact ⟨y, x, below, right, member⟩
  · intro ⟨y, x, below, right, member⟩
    exact ⟨y, below, x, right, member⟩

theorem exists_stored {height width i : Nat} {body : Nat → Nat → List (Store α)} :
    (∃ store ∈ nested height width body, store.offset = i) ↔
      ∃ y x, y < height ∧ x < width ∧ i ∈ (body y x).map Store.offset := by
  simp only [mem_nested, List.mem_map]
  constructor
  · rintro ⟨store, ⟨y, x, below, right, member⟩, here⟩
    exact ⟨y, x, below, right, store, member, here⟩
  · rintro ⟨y, x, below, right, store, member, here⟩
    exact ⟨store, ⟨y, x, below, right, member⟩, here⟩

theorem agree_nested (f : Nat → α) (height width : Nat) (body : Nat → Nat → List (Store α))
    (each : ∀ y x, y < height → x < width → Agree f (body y x)) :
    Agree f (nested height width body) := by
  intro store member
  obtain ⟨y, x, below, right, member⟩ := mem_nested.mp member
  exact each y x below right store member

theorem agree_append {f : Nat → α} {first second : List (Store α)} (left : Agree f first)
    (right : Agree f second) : Agree f (first ++ second) := by
  intro store member
  rcases List.mem_append.mp member with member | member
  · exact left store member
  · exact right store member

end Obs2Mf.Stores
