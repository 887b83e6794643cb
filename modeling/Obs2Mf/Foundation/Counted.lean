import Mathlib.Algebra.BigOperators.Group.Finset.Basic
import Mathlib.Algebra.Order.BigOperators.Group.Finset

set_option autoImplicit false

/- Objects that count the references to them and are destroyed by the release of the last
one, with the references they hold themselves. A cycle keeps itself alive. -/
namespace Obs2Mf.Counted

structure Cell (κ : Type) where
  count : Nat
  content : κ

/-- How often it is referred to, if it is there. -/
def tally {κ : Type} (cell : Option (Cell κ)) : Nat := cell.elim 0 Cell.count

/-- How often it refers to that address, if it is there. -/
def claims {κ : Type} (held : κ → List Nat) (a : Nat) (cell : Option (Cell κ)) : Nat :=
  cell.elim 0 fun c => (held c.content).count a

/-- What its end sets free, if it is there: itself and what it holds. -/
def burden {κ : Type} (held : κ → List Nat) (cell : Option (Cell κ)) : Nat :=
  cell.elim 0 fun c => 1 + (held c.content).length

/-- Addresses are given out in turn, and never again. -/
structure Heap (κ : Type) where
  next : Nat
  cells : Nat → Option (Cell κ)

def Heap.empty {κ : Type} : Heap κ := ⟨0, fun _ => none⟩

namespace Heap

variable {κ : Type}

def set (h : Heap κ) (a : Nat) (cell : Option (Cell κ)) : Heap κ :=
  { h with cells := Function.update h.cells a cell }

/-- A new object, with one reference to it. -/
def alloc (h : Heap κ) (content : κ) : Heap κ :=
  { h.set h.next (some ⟨1, content⟩) with next := h.next + 1 }

/-- `AddRef`; nothing if the object is gone. -/
def addRef (h : Heap κ) (a : Nat) : Option (Heap κ) :=
  (h.cells a).map fun c => h.set a (some { c with count := c.count + 1 })

/-- The object's own members change. -/
def assign (h : Heap κ) (a : Nat) (content : κ) : Heap κ :=
  h.set a ((h.cells a).map fun c => { c with content })

section Release

variable (held : κ → List Nat)

/-- `Release` of one reference after the other; an object that goes releases what it holds
first. Nothing if an object is gone already. -/
def releaseAll : Nat → List Nat → Heap κ → Option (Heap κ)
  | _, [], h => some h
  | 0, _ :: _, _ => none
  | fuel + 1, a :: work, h =>
      match h.cells a with
      | none => none
      | some c =>
          if c.count = 1 then releaseAll fuel (held c.content ++ work) (h.set a none)
          else releaseAll fuel work (h.set a (some { c with count := c.count - 1 }))

/-- As many releases as there are objects and references in them. -/
def weight (h : Heap κ) : Nat :=
  ∑ a ∈ Finset.range h.next, burden held (h.cells a)

def release (references : List Nat) (h : Heap κ) : Option (Heap κ) :=
  releaseAll held (references.length + h.weight held) references h

/-- How many references the objects hold to one of them. -/
def pointers (h : Heap κ) (a : Nat) : Nat :=
  ∑ b ∈ Finset.range h.next, claims held a (h.cells b)

end Release

def live (h : Heap κ) (a : Nat) : Bool := (h.cells a).isSome

def count (h : Heap κ) (a : Nat) : Nat := tally (h.cells a)

def content (h : Heap κ) (a : Nat) : Option κ := (h.cells a).map Cell.content

end Heap

section Invariant

variable {κ : Type} (held : κ → List Nat)

/-- Every count is that of the references there are, in the objects and outside of them. -/
structure Accounted (roots : List Nat) (h : Heap κ) : Prop where
  counted : ∀ a, h.count a = roots.count a + h.pointers held a
  positive : ∀ a c, h.cells a = some c → 0 < c.count
  fresh : ∀ a, h.next ≤ a → h.cells a = none

/-- Each of these is held by another one of them. -/
def Closed (h : Heap κ) (kept : Nat → Prop) : Prop :=
  ∀ a, kept a → ∃ b c, kept b ∧ h.cells b = some c ∧ a ∈ held c.content

/-- What is left of a heap after some releases. -/
structure Shrinks (h t : Heap κ) : Prop where
  next : t.next = h.next
  cells : ∀ a c, t.cells a = some c → ∃ b, h.cells a = some b ∧ b.content = c.content
  closed : ∀ kept, Closed held h kept → ∀ a, kept a → h.live a = true → t.live a = true

end Invariant

section Rules

variable {κ : Type} {held : κ → List Nat} {h t : Heap κ} {a b : Nat} {cell : Option (Cell κ)}
  {c : Cell κ} {content : κ} {roots others references : List Nat}

@[simp] theorem Heap.set_next : (h.set a cell).next = h.next := rfl

@[simp] theorem Heap.set_same : (h.set a cell).cells a = cell := by
  simp only [Heap.set, Function.update_self]

theorem Heap.set_other (apart : b ≠ a) : (h.set a cell).cells b = h.cells b := by
  simp only [Heap.set, Function.update_of_ne apart]

/-- A sum over the objects, of which one changes. -/
theorem sum_set (f : Option (Cell κ) → Nat) (cell : Option (Cell κ)) (below : a < h.next) :
    (∑ b ∈ Finset.range h.next, f ((h.set a cell).cells b)) + f (h.cells a) =
      (∑ b ∈ Finset.range h.next, f (h.cells b)) + f cell := by
  have member : a ∈ Finset.range h.next := Finset.mem_range.mpr below
  have same : ∑ b ∈ (Finset.range h.next).erase a, f ((h.set a cell).cells b) =
      ∑ b ∈ (Finset.range h.next).erase a, f (h.cells b) := by
    apply Finset.sum_congr rfl
    intro b other
    rw [Heap.set_other (Finset.ne_of_mem_erase other)]
  have before := Finset.add_sum_erase (Finset.range h.next) (fun b => f (h.cells b)) member
  have after := Finset.add_sum_erase (Finset.range h.next)
    (fun b => f ((h.set a cell).cells b)) member
  simp only [Heap.set_same] at after
  omega

theorem accounted_empty : Accounted held [] (Heap.empty : Heap κ) where
  counted := fun _ => rfl
  positive := by
    rintro a c ⟨⟩
  fresh := fun _ _ => rfl

theorem Accounted.below (accounted : Accounted held roots h) (here : h.cells a = some c) :
    a < h.next := by
  by_contra outside
  rw [accounted.fresh a (Nat.le_of_not_lt outside)] at here
  cases here

/-- What is referred to is there. -/
theorem Accounted.live (accounted : Accounted held roots h) (member : a ∈ roots) :
    ∃ c, h.cells a = some c := by
  cases here : h.cells a with
  | some c => exact ⟨c, rfl⟩
  | none =>
      have counted := accounted.counted a
      rw [Heap.count, here, tally, Option.elim_none] at counted
      have some := List.count_pos_iff.mpr member
      omega

theorem Accounted.reorder (accounted : Accounted held roots h)
    (same : ∀ a, others.count a = roots.count a) : Accounted held others h where
  counted := by
    intro a
    rw [same a]
    exact accounted.counted a
  positive := accounted.positive
  fresh := accounted.fresh

theorem Accounted.claims_le (accounted : Accounted held roots h) (here : h.cells b = some c)
    (a : Nat) : (held c.content).count a ≤ h.pointers held a := by
  have least : claims held a (h.cells b) ≤ h.pointers held a :=
    Finset.single_le_sum (f := fun b => claims held a (h.cells b)) (fun _ _ => Nat.zero_le _)
      (Finset.mem_range.mpr (accounted.below here))
  rw [here] at least
  exact least

/-- What an object that is there holds is there. -/
theorem Accounted.held_live (accounted : Accounted held roots h) (here : h.cells b = some c)
    (member : a ∈ held c.content) : ∃ c, h.cells a = some c := by
  cases there : h.cells a with
  | some c => exact ⟨c, rfl⟩
  | none =>
      have counted := accounted.counted a
      rw [Heap.count, there, tally, Option.elim_none] at counted
      have least := accounted.claims_le here a
      have some := List.count_pos_iff.mpr member
      omega

/-- Without references outside, what is there is held by what is there: a cycle. -/
theorem Accounted.holder (accounted : Accounted held [] h) (here : h.cells a = some c) :
    ∃ b d, h.cells b = some d ∧ a ∈ held d.content := by
  have positive := accounted.positive a c here
  have counted := accounted.counted a
  rw [Heap.count, here, tally, Option.elim_some, List.count_nil] at counted
  have some : h.pointers held a ≠ 0 := by omega
  obtain ⟨b, _, claimed⟩ := Finset.exists_ne_zero_of_sum_ne_zero some
  cases there : h.cells b with
  | none =>
      rw [there] at claimed
      exact absurd rfl claimed
  | some d =>
      rw [there, claims, Option.elim_some] at claimed
      exact ⟨b, d, there, List.count_pos_iff.mp (Nat.pos_of_ne_zero claimed)⟩

theorem set_count (q : Nat) :
    (h.set a cell).count q = if q = a then tally cell else h.count q := by
  split
  · rename_i same
    rw [same, Heap.count, Heap.set_same]
  · rename_i other
    rw [Heap.count, Heap.set_other other, Heap.count]

/-- One object changes, and the references outside with it. -/
theorem Accounted.set (accounted : Accounted held roots h) (below : a < h.next)
    (positive : ∀ c, cell = some c → 0 < c.count)
    (balanced : ∀ q, (if q = a then tally cell else h.count q) + claims held q (h.cells a) =
      others.count q + h.pointers held q + claims held q cell) :
    Accounted held others (h.set a cell) where
  counted := by
    intro q
    have moved := sum_set (claims held q) cell below
    have balanced := balanced q
    rw [set_count]
    unfold Heap.pointers at balanced ⊢
    rw [Heap.set_next]
    omega
  positive := by
    intro q c here
    by_cases same : q = a
    · rw [same, Heap.set_same] at here
      exact positive c here
    · rw [Heap.set_other same] at here
      exact accounted.positive q c here
  fresh := by
    intro q outside
    rw [Heap.set_next] at outside
    rw [Heap.set_other (by omega)]
    exact accounted.fresh q outside

theorem Accounted.addRef (accounted : Accounted held roots h) (here : h.cells a = some c) :
    ∃ t, h.addRef a = some t ∧ Accounted held (a :: roots) t ∧
      t.cells = Function.update h.cells a (some { c with count := c.count + 1 }) := by
  refine ⟨_, by rw [Heap.addRef, here, Option.map_some], ?_, rfl⟩
  refine accounted.set (accounted.below here) ?_ fun q => ?_
  · rintro _ ⟨⟩
    exact Nat.succ_pos _
  · have counted := accounted.counted q
    simp only [here, claims, tally, Option.elim_some, List.count_cons]
    split
    · rename_i same
      subst same
      rw [Heap.count, here, tally, Option.elim_some] at counted
      simp only [beq_self_eq_true, ↓reduceIte]
      omega
    · rename_i other
      have apart : (a == q) = false := beq_false_of_ne (Ne.symm other)
      simp only [apart, Bool.false_eq_true, ↓reduceIte]
      omega

/-- References move between an object and the outside. -/
theorem Accounted.assign (accounted : Accounted held roots h) (here : h.cells a = some c)
    (moved : ∀ q, (held content).count q + others.count q =
      (held c.content).count q + roots.count q) :
    Accounted held others (h.assign a content) := by
  rw [Heap.assign, here, Option.map_some]
  refine accounted.set (accounted.below here) ?_ fun q => ?_
  · rintro _ ⟨⟩
    exact accounted.positive a c here
  · have counted := accounted.counted q
    have moved := moved q
    simp only [here, claims, tally, Option.elim_some]
    split
    · rename_i same
      subst same
      rw [Heap.count, here, tally, Option.elim_some] at counted
      omega
    · omega

/-- A new object takes over the references that it is made with. -/
theorem Accounted.alloc (accounted : Accounted held (held content ++ roots) h) :
    Accounted held (h.next :: roots) (h.alloc content) where
  counted := by
    intro q
    have counted := accounted.counted q
    have old : ∑ b ∈ Finset.range h.next, claims held q ((h.alloc content).cells b) =
        h.pointers held q := by
      apply Finset.sum_congr rfl
      intro b below
      have apart : b ≠ h.next := Nat.ne_of_lt (Finset.mem_range.mp below)
      show claims held q ((h.set h.next _).cells b) = _
      rw [Heap.set_other apart]
    have new : claims held q ((h.alloc content).cells h.next) = (held content).count q := by
      show claims held q ((h.set h.next _).cells h.next) = _
      rw [Heap.set_same]
      rfl
    show (h.set h.next (some ⟨1, content⟩)).count q =
      _ + ∑ b ∈ Finset.range (h.next + 1), claims held q ((h.alloc content).cells b)
    rw [Finset.sum_range_succ, old, new, set_count]
    rw [List.count_append] at counted
    split
    · rename_i same
      subst same
      rw [Heap.count, accounted.fresh h.next (Nat.le_refl _), tally, Option.elim_none] at counted
      rw [List.count_cons_self]
      show 1 = _
      omega
    · rename_i other
      rw [List.count_cons_of_ne (Ne.symm other)]
      omega
  positive := by
    intro q c here
    by_cases same : q = h.next
    · rw [same] at here
      have cell : c = ⟨1, content⟩ := by
        have new : (h.alloc content).cells h.next = some ⟨1, content⟩ := Heap.set_same
        exact Option.some.inj (here.symm.trans new)
      rw [cell]
      exact Nat.one_pos
    · have old : (h.alloc content).cells q = h.cells q := Heap.set_other same
      rw [old] at here
      exact accounted.positive q c here
  fresh := by
    intro q outside
    have above : h.next + 1 ≤ q := outside
    have old : (h.alloc content).cells q = h.cells q := Heap.set_other (by omega)
    rw [old]
    exact accounted.fresh q (by omega)

/-- A closed set is there as a whole. -/
theorem Closed.live {kept : Nat → Prop} (closed : Closed held h kept)
    (accounted : Accounted held roots h) (member : kept a) : ∃ c, h.cells a = some c := by
  obtain ⟨b, c, _, here, held⟩ := closed a member
  exact accounted.held_live here held

theorem Shrinks.refl (h : Heap κ) : Shrinks held h h :=
  ⟨rfl, fun _ c here => ⟨c, here, rfl⟩, fun _ _ _ _ live => live⟩

/-- A closed set that is still there is still closed. -/
theorem Shrinks.keeps_closed {kept : Nat → Prop} (shrinks : Shrinks held h t)
    (closed : Closed held h kept) : Closed held t kept := by
  intro a member
  obtain ⟨b, c, inside, here, held⟩ := closed a member
  have live : h.live b = true := by
    rw [Heap.live, here]
    rfl
  obtain ⟨d, there⟩ := Option.isSome_iff_exists.mp (shrinks.closed kept closed b inside live)
  obtain ⟨e, before, same⟩ := shrinks.cells b d there
  rw [here] at before
  cases before
  exact ⟨b, d, inside, there, same ▸ held⟩

theorem Shrinks.trans {u : Heap κ} (first : Shrinks held h t) (second : Shrinks held t u) :
    Shrinks held h u where
  next := second.next.trans first.next
  cells := by
    intro a c here
    obtain ⟨d, there, same⟩ := second.cells a c here
    obtain ⟨e, before, earlier⟩ := first.cells a d there
    exact ⟨e, before, earlier.trans same⟩
  closed := by
    intro kept closed a member live
    exact second.closed kept (first.keeps_closed closed) a member
      (first.closed kept closed a member live)

/-- One of several references to an object is given up. -/
theorem Accounted.decrement (accounted : Accounted held (a :: roots) h)
    (here : h.cells a = some c) (shared : c.count ≠ 1) :
    Accounted held roots (h.set a (some { c with count := c.count - 1 })) := by
  have positive := accounted.positive a c here
  refine accounted.set (accounted.below here) ?_ fun q => ?_
  · rintro _ ⟨⟩
    show 0 < c.count - 1
    omega
  · have counted := accounted.counted q
    simp only [here, claims, tally, Option.elim_some]
    split
    · rename_i same
      subst same
      rw [Heap.count, here, tally, Option.elim_some, List.count_cons_self] at counted
      omega
    · rename_i other
      rw [List.count_cons_of_ne (Ne.symm other)] at counted
      omega

/-- The last reference to an object is given up: what it holds is next. -/
theorem Accounted.destroy (accounted : Accounted held (a :: roots) h)
    (here : h.cells a = some c) (last : c.count = 1) :
    Accounted held (held c.content ++ roots) (h.set a none) := by
  refine accounted.set (accounted.below here) (by rintro _ ⟨⟩) fun q => ?_
  have counted := accounted.counted q
  simp only [here, claims, tally, Option.elim_some, Option.elim_none, List.count_append]
  split
  · rename_i same
    subst same
    rw [Heap.count, here, tally, Option.elim_some, List.count_cons_self] at counted
    omega
  · rename_i other
    rw [List.count_cons_of_ne (Ne.symm other)] at counted
    omega

theorem shrinks_decrement (held : κ → List Nat) (here : h.cells a = some c) :
    Shrinks held h (h.set a (some { c with count := c.count - 1 })) where
  next := rfl
  cells := by
    intro q d there
    by_cases same : q = a
    · subst same
      rw [Heap.set_same] at there
      cases there
      exact ⟨c, here, rfl⟩
    · rw [Heap.set_other same] at there
      exact ⟨d, there, rfl⟩
  closed := by
    intro kept _ q _ live
    by_cases same : q = a
    · rw [same, Heap.live, Heap.set_same]
      rfl
    · rw [Heap.live, Heap.set_other same]
      exact live

/-- The object that goes is in no closed set: nothing holds it. -/
theorem shrinks_destroy (accounted : Accounted held (a :: roots) h) (here : h.cells a = some c)
    (last : c.count = 1) : Shrinks held h (h.set a none) where
  next := rfl
  cells := by
    intro q d there
    by_cases same : q = a
    · rw [same, Heap.set_same] at there
      cases there
    · rw [Heap.set_other same] at there
      exact ⟨d, there, rfl⟩
  closed := by
    intro kept closed q member live
    have apart : q ≠ a := by
      rintro rfl
      obtain ⟨b, d, _, there, inside⟩ := closed q member
      have counted := accounted.counted q
      rw [Heap.count, here, tally, Option.elim_some, List.count_cons_self] at counted
      have least := accounted.claims_le there q
      have some := List.count_pos_iff.mpr inside
      omega
    rw [Heap.live, Heap.set_other apart]
    exact live

theorem weight_set (held : κ → List Nat) (cell : Option (Cell κ)) (below : a < h.next) :
    (h.set a cell).weight held + burden held (h.cells a) =
      h.weight held + burden held cell :=
  sum_set (burden held) cell below

/-- Releases come to an end, give up what they are asked to, and take no more with it than
what nothing else holds. -/
theorem Accounted.releaseAll (fuel : Nat) {work : List Nat}
    (accounted : Accounted held (work ++ roots) h)
    (enough : work.length + h.weight held ≤ fuel) :
    ∃ t, h.releaseAll held fuel work = some t ∧ Accounted held roots t ∧ Shrinks held h t := by
  induction fuel generalizing work h with
  | zero =>
      cases work with
      | nil => exact ⟨h, rfl, accounted, .refl h⟩
      | cons a work =>
          rw [List.length_cons] at enough
          omega
  | succ fuel ih =>
      cases work with
      | nil => exact ⟨h, rfl, accounted, .refl h⟩
      | cons a work =>
          obtain ⟨c, here⟩ := accounted.live List.mem_cons_self
          rw [List.length_cons] at enough
          have below := accounted.below here
          rw [Heap.releaseAll, here]
          dsimp only
          by_cases last : c.count = 1
          · rw [if_pos last]
            have shrinks : Shrinks held h (h.set a none) := shrinks_destroy accounted here last
            have lighter := weight_set held none below
            rw [here, burden, burden, Option.elim_some, Option.elim_none] at lighter
            have rest : Accounted held ((held c.content ++ work) ++ roots) (h.set a none) := by
              rw [List.append_assoc]
              exact accounted.destroy here last
            obtain ⟨t, released, left, later⟩ := ih rest (by rw [List.length_append]; omega)
            exact ⟨t, released, left, shrinks.trans later⟩
          · rw [if_neg last]
            have shrinks := shrinks_decrement held here
            have same := weight_set held (some { c with count := c.count - 1 }) below
            rw [here, burden, burden, Option.elim_some, Option.elim_some] at same
            dsimp only at same
            obtain ⟨t, released, left, later⟩ := ih (accounted.decrement here last) (by omega)
            exact ⟨t, released, left, shrinks.trans later⟩

theorem Accounted.release (accounted : Accounted held (references ++ roots) h) :
    ∃ t, h.release held references = some t ∧ Accounted held roots t ∧ Shrinks held h t :=
  accounted.releaseAll _ (Nat.le_refl _)

end Rules

section Contents

variable {κ : Type} {held : κ → List Nat} {h t : Heap κ} {a b : Nat} {content : κ}
  {roots : List Nat}

theorem Heap.cells_of_content (here : h.content a = some content) :
    ∃ n, h.cells a = some ⟨n, content⟩ := by
  obtain ⟨c, there, same⟩ := Option.map_eq_some_iff.mp here
  exact ⟨c.count, by rw [there, ← same]⟩

theorem Accounted.content_below (accounted : Accounted held roots h)
    (here : h.content a = some content) : a < h.next := by
  obtain ⟨n, there⟩ := Heap.cells_of_content here
  exact accounted.below there

theorem Accounted.content_none (accounted : Accounted held roots h) (outside : h.next ≤ a) :
    h.content a = none := by
  rw [Heap.content, accounted.fresh a outside]
  rfl

theorem content_alloc : (h.alloc content).content b =
    if b = h.next then some content else h.content b := by
  show ((h.set h.next _).cells b).map Cell.content = _
  split
  · rename_i same
    rw [same, Heap.set_same]
    rfl
  · rename_i other
    rw [Heap.set_other other]
    rfl

theorem content_addRef (counted : h.addRef a = some t) : t.content b = h.content b := by
  obtain ⟨c, here, same⟩ := Option.map_eq_some_iff.mp counted
  subst same
  by_cases there : b = a
  · rw [there, Heap.content, Heap.set_same, Heap.content, here]
    rfl
  · rw [Heap.content, Heap.set_other there, Heap.content]

theorem content_assign {old : κ} (here : h.content a = some old) :
    (h.assign a content).content b = if b = a then some content else h.content b := by
  obtain ⟨n, there⟩ := Heap.cells_of_content here
  rw [Heap.assign, there, Option.map_some]
  split
  · rename_i same
    rw [same, Heap.content, Heap.set_same]
    rfl
  · rename_i other
    rw [Heap.content, Heap.set_other other, Heap.content]

theorem Shrinks.old_content (shrinks : Shrinks held h t) (here : t.content a = some content) :
    h.content a = some content := by
  obtain ⟨n, there⟩ := Heap.cells_of_content here
  obtain ⟨c, before, same⟩ := shrinks.cells a _ there
  rw [Heap.content, before, Option.map_some, same]

/-- What is still held is as it was. -/
theorem Shrinks.kept_content (shrinks : Shrinks held h t) (accounted : Accounted held roots t)
    {holder : κ} (held_by : t.content b = some holder) (member : a ∈ held holder) :
    t.content a = h.content a := by
  obtain ⟨n, there⟩ := Heap.cells_of_content held_by
  obtain ⟨c, here⟩ := accounted.held_live there member
  have now : t.content a = some c.content := by
    rw [Heap.content, here, Option.map_some]
  rw [now, shrinks.old_content now]

/-- So is what is in a closed set. -/
theorem Shrinks.closed_content (shrinks : Shrinks held h t) {kept : Nat → Prop}
    (closed : Closed held h kept) (member : kept a) (here : h.content a = some content) :
    t.content a = some content := by
  have live : h.live a = true := by
    obtain ⟨n, there⟩ := Heap.cells_of_content here
    rw [Heap.live, there]
    rfl
  obtain ⟨c, there⟩ := Option.isSome_iff_exists.mp (shrinks.closed kept closed a member live)
  have now : t.content a = some c.content := by
    rw [Heap.content, there, Option.map_some]
  rw [now, ← here, shrinks.old_content now]

end Contents

end Obs2Mf.Counted
