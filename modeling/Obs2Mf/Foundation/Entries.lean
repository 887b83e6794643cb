import Mathlib.Data.List.Chain
import Mathlib.Data.List.Destutter

set_option autoImplicit false

/- Logs to which several speakers add: what one entry more does to a speaker's own lines,
to a chain of them, and to the changes in a sequence that is followed. -/
namespace Obs2Mf.Entries

variable {α β κ : Type}

section Chains

variable {R : α → α → Prop}

/-- A chain goes on with an entry that is related to its last. -/
theorem chain_concat {log : List α} {last new : α} (chain : log.IsChain R)
    (ends : log.getLast? = some last) (related : R last new) : (log ++ [new]).IsChain R := by
  apply chain.append (List.isChain_singleton new)
  intro x isLast y isNew
  rw [ends] at isLast
  cases isLast
  cases isNew
  exact related

end Chains

section Changes

variable [DecidableEq κ] (key : α → κ)

/-- The entries whose key is not the key of the one before. -/
def changes (entries : List α) : List α := entries.destutter fun x y => key x ≠ key y

@[simp] theorem changes_nil : changes key ([] : List α) = [] := rfl

@[simp] theorem changes_singleton (x : α) : changes key [x] = [x] := rfl

theorem destutter'_concat (first x : α) (entries : List α) :
    (entries ++ [x]).destutter' (fun x y => key x ≠ key y) first =
      entries.destutter' (fun x y => key x ≠ key y) first ++
        if key (entries.getLast?.getD first) = key x then [] else [x] := by
  induction entries generalizing first with
  | nil =>
      by_cases same : key first = key x
      · simp [same]
      · simp [same]
  | cons y rest ih =>
      rw [List.cons_append, List.destutter'_cons, List.destutter'_cons, List.getLast?_cons,
        Option.getD_some, ih, ih]
      by_cases same : key first = key y
      · -- `y` is no change, so that the first entry still stands for it
        have last : key (rest.getLast?.getD first) = key (rest.getLast?.getD y) := by
          cases rest.getLast? with
          | none => exact same
          | some z => rfl
        simp [same, last]
      · simp [same]

/-- One entry more is one change more if its key is not that of the last. -/
theorem changes_concat {entries : List α} {last : α} (x : α) (ends : entries.getLast? = some last) :
    changes key (entries ++ [x]) =
      changes key entries ++ if key last = key x then [] else [x] := by
  cases entries with
  | nil => cases ends
  | cons first rest =>
      have final : rest.getLast?.getD first = last := by
        rw [List.getLast?_cons] at ends
        exact Option.some.inj ends
      rw [changes, changes, List.cons_append, List.destutter_cons', List.destutter_cons',
        destutter'_concat, final]

/-- The last change tells the key of the last entry. -/
theorem changes_last {entries : List α} {last : α} (ends : entries.getLast? = some last) :
    ∃ change, (changes key entries).getLast? = some change ∧ key change = key last := by
  induction entries using List.reverseRecOn generalizing last with
  | nil => cases ends
  | append_singleton rest x ih =>
      rw [List.getLast?_concat] at ends
      cases ends
      cases before : rest.getLast? with
      | none =>
          rw [List.getLast?_eq_none_iff.mp before]
          exact ⟨x, rfl, rfl⟩
      | some y =>
          rw [changes_concat key x before]
          by_cases same : key y = key x
          · obtain ⟨change, found, equal⟩ := ih before
            rw [if_pos same, List.append_nil]
            exact ⟨change, found, equal.trans same⟩
          · rw [if_neg same, List.getLast?_concat]
            exact ⟨x, rfl, rfl⟩

/-- No two changes in a row have the same key. -/
theorem changes_chain (entries : List α) :
    (changes key entries).IsChain fun x y => key x ≠ key y :=
  List.isChain_destutter _ entries

theorem changes_mem {entries : List α} {x : α} (member : x ∈ changes key entries) : x ∈ entries :=
  (List.destutter_sublist _ entries).subset member

end Changes

end Obs2Mf.Entries
