set_option autoImplicit false

/- Records kept in two parts of limited size: when the newer part has grown past the
limit it takes the place of the older one. -/
namespace Obs2Mf.Rotation

variable {β : Type}

/-- The records of the two parts, each a piece of text. -/
structure Parts (β : Type) where
  older : List (List β)
  newer : List (List β)

namespace Parts

/-- The part that is full takes the place of the older one. -/
def rotate (limit : Nat) (parts : Parts β) : Parts β :=
  if limit < parts.newer.flatten.length then ⟨parts.newer, []⟩ else parts

def push (parts : Parts β) (record : List β) : Parts β :=
  { parts with newer := parts.newer ++ [record] }

end Parts

/-- The parts hold the latest of the records, whole and in order, and each of them keeps
within the limit up to its last record. -/
structure Latest (limit : Nat) (records : List (List β)) (parts : Parts β) : Prop where
  suffix : parts.older ++ parts.newer <:+ records
  last : records ≠ [] → parts.older ++ parts.newer ≠ []
  older : parts.older.dropLast.flatten.length ≤ limit
  newer : parts.newer.dropLast.flatten.length ≤ limit

section Steps

variable {limit : Nat} {records : List (List β)} {parts : Parts β}

theorem latest_nil : Latest limit [] (⟨[], []⟩ : Parts β) where
  suffix := List.suffix_rfl
  last := id
  older := Nat.zero_le _
  newer := Nat.zero_le _

theorem nonempty_of_full (full : limit < parts.newer.flatten.length) : parts.newer ≠ [] := by
  intro none
  rw [none] at full
  exact absurd full (Nat.not_lt_zero _)

/-- The older part goes away while the newer one is full. -/
theorem Latest.drop (held : Latest limit records parts)
    (full : limit < parts.newer.flatten.length) : Latest limit records ⟨[], parts.newer⟩ where
  suffix := (List.suffix_append _ _).trans held.suffix
  last := fun _ => nonempty_of_full full
  older := Nat.zero_le _
  newer := held.newer

/-- The newer part takes the place that is free. -/
theorem Latest.move {newer : List (List β)} (held : Latest limit records ⟨[], newer⟩) :
    Latest limit records ⟨newer, []⟩ := by
  refine ⟨?_, ?_, held.newer, Nat.zero_le _⟩
  · rw [List.append_nil]
    exact held.suffix
  · rw [List.append_nil]
    exact held.last

theorem Latest.rotate (held : Latest limit records parts) :
    Latest limit records (parts.rotate limit) := by
  unfold Parts.rotate
  split
  · rename_i full
    exact (held.drop full).move
  · exact held

theorem rotate_room (limit : Nat) (parts : Parts β) :
    (parts.rotate limit).newer.flatten.length ≤ limit := by
  unfold Parts.rotate
  split
  · exact Nat.zero_le _
  · rename_i room
    exact Nat.le_of_not_lt room

/-- A record goes behind the newer part as long as that is not full. -/
theorem Latest.push (held : Latest limit records parts)
    (room : parts.newer.flatten.length ≤ limit) (record : List β) :
    Latest limit (records ++ [record]) (parts.push record) := by
  refine ⟨?_, ?_, held.older, ?_⟩
  · obtain ⟨front, same⟩ := held.suffix
    refine ⟨front, ?_⟩
    rw [← same]
    simp only [Parts.push, List.append_assoc]
  · simp [Parts.push]
  · simp only [Parts.push, List.dropLast_concat]
    exact room

end Steps

end Obs2Mf.Rotation
