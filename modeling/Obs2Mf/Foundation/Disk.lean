import Mathlib.Data.List.AList
import Obs2Mf.Foundation.Wildcard

set_option autoImplicit false

/- Files and directories under their paths: what single operations on them leave, and
the search of one directory by a pattern. -/
namespace Obs2Mf

open Wildcard

namespace Disk

inductive Node (β : Type) where
  | directory
  | file (content : List β)
  deriving DecidableEq, Repr

/-- How paths are put together, and the wildcards of patterns. -/
structure PathStyle (α : Type) where
  slash : α
  separator : α → Bool
  star : α
  question : α

end Disk

/-- No path names two things. -/
abbrev Disk (α β : Type) := AList fun _ : List α => Disk.Node β

namespace Disk

variable {α β : Type} [DecidableEq α]

/-- The content of a file, if that is what the path names. -/
def content (disk : Disk α β) (path : List α) : Option (List β) :=
  match disk.lookup path with
  | some (.file content) => some content
  | _ => none

def deleteFile (disk : Disk α β) (path : List α) : Disk α β :=
  if (disk.content path).isSome then disk.erase path else disk

/-- Nothing is moved onto something else. -/
def moveFile (disk : Disk α β) (source target : List α) : Disk α β :=
  match disk.lookup source, disk.lookup target with
  | some node, none => (disk.erase source).insert target node
  | _, _ => disk

/-- Opens a file, which is made if there is nothing under its path. -/
def openAlways (disk : Disk α β) (path : List α) : Option (Disk α β) :=
  match disk.lookup path with
  | some (.file _) => some disk
  | some .directory => none
  | none => some (disk.insert path (.file []))

def append (disk : Disk α β) (path : List α) (bytes : List β) : Disk α β :=
  match disk.content path with
  | some content => disk.insert path (.file (content ++ bytes))
  | none => disk

def deleteAll (disk : Disk α β) (paths : List (List α)) : Disk α β :=
  paths.foldl deleteFile disk

theorem lookup_of_content {disk : Disk α β} {path : List α} {bytes : List β}
    (known : disk.content path = some bytes) : disk.lookup path = some (.file bytes) := by
  unfold content at known
  split at known
  · rename_i found
    rw [found, Option.some.inj known]
  · cases known

/-- The path does not name a directory. -/
def Free (disk : Disk α β) (path : List α) : Prop := disk.lookup path ≠ some .directory

instance [DecidableEq β] (disk : Disk α β) (path : List α) : Decidable (disk.Free path) :=
  inferInstanceAs (Decidable (disk.lookup path ≠ some .directory))

theorem free_of_content {disk : Disk α β} {path : List α}
    (file : (disk.content path).isSome = true) : disk.Free path := by
  obtain ⟨bytes, known⟩ := Option.isSome_iff_exists.mp file
  rw [Free, lookup_of_content known]
  simp

/-- A place that holds no file, and is no directory, is empty. -/
theorem Free.lookup_eq_none {disk : Disk α β} {path : List α} (free : disk.Free path)
    (nothing : disk.content path = none) : disk.lookup path = none := by
  cases found : disk.lookup path with
  | none => rfl
  | some node =>
      cases node with
      | directory => exact absurd found free
      | file bytes =>
          rw [content, found] at nothing
          cases nothing

section Contents

variable (disk : Disk α β) (path other : List α)

theorem content_insert (bytes : List β) :
    content (disk.insert path (.file bytes)) other =
      if other = path then some bytes else disk.content other := by
  by_cases same : other = path
  · rw [if_pos same, same, content, AList.lookup_insert]
  · rw [if_neg same, content, AList.lookup_insert_ne same, content]

theorem content_erase :
    content (disk.erase path) other = if other = path then none else disk.content other := by
  by_cases same : other = path
  · rw [if_pos same, same, content, AList.lookup_erase]
  · rw [if_neg same, content, AList.lookup_erase_ne same, content]

theorem content_deleteFile :
    (disk.deleteFile path).content other =
      if other = path then none else disk.content other := by
  unfold deleteFile
  split
  · exact content_erase disk path other
  · rename_i nothing
    split
    · rename_i same
      rw [same]
      exact Option.not_isSome_iff_eq_none.mp nothing
    · rfl

theorem content_deleteAll (paths : List (List α)) :
    (disk.deleteAll paths).content other = if other ∈ paths then none else disk.content other := by
  induction paths generalizing disk with
  | nil => rfl
  | cons first rest ih =>
      change (deleteAll (disk.deleteFile first) rest).content other = _
      rw [ih, content_deleteFile]
      by_cases later : other ∈ rest
      · rw [if_pos later, if_pos (List.mem_cons_of_mem first later)]
      · by_cases same : other = first
        · rw [if_neg later, if_pos same, if_pos (List.mem_cons.mpr (Or.inl same))]
        · have absent : other ∉ first :: rest := by
            intro member
            exact (List.mem_cons.mp member).elim same later
          rw [if_neg later, if_neg same, if_neg absent]

theorem content_append (bytes : List β) :
    (disk.append path bytes).content other =
      if other = path then (disk.content path).map (· ++ bytes) else disk.content other := by
  unfold append
  split
  · rename_i content known
    rw [content_insert, known]
    rfl
  · rename_i none
    split
    · rename_i same
      rw [same, none]
      rfl
    · rfl

/-- A file moves to a path that is free, and stays where it is otherwise. -/
theorem content_moveFile (target : List α) {bytes : List β}
    (known : disk.content path = some bytes) :
    (disk.moveFile path target).content other =
      if disk.lookup target = none then
        if other = target then some bytes else if other = path then none else disk.content other
      else disk.content other := by
  unfold moveFile
  rw [lookup_of_content known]
  cases found : disk.lookup target with
  | none =>
      rw [if_pos rfl]
      change content ((disk.erase path).insert target (.file bytes)) other = _
      rw [content_insert, content_erase]
  | some node => rw [if_neg (by simp)]

/-- A path that does not name a directory can be opened. -/
theorem openAlways_some (free : disk.Free path) : ∃ opened, disk.openAlways path = some opened := by
  unfold openAlways
  split
  · exact ⟨_, rfl⟩
  · rename_i known
    exact absurd known free
  · exact ⟨_, rfl⟩

/-- What is opened is a file from then on. -/
theorem content_openAlways {opened : Disk α β} (ok : disk.openAlways path = some opened) :
    opened.content other =
      if other = path then some ((disk.content path).getD []) else disk.content other := by
  unfold openAlways at ok
  split at ok
  · rename_i bytes known
    have file : disk.content path = some bytes := by rw [content, known]
    cases ok
    split
    · rename_i same
      rw [same, file]
      rfl
    · rfl
  · cases ok
  · rename_i nothing
    have unknown : disk.content path = none := by rw [content, nothing]
    cases ok
    rw [content_insert, unknown]
    rfl

end Contents

-- No operation on files makes a directory.
section Directories

variable {disk : Disk α β} {other : List α} (free : disk.Free other) (path : List α)
include free

theorem Free.insert (bytes : List β) : Free (disk.insert path (.file bytes)) other := by
  unfold Free
  by_cases same : other = path
  · rw [same, AList.lookup_insert]
    simp
  · rw [AList.lookup_insert_ne same]
    exact free

theorem Free.erase : Free (disk.erase path) other := by
  unfold Free
  by_cases same : other = path
  · rw [same, AList.lookup_erase]
    simp
  · rw [AList.lookup_erase_ne same]
    exact free

theorem Free.deleteFile : (disk.deleteFile path).Free other := by
  unfold Disk.deleteFile
  split
  · exact free.erase path
  · exact free

theorem Free.deleteAll (paths : List (List α)) : (disk.deleteAll paths).Free other := by
  induction paths generalizing disk with
  | nil => exact free
  | cons first rest ih => exact ih (free.deleteFile first)

theorem Free.moveFile (target : List α) {bytes : List β}
    (known : disk.content path = some bytes) : (disk.moveFile path target).Free other := by
  unfold Disk.moveFile
  rw [lookup_of_content known]
  split
  · rename_i node _ same _
    cases same
    exact (free.erase path).insert target bytes
  · exact free

theorem Free.openAlways {opened : Disk α β} (ok : disk.openAlways path = some opened) :
    opened.Free other := by
  unfold Disk.openAlways at ok
  split at ok
  · cases ok
    exact free
  · cases ok
  · cases ok
    exact free.insert path []

theorem Free.append (bytes : List β) : (disk.append path bytes).Free other := by
  unfold Disk.append
  split
  · exact free.insert path _
  · exact free

end Directories

section Search

namespace PathStyle

def join (style : PathStyle α) (dir name : List α) : List α := dir ++ style.slash :: name

/-- The name by which a directory holds a path, if it does so itself. -/
def nameIn (style : PathStyle α) (dir path : List α) : Option (List α) :=
  let name := path.drop (dir.length + 1)
  if path = style.join dir name ∧ name.any style.separator = false then some name else none

theorem nameIn_eq_some (style : PathStyle α) (dir path name : List α) :
    style.nameIn dir path = some name ↔
      path = style.join dir name ∧ name.any style.separator = false := by
  have joined : (style.join dir name).drop (dir.length + 1) = name := by
    rw [join, List.drop_append, List.drop_eq_nil_of_le (Nat.le_succ _)]
    simp
  unfold nameIn
  dsimp only
  constructor
  · intro found
    split at found
    · rename_i inside
      rw [← Option.some.inj found]
      exact inside
    · cases found
  · rintro ⟨rfl, plain⟩
    rw [joined, if_pos ⟨rfl, plain⟩]

omit [DecidableEq α] in
theorem join_inj (style : PathStyle α) (dir name name' : List α) :
    style.join dir name = style.join dir name' ↔ name = name' := by
  rw [join, join, List.append_cancel_left_eq, List.cons.injEq]
  exact and_iff_right rfl

end PathStyle

namespace PathStyle

/-- A path as its directory and the name in it. -/
def split (style : PathStyle α) (path : List α) : List α × List α :=
  let name := (path.reverse.takeWhile fun c => !style.separator c).reverse
  (path.take (path.length - name.length - 1), name)

omit [DecidableEq α] in
theorem split_join (style : PathStyle α) (slash : style.separator style.slash = true)
    (dir : List α) {name : List α} (plain : name.any style.separator = false) :
    style.split (style.join dir name) = (dir, name) := by
  have last : (((style.join dir name).reverse.takeWhile fun c => !style.separator c).reverse) =
      name := by
    have all : ∀ c ∈ name.reverse, (!style.separator c) = true := by
      intro c member
      have none := List.any_eq_false.mp plain c (List.mem_reverse.mp member)
      simpa using none
    rw [join, List.reverse_append, List.reverse_cons, List.append_assoc,
      List.takeWhile_append_of_pos all, List.singleton_append, List.takeWhile_cons, slash]
    simp
  rw [split, last, join, List.length_append, List.length_cons]
  have rest : dir.length + (name.length + 1) - name.length - 1 = dir.length := by omega
  rw [rest, List.take_left]

end PathStyle

/-- The name of an entry that a directory holds, if it is of the pattern's form. -/
def named (style : PathStyle α) (dir pattern : List α) (entry : Sigma fun _ : List α => Node β) :
    Option (List α × Node β) :=
  (style.nameIn dir entry.1).bind fun name =>
    if wild style.star style.question pattern name then some (name, entry.2) else none

theorem named_eq_some {style : PathStyle α} {dir pattern : List α}
    {entry : Sigma fun _ : List α => Node β} {name : List α} {node : Node β} :
    named style dir pattern entry = some (name, node) ↔
      entry = ⟨style.join dir name, node⟩ ∧ name.any style.separator = false ∧
        wild style.star style.question pattern name = true := by
  obtain ⟨path, held⟩ := entry
  constructor
  · intro found
    obtain ⟨other, place, matched⟩ := Option.bind_eq_some_iff.mp found
    split at matched
    · rename_i form
      cases matched
      obtain ⟨rfl, plain⟩ := (style.nameIn_eq_some dir path name).mp place
      exact ⟨rfl, plain, form⟩
    · cases matched
  · rintro ⟨same, plain, form⟩
    cases same
    rw [named, (style.nameIn_eq_some dir _ name).mpr ⟨rfl, plain⟩, Option.bind_some, if_pos form]

/-- What a directory holds under names of the pattern's form. -/
def find (style : PathStyle α) (disk : Disk α β) (dir pattern : List α) :
    List (List α × Node β) :=
  disk.entries.filterMap (named style dir pattern)

theorem mem_find {style : PathStyle α} {disk : Disk α β} {dir pattern name : List α}
    {node : Node β} :
    (name, node) ∈ disk.find style dir pattern ↔
      disk.lookup (style.join dir name) = some node ∧ name.any style.separator = false ∧
        wild style.star style.question pattern name = true := by
  rw [find, List.mem_filterMap]
  constructor
  · rintro ⟨entry, member, found⟩
    obtain ⟨rfl, rest⟩ := named_eq_some.mp found
    exact ⟨AList.mem_lookup_iff.mpr member, rest⟩
  · rintro ⟨known, rest⟩
    exact ⟨_, AList.mem_lookup_iff.mp known, named_eq_some.mpr ⟨rfl, rest⟩⟩

/-- The same for a directory and a pattern in one path. -/
def findFirst (style : PathStyle α) (disk : Disk α β) (path : List α) : List (List α × Node β) :=
  disk.find style (style.split path).1 (style.split path).2

theorem findFirst_join {style : PathStyle α} (slash : style.separator style.slash = true)
    (disk : Disk α β) (dir : List α) {pattern : List α}
    (plain : pattern.any style.separator = false) :
    disk.findFirst style (style.join dir pattern) = disk.find style dir pattern := by
  rw [findFirst, style.split_join slash dir plain]

/-- The files among what was found. -/
def fileNames (found : List (List α × Node β)) : List (List α) :=
  found.filterMap fun entry =>
    match entry.2 with
    | .file _ => some entry.1
    | .directory => none

def files (style : PathStyle α) (disk : Disk α β) (dir pattern : List α) : List (List α) :=
  fileNames (disk.find style dir pattern)

theorem mem_files {style : PathStyle α} {disk : Disk α β} {dir pattern name : List α} :
    name ∈ disk.files style dir pattern ↔
      (disk.content (style.join dir name)).isSome = true ∧ name.any style.separator = false ∧
        wild style.star style.question pattern name = true := by
  rw [files, fileNames, List.mem_filterMap]
  constructor
  · rintro ⟨⟨other, node⟩, member, found⟩
    cases node with
    | directory => cases found
    | file bytes =>
        cases found
        obtain ⟨known, rest⟩ := mem_find.mp member
        rw [content, known]
        exact ⟨rfl, rest⟩
  · rintro ⟨known, rest⟩
    obtain ⟨bytes, known⟩ := Option.isSome_iff_exists.mp known
    exact ⟨(name, .file bytes), mem_find.mpr ⟨lookup_of_content known, rest⟩, rfl⟩

theorem nodup_files (style : PathStyle α) (disk : Disk α β) (dir pattern : List α) :
    (disk.files style dir pattern).Nodup := by
  have apart : (disk.find style dir pattern).Pairwise (fun found found' => found.1 ≠ found'.1) := by
    rw [find, List.pairwise_filterMap]
    apply (List.nodupKeys_iff_pairwise.mp disk.nodupKeys).imp
    rintro entry entry' different ⟨name, node⟩ found ⟨name', node'⟩ found' same
    obtain ⟨rfl, _⟩ := named_eq_some.mp found
    obtain ⟨rfl, _⟩ := named_eq_some.mp found'
    exact different (congrArg (style.join dir) same)
  rw [files, fileNames, List.Nodup, List.pairwise_filterMap]
  apply apart.imp
  rintro ⟨name, node⟩ ⟨name', node'⟩ different first kept second kept'
  cases node with
  | directory => cases kept
  | file bytes =>
      cases node' with
      | directory => cases kept'
      | file bytes' =>
          cases kept
          cases kept'
          exact different

end Search

end Disk

end Obs2Mf
