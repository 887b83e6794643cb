import Mathlib.Data.List.DropRight
import Obs2Mf.Foundation.Run
import Obs2Mf.Log.Logger

set_option autoImplicit false

/- The logs of many launches in one directory. -/
namespace Obs2Mf.Log

open Disk (PathStyle)

/-- What every launch passes to `InitSession`. -/
structure Setup where
  dir : WString
  namePrefix : WString
  keep : Nat
  deriving DecidableEq, Repr

/-- What the logger is asked to do, at which local times. -/
inductive Action where
  | launch (named opened : SYSTEMTIME) (processId maxBytes : Nat)
  | logf (now : SYSTEMTIME) (message : WString)
  deriving DecidableEq, Repr

/-- `launches` are the times of all launches so far, which nothing reads. -/
structure World where
  disk : FileSystem
  logger : Logger
  processId : Nat
  launches : List SYSTEMTIME

/-- Nothing was launched yet. -/
def World.initial (disk : FileSystem) : World := ⟨disk, .initial, 0, []⟩

section Last

variable {α : Type} (l : List α)

theorem length_rtake_le (n : Nat) : (l.rtake n).length ≤ n := by
  rw [List.rtake, List.length_drop]
  omega

/-- The last `m` of the last `n`. -/
theorem rtake_rtake {m n : Nat} (fewer : m ≤ n) : (l.rtake n).rtake m = l.rtake m := by
  rw [List.rtake, List.rtake, List.rtake, List.drop_drop, List.length_drop]
  congr 1
  omega

end Last

namespace Setup

variable (setup : Setup)

def pattern : WString := setup.namePrefix ++ wide "-*.log"

/-- The name of the log of a launch. -/
def sessionName (named : SYSTEMTIME) : WString :=
  setup.namePrefix ++ wide "-" ++ stamp named ++ wide ".log"

def path (name : WString) : WString := windows.join setup.dir name

/-- The logs of the launches so far, the first launch first. -/
def names (w : World) : List WString := w.launches.map setup.sessionName

/-- The files that a search for session logs finds. -/
def logs (disk : FileSystem) : List WString :=
  Disk.fileNames (disk.findFirst windows (setup.path setup.pattern))

/-- A launch is a process of its own, with a logger of its own. -/
def step (w : World) : Action → Option World
  | .launch named opened processId maxBytes =>
      let (logger, disk) := Logger.initial.initSession setup.dir setup.namePrefix setup.keep
        maxBytes named opened processId w.disk
      some ⟨disk, logger, processId, w.launches ++ [named]⟩
  | .logf now message =>
      some { w with disk := w.logger.logf now w.processId w.disk message }

/-- The guard of `PruneOld` is passed, and the prefix is part of a file name. -/
structure Regular : Prop where
  dir : setup.dir ≠ []
  namePrefix : setup.namePrefix ≠ []
  plain : setup.namePrefix.any windows.separator = false

/-- A name of the form `prefix-*.log`. -/
def Matches (name : WString) : Prop :=
  name.any windows.separator = false ∧
    Wildcard.wild windows.star windows.question setup.pattern name = true

theorem mem_logs (regular : setup.Regular) {disk : FileSystem} {name : WString} :
    name ∈ setup.logs disk ↔
      (disk.content (setup.path name)).isSome = true ∧ setup.Matches name := by
  have plain : setup.pattern.any windows.separator = false := by
    rw [pattern, List.any_append, regular.plain]
    rfl
  rw [logs, path, Disk.findFirst_join rfl disk setup.dir plain]
  exact Disk.mem_files

theorem path_inj {name name' : WString} : setup.path name = setup.path name' ↔ name = name' :=
  windows.join_inj setup.dir name name'

theorem stamp_plain (t : SYSTEMTIME) : (stamp t).any windows.separator = false := by
  have digits (width n : Nat) : (Decimal.padded width n).any windows.separator = false := by
    rw [List.any_eq_false]
    intro c member
    have digit := Decimal.mem_padded member
    simp only [windows, Bool.or_eq_true, decide_eq_true_eq]
    omega
  simp only [stamp, List.any_append, digits]
  rfl

/-- The log of every launch is found, whatever its stamp. -/
theorem matches_sessionName (regular : setup.Regular) (named : SYSTEMTIME) :
    setup.Matches (setup.sessionName named) := by
  constructor
  · rw [sessionName, List.any_append, List.any_append, List.any_append, regular.plain, stamp_plain]
    rfl
  · have tail : Wildcard.wild windows.star windows.question ([windows.star] ++ wide ".log")
        (stamp named ++ wide ".log") = true :=
      Wildcard.wild_append (Wildcard.wild_any _) (Wildcard.wild_self _)
    have whole := Wildcard.wild_append
      (Wildcard.wild_self (setup.namePrefix ++ wide "-")) tail
    have pattern : setup.pattern =
        setup.namePrefix ++ wide "-" ++ ([windows.star] ++ wide ".log") := by
      rw [List.append_assoc]
      rfl
    rw [pattern, sessionName, List.append_assoc (setup.namePrefix ++ wide "-")]
    exact whole

/-- No backup is: its name ends in a digit. -/
theorem not_matches_backup (name : WString) : ¬ setup.Matches (Logger.backup name) := by
  rintro ⟨_, form⟩
  have pattern : setup.pattern = (setup.namePrefix ++ wide "-*.lo") ++ [103] := by
    rw [List.append_assoc]
    rfl
  rw [pattern] at form
  obtain ⟨front, same⟩ := Wildcard.wild_last (by decide) form
  have digit : Logger.backup name = (name ++ [46]) ++ [49] := by
    rw [List.append_assoc]
    rfl
  have last := congrArg List.getLast? same
  rw [digit, List.getLast?_concat, List.getLast?_concat] at last
  exact absurd last (by decide)

section Pruning

variable (disk : FileSystem)

/-- The session logs in the order in which `PruneOld` goes through them. -/
def sortedLogs : List WString := (setup.logs disk).insertionSort (· ≤ ·)

theorem mem_sortedLogs {name : WString} : name ∈ setup.sortedLogs disk ↔ name ∈ setup.logs disk :=
  List.mem_insertionSort _

theorem nodup_sortedLogs : (setup.sortedLogs disk).Nodup := by
  have found := Disk.nodup_files windows disk
    (windows.split (setup.path setup.pattern)).1 (windows.split (setup.path setup.pattern)).2
  exact (List.perm_insertionSort _ _).nodup_iff.mpr found

theorem sortedLogs_increasing : (setup.sortedLogs disk).Pairwise (· < ·) := by
  have sorted := List.pairwise_insertionSort (· ≤ ·) (setup.logs disk)
  apply (sorted.and (setup.nodup_sortedLogs disk)).imp
  rintro name name' ⟨before, apart⟩
  exact lt_of_le_of_ne before apart

/-- What a launch prunes: all but the last, one less than are kept. -/
def pruned : List WString :=
  (setup.sortedLogs disk).take ((setup.sortedLogs disk).length - (setup.keep - 1))

def prune : FileSystem := disk.deleteAll ((setup.pruned disk).map setup.path)

/-- Pruning leaves everything else as it was. -/
theorem content_prune (path : WString) :
    (setup.prune disk).content path =
      if path ∈ (setup.pruned disk).map setup.path then none else disk.content path :=
  Disk.content_deleteAll disk path _

/-- As many as may be kept beside a new one are left. -/
theorem mem_logs_prune (regular : setup.Regular) {name : WString} :
    name ∈ setup.logs (setup.prune disk) ↔
      name ∈ (setup.sortedLogs disk).rtake (setup.keep - 1) := by
  have parts := List.take_append_drop ((setup.sortedLogs disk).length - (setup.keep - 1))
    (setup.sortedLogs disk)
  have apart := List.nodup_append'.mp (parts.symm ▸ setup.nodup_sortedLogs disk)
  have found : name ∈ setup.sortedLogs disk ↔
      name ∈ setup.pruned disk ∨ name ∈ (setup.sortedLogs disk).rtake (setup.keep - 1) := by
    rw [pruned, List.rtake, ← List.mem_append, parts]
  rw [setup.mem_logs regular, content_prune]
  rw [mem_sortedLogs, setup.mem_logs regular] at found
  by_cases old : name ∈ setup.pruned disk
  · rw [if_pos (List.mem_map_of_mem old)]
    have gone : name ∉ (setup.sortedLogs disk).rtake (setup.keep - 1) :=
      fun kept => apart.2.2 old kept
    simp [gone]
  · have spared : setup.path name ∉ (setup.pruned disk).map setup.path := by
      intro member
      obtain ⟨other, listed, same⟩ := List.mem_map.mp member
      exact old ((setup.path_inj).mp same ▸ listed)
    rw [if_neg spared, found]
    simp [old]

variable {l : Logger} (dir : l.dir = setup.dir) (namePrefix : l.namePrefix = setup.namePrefix)
include dir namePrefix

theorem logger_pruned (regular : setup.Regular) :
    l.pruned disk setup.keep = setup.pruned disk := by
  have nonempty : ¬ (setup.dir = [] || setup.namePrefix = []) = true := by
    simp [regular.dir, regular.namePrefix]
  have found : Disk.fileNames (disk.findFirst windows
      (setup.dir ++ wide "\\" ++ setup.namePrefix ++ wide "-*.log")) = setup.logs disk := by
    rw [List.append_assoc, List.append_assoc]
    rfl
  have keepOld : (if 0 < setup.keep then setup.keep - 1 else 0) = setup.keep - 1 := by
    split
    · rfl
    · omega
  unfold Logger.pruned
  rw [dir, namePrefix, if_neg nonempty]
  dsimp only
  rw [found, keepOld, pruned, sortedLogs]
  split
  · rename_i few
    rw [Nat.sub_eq_zero_of_le few, List.take_zero]
  · rfl

theorem logger_pruneOld (regular : setup.Regular) :
    l.pruneOld disk setup.keep = setup.prune disk := by
  have paths : (fun name => setup.dir ++ wide "\\" ++ name) = setup.path := by
    funext name
    rw [List.append_assoc]
    rfl
  rw [Logger.pruneOld, setup.logger_pruned disk dir namePrefix regular, dir, paths, prune]

end Pruning

section Steps

/-- The name is not cut off, and there is no directory in the place of the log. -/
def Operable (w : World) : Action → Prop
  | .launch named _ _ _ =>
      (setup.path (setup.sessionName named)).length < MAX_PATH ∧
        w.disk.Free (setup.path (setup.sessionName named))
  | .logf _ _ => True

instance (w : World) : ∀ a, Decidable (setup.Operable w a)
  | .launch named _ _ _ => inferInstanceAs (Decidable (
      (setup.path (setup.sessionName named)).length < MAX_PATH ∧
        w.disk.Free (setup.path (setup.sessionName named))))
  | .logf _ _ => isTrue trivial

variable {setup} (regular : setup.Regular) {w t : World}
include regular

/-- A launch prunes, and then opens a log under its own name. -/
theorem launch_step {named opened : SYSTEMTIME} {processId maxBytes : Nat}
    (whole : (setup.path (setup.sessionName named)).length < MAX_PATH)
    (taken : setup.step w (.launch named opened processId maxBytes) = some t) :
    t.launches = w.launches ++ [named] ∧
      t.logger.path = setup.path (setup.sessionName named) ∧
      Logger.Logged t.logger (setup.prune w.disk) t.disk := by
  have name : setup.dir ++ wide "\\" ++ setup.namePrefix ++ wide "-" ++ stamp named ++
      wide ".log" = setup.path (setup.sessionName named) := by
    simp only [path, PathStyle.join, sessionName, List.append_assoc]
    rfl
  have buffer : (snwprintf MAX_PATH (setup.path (setup.sessionName named))).1 =
      setup.path (setup.sessionName named) := by
    rw [snwprintf, if_pos whole]
  have pruned (l : Logger) (dir : l.dir = setup.dir)
      (namePrefix : l.namePrefix = setup.namePrefix) :
      l.pruneOld w.disk setup.keep = setup.prune w.disk :=
    setup.logger_pruneOld w.disk dir namePrefix regular
  simp only [step, Logger.initSession, name, buffer, pruned, Option.some.injEq] at taken
  subst taken
  refine ⟨rfl, rfl, ?_⟩
  dsimp only
  apply Logger.logRaw_logged

theorem launch_names {named opened : SYSTEMTIME} {processId maxBytes : Nat}
    (whole : (setup.path (setup.sessionName named)).length < MAX_PATH)
    (taken : setup.step w (.launch named opened processId maxBytes) = some t) :
    setup.names t = setup.names w ++ [setup.sessionName named] := by
  rw [names, (launch_step regular whole taken).1, List.map_append]
  rfl

omit regular in
theorem logf_step {now : SYSTEMTIME} {message : WString}
    (taken : setup.step w (.logf now message) = some t) :
    t.launches = w.launches ∧ t.logger = w.logger ∧
      (w.logger.path = [] → t.disk = w.disk) ∧ Logger.Logged w.logger w.disk t.disk := by
  simp only [step, Option.some.injEq] at taken
  subst taken
  refine ⟨rfl, rfl, ?_, ?_⟩
  · intro closed
    dsimp only
    rw [Logger.logf, Logger.logRaw, if_pos closed]
  · dsimp only
    apply Logger.logRaw_logged

omit regular in
theorem backup_path (name : WString) :
    Logger.backup (setup.path name) = setup.path (Logger.backup name) := by
  simp only [Logger.backup, path, PathStyle.join, List.append_assoc, List.cons_append]

section Lines

variable {l : Logger} {named : SYSTEMTIME} {disk later : FileSystem}
  (own : l.path = setup.path (setup.sessionName named))
include own

/-- A line makes its log appear, and no other. -/
theorem logged_logs (free : disk.Free l.path) (logged : Logger.Logged l disk later)
    {name : WString} :
    name ∈ setup.logs later ↔ name = setup.sessionName named ∨ name ∈ setup.logs disk := by
  rw [setup.mem_logs regular, setup.mem_logs regular]
  by_cases same : name = setup.sessionName named
  · have nonempty : l.path ≠ [] := by
      rw [own, path, PathStyle.join]
      simp
    have present := logged.log nonempty free
    rw [own, ← same] at present
    exact iff_of_true ⟨present, same ▸ setup.matches_sessionName regular named⟩ (Or.inl same)
  · rw [or_iff_right same]
    apply and_congr_left
    intro form
    have apart : setup.path name ≠ l.path ∧ setup.path name ≠ Logger.backup l.path := by
      rw [own, backup_path, Ne, path_inj, Ne, path_inj]
      refine ⟨same, ?_⟩
      intro backup
      exact setup.not_matches_backup _ (backup ▸ form)
    rw [logged.content apart]

end Lines

theorem launch_logs {named opened : SYSTEMTIME} {processId maxBytes : Nat}
    (operable : setup.Operable w (.launch named opened processId maxBytes))
    (taken : setup.step w (.launch named opened processId maxBytes) = some t) {name : WString} :
    name ∈ setup.logs t.disk ↔
      name = setup.sessionName named ∨ name ∈ (setup.sortedLogs w.disk).rtake (setup.keep - 1) := by
  obtain ⟨_, own, logged⟩ := launch_step regular operable.1 taken
  have free : (setup.prune w.disk).Free t.logger.path := own ▸ operable.2.deleteAll _
  rw [logged_logs regular own free logged, setup.mem_logs_prune w.disk regular]

/-- The log of the last launch is there, and it is what lines are written to. -/
def Running (setup : Setup) (w : World) : Prop :=
  w.launches = [] ∧ w.logger.path = [] ∨
    ∃ named, w.launches.getLast? = some named ∧
      w.logger.path = setup.path (setup.sessionName named) ∧
      setup.sessionName named ∈ setup.logs w.disk

/-- Lines make no log disappear, not even in a rotation. -/
theorem logf_logs (running : setup.Running w) {now : SYSTEMTIME} {message : WString}
    (taken : setup.step w (.logf now message) = some t) {name : WString} :
    name ∈ setup.logs t.disk ↔ name ∈ setup.logs w.disk := by
  obtain ⟨_, _, closed, logged⟩ := logf_step taken
  rcases running with ⟨_, none⟩ | ⟨named, _, own, there⟩
  · rw [closed none]
  · have file := ((setup.mem_logs regular).mp there).1
    have free : w.disk.Free w.logger.path := own ▸ Disk.free_of_content file
    rw [logged_logs regular own free logged]
    constructor
    · rintro (rfl | before)
      · exact there
      · exact before
    · exact Or.inr

theorem running_step {a : Action} (running : setup.Running w) (operable : setup.Operable w a)
    (taken : setup.step w a = some t) : setup.Running t := by
  cases a with
  | launch named opened processId maxBytes =>
      obtain ⟨launches, own, _⟩ := launch_step regular operable.1 taken
      refine Or.inr ⟨named, ?_, own, (launch_logs regular operable taken).mpr (Or.inl rfl)⟩
      rw [launches, List.getLast?_concat]
  | logf now message =>
      obtain ⟨launches, logger, _, _⟩ := logf_step taken
      rcases running with ⟨none, closed⟩ | ⟨named, last, own, there⟩
      · exact Or.inl ⟨launches ▸ none, logger ▸ closed⟩
      · refine Or.inr ⟨named, launches ▸ last, logger ▸ own, ?_⟩
        exact (logf_logs regular (Or.inr ⟨named, last, own, there⟩) taken).mpr there

end Steps

end Setup

/-- Three launches in three seconds, two of them with a rotation. -/
def threeLaunches : List Action :=
  [.launch ⟨2024, 9, 30, 23, 59, 58, 0⟩ ⟨2024, 9, 30, 23, 59, 58, 1⟩ 1 0,
    .logf ⟨2024, 9, 30, 23, 59, 59, 0⟩ (wide "a"),
    .launch ⟨2024, 9, 30, 23, 59, 59, 0⟩ ⟨2024, 10, 1, 0, 0, 0, 0⟩ 2 0,
    .logf ⟨2024, 10, 1, 0, 0, 0, 0⟩ (wide "b"),
    .launch ⟨2024, 10, 1, 0, 0, 0, 0⟩ ⟨2024, 10, 1, 0, 0, 0, 0⟩ 3 0]

end Obs2Mf.Log
