import Obs2Mf.Log.Sessions

set_option autoImplicit false

/- Which logs are still there after a number of launches. -/
namespace Obs2Mf.Log

open Decimal (padded_append_lt append_lt_append)
open Run

namespace SYSTEMTIME

/-- The date and the time of day, to the second. -/
def clock (t : SYSTEMTIME) : List Nat :=
  [t.wYear, t.wMonth, t.wDay, t.wHour, t.wMinute, t.wSecond]

/-- A year of four digits, and two for everything else. -/
structure Proper (t : SYSTEMTIME) : Prop where
  year : t.wYear < 10000
  month : t.wMonth < 100
  day : t.wDay < 100
  hour : t.wHour < 100
  minute : t.wMinute < 100
  second : t.wSecond < 100

instance (t : SYSTEMTIME) : Decidable t.Proper :=
  decidable_of_iff (t.wYear < 10000 ∧ t.wMonth < 100 ∧ t.wDay < 100 ∧ t.wHour < 100 ∧
      t.wMinute < 100 ∧ t.wSecond < 100)
    ⟨fun all => ⟨all.1, all.2.1, all.2.2.1, all.2.2.2.1, all.2.2.2.2.1, all.2.2.2.2.2⟩,
      fun t => ⟨t.year, t.month, t.day, t.hour, t.minute, t.second⟩⟩

/-- Stamps are ordered as text the way the times are ordered. -/
theorem stamp_lt {t u : SYSTEMTIME} (left : t.Proper) (right : u.Proper) (back : WString) :
    stamp t ++ back < stamp u ++ back ↔ t.clock < u.clock := by
  have dash (front front' : WString) : wide "-" ++ front < wide "-" ++ front' ↔ front < front' := by
    rw [append_lt_append rfl]
    simp
  simp only [stamp, clock, List.append_assoc]
  rw [padded_append_lt (by decide) left.year right.year,
    padded_append_lt (by decide) left.month right.month,
    padded_append_lt (by decide) left.day right.day, dash,
    padded_append_lt (by decide) left.hour right.hour,
    padded_append_lt (by decide) left.minute right.minute,
    padded_append_lt (by decide) left.second right.second]
  simp only [List.cons_lt_cons_iff, List.lt_irrefl, and_false, or_false]

end SYSTEMTIME

namespace Setup

variable {setup : Setup}

theorem sessionName_lt {t u : SYSTEMTIME} (left : t.Proper) (right : u.Proper) :
    setup.sessionName t < setup.sessionName u ↔ t.clock < u.clock := by
  rw [sessionName, sessionName, List.append_assoc _ (stamp t), List.append_assoc _ (stamp u),
    append_lt_append rfl]
  simp [SYSTEMTIME.stamp_lt left right]

/-- A list that is ordered already and has the files of the search is what sorting them gives. -/
theorem sortedLogs_eq {disk : FileSystem} {names : List WString}
    (increasing : names.Pairwise (· < ·)) (same : ∀ name, name ∈ setup.logs disk ↔ name ∈ names) :
    setup.sortedLogs disk = names := by
  have distinct : names.Nodup := increasing.imp fun before => ne_of_lt before
  have members : (setup.sortedLogs disk).Perm names := by
    rw [List.perm_ext_iff_of_nodup (setup.nodup_sortedLogs disk) distinct]
    intro name
    rw [mem_sortedLogs, same]
  apply List.Perm.eq_of_pairwise' (List.pairwise_insertionSort _ _) _ members
  exact increasing.imp fun before => le_of_lt before

/-- A launch is later than all before it. -/
def Later (w : World) : Action → Prop
  | .launch named _ _ _ => named.Proper ∧ ∀ earlier ∈ w.launches, earlier.clock < named.clock
  | .logf _ _ => True

instance (w : World) : ∀ a, Decidable (Later w a)
  | .launch named _ _ _ => inferInstanceAs (Decidable (named.Proper ∧
      ∀ earlier ∈ w.launches, earlier.clock < named.clock))
  | .logf _ _ => isTrue trivial

def Orderly (setup : Setup) (w : World) (a : Action) : Prop := setup.Operable w a ∧ Later w a

instance (setup : Setup) (w : World) (a : Action) : Decidable (setup.Orderly w a) :=
  inferInstanceAs (Decidable (_ ∧ _))

/-- A logger as it prunes. -/
def pruner (setup : Setup) (maxBytes : Nat) : Logger :=
  { Logger.initial with maxBytes := maxBytes, dir := setup.dir, namePrefix := setup.namePrefix }

/-- Pruning changes nothing but files of the pattern's form, and not the log of the launch. -/
def PrunesOthers (setup : Setup) (w : World) : Action → Prop
  | .launch named _ _ maxBytes => ∀ path,
      ((setup.pruner maxBytes).pruneOld w.disk setup.keep).content path ≠ w.disk.content path →
        ∃ name, setup.Matches name ∧ path = setup.path name ∧ name ≠ setup.sessionName named
  | .logf _ _ => True

/-- The files of the pattern's form are the logs of the last launches, as many as are kept. -/
def Retained (setup : Setup) (w : World) (a : Action) (t : World) : Prop :=
  setup.sortedLogs t.disk = (setup.names t).rtake setup.keep ∧
    setup.PrunesOthers w a ∧ setup.Running t

theorem Retained.few {setup : Setup} {w t : World} {a : Action} (retained : setup.Retained w a t) :
    (setup.logs t.disk).length ≤ setup.keep := by
  rw [← List.length_insertionSort (· ≤ ·), ← sortedLogs, retained.1]
  exact length_rtake_le _ _

/-- Before the first launch there was no file of the pattern's form. -/
structure Ordered (setup : Setup) (w : World) : Prop where
  running : setup.Running w
  proper : ∀ t ∈ w.launches, t.Proper
  increasing : w.launches.Pairwise fun t u => t.clock < u.clock
  logs : setup.sortedLogs w.disk = (setup.names w).rtake setup.keep

section Launches

variable {w t : World}

theorem names_increasing (proper : ∀ t ∈ w.launches, t.Proper)
    (increasing : w.launches.Pairwise fun t u => t.clock < u.clock) :
    (setup.names w).Pairwise (· < ·) := by
  rw [names, List.pairwise_map]
  apply increasing.imp_of_mem
  intro earlier later member member' before
  exact (sessionName_lt (proper _ member) (proper _ member')).mpr before

variable (ordered : setup.Ordered w) (regular : setup.Regular)
include ordered regular

/-- The log of a launch is not among those it prunes: it sorts after all of them. -/
theorem Ordered.not_pruned {named opened : SYSTEMTIME} {processId maxBytes : Nat}
    (orderly : setup.Orderly w (.launch named opened processId maxBytes)) :
    setup.PrunesOthers w (.launch named opened processId maxBytes) := by
  intro path changed
  rw [setup.logger_pruneOld w.disk rfl rfl regular, setup.content_prune] at changed
  split at changed
  · rename_i member
    obtain ⟨name, listed, rfl⟩ := List.mem_map.mp member
    have found := List.mem_of_mem_take listed
    have known := (setup.mem_sortedLogs w.disk).mp found
    refine ⟨name, ((setup.mem_logs regular).mp known).2, rfl, ?_⟩
    rw [ordered.logs] at found
    obtain ⟨earlier, launched, rfl⟩ := List.mem_map.mp (List.mem_of_mem_drop found)
    have before : setup.sessionName earlier < setup.sessionName named :=
      (sessionName_lt (ordered.proper earlier launched) orderly.2.1).mpr
        (orderly.2.2 earlier launched)
    exact ne_of_lt before
  · exact absurd rfl changed

/-- A launch takes its place behind those that are left. -/
theorem Ordered.launch (keep : 1 ≤ setup.keep) {named opened : SYSTEMTIME}
    {processId maxBytes : Nat} (orderly : setup.Orderly w (.launch named opened processId maxBytes))
    (taken : setup.step w (.launch named opened processId maxBytes) = some t) :
    setup.Ordered t := by
  obtain ⟨launches, _, _⟩ := launch_step regular orderly.1.1 taken
  have running := running_step regular ordered.running orderly.1 taken
  have names := launch_names regular orderly.1.1 taken
  have proper : ∀ u ∈ t.launches, u.Proper := by
    intro u member
    rw [launches, List.mem_append, List.mem_singleton] at member
    rcases member with before | rfl
    · exact ordered.proper u before
    · exact orderly.2.1
  have increasing : t.launches.Pairwise fun t u => t.clock < u.clock := by
    rw [launches, List.pairwise_append]
    refine ⟨ordered.increasing, List.pairwise_singleton _ _, ?_⟩
    intro earlier launched later member
    rw [List.mem_singleton.mp member]
    exact orderly.2.2 earlier launched
  refine ⟨running, proper, increasing, ?_⟩
  have all : (setup.names t).Pairwise (· < ·) := names_increasing proper increasing
  have kept : ((setup.names t).rtake setup.keep).Pairwise (· < ·) :=
    all.sublist (List.drop_sublist _ _)
  apply sortedLogs_eq kept
  intro name
  rw [launch_logs regular orderly.1 taken, ordered.logs, rtake_rtake _ (by omega), names]
  obtain ⟨others, more⟩ : ∃ others, setup.keep = others + 1 := ⟨setup.keep - 1, by omega⟩
  rw [more, List.rtake_concat_succ, List.mem_append, List.mem_singleton,
    Nat.add_sub_cancel, or_comm]

/-- Every step keeps the logs in order, and pruning is the only thing that removes any. -/
theorem Ordered.step (keep : 1 ≤ setup.keep) {a : Action} (orderly : setup.Orderly w a)
    (taken : setup.step w a = some t) : setup.Ordered t ∧ setup.Retained w a t := by
  cases a with
  | launch named opened processId maxBytes =>
      have later := ordered.launch regular keep orderly taken
      exact ⟨later, later.logs, ordered.not_pruned regular orderly, later.running⟩
  | logf now message =>
      obtain ⟨launches, _, _, _⟩ := logf_step taken
      have running := running_step regular ordered.running orderly.1 taken
      have logs : setup.sortedLogs t.disk = (setup.names t).rtake setup.keep := by
        apply sortedLogs_eq
        · rw [names, launches]
          exact (names_increasing ordered.proper ordered.increasing).sublist (List.drop_sublist _ _)
        · intro name
          rw [logf_logs regular ordered.running taken, ← mem_sortedLogs, ordered.logs, names, names,
            launches]
      exact ⟨⟨running, launches ▸ ordered.proper, launches ▸ ordered.increasing, logs⟩, logs,
        trivial, running⟩

end Launches

/-- The files of the pattern's form are always the logs of the last launches, as many as are
kept; nothing else is pruned, and the log that is being written to never is. -/
theorem launches_retained (regular : setup.Regular) (keep : 1 ≤ setup.keep) (disk : FileSystem)
    (none : setup.logs disk = []) (actions : List Action)
    (orderly : Along setup.step setup.Orderly (.initial disk) actions) :
    Throughout setup.step setup.Retained (.initial disk) actions := by
  have logs : setup.sortedLogs disk = [] := by
    rw [sortedLogs, none]
    rfl
  have start : setup.Ordered (.initial disk) :=
    ⟨Or.inl ⟨rfl, rfl⟩, by simp [World.initial], by simp [World.initial],
      by simp [World.initial, logs, names]⟩
  have kept : ∀ w a t, setup.Ordered w → setup.Orderly w a → setup.step w a = some t →
      setup.Ordered t ∧ setup.Retained w a t := by
    intro w a t ordered orderly taken
    exact ordered.step regular keep orderly taken
  exact throughout_along kept actions _ start orderly

end Setup

theorem threeLaunches_retained :
    Throughout (Setup.step ⟨wide "logs", wide "broker", 2⟩)
      (Setup.Retained ⟨wide "logs", wide "broker", 2⟩) (.initial ∅) threeLaunches :=
  Setup.launches_retained ⟨by decide, by decide, by decide⟩ (by decide) ∅ (by decide) threeLaunches
    (by decide +kernel)

/-- Three launches in order leave three files, although one is to be kept. -/
def Unpruned (setup : Setup) : Prop :=
  setup.keep = 1 ∧ setup.logs ∅ = [] ∧
    Along setup.step setup.Orderly (.initial ∅) threeLaunches ∧
    (run setup.step (.initial ∅) threeLaunches).map (fun w => (setup.logs w.disk).length) = some 3 ∧
    ¬ Throughout setup.step setup.Retained (.initial ∅) threeLaunches

theorem unpruned_of_three {setup : Setup} (keep : setup.keep = 1) (none : setup.logs ∅ = [])
    (orderly : Along setup.step setup.Orderly (.initial ∅) threeLaunches)
    (three : (run setup.step (.initial ∅) threeLaunches).map
      (fun w => (setup.logs w.disk).length) = some 3) : Unpruned setup := by
  refine ⟨keep, none, orderly, three, ?_⟩
  intro retained
  obtain ⟨t, ends, three⟩ := Option.map_eq_some_iff.mp three
  obtain ⟨u, a, last⟩ := retained.last (by decide) ends
  have few := last.few
  omega

/-- Without a directory or a prefix nothing is pruned, and with a prefix that leads into another
directory the files are not where they are deleted. -/
theorem launches_not_retained :
    Unpruned ⟨wide "logs", [], 1⟩ ∧ Unpruned ⟨[], wide "broker", 1⟩ ∧
      Unpruned ⟨wide "logs", wide "a\\broker", 1⟩ :=
  ⟨unpruned_of_three rfl rfl (by decide +kernel) (by decide +kernel),
    unpruned_of_three rfl rfl (by decide +kernel) (by decide +kernel),
    unpruned_of_three rfl rfl (by decide +kernel) (by decide +kernel)⟩

end Obs2Mf.Log
