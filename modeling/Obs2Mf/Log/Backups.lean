import Mathlib.Data.Finset.Card
import Mathlib.Data.Finset.Image
import Obs2Mf.Log.Sessions

set_option autoImplicit false

/- How many files the logs of many launches and their backups are. -/
namespace Obs2Mf.Log

open Run

/-- In an increasing list the last ones are those that few come after. -/
theorem mem_rtake {α : Type} [Preorder α] [DecidableLT α] {l : List α}
    (increasing : l.Pairwise (· < ·)) {a : α} (member : a ∈ l) (n : Nat) :
    a ∈ l.rtake n ↔ (l.filter (a < ·)).length < n := by
  obtain ⟨front, back, rfl⟩ := List.append_of_mem member
  obtain ⟨_, after, before⟩ := List.pairwise_append.mp increasing
  obtain ⟨after, _⟩ := List.pairwise_cons.mp after
  have later : (front ++ a :: back).filter (a < ·) = back := by
    have none : front.filter (a < ·) = [] := by
      simp only [List.filter_eq_nil_iff, decide_eq_true_eq]
      intro b first
      exact lt_asymm (before b first a List.mem_cons_self)
    have all : back.filter (a < ·) = back := by
      simp only [List.filter_eq_self, decide_eq_true_eq]
      exact after
    rw [List.filter_append, none, List.filter_cons_of_neg (by simp), all, List.nil_append]
  rw [later, List.rtake, List.length_append, List.length_cons]
  by_cases few : back.length < n
  · have early : front.length + (back.length + 1) - n ≤ front.length := by omega
    rw [List.drop_append_of_le_length early]
    simp [few]
  · have past : front.length + (back.length + 1) - n = front.length + (back.length - n + 1) := by
      omega
    rw [past, List.drop_length_add_append, List.drop_succ_cons]
    have absent : a ∉ back.drop (back.length - n) :=
      fun again => lt_irrefl a (after a (List.mem_of_mem_drop again))
    exact iff_of_false absent few

namespace Setup

section Files

variable (setup : Setup) (w : World)

def Present (name : WString) : Prop := (w.disk.content (setup.path name)).isSome = true

instance (name : WString) : Decidable (setup.Present w name) :=
  inferInstanceAs (Decidable (_ = _))

/-- The files that the logger has left. -/
def left : Finset WString :=
  ((setup.names w).flatMap fun name => [name, Logger.backup name]).toFinset.filter
    (setup.Present w)

/-- No backup outlives its log. -/
def Covered : Prop :=
  ∀ name ∈ setup.names w, setup.Present w (Logger.backup name) → setup.Present w name

/-- There are at most two files for each session that is kept, since no backup outlives its log. -/
def Bounded (_ : World) (_ : Action) (t : World) : Prop :=
  (setup.left t).card ≤ 2 * setup.keep ∧ setup.Covered t

/-- Fewer logs come after that of a session with a backup than are kept beside the new one. -/
def Spared : Action → Prop
  | .launch named _ _ _ => 1 ≤ setup.keep ∧ ∀ name ∈ setup.names w,
      name ≠ setup.sessionName named → setup.Present w (Logger.backup name) →
        ((setup.logs w.disk).filter (name < ·)).length < setup.keep - 1
  | .logf _ _ => True

instance : ∀ a, Decidable (setup.Spared w a)
  | .launch named _ _ _ => inferInstanceAs (Decidable (1 ≤ setup.keep ∧
      ∀ name ∈ setup.names w, name ≠ setup.sessionName named →
        setup.Present w (Logger.backup name) →
          ((setup.logs w.disk).filter (name < ·)).length < setup.keep - 1))
  | .logf _ _ => isTrue trivial

end Files

section Backups

variable {setup : Setup} (regular : setup.Regular) {w t : World}

/-- Launches and lines of other sessions do not touch a backup. -/
theorem logged_backup (regular : setup.Regular) {l : Logger} {disk later : FileSystem}
    {named : SYSTEMTIME} (own : l.path = setup.path (setup.sessionName named))
    (logged : Logger.Logged l disk later) {name : WString}
    (other : name ≠ setup.sessionName named) :
    later.content (setup.path (Logger.backup name)) =
      disk.content (setup.path (Logger.backup name)) := by
  apply logged.content
  rw [own, backup_path, Ne, path_inj, Ne, path_inj]
  constructor
  · intro same
    exact setup.not_matches_backup name (same ▸ setup.matches_sessionName regular named)
  · intro same
    exact other (List.append_cancel_right same)

include regular

theorem launch_backup {named opened : SYSTEMTIME} {processId maxBytes : Nat}
    (operable : setup.Operable w (.launch named opened processId maxBytes))
    (taken : setup.step w (.launch named opened processId maxBytes) = some t) {name : WString}
    (other : name ≠ setup.sessionName named) :
    setup.Present t (Logger.backup name) ↔ setup.Present w (Logger.backup name) := by
  obtain ⟨_, own, logged⟩ := launch_step regular operable.1 taken
  have spared : setup.path (Logger.backup name) ∉ (setup.pruned w.disk).map setup.path := by
    intro member
    obtain ⟨log, listed, same⟩ := List.mem_map.mp member
    have found := (setup.mem_sortedLogs w.disk).mp (List.mem_of_mem_take listed)
    have form := ((setup.mem_logs regular).mp found).2
    exact setup.not_matches_backup name ((setup.path_inj).mp same ▸ form)
  rw [Present, Present, logged_backup regular own logged other, content_prune, if_neg spared]

/-- A line of a session whose log is there makes no other backup. -/
theorem logf_backup (running : setup.Running w) {now : SYSTEMTIME} {message : WString}
    (taken : setup.step w (.logf now message) = some t) {name : WString}
    (gone : name ∉ setup.logs w.disk) :
    setup.Present t (Logger.backup name) ↔ setup.Present w (Logger.backup name) := by
  obtain ⟨_, _, closed, logged⟩ := logf_step taken
  rcases running with ⟨_, none⟩ | ⟨named, _, own, there⟩
  · rw [Present, Present, closed none]
  · have other : name ≠ setup.sessionName named := by
      rintro rfl
      exact gone there
    rw [Present, Present, logged_backup regular own logged other]

omit regular in
theorem mem_names {name : WString} :
    name ∈ setup.names w ↔ ∃ named ∈ w.launches, setup.sessionName named = name :=
  List.mem_map

theorem present_iff {name : WString} (session : name ∈ setup.names w) :
    setup.Present t name ↔ name ∈ setup.logs t.disk := by
  obtain ⟨named, _, rfl⟩ := mem_names.mp session
  rw [setup.mem_logs regular, Present, and_iff_left (setup.matches_sessionName regular named)]

/-- The sessions whose log is there. -/
def kept (setup : Setup) (w : World) : Finset WString :=
  (setup.names w).toFinset.filter (· ∈ setup.logs w.disk)

theorem left_card (covered : setup.Covered w) : (setup.left w).card ≤ 2 * (setup.kept w).card := by
  have two : setup.left w ⊆ setup.kept w ∪ (setup.kept w).image Logger.backup := by
    intro file member
    rw [left, Finset.mem_filter, List.mem_toFinset, List.mem_flatMap] at member
    obtain ⟨⟨name, session, either⟩, present⟩ := member
    have log (there : setup.Present w name) : name ∈ setup.kept w := by
      rw [kept, Finset.mem_filter, List.mem_toFinset]
      exact ⟨session, (present_iff regular session).mp there⟩
    simp only [List.mem_cons, List.not_mem_nil, or_false] at either
    rw [Finset.mem_union, Finset.mem_image]
    rcases either with rfl | rfl
    · exact Or.inl (log present)
    · exact Or.inr ⟨name, log (covered name session present), rfl⟩
  have card := (Finset.card_le_card two).trans (Finset.card_union_le _ _)
  have image : ((setup.kept w).image Logger.backup).card ≤ (setup.kept w).card :=
    Finset.card_image_le
  omega

/-- What the search finds of sessions after a launch is not more than is to be kept. -/
theorem launch_kept {named opened : SYSTEMTIME} {processId maxBytes : Nat}
    (operable : setup.Operable w (.launch named opened processId maxBytes))
    (taken : setup.step w (.launch named opened processId maxBytes) = some t) :
    (setup.kept t).card ≤ setup.keep - 1 + 1 := by
  have last : setup.kept t ⊆ insert (setup.sessionName named)
      ((setup.sortedLogs w.disk).rtake (setup.keep - 1)).toFinset := by
    intro name member
    rw [kept, Finset.mem_filter, launch_logs regular operable taken] at member
    rw [Finset.mem_insert, List.mem_toFinset]
    exact member.2
  have others := (List.toFinset_card_le _).trans
    (length_rtake_le (setup.sortedLogs w.disk) (setup.keep - 1))
  have card := (Finset.card_le_card last).trans (Finset.card_insert_le _ _)
  omega

/-- No more sessions are kept than are to be, and each one that rotated is. -/
structure Backed (setup : Setup) (w : World) : Prop where
  running : setup.Running w
  covered : setup.Covered w
  few : (setup.kept w).card ≤ setup.keep

theorem Backed.bounded (backed : setup.Backed t) (a : Action) : setup.Bounded w a t := by
  have card := left_card regular backed.covered
  have few := backed.few
  exact ⟨by omega, backed.covered⟩

omit regular in
theorem Backed.initial (disk : FileSystem) : setup.Backed (.initial disk) := by
  refine ⟨Or.inl ⟨rfl, rfl⟩, ?_, ?_⟩
  · intro name session
    cases session
  · exact Nat.zero_le _

variable (backed : setup.Backed w)
include backed

/-- Lines leave every log where it is, and only the log that is there gets a backup. -/
theorem Backed.logf {now : SYSTEMTIME} {message : WString}
    (taken : setup.step w (.logf now message) = some t) : setup.Backed t := by
  have operable : setup.Operable w (.logf now message) := trivial
  have running := running_step regular backed.running operable taken
  have names : setup.names t = setup.names w := by
    rw [Setup.names, (logf_step taken).1]
    rfl
  have logs : ∀ name, name ∈ setup.logs t.disk ↔ name ∈ setup.logs w.disk :=
    fun name => logf_logs regular backed.running taken
  refine ⟨running, ?_, ?_⟩
  · intro name session backup
    rw [names] at session
    rw [present_iff regular session, logs]
    by_contra gone
    have before := (logf_backup regular backed.running taken gone).mp backup
    exact gone ((present_iff regular session).mp (backed.covered name session before))
  · have same : setup.kept t = setup.kept w := by
      rw [kept, kept, names]
      apply Finset.filter_congr
      intro name _
      exact logs name
    rw [same]
    exact backed.few

section Launch

variable {named opened : SYSTEMTIME} {processId maxBytes : Nat}
  (operable : setup.Operable w (.launch named opened processId maxBytes))
  (taken : setup.step w (.launch named opened processId maxBytes) = some t)
include operable taken

/-- Which sessions with a backup a launch leaves their log. -/
theorem Backed.present_launch {name : WString} (session : name ∈ setup.names w)
    (other : name ≠ setup.sessionName named)
    (backup : setup.Present w (Logger.backup name)) :
    setup.Present t name ↔
      ((setup.logs w.disk).filter (name < ·)).length < setup.keep - 1 := by
  have found := (present_iff regular session).mp (backed.covered name session backup)
  have count : ((setup.sortedLogs w.disk).filter (name < ·)).length =
      ((setup.logs w.disk).filter (name < ·)).length :=
    ((List.perm_insertionSort _ _).filter _).length_eq
  rw [present_iff regular session, launch_logs regular operable taken, or_iff_right other,
    mem_rtake (setup.sortedLogs_increasing w.disk) ((setup.mem_sortedLogs w.disk).mpr found), count]

theorem Backed.covered_iff_spared (some_kept : 1 ≤ setup.keep) :
    setup.Covered t ↔ setup.Spared w (.launch named opened processId maxBytes) := by
  have names := launch_names regular operable.1 taken
  constructor
  · intro covered
    refine ⟨some_kept, ?_⟩
    intro name session other backup
    have later : name ∈ setup.names t := names ▸ List.mem_append_left _ session
    have still := (launch_backup regular operable taken other).mpr backup
    exact (backed.present_launch regular operable taken session other backup).mp
      (covered name later still)
  · rintro ⟨_, spared⟩ name session backup
    rw [names, List.mem_append, List.mem_singleton] at session
    by_cases own : name = setup.sessionName named
    · have there := (launch_logs regular operable taken).mpr (Or.inl own)
      exact ((setup.mem_logs regular).mp there).1
    · have before := (launch_backup regular operable taken own).mp backup
      have session := session.resolve_right own
      exact (backed.present_launch regular operable taken session own before).mpr
        (spared name session own before)

end Launch

theorem Backed.launch_or_logf {a : Action} (operable : setup.Operable w a)
    (taken : setup.step w a = some t) :
    (setup.Bounded w a t ↔ setup.Spared w a) ∧ (setup.Spared w a → setup.Backed t) := by
  cases a with
  | launch named opened processId maxBytes =>
      have running := running_step regular backed.running operable taken
      have few := launch_kept regular operable taken
      have next (spared : setup.Spared w (.launch named opened processId maxBytes)) :
          setup.Backed t := by
        have some_kept : 1 ≤ setup.keep := spared.1
        have covered :=
          (backed.covered_iff_spared regular operable taken some_kept).mpr spared
        exact ⟨running, covered, by omega⟩
      refine ⟨⟨?_, ?_⟩, next⟩
      · rintro ⟨card, covered⟩
        have own : setup.sessionName named ∈ setup.left t := by
          have session : setup.sessionName named ∈ setup.names t := by
            rw [launch_names regular operable.1 taken]
            simp
          have there := (launch_logs regular operable taken).mpr (Or.inl rfl)
          rw [left, Finset.mem_filter, List.mem_toFinset, List.mem_flatMap]
          exact ⟨⟨_, session, by simp⟩, (present_iff regular session).mpr there⟩
        have some_left := Finset.card_pos.mpr ⟨_, own⟩
        exact (backed.covered_iff_spared regular operable taken (by omega)).mp covered
      · intro spared
        exact (next spared).bounded regular _
  | logf now message =>
      have next := backed.logf regular taken
      exact ⟨iff_of_true (next.bounded regular _) trivial, fun _ => next⟩

end Backups

variable {setup : Setup}

theorem step_isSome (w : World) (a : Action) : (setup.step w a).isSome = true := by
  cases a with
  | launch named opened processId maxBytes => rfl
  | logf now message => rfl

theorem run_isSome (actions : List Action) (w : World) :
    (run setup.step w actions).isSome = true := by
  induction actions generalizing w with
  | nil => rfl
  | cons a rest ih =>
      obtain ⟨t, taken⟩ := Option.isSome_iff_exists.mp (setup.step_isSome w a)
      rw [run_cons, taken]
      exact ih t

/-- The number of files stays within its bound, and no backup outlives its log, exactly as long
as no launch prunes the log of a session that has rotated. -/
theorem bounded_iff_spared (regular : setup.Regular) (disk : FileSystem) (actions : List Action)
    (operable : Along setup.step setup.Operable (.initial disk) actions) :
    Throughout setup.step setup.Bounded (.initial disk) actions ↔
      Along setup.step setup.Spared (.initial disk) actions := by
  have kept : ∀ w a t, setup.Backed w → setup.Operable w a → setup.Spared w a →
      setup.step w a = some t → setup.Backed t := by
    intro w a t backed operable spared taken
    exact (backed.launch_or_logf regular operable taken).2 spared
  have exact : ∀ w a t, setup.Backed w → setup.Operable w a → setup.step w a = some t →
      (setup.Bounded w a t ↔ setup.Spared w a) := by
    intro w a t backed operable taken
    exact (backed.launch_or_logf regular operable taken).1
  exact throughout_iff_along_within kept exact actions _ (.initial disk) operable
    (run_isSome actions _)

end Setup

theorem threeLaunches_bounded :
    Throughout (Setup.step ⟨wide "logs", wide "broker", 3⟩)
      (Setup.Bounded ⟨wide "logs", wide "broker", 3⟩) (.initial ∅) threeLaunches :=
  (Setup.bounded_iff_spared ⟨by decide, by decide, by decide⟩ ∅ threeLaunches
    (by decide +kernel)).mpr (by decide +kernel)

/-- A backup is never pruned: where one log is kept, the third launch makes a third file. -/
theorem threeLaunches_unbounded :
    Along (Setup.step ⟨wide "logs", wide "broker", 1⟩)
        (Setup.Operable ⟨wide "logs", wide "broker", 1⟩) (.initial ∅) threeLaunches ∧
      (run (Setup.step ⟨wide "logs", wide "broker", 1⟩) (.initial ∅) threeLaunches).map
        (fun w => (Setup.left ⟨wide "logs", wide "broker", 1⟩ w).card) = some 3 ∧
      ¬ Throughout (Setup.step ⟨wide "logs", wide "broker", 1⟩)
        (Setup.Bounded ⟨wide "logs", wide "broker", 1⟩) (.initial ∅) threeLaunches := by
  have three : (run (Setup.step ⟨wide "logs", wide "broker", 1⟩) (.initial ∅) threeLaunches).map
      (fun w => (Setup.left ⟨wide "logs", wide "broker", 1⟩ w).card) = some 3 := by
    decide +kernel
  refine ⟨by decide +kernel, three, ?_⟩
  intro bounded
  obtain ⟨t, ends, card⟩ := Option.map_eq_some_iff.mp three
  obtain ⟨u, a, last⟩ := bounded.last (by decide) ends
  have few := last.1
  rw [card] at few
  exact absurd few (by decide)

end Obs2Mf.Log
