import Obs2Mf.Foundation.Rotation
import Obs2Mf.Log.Sessions

set_option autoImplicit false

/- The lines of one session: each call writes one, and the log and its backup together
hold the latest of them. -/
namespace Obs2Mf.Log

open Rotation (Parts Latest)

/-- The fields of a `SYSTEMTIME` are of type `WORD`. -/
def SYSTEMTIME.Words (t : SYSTEMTIME) : Prop :=
  ∀ field ∈ [t.wYear, t.wMonth, t.wDay, t.wHour, t.wMinute, t.wSecond, t.wMilliseconds],
    field < 2 ^ 16

instance (t : SYSTEMTIME) : Decidable t.Words :=
  inferInstanceAs (Decidable (∀ field ∈ [t.wYear, t.wMonth, t.wDay, t.wHour, t.wMinute, t.wSecond,
    t.wMilliseconds], field < 2 ^ 16))

/-- What a call of `LogRaw` writes if its line is not cut off. -/
def lineBytes (now : SYSTEMTIME) (processId : Nat) (msg : WString) : List UInt8 :=
  utf8 (lineText now processId msg)

/-- A line says when it was written and by which process, and then the message, as far as
it fits the buffer of `Logf`. -/
def Tells (now : SYSTEMTIME) (processId : Nat) (message : WString) (line : List UInt8) : Prop :=
  ∃ head, line = utf8 (head ++ message.take 2047 ++ [13, 10]) ∧
    Decimal.numbers head = [now.wYear, now.wMonth, now.wDay, now.wHour, now.wMinute, now.wSecond,
      now.wMilliseconds, processId]

section Format

/-- `_TRUNCATE` leaves room for the terminating zero. -/
theorem snwprintf_take (count : Nat) (text : WString) :
    (snwprintf count text).1 = text.take (count - 1) := by
  unfold snwprintf
  split
  · rename_i short
    have whole : text.length ≤ count - 1 := by omega
    exact (List.take_of_length_le whole).symm
  · rfl

theorem snwprintf_length (count : Nat) (text : WString) (some_count : 0 < count) :
    (snwprintf count text).1.length < count := by
  rw [snwprintf_take, List.length_take]
  omega

theorem lineBytes_tells (now : SYSTEMTIME) (processId : Nat) (message : WString) :
    Tells now processId message (lineBytes now processId (message.take 2047)) := by
  refine ⟨_, rfl, ?_⟩
  have dash : wide "-" = [45] := by decide
  have blank : wide " " = [32] := by decide
  have colon : wide ":" = [58] := by decide
  have dot : wide "." = [46] := by decide
  have opening : wide " [" = [32, 91] := by decide
  have closing : wide "] " = [93, 32] := by decide
  simp (disch := decide) only [Decimal.numbers, dash, blank, colon, dot, opening, closing,
    List.append_assoc, List.cons_append, List.nil_append, Decimal.numbersFrom_padded,
    Decimal.numbersFrom_apart]
  rfl

/-- What stands before the message takes at most 55 units, and the line end two. -/
theorem lineText_length_le {now : SYSTEMTIME} (date : now.Words) {processId : Nat}
    (id : processId < 2 ^ 32) (msg : WString) :
    (lineText now processId msg).length ≤ 57 + msg.length := by
  have field (width n : Nat) (narrow : width ≤ 5)
      (listed : n ∈ [now.wYear, now.wMonth, now.wDay, now.wHour, now.wMinute, now.wSecond,
        now.wMilliseconds]) : (Decimal.padded width n).length ≤ 5 := by
    have word := date n listed
    have length := @Decimal.padded_length_le width 5 n (by decide) (by omega)
    omega
  have year := field 4 now.wYear (by decide) (by simp)
  have month := field 2 now.wMonth (by decide) (by simp)
  have day := field 2 now.wDay (by decide) (by simp)
  have hour := field 2 now.wHour (by decide) (by simp)
  have minute := field 2 now.wMinute (by decide) (by simp)
  have second := field 2 now.wSecond (by decide) (by simp)
  have milliseconds := field 3 now.wMilliseconds (by decide) (by simp)
  have process := @Decimal.padded_length_le 1 10 processId (by decide) (by omega)
  have dash : (wide "-").length = 1 := by decide
  have blank : (wide " ").length = 1 := by decide
  have colon : (wide ":").length = 1 := by decide
  have dot : (wide ".").length = 1 := by decide
  have opening : (wide " [").length = 2 := by decide
  have closing : (wide "] ").length = 2 := by decide
  unfold lineText
  simp only [List.length_append, List.length_cons, List.length_nil]
  omega

/-- No line of `Logf` is cut off: the result that would drop it does not come. -/
theorem snwprintf_line {now : SYSTEMTIME} (date : now.Words) {processId : Nat}
    (id : processId < 2 ^ 32) {msg : WString} (short : msg.length < 2048) :
    snwprintf 2176 (lineText now processId msg) =
        (lineText now processId msg, ((lineText now processId msg).length : Int)) ∧
      0 < (lineText now processId msg).length := by
  have length := lineText_length_le date id msg
  have fits : (lineText now processId msg).length < 2176 := by omega
  constructor
  · rw [snwprintf, if_pos fits]
  · unfold lineText
    simp only [List.length_append, List.length_cons]
    omega

/-- The line end is of units that are no part of a pair. -/
theorem utf8_line_end (text : WString) : utf8 (text ++ [13, 10]) = utf8 text ++ [13, 10] := by
  fun_induction utf8 text with
  | case1 => rfl
  | case2 c =>
      have apart : ¬ ((0xD800 ≤ c ∧ c < 0xDC00) ∧ 0xDC00 ≤ 13 ∧ 13 < 0xE000) := by omega
      show utf8 (c :: 13 :: [10]) = _
      rw [utf8, if_neg apart]
      rfl
  | case3 c d rest pair ih =>
      show utf8 (c :: d :: (rest ++ [13, 10])) = _
      rw [utf8, if_pos pair, ih, List.append_assoc]
  | case4 c d rest single ih =>
      show utf8 (c :: d :: (rest ++ [13, 10])) = _
      rw [utf8, if_neg single, List.append_assoc, ← ih]
      rfl

theorem lineBytes_end (now : SYSTEMTIME) (processId : Nat) (msg : WString) :
    [13, 10] <:+ lineBytes now processId msg := by
  unfold lineBytes lineText
  rw [utf8_line_end]
  exact List.suffix_append _ _

theorem ofNat_eq_ten (n : Nat) : (10 : UInt8) = UInt8.ofNat n ↔ n % 256 = 10 := by
  rw [← UInt8.toNat_inj, UInt8.toNat_ofNat']
  have ten : (10 : UInt8).toNat = 10 := by decide
  omega

/-- A line feed is the only unit whose bytes contain one. -/
theorem ten_mem_unitBytes {c : Nat} (small : c < 2 ^ 16) (feed : 10 ∈ unitBytes c) : c = 10 := by
  unfold unitBytes at feed
  split at feed
  · simp only [List.mem_singleton, ofNat_eq_ten] at feed
    omega
  · split at feed
    · simp only [List.mem_cons, List.not_mem_nil, or_false, ofNat_eq_ten] at feed
      omega
    · split at feed
      · simp at feed
      · simp only [List.mem_cons, List.not_mem_nil, or_false, ofNat_eq_ten] at feed
        omega

theorem ten_not_mem_pairBytes {high low : Nat} (pair : high < 0xDC00 ∧ low < 0xE000) :
    10 ∉ pairBytes high low := by
  intro feed
  simp only [pairBytes, List.mem_cons, List.not_mem_nil, or_false, ofNat_eq_ten] at feed
  omega

theorem ten_mem_utf8 {text : WString} (units : ∀ c ∈ text, c < 2 ^ 16) (feed : 10 ∈ utf8 text) :
    10 ∈ text := by
  fun_induction utf8 text with
  | case1 => cases feed
  | case2 c =>
      have only := ten_mem_unitBytes (units c (by simp)) feed
      simp [only]
  | case3 c d rest pair ih =>
      rcases List.mem_append.mp feed with first | later
      · have small : c < 0xDC00 ∧ d < 0xE000 := by omega
        exact absurd first (ten_not_mem_pairBytes small)
      · have below := ih (fun e member => units e (by simp [member])) later
        simp [below]
  | case4 c d rest single ih =>
      rcases List.mem_append.mp feed with first | later
      · have only := ten_mem_unitBytes (units c (by simp)) first
        simp [only]
      · have below := ih (fun e member => units e (List.mem_cons_of_mem c member)) later
        exact List.mem_cons_of_mem c below

/-- A unit that is no line feed. -/
def inLine (c : Nat) : Bool := c < 2 ^ 16 && c ≠ 10

theorem inLine_iff (c : Nat) : inLine c = true ↔ c < 2 ^ 16 ∧ c ≠ 10 := by
  simp [inLine]

/-- The line of a message without a line feed has none but that at its end. -/
theorem lineBytes_plain (now : SYSTEMTIME) (processId : Nat) {msg : WString}
    (message : msg.all inLine = true) :
    ∃ text, lineBytes now processId msg = text ++ [13, 10] ∧ 10 ∉ text := by
  have digits (width n : Nat) : (Decimal.padded width n).all inLine = true := by
    rw [List.all_eq_true]
    intro c member
    have digit := Decimal.mem_padded member
    rw [inLine_iff]
    omega
  obtain ⟨front, same, clean⟩ : ∃ front, lineText now processId msg = front ++ [13, 10] ∧
      front.all inLine = true := by
    refine ⟨_, rfl, ?_⟩
    simp only [List.all_append, digits, message]
    decide
  have units : ∀ c ∈ front, c < 2 ^ 16 ∧ c ≠ 10 := by
    intro c member
    exact (inLine_iff c).mp (List.all_eq_true.mp clean c member)
  refine ⟨utf8 front, ?_, ?_⟩
  · rw [lineBytes, same, utf8_line_end]
  · intro feed
    have member := ten_mem_utf8 (fun c member => (units c member).1) feed
    exact (units 10 member).2 rfl

end Format

namespace Logger

variable {l : Logger} {disk : FileSystem} {parts : Parts UInt8}

/-- The two files of a session hold the two parts, and no directory is in their place. -/
structure OnDisk (l : Logger) (disk : FileSystem) (parts : Parts UInt8) : Prop where
  older : (disk.content (backup l.path)).getD [] = parts.older.flatten
  newer : (disk.content l.path).getD [] = parts.newer.flatten
  place : disk.Free l.path
  backupPlace : disk.Free (backup l.path)

namespace OnDisk

theorem deleted (held : OnDisk l disk parts) :
    OnDisk l (disk.deleteFile (backup l.path)) ⟨[], parts.newer⟩ := by
  refine ⟨?_, ?_, held.place.deleteFile _, held.backupPlace.deleteFile _⟩
  · rw [Disk.content_deleteFile, if_pos rfl]
    rfl
  · rw [Disk.content_deleteFile, if_neg (backup_ne l.path).symm]
    exact held.newer

/-- The log is moved to the place of the backup, which is empty. -/
theorem moved {bytes : List UInt8} {newer : List (List UInt8)} (held : OnDisk l disk ⟨[], newer⟩)
    (log : disk.content l.path = some bytes) (room : disk.content (backup l.path) = none) :
    OnDisk l (disk.moveFile l.path (backup l.path)) ⟨newer, []⟩ := by
  have contents (path : WString) :=
    Disk.content_moveFile disk l.path path (backup l.path) log
  simp only [held.backupPlace.lookup_eq_none room, ↓reduceIte] at contents
  refine ⟨?_, ?_, held.place.moveFile _ _ log, held.backupPlace.moveFile _ _ log⟩
  · rw [contents, if_pos rfl, ← held.newer, log]
  · rw [contents, if_neg (backup_ne l.path).symm, if_pos rfl]
    rfl

/-- A rotation of the files is one of the parts. -/
theorem rotated (held : OnDisk l disk parts) :
    OnDisk l (l.rotate disk) (parts.rotate l.maxBytes) := by
  unfold rotate Parts.rotate
  rw [held.newer]
  split
  · rename_i full
    rw [← held.newer] at full
    obtain ⟨bytes, log⟩ := content_of_large disk full
    apply held.deleted.moved (content_without_backup disk log)
    rw [Disk.content_deleteFile, if_pos rfl]
  · exact held

theorem opened (held : OnDisk l disk parts) {later : FileSystem}
    (ok : disk.openAlways l.path = some later) : OnDisk l later parts := by
  have contents (path : WString) := Disk.content_openAlways disk l.path path ok
  refine ⟨?_, ?_, held.place.openAlways _ ok, held.backupPlace.openAlways _ ok⟩
  · rw [contents, if_neg (backup_ne l.path)]
    exact held.older
  · rw [contents, if_pos rfl]
    exact held.newer

theorem appended (held : OnDisk l disk parts) {bytes : List UInt8}
    (log : disk.content l.path = some bytes) (line : List UInt8) :
    OnDisk l (disk.append l.path line) (parts.push line) := by
  have contents (path : WString) := Disk.content_append disk l.path path line
  refine ⟨?_, ?_, held.place.append _ _, held.backupPlace.append _ _⟩
  · rw [contents, if_neg (backup_ne l.path)]
    exact held.older
  · have newer := held.newer
    rw [log, Option.getD_some] at newer
    rw [contents, if_pos rfl, log, Parts.push, List.flatten_append, ← newer]
    simp

end OnDisk

/-- The disk after each file operation of `Rotate`. -/
def rotations (l : Logger) (disk : FileSystem) : List FileSystem :=
  if l.maxBytes < ((disk.content l.path).getD []).length then
    let deleted := disk.deleteFile (l.path ++ wide ".1")
    [deleted, deleted.moveFile l.path (l.path ++ wide ".1")]
  else []

/-- The disk after each file operation of `LogRaw`. -/
def moments (l : Logger) (now : SYSTEMTIME) (processId : Nat) (disk : FileSystem)
    (msg : WString) : List FileSystem :=
  if l.path = [] then []
  else
    match (l.rotate disk).openAlways l.path with
    | none => l.rotations disk
    | some opened =>
        let (line, n) := snwprintf 2176 (lineText now processId msg)
        l.rotations disk ++ [opened] ++ if 0 < n then [opened.append l.path (utf8 line)] else []

theorem rotations_last : (l.rotations disk).getLastD disk = l.rotate disk := by
  unfold rotations rotate
  split <;> rfl

/-- What `LogRaw` leaves is the last of its moments. -/
theorem moments_last (now : SYSTEMTIME) (processId : Nat) (msg : WString) :
    (l.moments now processId disk msg).getLastD disk = l.logRaw now processId disk msg := by
  unfold moments logRaw
  by_cases named : l.path = []
  · rw [if_pos named, if_pos named]
    rfl
  · rw [if_neg named, if_neg named]
    dsimp only
    cases (l.rotate disk).openAlways l.path with
    | none => exact rotations_last
    | some opened =>
        dsimp only
        split <;> simp

/-- The log and its backup hold the latest of these lines. -/
def Kept (l : Logger) (disk : FileSystem) (lines : List (List UInt8)) : Prop :=
  ∃ parts : Parts UInt8, Latest l.maxBytes lines parts ∧ OnDisk l disk parts

section Line

variable {lines : List (List UInt8)} {now : SYSTEMTIME} {processId : Nat} {msg : WString}

/-- Neither operation of a rotation loses a line that the parts hold. -/
theorem Kept.rotating (held : Kept l disk lines) {moment : FileSystem}
    (member : moment ∈ l.rotations disk) : Kept l moment lines := by
  obtain ⟨parts, latest, files⟩ := held
  unfold rotations at member
  split at member
  · rename_i full
    obtain ⟨bytes, log⟩ := content_of_large disk full
    rw [files.newer] at full
    have dropped := latest.drop full
    have log := content_without_backup disk log
    have room : (disk.deleteFile (backup l.path)).content (backup l.path) = none := by
      rw [Disk.content_deleteFile, if_pos rfl]
    simp only [List.mem_cons, List.not_mem_nil, or_false] at member
    rcases member with rfl | rfl
    · exact ⟨_, dropped, files.deleted⟩
    · exact ⟨_, dropped.move, files.deleted.moved log room⟩
  · cases member

/-- One call: at every moment the files hold the latest of the lines so far, and in the
end the line of the call is behind them. -/
theorem Kept.logRaw (held : Kept l disk lines) (named : l.path ≠ []) (date : now.Words)
    (id : processId < 2 ^ 32) (short : msg.length < 2048) :
    ∃ earlier, l.moments now processId disk msg =
        earlier ++ [l.logRaw now processId disk msg] ∧
      (∀ moment ∈ earlier, Kept l moment lines) ∧
      Kept l (l.logRaw now processId disk msg) (lines ++ [lineBytes now processId msg]) ∧
      (l.logRaw now processId disk msg).content l.path =
        some ((((l.rotate disk).content l.path).getD []) ++ lineBytes now processId msg) := by
  obtain ⟨parts, latest, files⟩ := held
  have rotated := files.rotated
  obtain ⟨opened, ok⟩ := Disk.openAlways_some (l.rotate disk) l.path rotated.place
  obtain ⟨whole, some_line⟩ := snwprintf_line date id short
  have some_line : 0 < ((lineText now processId msg).length : Int) := by omega
  have log : opened.content l.path = some (((l.rotate disk).content l.path).getD []) := by
    rw [Disk.content_openAlways _ _ _ ok, if_pos rfl]
  have after : l.logRaw now processId disk msg =
      opened.append l.path (lineBytes now processId msg) := by
    simp only [Logger.logRaw, if_neg named, ok, whole, if_pos some_line, lineBytes]
  have line := files.rotated.opened ok
  rw [after]
  refine ⟨l.rotations disk ++ [opened], ?_, ?_, ?_, ?_⟩
  · simp only [moments, if_neg named, ok, whole, if_pos some_line, lineBytes]
  · intro moment member
    rcases List.mem_append.mp member with rotating | last
    · exact Kept.rotating ⟨parts, latest, files⟩ rotating
    · rw [List.mem_singleton.mp last]
      exact ⟨_, latest.rotate, line⟩
  · exact ⟨_, latest.rotate.push (Rotation.rotate_room _ _) _, line.appended log _⟩
  · rw [Disk.content_append, if_pos rfl, log]
    rfl

end Line

/-- What one call of `Logf` does when these lines were logged before it: the result that
would drop its line does not come, the line goes behind what a rotation leaves of the log,
and the two files hold the latest lines at every moment. -/
structure Appends (l : Logger) (now : SYSTEMTIME) (processId : Nat) (disk : FileSystem)
    (message : WString) (lines : List (List UInt8)) (line : List UInt8) : Prop where
  whole : ∃ n, 0 < n ∧ snwprintf 2176 (lineText now processId (snwprintf 2048 message).1) =
    (lineText now processId (snwprintf 2048 message).1, n)
  told : Tells now processId message line
  ending : [13, 10] <:+ line
  plain : message.all inLine = true → ∃ text, line = text ++ [13, 10] ∧ 10 ∉ text
  appended : (l.logf now processId disk message).content l.path =
    some ((((l.rotate disk).content l.path).getD []) ++ line)
  moments : ∃ earlier, l.moments now processId disk (snwprintf 2048 message).1 =
    earlier ++ [l.logf now processId disk message] ∧ ∀ moment ∈ earlier, Kept l moment lines
  kept : Kept l (l.logf now processId disk message) (lines ++ [line])

/-- The line of a call of `Logf`. -/
def logfLine (now : SYSTEMTIME) (processId : Nat) (message : WString) : List UInt8 :=
  lineBytes now processId (snwprintf 2048 message).1

theorem Kept.logf {lines : List (List UInt8)} (held : Kept l disk lines) (named : l.path ≠ [])
    {now : SYSTEMTIME} (date : now.Words) {processId : Nat} (id : processId < 2 ^ 32)
    (message : WString) :
    Appends l now processId disk message lines (logfLine now processId message) := by
  have short := snwprintf_length 2048 message (by decide)
  obtain ⟨whole, some_line⟩ := snwprintf_line date id short
  obtain ⟨earlier, moments, before, kept, appended⟩ := held.logRaw named date id short
  refine ⟨⟨_, ?_, whole⟩, ?_, lineBytes_end _ _ _, ?_, appended, ⟨earlier, moments, before⟩,
    kept⟩
  · omega
  · rw [logfLine, snwprintf_take]
    exact lineBytes_tells now processId message
  · intro plain
    apply lineBytes_plain
    rw [List.all_eq_true] at plain ⊢
    intro c member
    apply plain
    rw [snwprintf_take] at member
    exact List.mem_of_mem_take member

/-- No file stands in the place of either part. -/
theorem kept_nil (log : disk.lookup l.path = none) (backup : disk.lookup (backup l.path) = none)
    (paths : List WString) : Kept l (disk.deleteAll paths) [] := by
  have nothing {path : WString} (free : disk.lookup path = none) :
      ((disk.deleteAll paths).content path).getD [] = [] ∧ disk.Free path := by
    constructor
    · rw [Disk.content_deleteAll, Disk.content, free]
      split <;> rfl
    · rw [Disk.Free, free]
      simp
  have first := nothing log
  have second := nothing backup
  exact ⟨⟨[], []⟩, Rotation.latest_nil, second.1, first.1, first.2.deleteAll _,
    second.2.deleteAll _⟩

end Logger

namespace Setup

open Logger (Kept Appends logfLine)

variable (setup : Setup)

/-- The path of the log of a launch, as far as it fits its buffer. -/
def logPath (named : SYSTEMTIME) : WString :=
  (snwprintf MAX_PATH (setup.dir ++ wide "\\" ++ setup.namePrefix ++ wide "-" ++ stamp named ++
    wide ".log")).1

theorem logPath_ne_nil (named : SYSTEMTIME) : setup.logPath named ≠ [] := by
  unfold logPath snwprintf
  split
  · simp [wide]
  · dsimp only
    intro none
    have length := congrArg List.length none
    rw [List.length_take, MAX_PATH] at length
    simp [wide] at length

def openedLine (opened : SYSTEMTIME) (processId : Nat) : List UInt8 :=
  lineBytes opened processId (wide "---- log opened ----")

/-- All lines of a session, that of its launch first. -/
def sessionLines (opened : SYSTEMTIME) (processId : Nat)
    (events : List (SYSTEMTIME × WString)) : List (List UInt8) :=
  openedLine opened processId :: events.map fun e => logfLine e.1 processId e.2

section Runs

variable {setup} {w t : World} {lines : List (List UInt8)}

/-- What is known of a session between two calls. -/
structure Session (processId : Nat) (l : Logger) (lines : List (List UInt8)) (w : World) :
    Prop where
  logger : w.logger = l
  processId : w.processId = processId
  kept : Kept l w.disk lines

/-- A launch sets its logger up, prunes and writes the first line. -/
theorem launch_logRaw {named opened : SYSTEMTIME} {processId maxBytes : Nat}
    (taken : setup.step w (.launch named opened processId maxBytes) = some t) :
    t.logger.path = setup.logPath named ∧ t.logger.maxBytes = maxBytes ∧
      t.processId = processId ∧
      t.disk = t.logger.logRaw opened processId (t.logger.pruneOld w.disk setup.keep)
        (wide "---- log opened ----") := by
  simp only [step, Logger.initSession, Option.some.injEq] at taken
  subst taken
  refine ⟨rfl, rfl, rfl, ?_⟩
  dsimp only
  -- The path that is set in between is no part of what is pruned.
  congr 1

theorem launch_session {named opened : SYSTEMTIME} {processId maxBytes : Nat}
    (date : opened.Words) (id : processId < 2 ^ 32)
    (log : w.disk.lookup (setup.logPath named) = none)
    (backup : w.disk.lookup (Logger.backup (setup.logPath named)) = none)
    (taken : setup.step w (.launch named opened processId maxBytes) = some t) :
    Session processId t.logger [openedLine opened processId] t ∧
      ∀ moment ∈ t.logger.moments opened processId (t.logger.pruneOld w.disk setup.keep)
        (wide "---- log opened ----"), Kept t.logger moment [] ∨ moment = t.disk := by
  obtain ⟨own, _, process, disk⟩ := launch_logRaw taken
  have empty : Kept t.logger (t.logger.pruneOld w.disk setup.keep) [] := by
    apply Logger.kept_nil
    · rw [own, log]
    · rw [own, backup]
  have nonempty : t.logger.path ≠ [] := by
    rw [own]
    exact setup.logPath_ne_nil named
  have short : (wide "---- log opened ----").length < 2048 := by decide
  obtain ⟨earlier, moments, before, kept, _⟩ := empty.logRaw nonempty date id short
  rw [← disk] at moments kept
  refine ⟨⟨rfl, process, kept⟩, ?_⟩
  intro moment member
  rw [moments] at member
  rcases List.mem_append.mp member with early | last
  · exact Or.inl (before moment early)
  · exact Or.inr (List.mem_singleton.mp last)

theorem Session.logf {processId : Nat} {l : Logger} (held : Session processId l lines w)
    (named : l.path ≠ []) (id : processId < 2 ^ 32) {now : SYSTEMTIME} (date : now.Words)
    {message : WString} (taken : setup.step w (.logf now message) = some t) :
    Session processId l (lines ++ [logfLine now processId message]) t := by
  cases taken
  refine ⟨held.logger, held.processId, ?_⟩
  rw [held.logger, held.processId]
  exact (held.kept.logf named date id message).kept

theorem Session.run {processId : Nat} {l : Logger} (named : l.path ≠ []) (id : processId < 2 ^ 32)
    (events : List (SYSTEMTIME × WString)) (dates : ∀ e ∈ events, e.1.Words)
    (held : Session processId l lines w)
    (ends : Run.run setup.step w (events.map fun e => .logf e.1 e.2) = some t) :
    Session processId l (lines ++ events.map fun e => logfLine e.1 processId e.2) t := by
  induction events generalizing w lines with
  | nil =>
      cases ends
      rw [List.map_nil, List.append_nil]
      exact held
  | cons e rest ih =>
      obtain ⟨u, first, later⟩ := Option.bind_eq_some_iff.mp ends
      have next := held.logf named id (dates e List.mem_cons_self) first
      have tail := ih (fun e member => dates e (List.mem_cons_of_mem _ member)) next later
      rw [List.append_assoc] at tail
      exact tail

/-- In every session under a fresh name, whatever is logged: each call puts one whole line
behind the log, with the time, the process and the message, and the backup and the log
together are at every moment the latest of all lines, each of the two within the limit up to
its last line. -/
theorem session_keeps_latest (setup : Setup) (w t : World) (named opened : SYSTEMTIME)
    (processId maxBytes : Nat) (events : List (SYSTEMTIME × WString)) (id : processId < 2 ^ 32)
    (date : opened.Words) (dates : ∀ e ∈ events, e.1.Words)
    (log : w.disk.lookup (setup.logPath named) = none)
    (backup : w.disk.lookup (Logger.backup (setup.logPath named)) = none)
    (ends : Run.run setup.step w (.launch named opened processId maxBytes ::
      events.map fun e => .logf e.1 e.2) = some t) :
    t.logger.path = setup.logPath named ∧ t.logger.maxBytes = maxBytes ∧
      Kept t.logger t.disk (sessionLines opened processId events) ∧
      (∀ moment ∈ t.logger.moments opened processId (t.logger.pruneOld w.disk setup.keep)
        (wide "---- log opened ----"),
        Kept t.logger moment [] ∨ Kept t.logger moment [openedLine opened processId]) ∧
      ∀ now message, now.Words → Appends t.logger now processId t.disk message
        (sessionLines opened processId events) (logfLine now processId message) := by
  obtain ⟨u, first, later⟩ := Option.bind_eq_some_iff.mp ends
  obtain ⟨own, limit, _, _⟩ := launch_logRaw first
  obtain ⟨started, moments⟩ := launch_session date id log backup first
  have nonempty : u.logger.path ≠ [] := by
    rw [own]
    exact setup.logPath_ne_nil named
  have session := started.run nonempty id events dates later
  rw [session.logger]
  refine ⟨own, limit, session.kept, ?_, ?_⟩
  · intro moment member
    rcases moments moment member with early | last
    · exact Or.inl early
    · rw [last]
      exact Or.inr started.kept
  · intro now message today
    exact session.kept.logf nonempty today id message

end Runs

end Setup

/-- A message of two thousand and a hundred characters, and one after it. -/
def longMessages : List (SYSTEMTIME × WString) :=
  [(⟨2024, 9, 30, 23, 59, 58, 7⟩, List.replicate 2100 233),
    (⟨2024, 9, 30, 23, 59, 59, 8⟩, wide "b")]

theorem longMessages_kept :
    ∃ t : World, Run.run (Setup.step ⟨wide "C:", wide "broker", 15⟩) (.initial ∅)
        (.launch ⟨2024, 9, 30, 23, 59, 58, 0⟩ ⟨2024, 9, 30, 23, 59, 58, 1⟩ 4711 0 ::
          longMessages.map fun e => .logf e.1 e.2) = some t ∧
      Logger.Kept t.logger t.disk
        (Setup.sessionLines ⟨2024, 9, 30, 23, 59, 58, 1⟩ 4711 longMessages) := by
  refine ⟨_, rfl, ?_⟩
  have kept := Setup.session_keeps_latest ⟨wide "C:", wide "broker", 15⟩ (.initial ∅) _
    ⟨2024, 9, 30, 23, 59, 58, 0⟩ ⟨2024, 9, 30, 23, 59, 58, 1⟩ 4711 0 longMessages (by decide)
    (by decide) (by decide) rfl rfl rfl
  exact kept.2.2.1

end Obs2Mf.Log
