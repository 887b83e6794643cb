import Mathlib.Data.List.Lex
import Mathlib.Data.List.Sort
import Obs2Mf.Foundation.Decimal
import Obs2Mf.Foundation.Disk

set_option autoImplicit false

/- The rotating file logger: one log for each launch, a backup of it when it grows too
large, and the removal of old logs. -/
namespace Obs2Mf.Log

open Decimal (padded)
open Disk (PathStyle)

/-- Wide text, as its 16-bit units. -/
abbrev WString := List Nat

abbrev FileSystem := Disk Nat UInt8

def wide (s : String) : WString := s.toList.map Char.toNat

def windows : PathStyle Nat where
  slash := 92
  separator c := c = 92 || c = 47
  star := 42
  question := 63

structure SYSTEMTIME where
  wYear : Nat
  wMonth : Nat
  wDay : Nat
  wHour : Nat
  wMinute : Nat
  wSecond : Nat
  wMilliseconds : Nat
  deriving DecidableEq, Repr

def MAX_PATH : Nat := 260

/-- `_snwprintf_s(.., count, _TRUNCATE, ..)`: what is in the buffer, and the number of
characters, which is negative if some were cut off. -/
def snwprintf (count : Nat) (text : WString) : WString × Int :=
  if text.length < count then (text, text.length) else (text.take (count - 1), -1)

/-- `%04u%02u%02u-%02u%02u%02u`. -/
def stamp (t : SYSTEMTIME) : WString :=
  padded 4 t.wYear ++ padded 2 t.wMonth ++ padded 2 t.wDay ++ wide "-" ++
    padded 2 t.wHour ++ padded 2 t.wMinute ++ padded 2 t.wSecond

/-- `%04u-%02u-%02u %02u:%02u:%02u.%03u [%u] %s\r\n`. -/
def lineText (now : SYSTEMTIME) (processId : Nat) (msg : WString) : WString :=
  padded 4 now.wYear ++ wide "-" ++ padded 2 now.wMonth ++ wide "-" ++ padded 2 now.wDay ++
    wide " " ++ padded 2 now.wHour ++ wide ":" ++ padded 2 now.wMinute ++ wide ":" ++
    padded 2 now.wSecond ++ wide "." ++ padded 3 now.wMilliseconds ++
    wide " [" ++ padded 1 processId ++ wide "] " ++ msg ++ [13, 10]

/-- A unit on its own in UTF-8; half of a surrogate pair becomes U+FFFD. -/
def unitBytes (c : Nat) : List UInt8 :=
  if c < 0x80 then [.ofNat c]
  else if c < 0x800 then [.ofNat (0xC0 + c / 64), .ofNat (0x80 + c % 64)]
  else if 0xD800 ≤ c ∧ c < 0xE000 then [0xEF, 0xBF, 0xBD]
  else [.ofNat (0xE0 + c / 4096), .ofNat (0x80 + c / 64 % 64), .ofNat (0x80 + c % 64)]

def pairBytes (high low : Nat) : List UInt8 :=
  let c := 0x10000 + (high - 0xD800) * 1024 + (low - 0xDC00)
  [.ofNat (0xF0 + c / 262144), .ofNat (0x80 + c / 4096 % 64), .ofNat (0x80 + c / 64 % 64),
    .ofNat (0x80 + c % 64)]

/-- `WideCharToMultiByte(CP_UTF8, 0, ..)`. -/
def utf8 : WString → List UInt8
  | [] => []
  | [c] => unitBytes c
  | c :: d :: rest =>
      if (0xD800 ≤ c ∧ c < 0xDC00) ∧ 0xDC00 ≤ d ∧ d < 0xE000 then pairBytes c d ++ utf8 rest
      else unitBytes c ++ utf8 (d :: rest)

structure Logger where
  path : WString
  dir : WString
  namePrefix : WString
  maxBytes : Nat
  deriving DecidableEq, Repr

namespace Logger

def initial : Logger := ⟨[], [], [], 2 * 1024 * 1024⟩

/-- A file that cannot be opened counts as empty. -/
def rotate (l : Logger) (disk : FileSystem) : FileSystem :=
  if l.maxBytes < ((disk.content l.path).getD []).length then
    (disk.deleteFile (l.path ++ wide ".1")).moveFile l.path (l.path ++ wide ".1")
  else disk

def logRaw (l : Logger) (now : SYSTEMTIME) (processId : Nat) (disk : FileSystem)
    (msg : WString) : FileSystem :=
  if l.path = [] then disk
  else
    let disk := l.rotate disk
    match disk.openAlways l.path with
    | none => disk
    | some opened =>
        let (line, n) := snwprintf 2176 (lineText now processId msg)
        if 0 < n then opened.append l.path (utf8 line) else opened

/-- `message` is what the arguments amount to. -/
def logf (l : Logger) (now : SYSTEMTIME) (processId : Nat) (disk : FileSystem)
    (message : WString) : FileSystem :=
  l.logRaw now processId disk (snwprintf 2048 message).1

/-- The files `PruneOld` deletes, in order. -/
def pruned (l : Logger) (disk : FileSystem) (keep : Nat) : List WString :=
  if l.dir = [] || l.namePrefix = [] then []
  else
    let pattern := l.dir ++ wide "\\" ++ l.namePrefix ++ wide "-*.log"
    let files := (Disk.fileNames (disk.findFirst windows pattern)).insertionSort (· ≤ ·)
    let keepOld := if 0 < keep then keep - 1 else 0
    if files.length ≤ keepOld then [] else files.take (files.length - keepOld)

def pruneOld (l : Logger) (disk : FileSystem) (keep : Nat) : FileSystem :=
  disk.deleteAll ((l.pruned disk keep).map fun name => l.dir ++ wide "\\" ++ name)

/-- The local time is asked for twice, for the name and then for the first line. -/
def initSession (l : Logger) (dir namePrefix : WString) (keep maxBytes : Nat)
    (named opened : SYSTEMTIME) (processId : Nat) (disk : FileSystem) : Logger × FileSystem :=
  let l := { l with maxBytes := maxBytes, dir := dir, namePrefix := namePrefix }
  let disk := l.pruneOld disk keep
  let name := dir ++ wide "\\" ++ namePrefix ++ wide "-" ++ stamp named ++ wide ".log"
  let l := { l with path := (snwprintf MAX_PATH name).1 }
  (l, l.logRaw opened processId disk (wide "---- log opened ----"))

section Files

variable (l : Logger) (disk : FileSystem) {path : WString}

/-- The path of the backup. -/
def backup (path : WString) : WString := path ++ wide ".1"

theorem backup_ne (path : WString) : backup path ≠ path := by
  intro same
  have long := congrArg List.length same
  rw [backup, List.length_append] at long
  change path.length + 2 = path.length at long
  omega

theorem content_of_large {maxBytes : Nat}
    (large : maxBytes < ((disk.content path).getD []).length) :
    ∃ bytes, disk.content path = some bytes := by
  cases known : disk.content path with
  | none =>
      rw [known] at large
      exact absurd large (Nat.not_lt_zero _)
  | some bytes => exact ⟨bytes, rfl⟩

/-- The backup of before does not stand in the way of the log. -/
theorem content_without_backup {bytes : List UInt8} (known : disk.content path = some bytes) :
    (disk.deleteFile (backup path)).content path = some bytes := by
  rw [Disk.content_deleteFile, if_neg (backup_ne path).symm, known]

/-- A path that is not a directory does not become one. -/
theorem rotate_free (free : disk.Free path) : (l.rotate disk).Free path := by
  unfold rotate
  split
  · rename_i large
    obtain ⟨bytes, known⟩ := content_of_large disk large
    exact (free.deleteFile _).moveFile l.path _ (content_without_backup disk known)
  · exact free

/-- Only the log and its backup take part in a rotation. -/
theorem rotate_content (apart : path ≠ l.path ∧ path ≠ backup l.path) :
    (l.rotate disk).content path = disk.content path := by
  unfold rotate
  split
  · rename_i large
    obtain ⟨bytes, known⟩ := content_of_large disk large
    have moved := Disk.content_moveFile (disk.deleteFile (backup l.path)) l.path path
      (backup l.path) (content_without_backup disk known)
    change ((disk.deleteFile (backup l.path)).moveFile l.path (backup l.path)).content path = _
    rw [moved, if_neg apart.2, if_neg apart.1, Disk.content_deleteFile, if_neg apart.2, ite_self]
  · rfl

/-- How far `LogRaw` gets. -/
inductive Logged : FileSystem → Prop where
  | silent (closed : l.path = []) : Logged disk
  | refused (failed : (l.rotate disk).openAlways l.path = none) : Logged (l.rotate disk)
  | opened (opened : FileSystem) (ok : (l.rotate disk).openAlways l.path = some opened) :
      Logged opened
  | written (opened : FileSystem) (bytes : List UInt8)
      (ok : (l.rotate disk).openAlways l.path = some opened) : Logged (opened.append l.path bytes)

theorem logRaw_logged (now : SYSTEMTIME) (processId : Nat) (msg : WString) :
    Logged l disk (l.logRaw now processId disk msg) := by
  unfold logRaw
  split
  · rename_i closed
    exact .silent closed
  · dsimp only
    split
    · rename_i failed
      exact .refused failed
    · rename_i opened ok
      split
      · exact .written opened _ ok
      · exact .opened opened ok

variable {l disk} {later : FileSystem}

theorem Logged.free (logged : Logged l disk later) (free : disk.Free path) : later.Free path := by
  have rotated := l.rotate_free disk free
  cases logged with
  | silent closed => exact free
  | refused failed => exact rotated
  | opened _ ok => exact rotated.openAlways l.path ok
  | written opened bytes ok => exact (rotated.openAlways l.path ok).append l.path bytes

/-- A line leaves everything but the log and its backup as it was. -/
theorem Logged.content (logged : Logged l disk later)
    (apart : path ≠ l.path ∧ path ≠ backup l.path) :
    later.content path = disk.content path := by
  have rotated := l.rotate_content disk apart
  cases logged with
  | silent closed => rfl
  | refused failed => exact rotated
  | opened _ ok => rw [Disk.content_openAlways _ _ _ ok, if_neg apart.1, rotated]
  | written opened bytes ok =>
      rw [Disk.content_append, if_neg apart.1, Disk.content_openAlways _ _ _ ok, if_neg apart.1,
        rotated]

/-- A logger that has a path has a log. -/
theorem Logged.log (logged : Logged l disk later) (named : l.path ≠ [])
    (free : disk.Free l.path) : (later.content l.path).isSome = true := by
  cases logged with
  | silent closed => exact absurd closed named
  | refused failed =>
      obtain ⟨opened, ok⟩ := Disk.openAlways_some _ l.path (l.rotate_free disk free)
      rw [ok] at failed
      cases failed
  | opened _ ok =>
      rw [Disk.content_openAlways _ _ _ ok, if_pos rfl]
      rfl
  | written opened bytes ok =>
      rw [Disk.content_append, if_pos rfl, Disk.content_openAlways _ _ _ ok, if_pos rfl]
      rfl

end Files

end Logger

end Obs2Mf.Log
