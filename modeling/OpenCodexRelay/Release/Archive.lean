/-
  The extraction of the release archive.

  `extractReleaseArchive` writes the entries of a zip archive, one after the other, below a directory.
  The archive is downloaded: its names, modes and sizes are whatever somebody put there.  What
  `archive/zip` reports of an entry is the input here, as is what its reader yields; the file system is
  the tree of `FileTree`, on which names may be identified by a `key`.

  1. `FileMode`: the bits of `os.FileMode`.
  2. `validateArchiveEntry`: what is checked of one entry alone.
  3. `checkPrefixes`: the loop over the components of a name, with the two maps `seen` and `entryKinds`.
  4. `extractEntry`, `extractReleaseArchive`: the loop over the entries.
-/
import OpenCodexRelay.FileTree
import OpenCodexRelay.Json
import OpenCodexRelay.SlashPath
import Mathlib.Logic.Function.Basic

namespace Release

open Json SlashPath FileTree

def maximumExtractedBytes : ℕ := 512 <<< 20

def maximumArchiveEntries : ℕ := 4096

def maximumArchivePathBytes : ℕ := 1024

def maximumCompressionRatio : ℕ := 200

def stageApplicationDirectory : Bytes := ascii "OpenCodexRelay.app"

/-! ## File modes -/

/-- `os.FileMode`. -/
abbrev FileMode := BitVec 32

namespace FileMode

def dir : FileMode := 1 <<< 31

def symlink : FileMode := 1 <<< 27

def device : FileMode := 1 <<< 26

def namedPipe : FileMode := 1 <<< 25

def socket : FileMode := 1 <<< 24

def setuid : FileMode := 1 <<< 23

def setgid : FileMode := 1 <<< 22

def charDevice : FileMode := 1 <<< 21

def sticky : FileMode := 1 <<< 20

def irregular : FileMode := 1 <<< 19

/-- `os.ModeType`. -/
def type : FileMode := dir ||| symlink ||| namedPipe ||| socket ||| device ||| charDevice ||| irregular

/-- What `validateArchiveEntry` refuses. -/
def special : FileMode :=
  symlink ||| device ||| namedPipe ||| socket ||| setuid ||| setgid ||| sticky

def isDir (mode : FileMode) : Bool := mode &&& dir != 0

def isRegular (mode : FileMode) : Bool := mode &&& type == 0

/-- `mode.Perm()`, and what becomes of it: nobody but the owner may write. -/
def perm (mode : FileMode) : FileMode := mode &&& 0o777

def created (mode : FileMode) : FileMode :=
  let mode := mode.perm &&& ~~~0o022
  if mode = 0 then 0o600 else mode

end FileMode

/-! ## One entry -/

/-- A `zip.File`, and what the reader that it opens yields: `content`, and then the end of the file or
    (`fails`) an error.  `opens` is false if `Open` itself fails. -/
structure ZipFile where
  name : Bytes
  mode : FileMode
  uncompressedSize64 : ℕ
  compressedSize64 : ℕ
  opens : Bool
  content : Bytes
  fails : Bool
  deriving DecidableEq, Repr

/-- `strings.ToLower`, for the names that are let through: those are ASCII. -/
def toLower (name : Bytes) : Bytes :=
  name.map fun b => if 0x41 ≤ b ∧ b ≤ 0x5a then b + 0x20 else b

/-- `strings.TrimSuffix(name, "/")`. -/
def trimSlash (name : Bytes) : Bytes :=
  if name.getLast? = some slash then name.dropLast else name

section Extract

-- `utf8.ValidString`.
variable (validString : Bytes → Bool)

/-- `validateArchiveEntry`: the path, and whether the entry is a directory. -/
def validateArchiveEntry (entry : ZipFile) : Option (Bytes × Bool) :=
  let name := entry.name
  if name = [] ∨ maximumArchivePathBytes < name.length ∨ validString name = false ∨ 0x00 ∈ name ∨
      0x5c ∈ name ∨ isAbs name then none
  else if name.any (fun b => b < 0x20 || 0x7e < b || b == 0x3a) then none
  else
    let isDirectory := name.getLast? == some slash
    let normalized := trimSlash name
    if normalized = [] ∨ clean normalized ≠ normalized then none
    else if (components normalized).head? ≠ some stageApplicationDirectory then none
    else if (components normalized).any (fun c => c == [] || c == dot || c == dotDot) then none
    else if entry.mode &&& FileMode.special ≠ 0 then none
    else if isDirectory ≠ entry.mode.isDir ∨ (isDirectory = false ∧ entry.mode.isRegular = false) then
      none
    else if isDirectory = false ∧ 0 < entry.uncompressedSize64 then
      if entry.compressedSize64 = 0 then none
      else
        let quotient := entry.uncompressedSize64 / entry.compressedSize64
        let remainder := entry.uncompressedSize64 % entry.compressedSize64
        if maximumCompressionRatio < quotient ∨
            (quotient = maximumCompressionRatio ∧ remainder ≠ 0) then none
        else some (normalized, isDirectory)
    else some (normalized, isDirectory)

/-! ## The loop over the entries -/

/-- The paths that have been used, by their folded spelling. -/
abbrev Seen := Bytes → Option Bytes

/-- The loop over the components of a path: `done` are those that it has left behind. -/
def checkPrefixes (entryKinds : Bytes → Option Bool) :
    List Bytes → List Bytes → Seen → Option Seen
  | _, [], seen => some seen
  | done, c :: rest, seen =>
    let path := join (done ++ [c])
    let folded := toLower path
    if (seen folded).any (· != path) then none
    else if rest ≠ [] ∧ entryKinds folded = some false then none
    else if rest = [] then
      if seen folded = some path then none
      else checkPrefixes entryKinds (done ++ [c]) rest seen
    else if seen folded = none then
      checkPrefixes entryKinds (done ++ [c]) rest (Function.update seen folded (some path))
    else checkPrefixes entryKinds (done ++ [c]) rest seen

/-- The variables of the loop, the file system, and how many bytes have been written to files. -/
structure Extraction where
  seen : Seen
  entryKinds : Bytes → Option Bool
  total : ℕ
  nodes : List (List Bytes × Node FileMode Bytes)
  written : ℕ

inductive StageError where
  | invalidArchive
  | os (refusal : Refusal)
  deriving DecidableEq, Repr

/-- A failed extraction: the error, and how many bytes had been written to files. -/
structure Failure where
  error : StageError
  written : ℕ
  deriving DecidableEq, Repr

-- How the file system identifies names, and `cleanDestination`.
variable {κ : Type} [DecidableEq κ] (key : Bytes → κ) (cleanDestination : Bytes)

/-- What the loop does with a directory. -/
def extractDirectory (target : Bytes) (x : Extraction) : Except Failure Extraction :=
  match mkdir key 0o700 x.nodes (resolve target) with
  | .ok nodes => .ok { x with nodes }
  | .error .exists => .ok x
  | .error refusal => .error ⟨.os refusal, x.written⟩

/-- What the loop does with a file.  The reader is asked for one byte more than the entry declares. -/
def extractFile (entry : ZipFile) (target : Bytes) (x : Extraction) : Except Failure Extraction :=
  match mkdirAll key 0o700 x.nodes (resolve (parent target)) with
  | .error refusal => .error ⟨.os refusal, x.written⟩
  | .ok nodes =>
    if entry.opens = false then .error ⟨.invalidArchive, x.written⟩
    else
      let output := entry.content.take (entry.uncompressedSize64 + 1)
      match create key entry.mode.created output nodes (resolve target) with
      | .error refusal => .error ⟨.os refusal, x.written⟩
      | .ok nodes =>
        let copyErr := entry.fails && decide (entry.content.length ≤ entry.uncompressedSize64)
        if copyErr ∨ output.length ≠ entry.uncompressedSize64 then
          .error ⟨.invalidArchive, x.written + output.length⟩
        else .ok { x with nodes, written := x.written + output.length }

/-- The body of the loop over the entries. -/
def extractEntry (x : Extraction) (entry : ZipFile) : Except Failure Extraction :=
  match validateArchiveEntry validString entry with
  | none => .error ⟨.invalidArchive, x.written⟩
  | some (normalized, isDirectory) =>
    match checkPrefixes x.entryKinds [] (components normalized) x.seen with
    | none => .error ⟨.invalidArchive, x.written⟩
    | some seen =>
      if maximumExtractedBytes - x.total < entry.uncompressedSize64 then
        .error ⟨.invalidArchive, x.written⟩
      else
        let x := { x with
          seen := Function.update seen (toLower normalized) (some normalized)
          entryKinds := Function.update x.entryKinds (toLower normalized) (some isDirectory)
          total := x.total + entry.uncompressedSize64 }
        let target := clean (clean (cleanDestination ++ slash :: normalized))
        if ¬(cleanDestination ++ [slash]) <+: target then .error ⟨.invalidArchive, x.written⟩
        else if isDirectory then extractDirectory key target x
        else extractFile key entry target x

def extractEntries : List ZipFile → Extraction → Except Failure Extraction
  | [], x => .ok x
  | entry :: rest, x =>
    match extractEntry validString key cleanDestination x entry with
    | .error failure => .error failure
    | .ok x => extractEntries rest x

end Extract

/-- `extractReleaseArchive`: the file system afterwards.  `reader` is what `zip.OpenReader` gives. -/
def extractReleaseArchive {κ : Type} [DecidableEq κ] (validString : Bytes → Bool) (key : Bytes → κ)
    (reader : Option (List ZipFile)) (destination : Bytes)
    (nodes : List (List Bytes × Node FileMode Bytes)) : Except Failure Extraction :=
  let cleanDestination := clean destination
  if isAbs cleanDestination = false ∨ cleanDestination = [slash] then .error ⟨.invalidArchive, 0⟩
  else match reader with
    | none => .error ⟨.invalidArchive, 0⟩
    | some files =>
      if files = [] ∨ maximumArchiveEntries < files.length then .error ⟨.invalidArchive, 0⟩
      else
        let start : Extraction := ⟨fun _ => none, fun _ => none, 0, nodes, 0⟩
        match extractEntries validString key cleanDestination files start with
        | .error failure => .error failure
        | .ok x =>
          if x.seen (toLower stageApplicationDirectory) ≠ some stageApplicationDirectory then
            .error ⟨.invalidArchive, x.written⟩
          else .ok x

end Release
