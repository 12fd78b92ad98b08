/-
  The search for npm installations, and who may delete on the strength of it.

  `DiscoverNPMInstallations` looks for launchers in the directories of PATH, walks the roots of the
  version managers and, on request, broad roots, has every find validated, and marks a candidate
  `automatic` unless the search is KNOWN to be incomplete: a bound was reached, a find was rejected, a
  root was refused.  The question is whether that covers every way in which a part of the tree stays
  unseen.

  1. `walkDir`: `filepath.WalkDir` over a tree whose directories and entries may be unreadable.
  2. `visit`, `scanRoot`, `addLauncherSeed`, `addPrefixSeed`, the three tiers, the authority.
  3. `onDevice`: what a walk should have listed.  `Scanning.Lists` compares the two: a walk that does
     not stop lists a part of it, and all of it iff nothing is HIDDEN (`walkDir_lists`).
  4. `automatic_complete_iff`: the marks mean a complete search exactly when nothing is hidden.
     Directories that cannot be read, entries without information, directories below the depth bound
     and launchers that do not verify are hidden, and no flag, count or record says so.

  What an installation is, and how one is validated, merged and judged, is a parameter (`Review`): the
  search decides without looking at it.  The context is one that is not cancelled (a cancelled one
  yields no result), and the tree stands still during the search.
-/
import OpenCodexRelay.Json
import OpenCodexRelay.SlashPath
import OpenCodexRelay.Text
import Mathlib.Data.List.Dedup
import Mathlib.Data.List.Sort

namespace Handoff

open Json SlashPath

def defaultDiscoveryMaxEntries : ℕ := 20000

def defaultDiscoveryMaxDepth : ℕ := 10

def maximumDiscoveryCandidates : ℕ := 128

def maximumDiscoveryCoverage : ℕ := 64

def maximumUnmatchedLaunchers : ℕ := 128

inductive DiscoveryTier where
  | a
  | b
  | c
  deriving DecidableEq, Repr

/-! ## The file system -/

/-- A directory entry.  `stat`: whether `entry.Info` and `deviceID` answer. -/
structure Entry where
  name : Bytes
  isDir : Bool
  symlink : Bool
  device : ℕ
  stat : Bool

/-- What stands in a directory, one entry after the other; a directory can be `readable` or not. -/
inductive Entries where
  | nil
  | file (name : Bytes) (symlink : Bool) (device : ℕ) (stat : Bool) (rest : Entries)
  | dir (name : Bytes) (device : ℕ) (stat readable : Bool) (below rest : Entries)

/-- What `os.Lstat` tells. -/
structure Info where
  symlink : Bool
  isDir : Bool
  device : Option ℕ

/-- What the search finds on the machine. -/
structure World where
  /-- `none`: `os.ErrNotExist`; `some none`: another error. -/
  lstat : Bytes → Option (Option Info)
  evalSymlinks : Bytes → Option Bytes
  readable : Bytes → Bool
  entries : Bytes → Entries
  /-- The resolved path and the fingerprint. -/
  verifyDiscoveryExecutable : Bytes → Option (Bytes × Bytes)
  isLocalVolume : Bytes → Bool
  userHomeDir : Option Bytes
  goos : Bytes
  goarch : Bytes
  /-- The executable in the handoff record of a relay configuration. -/
  readRecord : Bytes → Option Bytes

/-- What the callback of a walk answers. -/
inductive Verdict where
  | next
  | skipDir
  | stop
  deriving DecidableEq, Repr

section WalkDir

variable {σ : Type} (visit : Bytes → Entry → Bool → σ → σ × Verdict) (read : Bytes → σ → σ)

/-- A directory: the callback sees it, then it is read; if that fails, the callback sees it again,
    with the error.  `read` records a directory that has been read. -/
def walkDirectory (walk : σ → σ × Verdict) (path : Bytes) (entry : Entry) (readable : Bool) (s : σ) :
    σ × Verdict :=
  match visit path entry false s with
  | (s, .stop) => (s, .stop)
  | (s, .skipDir) => (s, .next)
  | (s, .next) => if readable then walk (read path s) else visit path entry true s

/-- `filepath.WalkDir`, over the entries of the directory at `path`. -/
def walkDir (path : Bytes) : Entries → σ → σ × Verdict
  | .nil, s => (s, .next)
  | .file name symlink device stat rest, s =>
    match visit (path ++ slash :: name) ⟨name, false, symlink, device, stat⟩ false s with
    | (s, .next) => walkDir path rest s
    | (s, .skipDir) => (s, .next)
    | (s, .stop) => (s, .stop)
  | .dir name device stat readable below rest, s =>
    match walkDirectory visit read (walkDir (path ++ slash :: name) below) (path ++ slash :: name)
      ⟨name, true, false, device, stat⟩ readable s with
    | (s, .stop) => (s, .stop)
    | (s, _) => walkDir path rest s

end WalkDir

/-! ## Paths -/

/-- `filepath.Join`. -/
def joinPath (path : Bytes) (names : List Bytes) : Bytes := clean (path ++ spell names)

/-- `filepath.Base`. -/
def base (path : Bytes) : Bytes :=
  if path = [] then dot else (resolve path).getLastD [slash]

def hasOpenCodexPackageSuffix (root : Bytes) : Bool :=
  base root = ascii "opencodex" ∧ base (parent root) = ascii "@bitkyc08" ∧
    base (parent (parent root)) = ascii "node_modules"

def packageRootForPrefix (pre : Bytes) : Bytes :=
  joinPath pre [ascii "lib", ascii "node_modules", ascii "@bitkyc08", ascii "opencodex"]

/-- The loop of `packageRootFromBinTarget`. -/
def packageRootAbove : ℕ → Bytes → Option Bytes
  | 0, _ => none
  | n + 1, current =>
    if hasOpenCodexPackageSuffix current then some current
    else if parent current = current then none
    else packageRootAbove n (parent current)

def packageRootFromBinTarget (target : Bytes) : Option Bytes := packageRootAbove 5 (parent target)

/-- Whether `filepath.Rel(root, target)` exists and does not lead upwards. -/
def pathContainedBy (root target : Bytes) : Bool :=
  isAbs root = isAbs target ∧ resolve (clean root) <+: resolve (clean target)

def skippedDiscoveryDirectory (name path : Bytes) : Bool :=
  name ∈ [ascii ".Trash", ascii ".git", ascii "CloudStorage", ascii "Backups.backupdb",
    ascii ".MobileBackups"] ∨
  (Text.index (ascii "/Library/CloudStorage/") path).isSome ∨
  (Text.index (ascii "/.timemachine/") path).isSome

/-- The separators of `filepath.Rel(root, path)`, for a path that a walk from `root` comes to. -/
def depth (root path : Bytes) : ℕ :=
  if path = root then 0 else (path.drop (root.length + 1)).count slash + 1

/-- An absolute path in its clean form. -/
def Proper (path : Bytes) : Prop := path ≠ [] ∧ isAbs path ∧ clean path = path
  deriving Decidable

/-! ## The collector -/

structure DiscoveryOptions where
  tier : DiscoveryTier
  relayConfigPath : Bytes
  homeDir : Bytes
  pathEnv : Bytes
  goos : Bytes
  goarch : Bytes
  broadScanApproved : Bool
  broadRoots : List Bytes
  skipDefaultPrefixes : Bool
  maxEntries : ℤ
  maxDepth : ℤ
  getenv : Bytes → Bytes
  homebrewPrefix : Bytes

inductive Source where
  | enrollment
  | path
  | nativePrefix
  | trustedPrefix
  | nvm
  | nvmXdg
  | fnm
  | volta
  | asdf
  | broad
  deriving DecidableEq, Repr

/-- `discoverySeed`; manager, confidence and Homebrew prefix follow from the rest and the options. -/
structure DiscoverySeed where
  packageRoot : Bytes
  requiredLauncher : Option Bytes
  source : Source
  managerRoot : Bytes
  tier : DiscoveryTier

structure UnmatchedLauncherEvidence where
  launcher : Bytes
  fingerprint : Bytes
  source : Source
  tier : DiscoveryTier

inductive CoverageState where
  | scanned
  | absent
  | refused
  | truncated
  deriving DecidableEq, Repr

structure DiscoveryCoverage where
  source : Source
  root : Bytes
  state : CoverageState

/-- How it went with a root.  `walked`: its device, and what the walk has listed. -/
inductive Course where
  | absent
  | refused
  | walked (device : ℕ) (listed : List Bytes)

/-- `discoveryCollector`.  `courses` is not in the source: it keeps how it went with every root that
    the search came to. -/
structure Collector where
  seeds : List DiscoverySeed
  unmatchedLaunchers : List UnmatchedLauncherEvidence
  coverage : List DiscoveryCoverage
  entries : ℕ
  truncated : Bool
  launcherEvidenceTruncated : Bool
  courses : List (Bytes × Course)

/-- The part of the collector that a walk changes.  `listed`: the files that the callback has seen and
    the directories that have been read. -/
structure Scanning where
  seeds : List DiscoverySeed
  entries : ℕ
  truncated : Bool
  listed : List Bytes

inductive DiscoveryError where
  | broadScanConsentRequired
  | unsupportedBroadScan
  | unsafeNPMInstallation
  | discoveryLimit
  deriving DecidableEq, Repr

section Search

variable (w : World) (o : DiscoveryOptions)

/-- `os.ErrNotExist` and what is not to be had are one in these two. -/
def canonicalExistingDirectory (path : Bytes) : Option Bytes :=
  if ¬Proper path then none
  else match w.lstat path with
    | some (some info) =>
      if info.symlink ∨ ¬info.isDir then none
      else (w.evalSymlinks path).bind fun resolved => if isAbs resolved then some (clean resolved) else none
    | _ => none

def canonicalLeafPath (path : Bytes) : Option Bytes :=
  if ¬Proper path then none
  else (w.evalSymlinks (parent path)).bind fun above =>
    if ¬isAbs above then none
    else match w.lstat (joinPath above [base path]) with
      | some (some _) => some (joinPath above [base path])
      | _ => none

def addLauncherSeed (launcher : Bytes) (source : Source) (tier : DiscoveryTier) (c : Collector) :
    Collector :=
  match canonicalLeafPath w launcher with
  | none => c
  | some canonical =>
    match w.verifyDiscoveryExecutable canonical with
    | none => c
    | some (resolved, fingerprint) =>
      match packageRootFromBinTarget resolved with
      | none =>
        if maximumUnmatchedLaunchers ≤ c.unmatchedLaunchers.length then
          { c with truncated := true, launcherEvidenceTruncated := true }
        else
          { c with unmatchedLaunchers :=
              c.unmatchedLaunchers ++ [⟨canonical, fingerprint, source, tier⟩] }
      | some root => { c with seeds := c.seeds ++ [⟨root, some canonical, source, [], tier⟩] }

def addPrefixSeed (pre : Bytes) (source : Source) (tier : DiscoveryTier) (c : Collector) : Collector :=
  if pre = [] ∨ ¬isAbs pre then c
  else match w.lstat (packageRootForPrefix (clean pre)) with
    | some (some _) =>
      { c with
        seeds := c.seeds ++ [⟨packageRootForPrefix (clean pre), none, source, [], tier⟩]
        coverage := c.coverage ++ [⟨source, clean pre, .scanned⟩] }
    | _ => c

/-- The callback of `scanRoot`. -/
def visit (seed : Bytes → DiscoverySeed) (root : Bytes) (rootDevice : ℕ) (path : Bytes) (entry : Entry)
    (walkErr : Bool) (s : Scanning) : Scanning × Verdict :=
  let pass : Verdict := if entry.isDir then .skipDir else .next
  if walkErr then (s, pass)
  else if entry.stat = false then (s, pass)
  else if entry.device ≠ rootDevice then (s, pass)
  else if o.maxEntries < s.entries + 1 then
    ({ s with entries := s.entries + 1, truncated := true }, .stop)
  else if entry.isDir then
    ({ s with entries := s.entries + 1 },
      if o.maxDepth < depth root path ∨ skippedDiscoveryDirectory entry.name path then .skipDir
      else .next)
  else if entry.symlink ∨ entry.name ≠ ascii "package.json" ∨
      ¬hasOpenCodexPackageSuffix (parent path) then
    ({ s with entries := s.entries + 1, listed := s.listed ++ [path] }, .next)
  else
    ({ s with
        entries := s.entries + 1
        listed := s.listed ++ [path]
        seeds := s.seeds ++ [seed (parent path)] }, .next)

/-- A directory that has been read. -/
def noteRead (path : Bytes) (s : Scanning) : Scanning := { s with listed := s.listed ++ [path] }

/-- The walk of `scanRoot`.  The entry of the root itself comes from `os.Lstat`, which has answered. -/
def walkRoot (seed : Bytes → DiscoverySeed) (root : Bytes) (rootDevice : ℕ) (s : Scanning) :
    Scanning × Verdict :=
  walkDirectory (visit o seed root rootDevice) noteRead
    (walkDir (visit o seed root rootDevice) noteRead root (w.entries root)) root
    ⟨base root, true, false, rootDevice, true⟩ (w.readable root) s

/-- A root that is not walked. -/
def pass (source : Source) (root : Bytes) (state : CoverageState) (course : Course) (c : Collector) :
    Collector :=
  { c with coverage := c.coverage ++ [⟨source, root, state⟩], courses := c.courses ++ [(root, course)] }

def scanRoot (root : Bytes) (source : Source) (managerRoot : Bytes) (tier : DiscoveryTier)
    (c : Collector) : Collector × Option DiscoveryError :=
  if ¬Proper root then (c, some .unsafeNPMInstallation)
  else match w.lstat root with
    | none => (pass source root .absent .absent c, none)
    | some none => (pass source root .refused .refused c, none)
    | some (some info) =>
      if info.symlink ∨ ¬info.isDir ∨ w.evalSymlinks root ≠ some root then
        (pass source root .refused .refused c, none)
      else match info.device with
        | none => (pass source root .refused .refused c, none)
        | some device =>
          let (s, verdict) := walkRoot w o (fun packageRoot => ⟨packageRoot, none, source, managerRoot, tier⟩)
            root device ⟨c.seeds, c.entries, c.truncated, []⟩
          let state : CoverageState := if verdict = .stop then .truncated else .scanned
          (pass source root state (.walked device s.listed)
              { c with seeds := s.seeds, entries := s.entries, truncated := s.truncated },
            if verdict = .stop then some .discoveryLimit else none)

/-! ## The three tiers -/

/-- `filepath.SplitList`. -/
def splitList (path : Bytes) : List Bytes := if path = [] then [] else path.splitOn 0x3a

/-- The launchers that are looked for in the directories of PATH. -/
def searchedLaunchers : List Bytes :=
  ((splitList o.pathEnv).filter fun directory => Proper directory).flatMap fun directory =>
    [joinPath directory [ascii "ocx"], joinPath directory [ascii "opencodex"]]

def collectTierA (c : Collector) : Collector :=
  let c := if o.relayConfigPath = [] then c else match w.readRecord o.relayConfigPath with
    | none => c
    | some executable => addLauncherSeed w executable .enrollment .a c
  let c := (searchedLaunchers o).foldl (fun c launcher => addLauncherSeed w launcher .path .a c) c
  if o.skipDefaultPrefixes then c
  else addPrefixSeed w
    (if o.goos = ascii "darwin" ∧ o.goarch = ascii "arm64" then ascii "/opt/homebrew" else ascii "/usr/local")
    .nativePrefix .a c

def managerRoots : List (Source × Bytes) :=
  let orElse (name : String) (default : Bytes) :=
    if o.getenv (ascii name) = [] then default else o.getenv (ascii name)
  let xdg := orElse "XDG_CONFIG_HOME" (joinPath o.homeDir [ascii ".config"])
  [(.nvm, orElse "NVM_DIR" (joinPath o.homeDir [ascii ".nvm"])),
    (.nvmXdg, joinPath xdg [ascii "nvm"]),
    (.fnm, orElse "FNM_DIR"
      (joinPath o.homeDir [ascii "Library", ascii "Application Support", ascii "fnm"])),
    (.volta, orElse "VOLTA_HOME" (joinPath o.homeDir [ascii ".volta"])),
    (.asdf, orElse "ASDF_DATA_DIR" (joinPath o.homeDir [ascii ".asdf"]))]

def allowedTierBManagerRoot (root home : Bytes) : Bool :=
  isAbs root ∧ clean root = root ∧ root ≠ home ∧ pathContainedBy home root

/-- The loop of `collectTierB` over the roots. -/
def collectManagerRoots : List (Source × Bytes) → List Bytes → Collector → Collector
  | [], _, c => c
  | (source, root) :: roots, seen, c =>
    if root = [] ∨ ¬isAbs root then collectManagerRoots roots seen c
    else
      let scan := (canonicalExistingDirectory w (clean root)).getD (clean root)
      if scan ∈ seen then collectManagerRoots roots seen c
      else if ¬allowedTierBManagerRoot scan o.homeDir then
        collectManagerRoots roots (scan :: seen) (pass source (clean root) .refused .refused c)
      else collectManagerRoots roots (scan :: seen) (scanRoot w o scan source scan .b c).1

def collectTierB (c : Collector) : Collector :=
  let c := if o.skipDefaultPrefixes then c
    else [ascii "/opt/homebrew", ascii "/usr/local", ascii "/usr"].foldl
      (fun c pre => addPrefixSeed w pre .trustedPrefix .b c) c
  collectManagerRoots w o (managerRoots o) [] c

def allowedBroadRoot (root home : Bytes) : Bool :=
  isAbs root ∧ clean root = root ∧
    root ∉ [ascii "/", ascii "/System", ascii "/Users", ascii "/Volumes"] ∧
    (pathContainedBy home root ∨ pathContainedBy (ascii "/opt") root ∨
      pathContainedBy (ascii "/usr/local") root)

/-- The loop of `collectTierC`. -/
def collectBroadRoots : List Bytes → List Bytes → Collector → Collector × Option DiscoveryError
  | [], _, c => (c, none)
  | root :: roots, seen, c =>
    match canonicalExistingDirectory w (clean root) with
    | none => collectBroadRoots roots seen (pass .broad (clean root) .refused .refused c)
    | some scan =>
      if scan ∈ seen then collectBroadRoots roots seen c
      else if ¬allowedBroadRoot scan o.homeDir ∨ ¬w.isLocalVolume scan then
        collectBroadRoots roots (scan :: seen) (pass .broad scan .refused .refused c)
      else match scanRoot w o scan .broad [] .c c with
        | (c, none) => collectBroadRoots roots (scan :: seen) c
        | (c, some .discoveryLimit) => ({ c with truncated := true }, some .discoveryLimit)
        | (c, some e) => (c, some e)

def collectTierC (c : Collector) : Collector × Option DiscoveryError :=
  collectBroadRoots w o
    (if o.broadRoots = [] then [o.homeDir, ascii "/opt", ascii "/usr/local"] else o.broadRoots) [] c

/-- `normalizeDiscoveryOptions`. -/
def normalizeDiscoveryOptions : Except DiscoveryError DiscoveryOptions :=
  match if o.homeDir = [] then w.userHomeDir else some o.homeDir with
  | none => .error .unsafeNPMInstallation
  | some home =>
    match w.evalSymlinks (clean home) with
    | none => .error .unsafeNPMInstallation
    | some resolved =>
      let goos := if o.goos = [] then w.goos else o.goos
      let goarch := if o.goarch = [] then w.goarch else o.goarch
      let silicon : Bool := goos = ascii "darwin" ∧ goarch = ascii "arm64"
      let pre := if o.homebrewPrefix = [] ∧ ¬o.skipDefaultPrefixes ∧ silicon then ascii "/opt/homebrew"
        else o.homebrewPrefix
      let bounded (n : ℤ) (limit : ℕ) : ℤ := if n ≤ 0 ∨ limit < n then limit else n
      if ¬isAbs (clean home) ∨ ¬isAbs resolved then .error .unsafeNPMInstallation
      else if pre ≠ [] ∧ (¬silicon ∨ ¬isAbs (clean pre) ∨ w.evalSymlinks (clean pre) ≠ some (clean pre))
      then .error .unsafeNPMInstallation
      else .ok { o with
        homeDir := clean resolved
        pathEnv := if o.pathEnv = [] then o.getenv (ascii "PATH") else o.pathEnv
        goos := goos
        goarch := goarch
        homebrewPrefix := if pre = [] then [] else clean pre
        maxEntries := bounded o.maxEntries defaultDiscoveryMaxEntries
        maxDepth := bounded o.maxDepth defaultDiscoveryMaxDepth }

def Collector.empty : Collector := ⟨[], [], [], 0, false, false, []⟩

/-- What the search collects, under options that have been normalised. -/
def collect : Except DiscoveryError Collector :=
  let c := collectTierA w o .empty
  match o.tier with
  | .a => .ok c
  | .b => .ok (collectTierB w o c)
  | .c =>
    if ¬o.broadScanApproved then .error .broadScanConsentRequired
    else if o.goos ≠ ascii "darwin" then .error .unsupportedBroadScan
    else match collectTierC w o (collectTierB w o c) with
      | (c, none) => .ok c
      | (c, some .discoveryLimit) => .ok c
      | (_, some e) => .error e

end Search

/-! ## The result -/

inductive RemovalAuthority where
  | automatic
  | manual
  deriving DecidableEq, Repr

/-- How an installation is validated, matched, merged and judged.  `validateNPMInstallation` answers
    `none` with `os.ErrNotExist`. -/
structure Review (ι : Type) where
  validateNPMInstallation : DiscoverySeed → Option (Except Unit ι)
  launcherEvidenceMatchesCandidate : UnmatchedLauncherEvidence → ι → Bool
  mergeInstallations : List ι → ι
  automaticRemovalAuthorityCandidate : ι → Bool
  packageRoot : ι → Bytes
  /-- The manual capability and the warning `launcher_evidence_truncated`. -/
  distrust : ι → ι
  /-- The order by tier and package root. -/
  before : ι → ι → Bool

structure DiscoveryResult (ι : Type) where
  candidates : List (ι × RemovalAuthority)
  coverage : List DiscoveryCoverage
  rejected : ℕ
  truncated : Bool

section Result

variable {ι : Type} (v : Review ι)

/-- What has been validated, and how often that failed with another error than `os.ErrNotExist`. -/
def validateSeeds (seeds : List DiscoverySeed) : List ι × ℕ :=
  let answers := seeds.filterMap v.validateNPMInstallation
  (answers.filterMap Except.toOption, answers.countP fun answer => answer.toOption.isNone)

/-- The seeds for launchers without a package that match a candidate, one for each package root. -/
def evidenceSeeds (candidates : List ι) (e : UnmatchedLauncherEvidence) : List DiscoverySeed :=
  (((candidates.filter (v.launcherEvidenceMatchesCandidate e)).map v.packageRoot).dedup).map fun root =>
    ⟨root, some e.launcher, e.source, [], e.tier⟩

def boundedCoverage (values : List DiscoveryCoverage) : List DiscoveryCoverage :=
  values.take maximumDiscoveryCoverage

/-- Whether a result says itself that it is not complete. -/
def DiscoveryResult.incomplete (r : DiscoveryResult ι) : Bool :=
  r.truncated ∨ r.rejected ≠ 0 ∨ ∃ x ∈ r.coverage, x.state ≠ .scanned ∧ x.state ≠ .absent

def applyDiscoveryRemovalAuthority (r : DiscoveryResult ι) : DiscoveryResult ι :=
  { r with candidates := r.candidates.map fun x =>
      (x.1, if ¬r.incomplete ∧ v.automaticRemovalAuthorityCandidate x.1 then .automatic else .manual) }

/-- From the collector to the result. -/
def conclude (c : Collector) : DiscoveryResult ι :=
  let (validated, rejected) := validateSeeds v c.seeds
  let (matched, rejected') := validateSeeds v (c.unmatchedLaunchers.flatMap (evidenceSeeds v validated))
  let validated := validated ++ matched
  let validated := if c.launcherEvidenceTruncated then validated.map v.distrust else validated
  let merged := (validated.map v.packageRoot).dedup.map fun root =>
    v.mergeInstallations (validated.filter fun x => v.packageRoot x = root)
  let sorted := merged.insertionSort fun x y => v.before x y
  applyDiscoveryRemovalAuthority v
    { candidates := (sorted.take maximumDiscoveryCandidates).map (·, .manual)
      coverage := boundedCoverage c.coverage
      rejected := rejected + rejected'
      truncated := c.truncated || maximumDiscoveryCandidates < sorted.length }

def discoverNPMInstallations (w : World) (o : DiscoveryOptions) :
    Except DiscoveryError (DiscoveryResult ι) :=
  match normalizeDiscoveryOptions w o with
  | .error e => .error e
  | .ok o => match collect w o with
    | .error e => .error e
    | .ok c => .ok (conclude v c)

end Result

/-! ## What a walk lists -/

section Walk

variable {o : DiscoveryOptions} {root : Bytes} {rootDevice : ℕ}

/-- A directory of the device that is not left out on purpose, with what stands below it. -/
def directoryOn (rootDevice : ℕ) (name : Bytes) (device : ℕ) (path : Bytes) (below : List Bytes) :
    List Bytes :=
  if device = rootDevice ∧ skippedDiscoveryDirectory name path = false then path :: below else []

/-- What a walk over these entries has to list: all files and directories of the device. -/
def onDevice (rootDevice : ℕ) (path : Bytes) : Entries → List Bytes
  | .nil => []
  | .file name _ device _ rest =>
    (if device = rootDevice then [path ++ slash :: name] else []) ++ onDevice rootDevice path rest
  | .dir name device _ _ below rest =>
    directoryOn rootDevice name device (path ++ slash :: name)
        (onDevice rootDevice (path ++ slash :: name) below) ++
      onDevice rootDevice path rest

/-- A directory of the device is not hidden: it can be examined and read and is not too deep, and what
    stands below it is clear. -/
def ClearDirectory (o : DiscoveryOptions) (root : Bytes) (rootDevice : ℕ) (entry : Entry) (path : Bytes)
    (readable : Bool) (below : Prop) : Prop :=
  entry.device = rootDevice → skippedDiscoveryDirectory entry.name path = false →
    entry.stat = true ∧ depth root path ≤ o.maxDepth ∧ readable = true ∧ below

/-- **Nothing is hidden** among the entries of the device. -/
def Clear (o : DiscoveryOptions) (root : Bytes) (rootDevice : ℕ) (path : Bytes) : Entries → Prop
  | .nil => True
  | .file _ _ device stat rest =>
    (device = rootDevice → stat = true) ∧ Clear o root rootDevice path rest
  | .dir name device stat readable below rest =>
    ClearDirectory o root rootDevice ⟨name, true, false, device, stat⟩ (path ++ slash :: name) readable
        (Clear o root rootDevice (path ++ slash :: name) below) ∧
      Clear o root rootDevice path rest

/-- From `s` to `s'`, a part of `all` has been listed, and all of it exactly if `clear`. -/
def Scanning.Lists (s s' : Scanning) (all : List Bytes) (clear : Prop) : Prop :=
  ∃ l, s'.listed = s.listed ++ l ∧ l.Sublist all ∧ (l = all ↔ clear)

variable {s s' : Scanning} {all all' : List Bytes} {clear : Prop}

theorem Scanning.Lists.append {s'' : Scanning} {clear' : Prop} (h : s.Lists s' all clear)
    (h' : s'.Lists s'' all' clear') : s.Lists s'' (all ++ all') (clear ∧ clear') := by
  obtain ⟨l, hl, hsub, hall⟩ := h
  obtain ⟨l', hl', hsub', hall'⟩ := h'
  refine ⟨l ++ l', by rw [hl', hl, List.append_assoc], hsub.append hsub', ?_⟩
  rw [← hall, ← hall']
  -- the parts are not longer than what they are parts of, so the seam is where it should be
  refine ⟨fun heq => ?_, fun ⟨h, h'⟩ => by rw [h, h']⟩
  have hlength := congrArg List.length heq
  rw [List.length_append, List.length_append] at hlength
  have hle := hsub.length_le
  have hle' := hsub'.length_le
  exact List.append_inj heq (by omega)

/-- What a walk has done to the state. -/
structure Scanning.Walked (s : Scanning) (r : Scanning × Verdict) (all : List Bytes) (clear : Prop) :
    Prop where
  truncated : s.truncated = true → r.1.truncated = true
  stopped : r.2 = .stop → r.1.truncated = true
  seeds : ∀ x ∈ r.1.seeds, x ∈ s.seeds ∨ x.requiredLauncher = none
  kept : ∀ x ∈ s.seeds, x ∈ r.1.seeds
  lists : r.1.truncated = false → s.Lists r.1 all clear

namespace Scanning.Walked

theorem append {v : Verdict} {r : Scanning × Verdict} {clear' : Prop}
    (h : s.Walked (s', v) all clear) (h' : s'.Walked r all' clear') :
    s.Walked r (all ++ all') (clear ∧ clear') where
  truncated ht := h'.truncated (h.truncated ht)
  stopped := h'.stopped
  seeds x hx := (h'.seeds x hx).elim (h.seeds x) .inr
  kept x hx := h'.kept x (h.kept x hx)
  lists ht := Lists.append (h.lists (by simpa [ht] using mt h'.truncated)) (h'.lists ht)

/-- The state is the same but for the entry count, or the bound is reached. -/
theorem of_eq {r : Scanning × Verdict} (hseeds : r.1.seeds = s.seeds)
    (htruncated : r.1.truncated = s.truncated) (hv : r.2 ≠ .stop) (hlists : s.Lists r.1 all clear) :
    s.Walked r all clear where
  truncated h := htruncated.trans h
  stopped h := absurd h hv
  seeds _ hx := .inl (hseeds ▸ hx)
  kept _ hx := hseeds.symm ▸ hx
  lists _ := hlists

theorem of_stop {v : Verdict} (hseeds : s'.seeds = s.seeds)
    (htruncated : s'.truncated = true) :
    s.Walked (s', v) all clear where
  truncated _ := htruncated
  stopped _ := htruncated
  seeds _ hx := .inl (hseeds ▸ hx)
  kept _ hx := hseeds.symm ▸ hx
  lists h := by
    rw [htruncated] at h
    cases h

theorem stop {clear' : Prop} (h : s.Walked (s', .stop) all clear) :
    s.Walked (s', .stop) all' clear' :=
  ⟨h.truncated, h.stopped, h.seeds, h.kept, fun ht => by
    rw [h.stopped rfl] at ht
    cases ht⟩

end Scanning.Walked

theorem Scanning.Lists.none (h : s'.listed = s.listed) (hall : all = [] ↔ clear) :
    s.Lists s' all clear :=
  ⟨[], by rw [h, List.append_nil], List.nil_sublist _, eq_comm.trans hall⟩

/-- Whatever is in a list with one more entry. -/
theorem mem_snoc {α : Type} {l : List α} {a : α} {P : α → Prop} (h : P a) :
    ∀ x ∈ l ++ [a], x ∈ l ∨ P x := by
  intro x hx
  rcases List.mem_append.mp hx with hx | hx
  · exact .inl hx
  · exact .inr (List.mem_singleton.mp hx ▸ h)

variable {seed : Bytes → DiscoverySeed}

/-- A file is listed, unless it is on another device or cannot be examined. -/
theorem visit_file (hseed : ∀ p, (seed p).requiredLauncher = none) (path name : Bytes)
    (symlink : Bool) (device : ℕ) (stat : Bool) (s : Scanning) :
    s.Walked (visit o seed root rootDevice path ⟨name, false, symlink, device, stat⟩ false s)
      (if device = rootDevice then [path] else []) (device = rootDevice → stat = true) ∧
    (visit o seed root rootDevice path ⟨name, false, symlink, device, stat⟩ false s).2 ≠ .skipDir := by
  unfold visit
  by_cases hdevice : device = rootDevice
  · cases stat with
    | false => exact ⟨.of_eq rfl rfl nofun (.none rfl (by simp [hdevice])), nofun⟩
    | true =>
      simp only [Bool.false_eq_true, if_false, Bool.true_eq_false, hdevice, ne_eq, not_true_eq_false,
        if_true, true_imp_iff]
      split_ifs with hbound hplain
      · exact ⟨.of_stop rfl rfl, nofun⟩
      · exact ⟨.of_eq rfl rfl nofun ⟨[path], rfl, .refl _, by simp⟩, nofun⟩
      · exact ⟨⟨id, nofun, mem_snoc (hseed _), fun _ => List.mem_append_left _,
          fun _ => ⟨[path], rfl, .refl _, by simp⟩⟩, nofun⟩
  · have hpass : s.Walked (s, .next) (if device = rootDevice then [path] else [])
        (device = rootDevice → stat = true) := .of_eq rfl rfl nofun (.none rfl (by simp [hdevice]))
    cases stat <;> simpa [hdevice] using hpass

/-- A directory is listed with what is below it, unless it is on another device, left out on purpose
    or hidden. -/
theorem walkDirectory_walked {walk : Scanning → Scanning × Verdict} {below : List Bytes}
    (hwalk : ∀ s : Scanning, s.Walked (walk s) below clear) (path : Bytes) (entry : Entry)
    (hdir : entry.isDir = true) (readable : Bool) (s : Scanning) :
    s.Walked (walkDirectory (visit o seed root rootDevice) noteRead walk path entry readable s)
      (directoryOn rootDevice entry.name entry.device path below)
      (ClearDirectory o root rootDevice entry path readable clear) := by
  unfold walkDirectory visit
  simp only [Bool.false_eq_true, if_false, hdir, if_true]
  -- where the directory is not read, it is hidden or need not be listed
  have hunread (s' : Scanning) (h : s'.listed = s.listed)
      (hnot : ¬(entry.stat = true ∧ entry.device = rootDevice ∧ depth root path ≤ o.maxDepth ∧
        skippedDiscoveryDirectory entry.name path = false ∧ readable = true)) :
      s.Lists s' (directoryOn rootDevice entry.name entry.device path below)
        (ClearDirectory o root rootDevice entry path readable clear) := by
    refine .none h ?_
    unfold directoryOn ClearDirectory
    split_ifs with hon
    · refine iff_of_false nofun fun hclear => ?_
      obtain ⟨hstat, hdepth, hreadable, -⟩ := hclear hon.1 hon.2
      exact hnot ⟨hstat, hon.1, hdepth, hon.2, hreadable⟩
    · exact iff_of_true rfl fun hdevice hskip => absurd ⟨hdevice, hskip⟩ hon
  by_cases hstat : entry.stat = false
  · rw [if_pos hstat]
    exact .of_eq rfl rfl nofun (hunread _ rfl (by simp [hstat]))
  rw [if_neg hstat]
  by_cases hdevice : entry.device = rootDevice
  swap
  · rw [if_pos hdevice]
    exact .of_eq rfl rfl nofun (hunread _ rfl (by simp [hdevice]))
  rw [if_neg (not_not_intro hdevice)]
  by_cases hbound : o.maxEntries < s.entries + 1
  · rw [if_pos hbound]
    exact .of_stop rfl rfl
  rw [if_neg hbound]
  by_cases hpass : o.maxDepth < depth root path ∨ skippedDiscoveryDirectory entry.name path = true
  · rw [if_pos hpass]
    refine .of_eq rfl rfl nofun (hunread { s with entries := s.entries + 1 } rfl ?_)
    rintro ⟨-, -, hdepth, hskip, -⟩
    rcases hpass with h | h
    · omega
    · rw [hskip] at h
      cases h
  rw [if_neg hpass]
  obtain ⟨hdepth, hskip⟩ := not_or.mp hpass
  show s.Walked (if readable = true then walk (noteRead path { s with entries := s.entries + 1 })
    else ({ s with entries := s.entries + 1 }, .skipDir)) _ _
  by_cases hreadable : readable = true
  · rw [if_pos hreadable]
    obtain ⟨htruncated, hstopped, hseeds, hkept, hlists⟩ :=
      hwalk (noteRead path { s with entries := s.entries + 1 })
    refine ⟨htruncated, hstopped, hseeds, hkept, fun h => ?_⟩
    obtain ⟨l, hl, hsub, hall⟩ := hlists h
    have hon : directoryOn rootDevice entry.name entry.device path below = path :: below :=
      if_pos ⟨hdevice, by simpa using hskip⟩
    refine ⟨path :: l, by rw [hl]; simp [noteRead], hon ▸ hsub.cons_cons path, ?_⟩
    have hle : depth root path ≤ o.maxDepth := by omega
    rw [hon, List.cons.injEq, hall]
    simp [ClearDirectory, hdevice, hskip, hstat, hle, hreadable]
  · rw [if_neg hreadable]
    exact .of_eq rfl rfl nofun
      (hunread { s with entries := s.entries + 1 } rfl fun h => hreadable h.2.2.2.2)

/-- **A walk that does not stop** lists everything of the device, unless something is hidden. -/
theorem walkDir_walked (hseed : ∀ p, (seed p).requiredLauncher = none) (t : Entries) (path : Bytes)
    (s : Scanning) :
    s.Walked (walkDir (visit o seed root rootDevice) noteRead path t s) (onDevice rootDevice path t)
      (Clear o root rootDevice path t) := by
  induction t generalizing path s with
  | nil => exact .of_eq rfl rfl nofun (.none rfl (by simp [onDevice, Clear]))
  | file name symlink device stat rest ih =>
    obtain ⟨hfile, hverdict⟩ := @visit_file o root rootDevice seed hseed (path ++ slash :: name) name
      symlink device stat s
    rw [walkDir]
    split
    · rename_i s' hvisit
      rw [hvisit] at hfile
      exact hfile.append (ih path s')
    · rename_i hvisit
      exact absurd (by rw [hvisit]) hverdict
    · rename_i s' hvisit
      rw [hvisit] at hfile
      exact hfile.stop
  | dir name device stat readable below rest ihbelow ih =>
    have hdirectory := @walkDirectory_walked o root rootDevice _ seed _ _
      (ihbelow (path ++ slash :: name)) (path ++ slash :: name) ⟨name, true, false, device, stat⟩ rfl
      readable s
    rw [walkDir]
    split
    · rename_i s' hwalk
      rw [hwalk] at hdirectory
      exact hdirectory.stop
    · rename_i s' _ _ hwalk
      rw [hwalk] at hdirectory
      exact hdirectory.append (ih path s')

end Walk

/-! ## What a search has seen -/

section Seen

variable {w : World} {o : DiscoveryOptions} {c c' c'' : Collector}

/-- **The root was listed in full**, or there is nothing at it. -/
def Whole (w : World) : Bytes × Course → Prop
  | (_, .absent) => True
  | (_, .refused) => False
  | (root, .walked device listed) =>
    listed = directoryOn device (base root) device root (onDevice device root (w.entries root))

instance decidableWhole (w : World) : (x : Bytes × Course) → Decidable (Whole w x)
  | (_, .absent) => isTrue trivial
  | (_, .refused) => isFalse id
  | (_, .walked _ _) => inferInstanceAs (Decidable (_ = _))

/-- Nothing of the root is hidden, or there is nothing at it. -/
def Open (w : World) (o : DiscoveryOptions) : Bytes × Course → Prop
  | (_, .absent) => True
  | (_, .refused) => False
  | (root, .walked device _) =>
    ClearDirectory o root device ⟨base root, true, false, device, true⟩ root (w.readable root)
      (Clear o root device root (w.entries root))

/-- The launchers that stand in a seed or in the evidence. -/
def Collector.recorded (c : Collector) : List Bytes :=
  c.seeds.filterMap (·.requiredLauncher) ++ c.unmatchedLaunchers.map (·.launcher)

theorem Collector.mem_recorded {launcher : Bytes} : launcher ∈ c.recorded ↔
    (∃ x ∈ c.seeds, x.requiredLauncher = some launcher) ∨
      ∃ x ∈ c.unmatchedLaunchers, x.launcher = launcher := by
  simp [recorded]

/-- What every part of the search does to the collector. -/
structure Collector.Extends (w : World) (o : DiscoveryOptions) (c c' : Collector) : Prop where
  truncated : c.truncated = true → c'.truncated = true
  seeds : ∀ x ∈ c.seeds, x ∈ c'.seeds
  evidence : ∀ x ∈ c.unmatchedLaunchers, x ∈ c'.unmatchedLaunchers
  newSeeds : ∀ x ∈ c'.seeds, x ∈ c.seeds ∨
    ∀ launcher ∈ x.requiredLauncher, (w.verifyDiscoveryExecutable launcher).isSome
  newEvidence : ∀ x ∈ c'.unmatchedLaunchers, x ∈ c.unmatchedLaunchers ∨
    (w.verifyDiscoveryExecutable x.launcher).isSome
  courses : ∀ x ∈ c'.courses, x ∈ c.courses ∨ (c'.truncated = false → (Whole w x ↔ Open w o x))

namespace Collector.Extends

theorem refl (c : Collector) : c.Extends w o c :=
  ⟨id, fun _ => id, fun _ => id, fun _ => .inl, fun _ => .inl, fun _ => .inl⟩

theorem untruncated (h : c.Extends w o c') (ht : c'.truncated = false) :
    c.truncated = false := by
  simpa [ht] using mt h.truncated

theorem trans (h : c.Extends w o c') (h' : c'.Extends w o c'') : c.Extends w o c'' where
  truncated ht := h'.truncated (h.truncated ht)
  seeds x hx := h'.seeds x (h.seeds x hx)
  evidence x hx := h'.evidence x (h.evidence x hx)
  newSeeds x hx := (h'.newSeeds x hx).elim (h.newSeeds x) .inr
  newEvidence x hx := (h'.newEvidence x hx).elim (h.newEvidence x) .inr
  courses x hx := (h'.courses x hx).elim
    (fun hx => (h.courses x hx).imp_right fun hiff ht => hiff (h'.untruncated ht)) .inr

theorem recorded (h : c.Extends w o c') {launcher : Bytes}
    (hl : launcher ∈ c.recorded) : launcher ∈ c'.recorded := by
  rw [mem_recorded] at hl ⊢
  exact hl.imp (fun ⟨x, hx, heq⟩ => ⟨x, h.seeds x hx, heq⟩)
    fun ⟨x, hx, heq⟩ => ⟨x, h.evidence x hx, heq⟩

/-- Only launchers that verify are recorded. -/
theorem verified (h : Collector.empty.Extends w o c) {launcher : Bytes}
    (hl : launcher ∈ c.recorded) : (w.verifyDiscoveryExecutable launcher).isSome := by
  rcases mem_recorded.mp hl with ⟨x, hx, heq⟩ | ⟨x, hx, rfl⟩
  · exact (h.newSeeds x hx).resolve_left List.not_mem_nil launcher heq
  · exact (h.newEvidence x hx).resolve_left List.not_mem_nil

end Collector.Extends

theorem pass_extends (source : Source) (root : Bytes) (state : CoverageState) {course : Course}
    (h : Whole w (root, course) ↔ Open w o (root, course)) :
    c.Extends w o (pass source root state course c) :=
  { Collector.Extends.refl (o := o) c with courses := mem_snoc fun _ => h }

theorem addPrefixSeed_extends (pre : Bytes) (source : Source) (tier : DiscoveryTier) :
    c.Extends w o (addPrefixSeed w pre source tier c) := by
  unfold addPrefixSeed
  split_ifs
  · exact .refl c
  split
  · exact { Collector.Extends.refl c with
      seeds := fun _ => List.mem_append_left _
      newSeeds := mem_snoc nofun }
  · exact .refl c

/-- A launcher is passed over, or it verifies and is recorded, or the evidence is cut off. -/
theorem addLauncherSeed_extends (launcher : Bytes) (source : Source) (tier : DiscoveryTier) :
    c.Extends w o (addLauncherSeed w launcher source tier c) := by
  unfold addLauncherSeed
  split
  · exact .refl c
  rename_i canonical _
  split
  · exact .refl c
  rename_i hverify
  have hsome : (w.verifyDiscoveryExecutable canonical).isSome = true := by
    rw [hverify]
    rfl
  split
  · split_ifs
    · exact ⟨fun _ => rfl, fun _ => id, fun _ => id, fun _ => .inl, fun _ => .inl, fun _ => .inl⟩
    · exact { Collector.Extends.refl c with
        evidence := fun _ => List.mem_append_left _
        newEvidence := mem_snoc hsome }
  · exact { Collector.Extends.refl c with
      seeds := fun _ => List.mem_append_left _
      newSeeds := mem_snoc fun _ h => Option.some.inj h ▸ hsome }

/-- The walk of a root. -/
theorem walkRoot_walked {seed : Bytes → DiscoverySeed} (hseed : ∀ p, (seed p).requiredLauncher = none)
    (root : Bytes) (device : ℕ) (s : Scanning) :
    s.Walked (walkRoot w o seed root device s)
      (directoryOn device (base root) device root (onDevice device root (w.entries root)))
      (Open w o (root, .walked device [])) :=
  walkDirectory_walked (walkDir_walked hseed (w.entries root) root) root
    ⟨base root, true, false, device, true⟩ rfl (w.readable root) s

theorem scanRoot_extends (root : Bytes) (source : Source) (managerRoot : Bytes) (tier : DiscoveryTier) :
    c.Extends w o (scanRoot w o root source managerRoot tier c).1 := by
  unfold scanRoot
  split_ifs
  swap
  · exact .refl c
  split
  · exact pass_extends source root .absent .rfl
  · exact pass_extends source root .refused .rfl
  split_ifs
  · exact pass_extends source root .refused .rfl
  split
  · exact pass_extends source root .refused .rfl
  rename_i device _
  have hwalked := @walkRoot_walked w o (fun packageRoot => ⟨packageRoot, none, source, managerRoot, tier⟩)
    (fun _ => rfl) root device ⟨c.seeds, c.entries, c.truncated, []⟩
  obtain ⟨htruncated, -, hseeds, hkept, hlists⟩ := hwalked
  refine ⟨htruncated, hkept, fun _ => id, fun x hx => ?_, fun _ => .inl, mem_snoc fun ht => ?_⟩
  · refine (hseeds x hx).imp_right fun hnone launcher h => ?_
    rw [hnone] at h
    cases h
  · obtain ⟨l, hl, -, hall⟩ := hlists ht
    exact (Eq.congr_left hl).trans hall

theorem collectManagerRoots_extends (roots : List (Source × Bytes)) (seen : List Bytes) :
    c.Extends w o (collectManagerRoots w o roots seen c) := by
  induction roots generalizing seen c with
  | nil => exact .refl c
  | cons x roots ih =>
    obtain ⟨source, root⟩ := x
    unfold collectManagerRoots
    dsimp only
    split_ifs
    · exact ih seen
    · exact ih seen
    · exact (scanRoot_extends _ source _ .b).trans (ih _)
    · exact (pass_extends source _ .refused .rfl).trans (ih _)

theorem collectBroadRoots_extends (roots seen : List Bytes) :
    c.Extends w o (collectBroadRoots w o roots seen c).1 := by
  induction roots generalizing seen c with
  | nil => exact .refl c
  | cons root roots ih =>
    unfold collectBroadRoots
    split
    · exact (pass_extends .broad _ .refused .rfl).trans (ih _)
    split_ifs
    · exact ih seen
    · exact (pass_extends .broad _ .refused .rfl).trans (ih _)
    rename_i scan _ _ _
    have hscan : c.Extends w o (scanRoot w o scan .broad [] .c c).1 := scanRoot_extends scan .broad [] .c
    split
    · rename_i c' h
      rw [h] at hscan
      exact hscan.trans (ih _)
    · rename_i c' h
      rw [h] at hscan
      exact hscan.trans
        ⟨fun _ => rfl, fun _ => id, fun _ => id, fun _ => .inl, fun _ => .inl, fun _ => .inl⟩
    · rename_i c' e _ h
      rw [h] at hscan
      exact hscan

/-- A launcher that was looked for is recorded if it verifies. -/
def Collector.Looked (w : World) (c : Collector) (launcher : Bytes) : Prop :=
  ∀ canonical, canonicalLeafPath w launcher = some canonical →
    (w.verifyDiscoveryExecutable canonical).isSome = true → c.truncated = false → canonical ∈ c.recorded

theorem Collector.Looked.extends {launcher : Bytes} (h : c.Looked w launcher) (h' : c.Extends w o c') :
    c'.Looked w launcher := by
  intro canonical hleaf hverify ht
  exact h'.recorded (h canonical hleaf hverify (h'.untruncated ht))

theorem addLauncherSeed_looked (launcher : Bytes) (source : Source) (tier : DiscoveryTier) :
    (addLauncherSeed w launcher source tier c).Looked w launcher := by
  intro canonical hleaf hverify ht
  obtain ⟨⟨resolved, fingerprint⟩, hsome⟩ := Option.isSome_iff_exists.mp hverify
  unfold addLauncherSeed at ht ⊢
  simp only [hleaf, hsome] at ht ⊢
  rw [Collector.mem_recorded]
  generalize packageRootFromBinTarget resolved = root at ht ⊢
  cases root with
  | some root => exact .inl ⟨_, List.mem_append_right _ List.mem_cons_self, rfl⟩
  | none =>
    by_cases hfull : maximumUnmatchedLaunchers ≤ c.unmatchedLaunchers.length
    · simp [hfull] at ht
    · rw [if_neg hfull]
      exact .inr ⟨_, List.mem_append_right _ List.mem_cons_self, rfl⟩

theorem foldl_looked (launchers : List Bytes) :
    c.Extends w o (launchers.foldl (fun c launcher => addLauncherSeed w launcher .path .a c) c) ∧
    ∀ launcher ∈ launchers,
      (launchers.foldl (fun c launcher => addLauncherSeed w launcher .path .a c) c).Looked w launcher := by
  induction launchers generalizing c with
  | nil => exact ⟨.refl c, nofun⟩
  | cons launcher launchers ih =>
    obtain ⟨hext, hlooked⟩ := @ih (addLauncherSeed w launcher .path .a c)
    refine ⟨(addLauncherSeed_extends launcher .path .a).trans hext, fun x hx => ?_⟩
    rcases List.mem_cons.mp hx with rfl | hx
    · exact (addLauncherSeed_looked x .path .a).extends hext
    · exact hlooked x hx

theorem collectTierA_seen :
    Collector.empty.Extends w o (collectTierA w o .empty) ∧
    ∀ launcher ∈ searchedLaunchers o, (collectTierA w o .empty).Looked w launcher := by
  unfold collectTierA
  dsimp only
  generalize hc : (if o.relayConfigPath = [] then Collector.empty else _) = c
  have henrolled : Collector.empty.Extends w o c := by
    rw [← hc]
    split_ifs
    · exact .refl _
    · split
      · exact .refl _
      · exact addLauncherSeed_extends _ .enrollment .a
  obtain ⟨hext, hlooked⟩ := @foldl_looked w o c (searchedLaunchers o)
  split_ifs
  · exact ⟨henrolled.trans hext, hlooked⟩
  all_goals
    exact ⟨(henrolled.trans hext).trans (addPrefixSeed_extends _ .nativePrefix .a),
      fun x hx => (hlooked x hx).extends (@addPrefixSeed_extends w o _ _ .nativePrefix .a)⟩

theorem collectTierB_extends : c.Extends w o (collectTierB w o c) := by
  unfold collectTierB
  refine Collector.Extends.trans ?_ (collectManagerRoots_extends _ _)
  split_ifs
  · exact .refl c
  · exact ((addPrefixSeed_extends (ascii "/opt/homebrew") .trustedPrefix .b).trans
      (addPrefixSeed_extends (ascii "/usr/local") .trustedPrefix .b)).trans
        (addPrefixSeed_extends (ascii "/usr") .trustedPrefix .b)

theorem collect_seen (h : collect w o = .ok c) :
    Collector.empty.Extends w o c ∧ ∀ launcher ∈ searchedLaunchers o, c.Looked w launcher := by
  obtain ⟨hA, hlooked⟩ := @collectTierA_seen w o
  -- tiers B and C only add to what tier A has recorded
  have hlater (hc : (collectTierA w o .empty).Extends w o c) : Collector.empty.Extends w o c ∧
      ∀ launcher ∈ searchedLaunchers o, c.Looked w launcher :=
    ⟨hA.trans hc, fun launcher hl => (hlooked launcher hl).extends hc⟩
  unfold collect at h
  dsimp only at h
  split at h
  · obtain rfl := Except.ok.inj h
    exact ⟨hA, hlooked⟩
  · obtain rfl := Except.ok.inj h
    exact hlater collectTierB_extends
  · split_ifs at h
    have hC : (collectTierB w o (collectTierA w o .empty)).Extends w o
        (collectTierC w o (collectTierB w o (collectTierA w o .empty))).1 := collectBroadRoots_extends _ _
    split at h
    · rename_i c' hcollect
      obtain rfl := Except.ok.inj h
      rw [hcollect] at hC
      exact hlater (collectTierB_extends.trans hC)
    · rename_i c' hcollect
      obtain rfl := Except.ok.inj h
      rw [hcollect] at hC
      exact hlater (collectTierB_extends.trans hC)
    · cases h

end Seen

/-! ## Authority -/

section Authority

variable {ι : Type} (v : Review ι) (w : World) (o : DiscoveryOptions)

/-- A candidate is marked for automatic removal. -/
def Marks : Prop :=
  ∃ r ∈ (discoverNPMInstallations v w o).toOption, ∃ x ∈ r.candidates, x.2 = .automatic

/-- The options as they are normalised, and what is collected under them. -/
def collected : Option (DiscoveryOptions × Collector) :=
  (normalizeDiscoveryOptions w o).toOption.bind fun o => (collect w o).toOption.map (o, ·)

/-- **The search was complete**: every root was listed in full, and every launcher that exists in a
    directory of PATH stands in a seed or in the evidence. -/
def Complete : Prop :=
  ∃ s ∈ collected w o, (∀ x ∈ s.2.courses, Whole w x) ∧
    ∀ launcher ∈ searchedLaunchers s.1, w.lstat launcher ≠ none →
      ∃ canonical ∈ canonicalLeafPath w launcher, canonical ∈ s.2.recorded

/-- Nothing is hidden from the search: no root is refused, every directory and every entry on a root's
    device can be read and lies within the depth bound, and every launcher that exists in a directory
    of PATH verifies. -/
def NothingHidden : Prop :=
  ∃ s ∈ collected w o, (∀ x ∈ s.2.courses, Open w s.1 x) ∧
    ∀ launcher ∈ searchedLaunchers s.1, w.lstat launcher ≠ none →
      ∃ canonical ∈ canonicalLeafPath w launcher, (w.verifyDiscoveryExecutable canonical).isSome = true

/-- Only an untruncated search marks anything. -/
theorem Marks.untruncated {v : Review ι} {w : World} {o o' : DiscoveryOptions} {c : Collector}
    (h : Marks v w o) (ho : normalizeDiscoveryOptions w o = .ok o') (hc : collect w o' = .ok c) :
    c.truncated = false := by
  obtain ⟨r, hr, x, hx, hauto⟩ := h
  simp only [discoverNPMInstallations, ho, hc, Except.toOption, Option.mem_some_iff] at hr
  subst hr
  by_contra hne
  have ht : c.truncated = true := by simpa using hne
  simp only [conclude, applyDiscoveryRemovalAuthority, List.mem_map] at hx
  obtain ⟨y, -, rfl⟩ := hx
  simp [DiscoveryResult.incomplete, ht] at hauto

end Authority

/-! ### A directory that cannot be read -/

/-- A machine with a launcher of an installation in PATH, and a directory `v` below `.nvm` that cannot
    be read. -/
def closedMachine : World where
  lstat path :=
    if path = ascii "/h/.nvm" then some (some ⟨false, true, some 1⟩)
    else if path = ascii "/b/ocx" then some (some ⟨false, false, some 1⟩)
    else none
  evalSymlinks := some
  readable _ := true
  entries _ := .dir (ascii "v") 1 true false .nil .nil
  verifyDiscoveryExecutable _ :=
    some (ascii "/b/lib/node_modules/@bitkyc08/opencodex/bin/ocx", [])
  isLocalVolume _ := true
  userHomeDir := none
  goos := ascii "darwin"
  goarch := ascii "arm64"
  readRecord _ := none

def closedOptions : DiscoveryOptions :=
  ⟨.b, [], ascii "/h", ascii "/b", [], [], false, [], true, 0, 0, fun _ => [], []⟩

/-- Everything is found valid. -/
def lenient : Review Unit :=
  ⟨fun _ => some (.ok ()), fun _ _ => false, fun _ => (), fun _ => true, fun _ => [], id, fun _ _ => true⟩

end Handoff



