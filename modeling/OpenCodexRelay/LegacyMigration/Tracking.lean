/-
  What the journal of a migration says about the disk, wherever the migration is interrupted.

  The disk before `apply` is `start`.  It determines what an entry of the journal looks like, so the
  journal is known once it is known WHICH files and services it lists.

  1. `Planned`, `Staged`: a file that `apply` migrates, and the contents it may have on the way.
  2. `Tracks`: the journal lists these, they are on the way, and everything else is as it was.
  3. The steps: a further entry, and a new content for something that is listed.
  4. `Says`, `Alike`: programs that only read.  The first names what they read, the second compares two disks.
  5. `apply_safe`: every durable step of `apply` leaves a disk that its journal tracks.
-/
import OpenCodexRelay.LegacyMigration.Migration

namespace LegacyMigration

open Durable

section Tracking

variable {δ : Type} (digest : Bytes → δ) (validDigest : δ → Bool) (start : Disk δ)

/-- The content of a file before the migration, and after it. -/
def before (item : Mapping) : Bytes :=
  match start.files item.source with
  | some (.file content _) => content
  | _ => []

def after (item : Mapping) : Bytes := (transformMapping item (before start item)).toOption.getD []

def entryOf (item : Mapping) : JournalArtifact δ :=
  ⟨item.name, item.destination, !item.inPlace,
    if item.inPlace then some (.backup item.name) else none, digest (after start item)⟩

/-- A file that `apply` migrates. -/
structure Planned (item : Mapping) : Prop where
  source : ∃ mode, start.files item.source = some (.file (before start item) mode)
  converts : transformMapping item (before start item) = .ok (after start item)
  changes : item.inPlace = true → before start item ≠ after start item
  absent : item.inPlace = false → start.files item.destination = none

/-- What it may be between the two. -/
structure Staged (files : Path → Option Entry) (item : Mapping) : Prop extends Planned start item where
  backup : item.inPlace = true → files (.backup item.name) = some (.file (before start item) 0o600)
  content : files item.destination = some (.file (after start item) 0o600) ∨
    (item.inPlace = false ∧ files item.destination = none) ∨
    (item.inPlace = true ∧ ∃ mode, files item.destination = some (.file (before start item) mode))

def secret (service : Service) : Bytes := (start.keychain (.legacy service)).getD []

def keyOf (service : Service) : JournalKeychain δ :=
  ⟨service, .current service, true, digest (secret start service)⟩

/-- The same for a service. -/
structure StagedKey (keychain : KeychainItem → Option Bytes) (service : Service) : Prop where
  nonempty : secret start service ≠ []
  absent : start.keychain (.current service) = none
  value : keychain (.current service) = none ∨ keychain (.current service) = some (secret start service)

/-- What the journal says, against what there is. -/
structure Listing (items : List Mapping) (keys : List Service) (artifacts : List (JournalArtifact δ))
    (entries : List (JournalKeychain δ)) (now : Path → Option Entry)
    (values : KeychainItem → Option Bytes) (mark : Bool) : Prop where
  artifacts : artifacts = items.map (entryOf digest start)
  staged : ∀ item ∈ items, Staged start now item
  keychain : entries = keys.map (keyOf digest start)
  stagedKeys : ∀ service ∈ keys, StagedKey start values service
  files : ∀ path, (∀ name, path ≠ .backup name) → (∀ item ∈ items, item.destination ≠ path) →
    now path = start.files path
  secrets : ∀ item, (∀ service ∈ keys, item ≠ .current service) → values item = start.keychain item
  maintenance : mark = start.maintenance

/-- **The journal tracks the disk**: the files and services it lists are on the way, and everything else
    is as it was.  Which journal the disk has, and its phase, do not matter. -/
abbrev Tracks (items : List Mapping) (keys : List Service) (record : Journal δ) (d : Disk δ) : Prop :=
  Listing digest start items keys record.artifacts record.keychain d.files d.keychain d.maintenance

/-- The journal lists some of these files and services, in their order. -/
def Tracked (done : List Mapping) (doneKeys : List Service) (record : Journal δ) (d : Disk δ) : Prop :=
  ∃ items keys, items.Sublist done ∧ keys.Sublist doneKeys ∧ Tracks digest start items keys record d

/-- **The invariant**: nothing has been done, or the journal says what. -/
def Inv (d : Disk δ) : Prop :=
  d = start ∨ ∃ record, d.journal = some record ∧ Tracked digest start mappings services record d

/-- Every durable step ends in the invariant. -/
def Kept : Event (Disk δ) Access (fun _ => Bool) → Prop
  | .wrote _ d => Inv digest start d
  | _ => True

variable {digest validDigest start} {items : List Mapping} {keys : List Service} {record : Journal δ}
  {d d' : Disk δ} {item : Mapping} {service : Service} {done : List Mapping} {doneKeys : List Service}

/-! ## The names of the files -/

theorem destination_injective : ∀ a ∈ mappings, ∀ b ∈ mappings, a.destination = b.destination → a = b := by
  decide

theorem name_injective : ∀ a ∈ mappings, ∀ b ∈ mappings, a.name = b.name → a = b := by decide

theorem mappings_nodup : mappings.Nodup := by decide

theorem services_nodup : services.Nodup := by decide

/-- A file is moved, or it is the Codex config. -/
theorem mapping_cases : ∀ item ∈ mappings,
    (item.inPlace = false ∧ item.source = .legacy item.name ∧ item.destination = .current item.name) ∨
      (item.inPlace = true ∧ item.source = .codexConfig ∧ item.destination = .codexConfig) := by
  decide

theorem destination_ne_backup (h : item ∈ mappings) (name : Name) : item.destination ≠ .backup name := by
  rcases mapping_cases item h with ⟨-, -, heq⟩ | ⟨-, -, heq⟩ <;> rw [heq] <;> exact nofun

theorem source_ne_backup (h : item ∈ mappings) (name : Name) : item.source ≠ .backup name := by
  rcases mapping_cases item h with ⟨-, heq, -⟩ | ⟨-, heq, -⟩ <;> rw [heq] <;> exact nofun

theorem destination_ne_source :
    ∀ a ∈ mappings, ∀ b ∈ mappings, b ≠ a → b.destination ≠ a.source := by
  decide

theorem inPlace_source : ∀ item ∈ mappings, item.inPlace = true → item.source = item.destination := by
  decide

/-- Where a list without repetitions is cut. -/
theorem cut_facts {α : Type} {all done rest : List α} {a : α} (hnodup : all.Nodup)
    (h : all = done ++ a :: rest) : (done ++ [a]).Sublist all ∧ a ∉ done := by
  subst h
  exact ⟨(List.Sublist.refl done).append (List.singleton_sublist.mpr List.mem_cons_self),
    fun hmem => (List.nodup_append.mp hnodup).2.2 a hmem a List.mem_cons_self rfl⟩

/-! ## What keeps the tracking -/

theorem Tracked.mono {done' : List Mapping} {doneKeys' : List Service}
    (h : Tracked digest start done doneKeys record d) (hd : done.Sublist done')
    (hk : doneKeys.Sublist doneKeys') : Tracked digest start done' doneKeys' record d := by
  obtain ⟨items, keys, hitems, hkeys, ht⟩ := h
  exact ⟨items, keys, hitems.trans hd, hkeys.trans hk, ht⟩

/-- **A further entry.** -/
theorem Tracks.addArtifact (h : Tracks digest start items keys record d)
    (hstaged : Staged start d.files item) :
    Tracks digest start (items ++ [item]) keys (record.withArtifact (entryOf digest start item)) d :=
  { h with
    artifacts := by rw [List.map_append, ← h.artifacts]; rfl
    staged := List.forall_mem_append.mpr ⟨h.staged, List.forall_mem_singleton.mpr hstaged⟩
    files := fun path hpath hitems =>
      h.files path hpath fun a ha => hitems a (List.mem_append_left _ ha) }

theorem Tracks.addKey (h : Tracks digest start items keys record d)
    (hstaged : StagedKey start d.keychain service) :
    Tracks digest start items (keys ++ [service]) (record.withKeychain (keyOf digest start service)) d :=
  { h with
    keychain := by rw [List.map_append, ← h.keychain]; rfl
    stagedKeys := List.forall_mem_append.mpr ⟨h.stagedKeys, List.forall_mem_singleton.mpr hstaged⟩
    secrets := fun item hkeys => h.secrets item fun a ha => hkeys a (List.mem_append_left _ ha) }

variable {path : Path} {entry : Option Entry}

/-- A backup, or the destination of a listed file, may become anything that suits the listed files. -/
theorem Tracks.withFile (h : Tracks digest start items keys record d)
    (hstaged : ∀ a ∈ items, Staged start (d.withFile path entry).files a)
    (hpath : (∃ name, path = .backup name) ∨ ∃ a ∈ items, a.destination = path) :
    Tracks digest start items keys record (d.withFile path entry) :=
  { h with
    staged := hstaged
    files := by
      intro p hbackup hlisted
      have hne : p ≠ path := by
        rintro rfl
        rcases hpath with ⟨name, hname⟩ | ⟨a, ha, hdestination⟩
        · exact hbackup name hname
        · exact hlisted a ha hdestination
      rw [Disk.withFile_of_ne _ _ hne]
      exact h.files p hbackup hlisted }

theorem Staged.withFile (h : Staged start d.files item) (hdestination : item.destination ≠ path)
    (hbackup : path ≠ .backup item.name) : Staged start (d.withFile path entry).files item :=
  { h with
    backup := by rw [Disk.withFile_of_ne _ _ hbackup.symm]; exact h.backup
    content := by rw [Disk.withFile_of_ne _ _ hdestination]; exact h.content }

/-- **A new content for a listed file.** -/
theorem Tracks.place (h : Tracks digest start items keys record d)
    (hsub : ∀ a ∈ items, a ∈ mappings) (hitem : item ∈ items)
    (hcontent : entry = some (.file (after start item) 0o600) ∨ (item.inPlace = false ∧ entry = none) ∨ (item.inPlace = true ∧ ∃ mode, entry = some (.file (before start item) mode))) :
    Tracks digest start items keys record (d.withFile item.destination entry) := by
  have hdestination := destination_ne_backup (hsub item hitem)
  refine h.withFile (fun a ha => ?_) (.inr ⟨item, hitem, rfl⟩)
  by_cases heq : a = item
  · subst heq
    refine { h.staged a ha with backup := ?_, content := ?_ }
    · rw [Disk.withFile_of_ne _ _ (hdestination a.name).symm]
      exact (h.staged a ha).backup
    · rwa [Disk.withFile_self]
  · refine (h.staged a ha).withFile (fun hd => heq ?_) (hdestination _)
    exact destination_injective a (hsub a ha) item (hsub item hitem) hd

/-- The backup of a file that is not listed yet. -/
theorem Tracks.saveBackup (h : Tracks digest start items keys record d)
    (hsub : ∀ a ∈ items, a ∈ mappings) (hitem : item ∈ mappings) (hnew : ∀ a ∈ items, a ≠ item) :
    Tracks digest start items keys record (d.withFile (.backup item.name) entry) := by
  refine h.withFile (fun a ha => ?_) (.inl ⟨_, rfl⟩)
  refine (h.staged a ha).withFile (destination_ne_backup (hsub a ha) _) fun hname => hnew a ha ?_
  exact (name_injective item hitem a (hsub a ha) (Path.backup.inj hname)).symm

variable {value : Option Bytes}

/-- **A new value for a listed service.** -/
theorem Tracks.placeKey (h : Tracks digest start items keys record d) (hservice : service ∈ keys)
    (hvalue : value = none ∨ value = some (secret start service)) :
    Tracks digest start items keys record (d.withItem (.current service) value) :=
  { h with
    stagedKeys := by
      intro a ha
      refine { h.stagedKeys a ha with value := ?_ }
      by_cases heq : a = service
      · subst heq
        rwa [Disk.withItem_self]
      · rw [Disk.withItem_of_ne _ _ fun h => heq (KeychainItem.current.inj h)]
        exact (h.stagedKeys a ha).value
    secrets := by
      intro item hitem
      rw [Disk.withItem_of_ne _ _ (hitem service hservice)]
      exact h.secrets item hitem }

/-! ## Programs that only read -/

variable {α β : Type} {E : Env (Disk δ) Access (fun _ => Bool)}

/-- Some call may fail. -/
def Fails (E : Env (Disk δ) Access (fun _ => Bool)) : Prop := ∃ a d, E a d false

theorem safe_access {a : Access} {k : Op δ α} {post : Except Error α → Disk δ → Prop}
    (hk : Safe E (Kept digest start) k post d) (hio : Fails E → post (.error .io) d) :
    Safe E (Kept digest start) (access a k) post d := by
  refine ⟨trivial, fun ok hok => ?_⟩
  cases ok with
  | true => exact hk
  | false => exact hio ⟨a, d, hok⟩

/-- **The program says this of the disk**, which it leaves as it is, unless a call fails. -/
abbrev Says (E : Env (Disk δ) Access (fun _ => Bool)) (digest : Bytes → δ) (start d : Disk δ) (p : Op δ α)
    (r : Except Error α) : Prop :=
  Safe E (Kept digest start) p (outcome (fun a d' => d' = d ∧ r = .ok a)
    fun e d' => d' = d ∧ ((Fails E ∧ e = .io) ∨ r = .error e)) d

theorem says_read {a : Access} (f : Disk δ → Except Error α) :
    Says E digest start d (access a (.read fun d => .ret (f d))) (f d) := by
  refine safe_access ?_ fun hf => ⟨rfl, .inl ⟨hf, rfl⟩⟩
  show outcome _ _ (f d) d
  cases f d with
  | error e => exact ⟨rfl, .inr rfl⟩
  | ok a => exact ⟨rfl, rfl⟩

/-- What `regular` and `readFile` can tell of an entry: not its mode. -/
def shape : Option Entry → Option (Option Bytes)
  | none => none
  | some .irregular => some none
  | some (.file content _) => some (some content)

def regularOf : Option (Option Bytes) → Except Error Bool
  | none => .ok false
  | some none => .error .notRegular
  | some (some _) => .ok true

def contentOf : Option (Option Bytes) → Except Error Bytes
  | none => .error .notExist
  | some none => .error .io
  | some (some content) => .ok content

def secretOf : Option Bytes → Except Error (Option Bytes)
  | some [] => .error .keychainEmpty
  | value => .ok value

theorem regular_eq (path : Path) : (regular path : Op δ Bool) =
    access (.lstat path) (.read fun d => .ret (regularOf (shape (d.files path)))) := by
  refine congrArg (fun k => access _ (.read k)) (funext fun d => ?_)
  rcases d.files path with _ | _ | _ <;> rfl

theorem readFile_eq (path : Path) : (readFile path : Op δ Bytes) =
    access (.readFile path) (.read fun d => .ret (contentOf (shape (d.files path)))) := by
  refine congrArg (fun k => access _ (.read k)) (funext fun d => ?_)
  rcases d.files path with _ | _ | _ <;> rfl

theorem readKeychain_eq (item : KeychainItem) : (readKeychain item : Op δ (Option Bytes)) =
    access .security (.read fun d => .ret (secretOf (d.keychain item))) := by
  refine congrArg (fun k => access _ (.read k)) (funext fun d => ?_)
  rcases d.keychain item with _ | _ | _ <;> rfl

theorem says_regular (path : Path) :
    Says E digest start d (regular path) (regularOf (shape (d.files path))) := by
  rw [regular_eq]
  exact says_read _

theorem says_readFile (path : Path) :
    Says E digest start d (readFile path) (contentOf (shape (d.files path))) := by
  rw [readFile_eq]
  exact says_read _

theorem says_readKeychain (item : KeychainItem) :
    Says E digest start d (readKeychain item) (secretOf (d.keychain item)) := by
  rw [readKeychain_eq]
  exact says_read _

theorem regularOf_false (h : regularOf (shape entry) = .ok false) : entry = none := by
  rcases entry with _ | _ | _
  · rfl
  · cases h
  · cases h

variable {content : Bytes}

theorem contentOf_ok (h : contentOf (shape entry) = .ok content) :
    ∃ mode, entry = some (.file content mode) := by
  rcases entry with _ | ⟨_, mode⟩ | _
  · cases h
  · cases h
    exact ⟨mode, rfl⟩
  · cases h

theorem secretOf_ok_iff {value' : Option Bytes} :
    secretOf value = .ok value' ↔ value = value' ∧ value ≠ some [] := by
  rcases value with _ | _ | _ <;> simp [secretOf]

/-- Every call succeeds. -/
def allOk : (q : Access) → Disk δ → Bool := fun _ _ => true

/-- **The program writes nothing, and does the same on both disks.** -/
def Alike (d d' : Disk δ) : Prog (Disk δ) Access (fun _ => Bool) α → Prop
  | .ret _ => True
  | .read k => k d = k d' ∧ Alike d d' (k d)
  | .write _ _ => False
  | .call _ k => ∀ ok, Alike d d' (k ok)

/-- If no call fails, it says on the one disk what it says on the other. -/
theorem Alike.safe {p : Op δ α} (h : Alike d d' p) : Safe E (Kept digest start) p
    (fun r s => s = d ∧ (Fails E ∨ r = (run allOk p d').1)) d := by
  induction p with
  | ret r => exact ⟨rfl, .inr rfl⟩
  | read k ih =>
    show Safe E _ (k d) (fun r s => s = d ∧ (Fails E ∨ r = (run allOk (k d') d').1)) d
    rw [← h.1]
    exact ih d h.2
  | write f k ih => exact h.elim
  | call q k ih =>
    refine ⟨trivial, fun ok hok => ?_⟩
    cases ok with
    | true => exact ih true (h true)
    | false => exact (ih false (h false)).post_mono fun _ _ hr => ⟨hr.1, .inl ⟨q, d, hok⟩⟩

theorem alike_read {a : Access} {f : Disk δ → Except Error α} (h : f d = f d') :
    Alike d d' (access a (.read fun d => .ret (f d))) := by
  intro ok
  cases ok with
  | true => exact ⟨congrArg Prog.ret h, trivial⟩
  | false => exact trivial

theorem alike_attempt {p : Op δ α} {k : α → Op δ β} (hp : Alike d d' p) (hk : ∀ a, Alike d d' (k a)) :
    Alike d d' (attempt p k) := by
  induction p with
  | ret r =>
    cases r with
    | error e => exact trivial
    | ok a => exact hk a
  | read p ih => exact ⟨congrArg (fun p => attempt p k) hp.1, ih d hp.2⟩
  | write f p ih => exact hp.elim
  | call q p ih => exact fun ok => ih ok (hp ok)

theorem alike_regular (h : shape (d.files path) = shape (d'.files path)) :
    Alike d d' (regular path) := by
  rw [regular_eq]
  exact alike_read (congrArg regularOf h)

theorem alike_readFile (h : shape (d.files path) = shape (d'.files path)) :
    Alike d d' (readFile path) := by
  rw [readFile_eq]
  exact alike_read (congrArg contentOf h)

theorem alike_readKeychain (h : d.keychain = d'.keychain) (item : KeychainItem) :
    Alike d d' (readKeychain item) := by
  rw [readKeychain_eq]
  exact alike_read (congrArg (fun values => secretOf (values item)) h)

theorem alike_converted {k : Bytes → Op δ α} (h : ∀ b, Alike d d' (k b)) :
    Alike d d' (converted item content k) := by
  unfold converted
  split
  · exact trivial
  · exact h _

theorem alike_inspectArtifact (hsource : shape (d.files item.source) = shape (d'.files item.source))
    (hdestination : shape (d.files item.destination) = shape (d'.files item.destination)) :
    Alike d d' (inspectArtifact item) := by
  refine alike_attempt (alike_regular hsource) fun source =>
    alike_attempt (alike_regular hdestination) fun destination => ?_
  simp only
  split_ifs
  · exact alike_attempt (alike_readFile hsource) fun _ => alike_converted fun _ => trivial
  · exact alike_attempt (alike_readFile hsource) fun _ =>
      alike_attempt (alike_readFile hdestination) fun _ => alike_converted fun _ => trivial
  · exact trivial
  · exact trivial

/-- **`inspect` sees the contents of the files and of the Keychain**, and nothing else. -/
theorem alike_inspect
    (hfiles : ∀ item ∈ mappings, shape (d.files item.source) = shape (d'.files item.source) ∧
      shape (d.files item.destination) = shape (d'.files item.destination))
    (hkeychain : d.keychain = d'.keychain) : Alike d d' inspect := by
  have hartifacts : ∀ items : List Mapping, (∀ item ∈ items, item ∈ mappings) → ∀ r,
      Alike d d' (inspectArtifacts items r) := by
    intro items hitems
    induction items with
    | nil => exact fun r => trivial
    | cons item rest ih =>
      obtain ⟨hitem, hrest⟩ := List.forall_mem_cons.mp hitems
      obtain ⟨hsource, hdestination⟩ := hfiles item hitem
      exact fun r => alike_attempt (alike_inspectArtifact hsource hdestination) fun _ => ih hrest _
  have hservices : ∀ (keys : List Service) (r : Result), Alike d d' (inspectKeychain keys r) := by
    intro keys
    induction keys with
    | nil => exact fun r => trivial
    | cons service rest ih =>
      refine fun r => alike_attempt (alike_attempt (alike_attempt (alike_readKeychain hkeychain _)
        fun _ => alike_attempt (alike_readKeychain hkeychain _) fun _ => trivial)
        fun _ => trivial) fun _ => ih _
  refine alike_attempt (hartifacts mappings (fun _ h => h) _) fun r ok => ?_
  cases ok with
  | true => exact hservices services r
  | false => exact trivial

theorem safe_inspect (d : Disk δ) :
    Safe E (Kept digest start) inspect (outcome (fun _ d' => d' = d) fun _ d' => d' = d) d :=
  (alike_inspect (fun _ _ => ⟨rfl, rfl⟩) rfl).safe.except_mono (fun _ _ h => h.1) fun _ _ h => h.1

/-! ## Programs that write -/

/-- The journal in memory tracks the disk: it may be written. -/
theorem safe_writeJournal (h : Tracked digest start mappings services record d) :
    Safe E (Kept digest start) (writeJournal record)
      (outcome (fun _ d' => d' = d.withJournal record) fun _ d' => d' = d ∧ Fails E) d :=
  safe_access ⟨.inr ⟨record, rfl, h⟩, rfl⟩ fun hf => ⟨rfl, hf⟩

theorem safe_atomicWrite {mode : ℕ}
    (h : Inv digest start (d.withFile path (some (.file content mode)))) :
    Safe E (Kept digest start) (atomicWrite path content mode)
      (outcome (fun _ d' => d' = d.withFile path (some (.file content mode)))
        fun _ d' => d' = d ∧ Fails E) d :=
  safe_access ⟨h, rfl⟩ fun hf => ⟨rfl, hf⟩

/-- What the parts of `apply` leave behind: the journal in memory tracks the disk, and if they succeed
    it is the one on the disk. -/
def Leaves (digest : Bytes → δ) (start : Disk δ) (done : List Mapping) (doneKeys : List Service) :
    Except (Error × Journal δ) (Journal δ) → Disk δ → Prop :=
  outcome (fun record d => d.journal = some record ∧ Tracked digest start done doneKeys record d)
    fun failure d => Tracked digest start mappings services failure.2 d

/-- **The entry and then the content**: a file that is not listed yet. -/
theorem migrate_safe (hdone : (done ++ [item]).Sublist mappings)
    (h : Tracked digest start done [] record d) (hstaged : Staged start d.files item) :
    Safe anyAnswer (Kept digest start)
      (migrate item (entryOf digest start item) (after start item) record)
      (Leaves digest start (done ++ [item]) []) d := by
  obtain ⟨items, keys, hitems, hkeys, ht⟩ := h
  have hsub : (items ++ [item]).Sublist (done ++ [item]) := hitems.append (.refl _)
  have hlisted : ∀ {d' : Disk δ}, Tracks digest start (items ++ [item]) keys
      (record.withArtifact (entryOf digest start item)) d' → Tracked digest start mappings services
      (record.withArtifact (entryOf digest start item)) d' :=
    fun ht => ⟨_, _, hsub.trans hdone, hkeys.trans (List.nil_sublist _), ht⟩
  have hadded := ht.addArtifact hstaged
  refine safe_guarded_of (safe_writeJournal (hlisted hadded)) (fun _ _ hd => hd.1 ▸ hlisted hadded) ?_
  rintro - d' rfl
  -- The entry is on the disk; now the content.
  have hplaced := hadded.place (fun a ha => (hsub.trans hdone).subset ha)
    (List.mem_append_right _ List.mem_cons_self) (.inl rfl)
  refine safe_guarded_of (safe_atomicWrite (.inr ⟨_, rfl, hlisted hplaced⟩))
    (fun _ _ hd => hd.1 ▸ hlisted hadded) ?_
  rintro - d' rfl
  exact ⟨rfl, _, _, hsub, hkeys, hplaced⟩

theorem applyArtifact_safe {rest : List Mapping} (hsplit : mappings = done ++ item :: rest)
    (hjournal : d.journal = some record) (h : Tracked digest start done [] record d) :
    Safe anyAnswer (Kept digest start) (applyArtifact digest item record)
      (Leaves digest start (done ++ [item]) []) d := by
  obtain ⟨hdone, hnew⟩ := cut_facts mappings_nodup hsplit
  have hinit := List.sublist_append_left done [item]
  have hitem : item ∈ mappings := hdone.subset (List.mem_append_right _ List.mem_cons_self)
  have hfail : Tracked digest start mappings services record d :=
    h.mono (hinit.trans hdone) (List.nil_sublist _)
  have hskip : Leaves digest start (done ++ [item]) [] (.ok record) d :=
    ⟨hjournal, h.mono hinit (.refl _)⟩
  obtain ⟨items, keys, hitems, hkeys, ht⟩ := h
  have hsub : ∀ a ∈ items, a ∈ mappings := fun a ha => (hinit.trans hdone).subset (hitems.subset ha)
  have hother : ∀ a ∈ items, a ≠ item := fun a ha heq => hnew (heq ▸ hitems.subset ha)
  -- What is not listed is as it was: the source and the destination of this file are.
  have hsource : d.files item.source = start.files item.source :=
    ht.files _ (source_ne_backup hitem) fun a ha =>
      destination_ne_source item hitem a (hsub a ha) (hother a ha)
  have hdestination : d.files item.destination = start.files item.destination :=
    ht.files _ (destination_ne_backup hitem) fun a ha heq =>
      hother a ha (destination_injective a (hsub a ha) item hitem heq)
  refine safe_guarded_of (says_regular item.source) (fun _ _ hd => hd.1 ▸ hfail) ?_
  rintro found d' ⟨rfl, -⟩
  refine safe_if (fun _ => hskip) fun _ => ?_
  refine safe_guarded_of (says_readFile item.source) (fun _ _ hd => hd.1 ▸ hfail) ?_
  rintro content d' ⟨rfl, hcontent⟩
  obtain ⟨mode, hfile⟩ := contentOf_ok hcontent
  have hbefore : before start item = content := by
    rw [before, ← hsource, hfile]
  cases hconvert : transformMapping item content with
  | error e =>
    unfold converted within
    rw [hconvert]
    exact hfail
  | ok bytes =>
    have hafter : after start item = bytes := by
      rw [after, hbefore, hconvert]
      rfl
    unfold converted within
    rw [hconvert]
    change Safe anyAnswer (Kept digest start)
      (if content = bytes ∧ item.inPlace then _ else _) _ d'
    refine safe_if (fun _ => hskip) fun hchanges => ?_
    subst hbefore hafter
    refine safe_if (fun hcopied => ?_) fun hinPlace => ?_
    · -- A file that is copied.
      refine safe_guarded_of (says_regular item.destination) (fun _ _ hd => hd.1 ▸ hfail) ?_
      rintro found d'' ⟨rfl, hfound⟩
      refine safe_if (fun _ => ?_) fun hmissing => ?_
      · refine safe_guarded_of (says_readFile item.destination) (fun _ _ hd => hd.1 ▸ hfail) ?_
        rintro destinationContent d3 ⟨rfl, -⟩
        exact safe_if (fun _ => hskip) fun _ => hfail
      · rw [Bool.not_eq_true] at hmissing
        have hnone := regularOf_false (hmissing ▸ hfound)
        have hnot : item.inPlace ≠ true := by
          rw [hcopied]
          exact Bool.false_ne_true
        have hstaged : Staged start d''.files item :=
          ⟨⟨⟨mode, hsource ▸ hfile⟩, hconvert, fun hin => absurd hin hnot, fun _ => hdestination ▸ hnone⟩,
            fun hin => absurd hin hnot, .inr (.inl ⟨hcopied, hnone⟩)⟩
        have hentry : entryOf digest start item =
            ⟨item.name, item.destination, true, none, digest (after start item)⟩ := by
          simp [entryOf, hcopied]
        rw [← hentry]
        exact migrate_safe hdone ⟨items, keys, hitems, hkeys, ht⟩ hstaged
    · -- The file that is rewritten in place: first its backup.
      have hin : item.inPlace = true := Bool.of_not_eq_false hinPlace
      have hbackup : Tracks digest start items keys record
          (d'.withFile (.backup item.name) (some (.file (before start item) 0o600))) :=
        ht.saveBackup hsub hitem hother
      refine safe_guarded_of (safe_atomicWrite (.inr ⟨record, hjournal, items, keys,
        hitems.trans (hinit.trans hdone), hkeys.trans (List.nil_sublist _), hbackup⟩))
        (fun _ _ hd => hd.1 ▸ hfail) ?_
      rintro - d'' rfl
      have hstaged : Staged start
          (d'.withFile (.backup item.name) (some (.file (before start item) 0o600))).files item := by
        refine ⟨⟨⟨mode, hsource ▸ hfile⟩, hconvert, fun _ heq => hchanges ⟨heq, hin⟩,
          fun hcopied => absurd hcopied hinPlace⟩, fun _ => Disk.withFile_self _ _ _,
          .inr (.inr ⟨hin, mode, ?_⟩)⟩
        rw [Disk.withFile_of_ne _ _ (destination_ne_backup hitem _), ← inPlace_source item hitem hin]
        exact hfile
      have hentry : entryOf digest start item =
          ⟨item.name, item.destination, false, some (.backup item.name), digest (after start item)⟩ := by
        simp [entryOf, hin]
      rw [← hentry]
      exact migrate_safe hdone ⟨items, keys, hitems, hkeys, hbackup⟩ hstaged

theorem applyArtifacts_safe {rest : List Mapping} (hsplit : mappings = done ++ rest)
    (hjournal : d.journal = some record) (h : Tracked digest start done [] record d) :
    Safe anyAnswer (Kept digest start) (applyArtifacts digest rest record)
      (Leaves digest start mappings []) d := by
  induction rest generalizing done record d with
  | nil =>
    rw [List.append_nil] at hsplit
    rw [hsplit]
    exact ⟨hjournal, h⟩
  | cons item rest ih =>
    refine safe_attempt_ok (applyArtifact_safe hsplit hjournal h) ?_
    rintro record' d' ⟨hjournal', h'⟩
    exact ih (by rw [hsplit, List.append_assoc]; rfl) hjournal' h'

/-! ### The Keychain -/

/-- `security` has done what it was asked to whenever it says so, and perhaps also when it does not. -/
theorem safe_security {item : KeychainItem} {b : Bool}
    (h : Inv digest start (d.withItem item value)) :
    Safe E (Kept digest start) (security item value (.ret (.ok b)))
      (outcome (fun b' d' => b' = b ∧ d' = d.withItem item value)
        fun _ d' => (d' = d ∨ d' = d.withItem item value) ∧ Fails E) d :=
  safe_access ⟨h, safe_access ⟨rfl, rfl⟩ fun hf => ⟨.inr rfl, hf⟩⟩ fun hf => ⟨.inl rfl, hf⟩

theorem says_fingerprint (item : KeychainItem) : Says E digest start d (fingerprint digest item)
    ((secretOf (d.keychain item)).map (Option.map digest)) := by
  refine safe_attempt_of (says_readKeychain _) ?_ ?_
  · rintro e d' ⟨hd, hf | he⟩
    · exact ⟨hd, .inl hf⟩
    · exact ⟨hd, .inr (by rw [he]; rfl)⟩
  · rintro value d' ⟨rfl, hvalue⟩
    exact ⟨rfl, by rw [hvalue]; rfl⟩

variable [DecidableEq δ]

theorem safe_keychainCopy {value : Bytes} {expected : δ}
    (hold : d.keychain (.legacy service) = some value) (hnew : d.keychain (.current service) = none)
    (h : Inv digest start (d.withItem (.current service) (some value))) :
    Safe anyAnswer (Kept digest start) (keychainCopy digest validDigest service expected)
      (outcome (fun created d' => created = true ∧ d' = d.withItem (.current service) (some value))
        fun _ d' => d' = d ∨ d' = d.withItem (.current service) (some value)) d := by
  refine safe_attempt_of (says_readKeychain _) (fun _ _ hd => .inl hd.1) ?_
  rintro old d' ⟨rfl, hread⟩
  obtain ⟨rfl, -⟩ := secretOf_ok_iff.mp hread
  rw [hold]
  refine safe_if (fun _ => .inl rfl) fun _ => ?_
  refine safe_attempt_of (says_readKeychain _) (fun _ _ hd => .inl hd.1) ?_
  rintro new d'' ⟨rfl, hread'⟩
  obtain ⟨rfl, -⟩ := secretOf_ok_iff.mp hread'
  rw [hnew]
  exact (safe_security h).except_mono (fun _ _ hd => hd.1) fun _ _ hd => hd

theorem applyKeychainItem_safe {rest : List Service} (hsplit : services = doneKeys ++ service :: rest)
    (hjournal : d.journal = some record) (h : Tracked digest start mappings doneKeys record d) :
    Safe anyAnswer (Kept digest start) (applyKeychainItem digest validDigest service record)
      (Leaves digest start mappings (doneKeys ++ [service])) d := by
  obtain ⟨hdone, hnew⟩ := cut_facts services_nodup hsplit
  have hinit := List.sublist_append_left doneKeys [service]
  have hfail : Tracked digest start mappings services record d := h.mono (.refl _) (hinit.trans hdone)
  have hskip : Leaves digest start mappings (doneKeys ++ [service]) (.ok record) d :=
    ⟨hjournal, h.mono (.refl _) hinit⟩
  obtain ⟨items, keys, hitems, hkeys, ht⟩ := h
  have hlegacy : d.keychain (.legacy service) = start.keychain (.legacy service) :=
    ht.secrets _ fun _ _ heq => by cases heq
  have hcurrent : d.keychain (.current service) = start.keychain (.current service) :=
    ht.secrets _ fun a ha heq => hnew (hkeys.subset (KeychainItem.current.inj heq ▸ ha))
  have hinspect : Safe anyAnswer (Kept digest start) (keychainInspect service)
      (outcome (fun r d' => d' = d ∧ d.keychain (.legacy service) ≠ some [] ∧
        r.1 = (d.keychain (.legacy service)).isSome ∧
        r.2.1 = (d.keychain (.current service)).isSome) fun _ d' => d' = d) d := by
    refine safe_attempt_of (says_readKeychain _) (fun _ _ h => h.1) ?_
    rintro old d' ⟨rfl, hold⟩
    refine safe_attempt_of (says_readKeychain _) (fun _ _ h => h.1) ?_
    rintro new d'' ⟨rfl, hnew⟩
    obtain ⟨rfl, hne⟩ := secretOf_ok_iff.mp hold
    obtain ⟨rfl, -⟩ := secretOf_ok_iff.mp hnew
    exact ⟨rfl, hne, rfl, rfl⟩
  refine safe_guarded_of hinspect (fun _ _ hd => hd ▸ hfail) ?_
  rintro ⟨oldExists, newExists, equal⟩ d' ⟨rfl, hne, rfl, rfl⟩
  refine safe_if (fun _ => hskip) fun hmissing => safe_if (fun _ => hfail) fun habsent => ?_
  refine safe_guarded_of (says_fingerprint _) (fun _ _ hd => hd.1 ▸ hfail) ?_
  rintro f d'' ⟨rfl, hf⟩
  have hnone : d''.keychain (.current service) = none := by simpa using habsent
  cases hvalue : d''.keychain (.legacy service) with
  | none =>
    rw [hvalue] at hmissing
    exact absurd (.inl rfl) hmissing
  | some value =>
    have hsecret : secret start service = value := by
      rw [secret, ← hlegacy, hvalue]
      rfl
    subst hsecret
    rw [secretOf_ok_iff.mpr ⟨rfl, hne⟩, hvalue] at hf
    cases hf
    refine safe_if (fun _ => hfail) fun _ => ?_
    have hadded := ht.addKey ⟨fun hnil => hne (by rw [hvalue, hnil]), hcurrent ▸ hnone, .inl hnone⟩
    have hsub : (keys ++ [service]).Sublist (doneKeys ++ [service]) := hkeys.append (.refl _)
    have hlisted : ∀ {d' : Disk δ}, Tracks digest start items (keys ++ [service])
        (record.withKeychain (keyOf digest start service)) d' → Tracked digest start mappings services
        (record.withKeychain (keyOf digest start service)) d' :=
      fun ht => ⟨_, _, hitems, hsub.trans hdone, ht⟩
    refine safe_guarded_of (safe_writeJournal (hlisted hadded)) (fun _ _ hd => hd.1 ▸ hlisted hadded) ?_
    rintro - d3 rfl
    -- The entry is on the disk; now the copy.
    have hplaced := hadded.placeKey (List.mem_append_right keys List.mem_cons_self) (.inr rfl)
    refine safe_guarded_of (safe_keychainCopy hvalue hnone (.inr ⟨_, rfl, hlisted hplaced⟩)) ?_ ?_
    · rintro e d4 (rfl | rfl)
      · exact hlisted hadded
      · exact hlisted hplaced
    · rintro created d4 ⟨rfl, rfl⟩
      exact ⟨rfl, _, _, hitems, hsub, hplaced⟩

theorem applyKeychain_safe {rest : List Service} (hsplit : services = doneKeys ++ rest)
    (hjournal : d.journal = some record) (h : Tracked digest start mappings doneKeys record d) :
    Safe anyAnswer (Kept digest start) (applyKeychain digest validDigest rest record)
      (Leaves digest start mappings services) d := by
  induction rest generalizing doneKeys record d with
  | nil =>
    rw [List.append_nil] at hsplit
    rw [hsplit]
    exact ⟨hjournal, h⟩
  | cons service rest ih =>
    refine safe_attempt_ok (applyKeychainItem_safe hsplit hjournal h) ?_
    rintro record' d' ⟨hjournal', h'⟩
    exact ih (by rw [hsplit, List.append_assoc]; rfl) hjournal' h'

/-! ### `apply` -/

theorem applyDeferred_safe (hjournal : d.journal = some record)
    (h : Tracked digest start [] [] record d) :
    Safe anyAnswer (Kept digest start) (applyDeferred digest validDigest record)
      (outcome (fun _ _ => True) fun failure d' =>
        Tracked digest start mappings services failure.2 d') d := by
  refine safe_attempt_ok (applyArtifacts_safe rfl hjournal h) ?_
  rintro record1 d1 ⟨hjournal1, h1⟩
  have haccount : Safe anyAnswer (Kept digest start) (access .account (.ret (.ok ())) : Op δ Unit)
      (outcome (fun _ d' => d' = d1) fun _ d' => d' = d1) d1 := safe_access rfl fun _ => rfl
  refine safe_guarded_of haccount
    (fun _ _ hd => hd ▸ h1.mono (.refl _) (List.nil_sublist _)) ?_
  rintro - d' rfl
  refine safe_attempt_ok (applyKeychain_safe rfl hjournal1 h1) ?_
  rintro record2 d2 ⟨hjournal2, h2⟩
  have happlied : Tracked digest start mappings services { record2 with phase := .applied } d2 := h2
  refine safe_guarded_of (safe_writeJournal happlied) (fun _ _ hd => hd.1 ▸ happlied) ?_
  rintro - d3 rfl
  exact safe_guarded_of (safe_inspect _) (fun _ _ hd => hd ▸ happlied) fun _ _ _ => trivial

theorem apply_safe (h : Inv digest start d) :
    Safe anyAnswer (Kept digest start) (apply digest validDigest) (fun _ _ => True) d := by
  refine safe_attempt_of (safe_inspect _) (fun _ _ _ => trivial) ?_
  rintro preflight d' rfl
  refine safe_if (fun _ => trivial) fun _ => safe_access ?_ fun _ => trivial
  refine safe_if (fun _ => trivial) fun hnone => ?_
  rcases h with rfl | ⟨record, hjournal, -⟩
  · -- Nothing has been done yet.
    refine safe_access ?_ fun _ => trivial
    have htracked : Tracked digest d' [] [] ⟨.applying, [], []⟩ d' :=
      ⟨[], [], .refl _, .refl _, rfl, List.forall_mem_nil _, rfl, List.forall_mem_nil _,
        fun _ _ _ => rfl, fun _ _ => rfl, rfl⟩
    refine safe_attempt_of
      (safe_writeJournal (htracked.mono (List.nil_sublist _) (List.nil_sublist _)))
      (fun _ _ _ => trivial) ?_
    rintro - d'' rfl
    refine safe_guarded_of (applyDeferred_safe rfl htracked) ?_ fun _ _ _ => trivial
    rintro ⟨e, record⟩ d3 hfailed
    have hparked : Tracked digest d' mappings services { record with phase := .recoveryRequired } d3 :=
      hfailed
    refine (safe_bind _ _ _ _).mpr ?_
    exact (safe_writeJournal hparked).post_mono fun _ _ _ => trivial
  · rw [hjournal] at hnone
    exact absurd rfl hnone

end Tracking

end LegacyMigration
