/-
  Whether strict JSON has one meaning.

  The scan compares names as they are spelled, the decoder matches them without regard to case.  So a document
  that was accepted can still have two members that are decoded into one field, and it has them EXACTLY if two
  differently spelled names in one object are the same without regard to case.

  1. `scanValue_sound`: in what the scan accepts no object has two members of the same name.
  2. `Reaches`: the objects that are decoded, each with the fields of its type; in what the decoder accepts
     that is every object (`reaches_of_inside`).
  3. `OneMeaning`, `OneSpelling`, and `oneMeaning_iff` for every document that any of the readers accepts.
-/
import Mathlib.Data.List.Nodup
import Mathlib.Data.List.Pairwise
import OpenCodexRelay.StrictJson.Decoding

namespace StrictJson

open Json

/-! ## What the scan accepts -/

/-- No object has two members of the same name. -/
def DistinctNames (d : Doc) : Prop :=
  ∀ members, d.Inside (.object members) → (members.map Prod.fst).Nodup

theorem more_tokens (d : Doc) (rest : List Token) : more (d.tokens ++ rest) = true := by
  cases d <;> simp [Doc.tokens, more]

variable {items : List Doc} {members : List (Bytes × Doc)} {d : Doc} {payload : Bytes}

theorem distinctNames_array (h : ∀ d ∈ items, DistinctNames d) :
    DistinctNames (.array items) := by
  intro members hinside
  cases hinside with
  | item hd hin => exact h _ hd members hin

theorem distinctNames_object (h : ∀ m ∈ members, DistinctNames m.2)
    (hnames : (members.map Prod.fst).Nodup) : DistinctNames (.object members) := by
  intro members' hinside
  cases hinside with
  | here => exact hnames
  | member hm hin => exact h _ hm members' hin

/-- What the three loops accept, from each other by one step less. -/
structure Scans (n : ℕ) : Prop where
  value : ∀ d rest out, scanValue n (d.tokens ++ rest) = some out → DistinctNames d ∧ out = rest
  members : ∀ ms seen rest out, scanMembers n seen (memberTokens ms ++ .closeObject :: rest) = some out →
    (∀ m ∈ ms, DistinctNames m.2) ∧ (ms.map Prod.fst).Nodup ∧ (∀ m ∈ ms, m.1 ∉ seen) ∧ out = rest
  items : ∀ ds rest out, scanItems n (itemTokens ds ++ .closeArray :: rest) = some out →
    (∀ d ∈ ds, DistinctNames d) ∧ out = rest

theorem scans (n : ℕ) : Scans n := by
  induction n with
  | zero =>
    constructor
    · intro d rest out h
      simp [scanValue] at h
    · intro ms seen rest out h
      simp [scanMembers] at h
    · intro ds rest out h
      simp [scanItems] at h
  | succ n ih =>
    constructor
    · intro d rest out h
      cases d with
      | array items =>
        simp only [Doc.tokens, List.cons_append, List.append_assoc, List.nil_append, scanValue] at h
        obtain ⟨hitems, hout⟩ := ih.items items rest out h
        exact ⟨distinctNames_array hitems, hout⟩
      | object members =>
        simp only [Doc.tokens, List.cons_append, List.append_assoc, List.nil_append, scanValue] at h
        obtain ⟨hmembers, hnames, -, hout⟩ := ih.members members [] rest out h
        exact ⟨distinctNames_object hmembers hnames, hout⟩
      | _ =>
        simp only [Doc.tokens, List.cons_append, List.nil_append, scanValue, Option.some.injEq] at h
        exact ⟨(fun members hinside => nomatch hinside), h.symm⟩
    · intro ms seen rest out h
      cases ms with
      | nil =>
        simp only [memberTokens, List.nil_append, scanMembers, more, Bool.false_eq_true, if_false,
          Option.some.injEq] at h
        exact ⟨List.forall_mem_nil _, List.nodup_nil, List.forall_mem_nil _, h.symm⟩
      | cons m ms =>
        obtain ⟨name, d⟩ := m
        simp only [memberTokens, List.cons_append, List.append_assoc, scanMembers, more, if_true] at h
        by_cases hseen : name ∈ seen
        · simp [hseen] at h
        · rw [if_neg hseen, Option.bind_eq_some_iff] at h
          obtain ⟨rest', hvalue, hloop⟩ := h
          obtain ⟨hd, rfl⟩ := ih.value _ _ _ hvalue
          obtain ⟨hms, hnames, hfresh, hout⟩ := ih.members _ _ _ _ hloop
          refine ⟨List.forall_mem_cons.mpr ⟨hd, hms⟩, ?_, List.forall_mem_cons.mpr ⟨hseen, ?_⟩, hout⟩
          · refine List.nodup_cons.mpr ⟨fun hname => ?_, hnames⟩
            obtain ⟨m, hm, rfl⟩ := List.mem_map.mp hname
            exact hfresh m hm List.mem_cons_self
          · exact fun m hm hmem => hfresh m hm (List.mem_cons_of_mem _ hmem)
    · intro ds rest out h
      cases ds with
      | nil =>
        simp only [itemTokens, List.nil_append, scanItems, more, Bool.false_eq_true, if_false,
          Option.some.injEq] at h
        exact ⟨List.forall_mem_nil _, h.symm⟩
      | cons d ds =>
        simp only [itemTokens, List.append_assoc, scanItems, more_tokens, if_true,
          Option.bind_eq_some_iff] at h
        obtain ⟨rest', hvalue, hloop⟩ := h
        obtain ⟨hd, rfl⟩ := ih.value _ _ _ hvalue
        obtain ⟨hds, hout⟩ := ih.items _ _ _ hloop
        exact ⟨List.forall_mem_cons.mpr ⟨hd, hds⟩, hout⟩

/-- **No object of an accepted document has two members of the same name.** -/
theorem rejectDuplicateJSONKeys_sound (hparse : parse maxNestingDepth payload = some d)
    (h : rejectDuplicateJSONKeys payload = true) :
    DistinctNames d := by
  simp only [rejectDuplicateJSONKeys, hparse, beq_iff_eq] at h
  have hscan : scanValue (2 * d.tokens.length + 1) (d.tokens ++ []) = some [] := by
    rw [List.append_nil]
    exact h
  exact ((scans _).value d [] [] hscan).1

/-! ## Names without regard to case -/

section Meaning

variable {foldRune : Bytes → Bytes}

variable {name : Bytes}

theorem foldSome_ascii {n : ℕ} (hn : name.length ≤ n) (h : ∀ b ∈ name, b < 0x80) :
    foldSome foldRune n name = name.map foldByte := by
  induction name generalizing n with
  | nil => cases n <;> rfl
  | cons b rest ih =>
    cases n with
    | zero => simp at hn
    | succ n =>
      have hb : b < 0x80 := h b List.mem_cons_self
      have hrest := ih (Nat.le_of_succ_le_succ hn) fun c hc => h c (List.mem_cons_of_mem _ hc)
      simp only [foldSome, hb, if_true, hrest, List.map_cons]

theorem foldName_ascii (h : ∀ b ∈ name, b < 0x80) :
    foldName foldRune name = name.map foldByte := foldSome_ascii le_rfl h

variable {fields : List (Bytes × Schema)} {f : Bytes × Schema}

theorem fieldFor_some (h : fieldFor foldRune fields name = some f) :
    f ∈ fields ∧ foldName foldRune f.1 = foldName foldRune name := by
  unfold fieldFor at h
  cases hexact : fields.find? fun f => f.1 == name with
  | some g =>
    rw [hexact] at h
    obtain rfl := Option.some.inj h
    have hname := List.find?_some hexact
    exact ⟨List.mem_of_find?_eq_some hexact, by rw [beq_iff_eq.mp hname]⟩
  | none =>
    rw [hexact] at h
    have hfold : (fields.find? fun f => foldName foldRune f.1 == foldName foldRune name) = some f := h
    have hname := List.find?_some hfold
    exact ⟨List.mem_of_find?_eq_some hfold, beq_iff_eq.mp hname⟩

/-! ## The objects that are decoded -/

theorem decodesItems_iff {item : Schema} :
    decodesItems foldRune item items = true ↔ ∀ d ∈ items, decodes foldRune item d = true := by
  induction items with
  | nil => simp [decodesItems]
  | cons d rest ih => simp [decodesItems, ih]

theorem decodesMembers_iff :
    decodesMembers foldRune fields members = true ↔ ∀ m ∈ members, ∃ f,
      fieldFor foldRune fields m.1 = some f ∧ decodes foldRune f.2 m.2 = true := by
  induction members with
  | nil => simp [decodesMembers]
  | cons m rest ih =>
    obtain ⟨name, d⟩ := m
    cases hf : fieldFor foldRune fields name with
    | none => simp [decodesMembers, hf]
    | some f =>
      have hfirst : (∃ f', fieldFor foldRune fields name = some f' ∧ decodes foldRune f'.2 d = true) ↔
          decodes foldRune f.2 d = true := by
        rw [hf]
        exact ⟨fun ⟨f', hf', hd⟩ => Option.some.inj hf' ▸ hd, fun hd => ⟨f, rfl, hd⟩⟩
      rw [List.forall_mem_cons, ← ih, hfirst]
      simp [decodesMembers, hf]

variable (foldRune) in
/-- `Reaches s d fields members`: when `d` is decoded into an `s`, an object with these members is decoded
    into a struct with these fields. -/
inductive Reaches : Schema → Doc → List (Bytes × Schema) → List (Bytes × Doc) → Prop where
  | here {s : Schema} {fields : List (Bytes × Schema)} {members : List (Bytes × Doc)} :
    s.target = .struct fields → Reaches s (.object members) fields members
  | item {s item : Schema} {items : List Doc} {d : Doc} {fields : List (Bytes × Schema)}
    {members : List (Bytes × Doc)} : s.target = .slice item → d ∈ items → Reaches item d fields members →
    Reaches s (.array items) fields members
  | member {s : Schema} {fs : List (Bytes × Schema)} {ms : List (Bytes × Doc)} {name : Bytes} {d : Doc}
    {f : Bytes × Schema} {fields : List (Bytes × Schema)} {members : List (Bytes × Doc)} :
    s.target = .struct fs → (name, d) ∈ ms → fieldFor foldRune fs name = some f →
    Reaches f.2 d fields members → Reaches s (.object ms) fields members

variable {s : Schema}

theorem decodes_array (h : decodes foldRune s (.array items) = true) :
    ∃ item, s.target = .slice item ∧ ∀ d ∈ items, decodes foldRune item d = true := by
  simp only [decodes] at h
  cases hs : s.target with
  | slice item =>
    rw [hs] at h
    exact ⟨item, rfl, decodesItems_iff.mp h⟩
  | _ =>
    rw [hs] at h
    cases h

theorem decodes_object (h : decodes foldRune s (.object members) = true) :
    ∃ fields, s.target = .struct fields ∧ ∀ m ∈ members, ∃ f,
      fieldFor foldRune fields m.1 = some f ∧ decodes foldRune f.2 m.2 = true := by
  simp only [decodes] at h
  cases hs : s.target with
  | struct fields =>
    rw [hs] at h
    exact ⟨fields, rfl, decodesMembers_iff.mp h⟩
  | _ =>
    rw [hs] at h
    cases h

/-- Every object of an accepted document is decoded into a struct. -/
theorem reaches_of_inside (h : decodes foldRune s d = true) (hinside : d.Inside (.object members)) :
    ∃ fields, Reaches foldRune s d fields members := by
  generalize he : Doc.object members = e at hinside
  induction hinside generalizing s with
  | here d =>
    subst he
    obtain ⟨fields, hs, -⟩ := decodes_object h
    exact ⟨fields, .here hs⟩
  | item hd _ ih =>
    obtain ⟨item, hs, hitems⟩ := decodes_array h
    obtain ⟨fields, hreaches⟩ := ih (hitems _ hd) he
    exact ⟨fields, .item hs hd hreaches⟩
  | member hm _ ih =>
    obtain ⟨fs, hs, hmembers⟩ := decodes_object h
    obtain ⟨f, hf, hd⟩ := hmembers _ hm
    obtain ⟨fields, hreaches⟩ := ih hd he
    exact ⟨fields, .member hs hm hf hreaches⟩

theorem Reaches.inside (h : Reaches foldRune s d fields members) : d.Inside (.object members) := by
  induction h with
  | here _ => exact .here _
  | item _ hd _ ih => exact .item hd ih
  | member _ hm _ _ ih => exact .member hm ih

/-- Every member of an object that is decoded has a field. -/
theorem Reaches.found (h : Reaches foldRune s d fields members) (hd : decodes foldRune s d = true) :
    ∀ m ∈ members, ∃ f, fieldFor foldRune fields m.1 = some f := by
  induction h with
  | here hs =>
    obtain ⟨fields', hs', hmembers⟩ := decodes_object hd
    rw [hs, Schema.struct.injEq] at hs'
    intro m hm
    obtain ⟨f, hf, -⟩ := hmembers m hm
    exact ⟨f, hs' ▸ hf⟩
  | item hs hmem _ ih =>
    obtain ⟨item', hs', hitems⟩ := decodes_array hd
    rw [hs, Schema.slice.injEq] at hs'
    exact ih (hs' ▸ hitems _ hmem)
  | member hs hm hf _ ih =>
    obtain ⟨fields', hs', hmembers⟩ := decodes_object hd
    rw [hs, Schema.struct.injEq] at hs'
    obtain ⟨f', hf', hd'⟩ := hmembers _ hm
    rw [← hs', hf, Option.some.injEq] at hf'
    exact ih (hf' ▸ hd')

/-! ## Field names -/

mutual

/-- In no struct do two fields have the same name without regard to case; all names are ASCII. -/
def Schema.wellNamed : Schema → Bool
  | .pointer s => s.wellNamed
  | .slice s => s.wellNamed
  | .struct fields =>
    (fields.all fun f => f.1.all (· < 0x80)) &&
      decide ((fields.map fun f => f.1.map foldByte).Nodup) && fieldsWellNamed fields
  | _ => true

def fieldsWellNamed : List (Bytes × Schema) → Bool
  | [] => true
  | (_, s) :: rest => s.wellNamed && fieldsWellNamed rest

end

theorem fieldsWellNamed_mem (h : fieldsWellNamed fields = true) :
    ∀ f ∈ fields, f.2.wellNamed = true := by
  induction fields with
  | nil => exact List.forall_mem_nil _
  | cons f rest ih =>
    obtain ⟨hf, hrest⟩ := Bool.and_eq_true_iff.mp h
    exact List.forall_mem_cons.mpr ⟨hf, ih hrest⟩

theorem Schema.wellNamed_struct (h : (Schema.struct fields).wellNamed = true) :
    (∀ f ∈ fields, ∀ b ∈ f.1, b < 0x80) ∧ (fields.map fun f => f.1.map foldByte).Nodup ∧
      ∀ f ∈ fields, f.2.wellNamed = true := by
  simp only [wellNamed, Bool.and_eq_true, decide_eq_true_eq, List.all_eq_true] at h
  exact ⟨h.1.1, h.1.2, fieldsWellNamed_mem h.2⟩

theorem Schema.wellNamed_target : ∀ s : Schema, s.wellNamed = true → s.target.wellNamed = true
  | .pointer s, h => s.wellNamed_target h
  | .string, h => h
  | .bool, h => h
  | .int, h => h
  | .uint, h => h
  | .slice _, h => h
  | .struct _, h => h

theorem Reaches.wellNamed (h : Reaches foldRune s d fields members) (hs : s.wellNamed = true) :
    (Schema.struct fields).wellNamed = true := by
  induction h with
  | @here s _ _ htarget => exact htarget ▸ s.wellNamed_target hs
  | @item s item _ _ _ _ htarget _ _ ih =>
    have hslice := s.wellNamed_target hs
    rw [htarget] at hslice
    exact ih hslice
  | @member s fs _ _ _ f _ _ htarget _ hf _ ih =>
    have hstruct := s.wellNamed_target hs
    rw [htarget] at hstruct
    exact ih ((Schema.wellNamed_struct hstruct).2.2 f (fieldFor_some hf).1)

/-- Without regard to case, a name is that of one field. -/
theorem fold_injective {g : Bytes × Schema} (h : (Schema.struct fields).wellNamed = true)
    (hf : f ∈ fields) (hg : g ∈ fields) (hfold : foldName foldRune f.1 = foldName foldRune g.1) :
    f = g := by
  obtain ⟨hascii, hnodup, -⟩ := Schema.wellNamed_struct h
  rw [foldName_ascii (hascii f hf), foldName_ascii (hascii g hg)] at hfold
  exact List.inj_on_of_nodup_map hnodup hf hg hfold

/-- Two names are decoded into the same field exactly if they are the same without regard to case. -/
theorem fieldFor_eq_iff {name' : Bytes} {f' : Bytes × Schema}
    (h : (Schema.struct fields).wellNamed = true) (hf : fieldFor foldRune fields name = some f)
    (hf' : fieldFor foldRune fields name' = some f') :
    f = f' ↔ foldName foldRune name = foldName foldRune name' := by
  obtain ⟨hmem, hfold⟩ := fieldFor_some hf
  obtain ⟨hmem', hfold'⟩ := fieldFor_some hf'
  constructor
  · rintro rfl
    exact hfold.symm.trans hfold'
  · intro hnames
    exact fold_injective h hmem hmem' (hfold.trans (hnames.trans hfold'.symm))

/-! ## One meaning -/

variable (foldRune) in
/-- The two members are not decoded into the same field. -/
def Separate (fields : List (Bytes × Schema)) (m m' : Bytes × Doc) : Prop :=
  ∀ f, fieldFor foldRune fields m.1 = some f → fieldFor foldRune fields m'.1 ≠ some f

instance (fields : List (Bytes × Schema)) : Std.Symm (Separate foldRune fields) :=
  ⟨fun _ _ h f hf' hf => h f hf hf'⟩

variable (foldRune) in
/-- No two members of an object are decoded into the same field. -/
def OneMeaning (s : Schema) (d : Doc) : Prop :=
  ∀ fields members, Reaches foldRune s d fields members → members.Pairwise (Separate foldRune fields)

variable (foldRune) in
/-- Names of one object that are the same without regard to case are spelled the same. -/
def OneSpelling (d : Doc) : Prop :=
  ∀ members, d.Inside (.object members) → ∀ m ∈ members, ∀ m' ∈ members,
    foldName foldRune m.1 = foldName foldRune m'.1 → m.1 = m'.1

theorem oneMeaning_of_oneSpelling (hnames : DistinctNames d) (h : OneSpelling foldRune d) :
    OneMeaning foldRune s d := by
  intro fields members hreaches
  have hdistinct : members.Pairwise fun m m' => m.1 ≠ m'.1 :=
    List.pairwise_map.mp (hnames members hreaches.inside)
  refine hdistinct.imp_of_mem fun {m m'} hm hm' hne f hf hf' => ?_
  have hfold := (fieldFor_some hf).2.symm.trans (fieldFor_some hf').2
  exact hne (h members hreaches.inside m hm m' hm' hfold)

theorem oneSpelling_of_oneMeaning (hs : s.wellNamed = true) (hd : decodes foldRune s d = true)
    (h : OneMeaning foldRune s d) : OneSpelling foldRune d := by
  intro members hinside m hm m' hm' hfold
  obtain ⟨fields, hreaches⟩ := reaches_of_inside hd hinside
  by_contra hne
  obtain ⟨f, hf⟩ := hreaches.found hd m hm
  obtain ⟨f', hf'⟩ := hreaches.found hd m' hm'
  obtain rfl := (fieldFor_eq_iff (hreaches.wellNamed hs) hf hf').mpr hfold
  have hseparate := (h fields members hreaches).forall hm hm' fun heq => hne (congrArg Prod.fst heq)
  exact hseparate f hf hf'

/-! ## The readers -/

/-- Every type that is read is well named. -/
theorem wellNamed_read : controlRequest.wellNamed = true ∧ controlResponse.wellNamed = true ∧
    maintenanceJournal.wellNamed = true ∧ runtimeRoutingJournal.wellNamed = true ∧
    manifest.wellNamed = true ∧
    ∀ s ∈ [durableState, transactionJournal, stopTransactionJournal, oauthSession, bootstrapAck],
      s.wellNamed = true := by
  unfold controlRequest controlResponse maintenanceJournal runtimeRoutingJournal manifest durableState
    transactionJournal stopTransactionJournal oauthSession bootstrapAck platform artifactRecord
    maintenanceRoutingStatus maintenanceWitness runtimeRoutingIntent maintenanceIntent
  -- The kernel is fast at comparing characters, but not at decoding literals.
  repeat rw [ascii_ofList]
  decide +kernel

/-- What is read off two lines of the control socket. -/
theorem readControlJSON_ok :
    readControlJSON id (ascii "\x7b\"ok\":true\x7d\n") false controlResponse =
      some (.object [(ascii "ok", .bool true)]) ∧
    readControlJSON id (ascii "\x7b\"ok\":true,\"OK\":false\x7d\n") false controlResponse =
      some (.object [(ascii "ok", .bool true), (ascii "OK", .bool false)]) := by
  decide +kernel

variable (foldRune) in
/-- **The documents that are accepted**, each with the type it is decoded into. -/
inductive Accepted : Schema → Doc → Prop where
  | control {connection : Bytes} {broken : Bool} {s : Schema} {d : Doc} :
    s = controlRequest ∨ s = controlResponse →
    readControlJSON foldRune connection broken s = some d → Accepted s d
  | maintenance {validate : Doc → Except Refusal Unit} {payload : Bytes} {d : Doc} :
    loadMaintenance foldRune validate payload = .ok d → Accepted maintenanceJournal d
  | runtimeRouting {validate : Doc → Except Refusal Unit} {payload : Bytes} {d : Doc} :
    loadRuntimeRouting foldRune validate payload = .ok d → Accepted runtimeRoutingJournal d
  | store {data : Bytes} {s : Schema} {d : Doc} :
    s ∈ [durableState, transactionJournal, stopTransactionJournal, oauthSession, bootstrapAck] →
    decodeStrict foldRune data s = .ok d → Accepted s d
  | manifest {authentic : Bytes → Bytes → Except Refusal Unit} {validate : Doc → Except Refusal Unit}
    {manifestBytes signatureBytes : Bytes} {d : Doc} :
    Verify foldRune authentic validate manifestBytes signatureBytes = .ok d → Accepted manifest d

theorem decodeOnly_some (h : decodeOnly foldRune s payload = some d) :
    parse maxNestingDepth payload = some d ∧ decodes foldRune s d = true := by
  unfold decodeOnly at h
  cases hparse : parse maxNestingDepth payload with
  | none =>
    rw [hparse] at h
    cases h
  | some d' =>
    rw [hparse] at h
    by_cases hd : decodes foldRune s d' = true
    · simp only [hd, if_true, Option.some.injEq] at h
      exact ⟨congrArg some h, h ▸ hd⟩
    · simp [hd] at h

/-- What every reader has checked. -/
theorem checked (hscan : ¬rejectDuplicateJSONKeys payload = false)
    (h : decodeOnly foldRune s payload = some d) :
    DistinctNames d ∧ decodes foldRune s d = true := by
  obtain ⟨hparse, hd⟩ := decodeOnly_some h
  exact ⟨rejectDuplicateJSONKeys_sound hparse (Bool.of_not_eq_false hscan), hd⟩

theorem map_ok {check : Except Refusal Unit} {d' : Doc} (h : (check.map fun _ => d) = .ok d') :
    d = d' := by
  cases check with
  | error e => cases h
  | ok u => exact Except.ok.inj h

theorem Accepted.checked (h : Accepted foldRune s d) :
    DistinctNames d ∧ decodes foldRune s d = true := by
  cases h with
  | control _ h =>
    simp only [readControlJSON] at h
    split at h
    · cases h
    split at h
    · cases h
    split at h
    · cases h
    rename_i hpayload
    exact StrictJson.checked (fun hscan => hpayload (.inr (.inr hscan))) h
  | maintenance h =>
    unfold loadMaintenance at h
    split at h
    · cases h
    split at h
    · cases h
    rename_i hscan
    split at h
    · cases h
    rename_i hdecode
    exact map_ok h ▸ StrictJson.checked hscan hdecode
  | runtimeRouting h =>
    unfold loadRuntimeRouting at h
    split at h
    · cases h
    rename_i hscan
    split at h
    · cases h
    rename_i hdecode
    exact map_ok h ▸ StrictJson.checked (fun hfalse => hscan (.inr hfalse)) hdecode
  | store _ h =>
    unfold decodeStrict at h
    split at h
    · cases h
    split at h
    · cases h
    rename_i hscan
    split at h
    · cases h
    rename_i hdecode
    exact Except.ok.inj h ▸ StrictJson.checked hscan hdecode
  | manifest h =>
    unfold Verify at h
    split at h
    · cases h
    split at h
    · cases h
    split at h
    · cases h
    split at h
    · cases h
    rename_i hscan
    split at h
    · cases h
    rename_i hdecode
    exact map_ok h ▸ StrictJson.checked hscan hdecode

theorem Accepted.wellNamed (h : Accepted foldRune s d) : s.wellNamed = true := by
  obtain ⟨hrequest, hresponse, hmaintenance, hrouting, hmanifest, hstore⟩ := wellNamed_read
  cases h with
  | control hs _ =>
    rcases hs with rfl | rfl
    · exact hrequest
    · exact hresponse
  | maintenance _ => exact hmaintenance
  | runtimeRouting _ => exact hrouting
  | store hs _ => exact hstore s hs
  | manifest _ => exact hmanifest

/-- **When strict JSON has one meaning.**  In a document that one of the readers accepts no two members of an
    object are decoded into the same field if and only if names of one object that are the same without regard
    to case are spelled the same. -/
theorem oneMeaning_iff {s : Schema} {d : Doc} (h : Accepted foldRune s d) :
    OneMeaning foldRune s d ↔ OneSpelling foldRune d := by
  obtain ⟨hnames, hd⟩ := h.checked
  exact ⟨oneSpelling_of_oneMeaning h.wellNamed hd, oneMeaning_of_oneSpelling hnames⟩

/-- `{"ok":true}` -/
theorem oneMeaning_iff_ok : readControlJSON id (ascii "\x7b\"ok\":true\x7d\n") false controlResponse =
      some (.object [(ascii "ok", .bool true)]) ∧
    OneMeaning id controlResponse (.object [(ascii "ok", .bool true)]) := by
  obtain ⟨hread, -⟩ := readControlJSON_ok
  refine ⟨hread, (oneMeaning_iff (.control (.inr rfl) hread)).mpr ?_⟩
  intro members hinside m hm m' hm' _
  cases hinside with
  | here =>
    rw [List.mem_singleton] at hm hm'
    rw [hm, hm']
  | member hmem hin =>
    rw [List.mem_singleton, Prod.mk.injEq] at hmem
    rw [hmem.2] at hin
    cases hin

/-- `{"ok":true,"OK":false}`: the scan sees two names, the decoder one field. -/
theorem two_spellings_one_field :
    readControlJSON id (ascii "\x7b\"ok\":true,\"OK\":false\x7d\n") false controlResponse =
      some (.object [(ascii "ok", .bool true), (ascii "OK", .bool false)]) ∧
    ¬OneMeaning id controlResponse (.object [(ascii "ok", .bool true), (ascii "OK", .bool false)]) := by
  refine ⟨readControlJSON_ok.2, fun h => ?_⟩
  have hpair := h _ _ (.here rfl)
  rw [List.pairwise_cons] at hpair
  exact hpair.1 _ List.mem_cons_self (ascii "ok", .bool) rfl rfl

end Meaning

end StrictJson
