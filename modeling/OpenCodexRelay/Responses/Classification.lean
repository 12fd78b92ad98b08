/-
  What the scanner's result says about the document.

  The scanner never builds a tree.  It threads three booleans through the recursion: whether it is
  inside the root's `input`, at the value of a `tools` member, at an entry of such a list.  Here the
  result is compared with a QUERY over the tree that the document denotes.

  1. `Meaning`: the query.  `ToolEntry` says which values are tools, `HostedTool` and `HostedOutput`
     what is looked for.
  2. `Stands`: a value inside another one together with the context in which the scanner meets it.
     One induction over trees for all three flags (`raises_iff`), and then what the contexts mean
     (`stands_inside`, `stands_toolEntry`).
  3. The members `model` and `stream` of the root.
  4. `chooseAction` of `PrepareRequest`, which sees the document through its meaning only.
-/
import OpenCodexRelay.Responses.Acceptance

namespace Responses

open Json
open ValueContext (child element inInput toolEntry zero)
open RequestScan (mark unplaced withAll withRoot)

/-! ## The query -/

/-- **The values that declare a tool**: the elements of a list `tools` of the root or of any object
    inside its `input`, and its `tool_choice`. -/
inductive ToolEntry (root : Tree) : Tree → Prop where
  | tools {items : List Tree} {u : Tree} : root.Has (ascii "tools") (.array items) → u ∈ items →
    ToolEntry root u
  | input {input o u : Tree} {items : List Tree} : root.Has (ascii "input") input →
    input.Inside o → o.Has (ascii "tools") (.array items) → u ∈ items → ToolEntry root u
  | choice {u : Tree} : root.Has (ascii "tool_choice") u → ToolEntry root u

/-- Some tool has a type of this kind. -/
def HostedTool (kind : List Byte → Bool) (root : Tree) : Prop :=
  ∃ u text, ToolEntry root u ∧ u.Has (ascii "type") (.string text) ∧ kind text = true

/-- Some object inside `input` is the output of a computer call. -/
def HostedOutput (root : Tree) : Prop :=
  ∃ input u, root.Has (ascii "input") input ∧ input.Inside u ∧
    u.Has (ascii "type") (.string (ascii "computer_call_output"))

/-- **What a result says about a document.** -/
structure Meaning (root : Tree) (r : RequestScan) : Prop where
  modelSeen : r.modelSeen = true ↔ ∃ t, root.Has (ascii "model") t
  model : ∀ t, root.Has (ascii "model") t → t = .string r.model
  noModel : r.modelSeen = false → r.model = []
  streamSeen : r.streamSeen = true ↔ ∃ t, root.Has (ascii "stream") t
  stream : ∀ t, root.Has (ascii "stream") t → t = .bool r.stream
  noStream : r.streamSeen = false → r.stream = false
  hostedImage : r.hostedImage = true ↔ HostedTool isImageTool root
  hostedComputer : r.hostedComputer = true ↔ HostedTool isComputerTool root
  hostedComputerOutput : r.hostedComputerOutput = true ↔ HostedOutput root

/-! ## Flags and places -/

/-- **A value inside another one, with the context in which it is met.** -/
inductive Stands : ValueContext → Tree → ValueContext → Tree → Prop where
  | here (ctx : ValueContext) (t : Tree) : Stands ctx t ctx t
  | item {ctx ctx' : ValueContext} {items : List Tree} {t u : Tree} : t ∈ items →
    Stands ctx.element t ctx' u → Stands ctx (.array items) ctx' u
  | member {ctx ctx' : ValueContext} {members : List (List Byte × Tree)} {key : List Byte}
    {t u : Tree} : (key, t) ∈ members → Stands (ctx.child false key) t ctx' u →
    Stands ctx (.object members) ctx' u

/-- One of the three flags: where it looks, and for which types. -/
structure Watches (flag : Flags → Bool) (place : ValueContext → Bool) (kind : List Byte → Bool) :
    Prop where
  none : flag .none = false
  or : ∀ f g, flag (f.or g) = (flag f || flag g)
  type : ∀ ctx key text, flag (typeFlags ctx key (.string text)) =
    (place ctx && key == ascii "type" && kind text)

theorem watches_image : Watches Flags.image toolEntry isImageTool :=
  ⟨rfl, fun _ _ => rfl, fun _ _ _ => rfl⟩

theorem watches_computer : Watches Flags.computer toolEntry isComputerTool :=
  ⟨rfl, fun _ _ => rfl, fun _ _ _ => rfl⟩

theorem watches_output :
    Watches Flags.output inInput (· == ascii "computer_call_output") :=
  ⟨rfl, fun _ _ => rfl, fun _ _ _ => rfl⟩

variable {ctx : ValueContext}

section Raises

variable {flag : Flags → Bool} {place : ValueContext → Bool} {kind : List Byte → Bool}

/-- An object with a member `type` of a kind, somewhere in a value. -/
def Finds (place : ValueContext → Bool) (kind : List Byte → Bool) (ctx : ValueContext) (t : Tree) :
    Prop :=
  ∃ ctx' u text, Stands ctx t ctx' u ∧ place ctx' = true ∧ u.Has (ascii "type") (.string text) ∧
    kind text = true

theorem finds_array {items : List Tree} :
    Finds place kind ctx (.array items) ↔ ∃ t ∈ items, Finds place kind ctx.element t := by
  constructor
  · rintro ⟨ctx', u, text, hstands, hplace, htype, hkind⟩
    cases hstands with
    | here =>
      obtain ⟨members, hobject, -⟩ := htype
      cases hobject
    | item ht hstands => exact ⟨_, ht, ctx', u, text, hstands, hplace, htype, hkind⟩
  · rintro ⟨t, ht, ctx', u, text, hstands, hfound⟩
    exact ⟨ctx', u, text, .item ht hstands, hfound⟩

theorem finds_object {members : List (List Byte × Tree)} :
    Finds place kind ctx (.object members) ↔ ∃ m ∈ members,
      Finds place kind (ctx.child false m.1) m.2 ∨
        place ctx = true ∧ m.1 = ascii "type" ∧ ∃ text, m.2 = .string text ∧ kind text = true := by
  constructor
  · rintro ⟨ctx', u, text, hstands, hplace, htype, hkind⟩
    cases hstands with
    | here =>
      obtain ⟨members', hobject, hmem⟩ := htype
      obtain rfl := Tree.object.inj hobject
      exact ⟨_, hmem, .inr ⟨hplace, rfl, text, rfl, hkind⟩⟩
    | member hmem hstands => exact ⟨_, hmem, .inl ⟨ctx', u, text, hstands, hplace, htype, hkind⟩⟩
  · rintro ⟨⟨key, t⟩, hmem, hfound | ⟨hplace, hkey, text, htext, hkind⟩⟩
    · obtain ⟨ctx', u, text, hstands, hfound⟩ := hfound
      exact ⟨ctx', u, text, .member hmem hstands, hfound⟩
    · obtain rfl : key = ascii "type" := hkey
      obtain rfl : t = .string text := htext
      exact ⟨ctx, _, text, .here _ _, hplace, ⟨members, rfl, hmem⟩, hkind⟩

/-- There is nothing to find in a value that is not a container. -/
theorem raises_leaf (hw : Watches flag place kind) {t : Tree} (harray : ∀ items, t ≠ .array items)
    (hobject : ∀ members, t ≠ .object members) :
    flag (treeFlags ctx t) = true ↔ Finds place kind ctx t := by
  have hflags : treeFlags ctx t = .none := by
    cases t with
    | array items => exact absurd rfl (harray items)
    | object members => exact absurd rfl (hobject members)
    | _ => rw [treeFlags] <;> simp
  rw [hflags, hw.none]
  refine ⟨by simp, ?_⟩
  rintro ⟨ctx', u, text, hstands, -, htype, -⟩
  cases hstands with
  | here =>
    obtain ⟨members, rfl, -⟩ := htype
    exact absurd rfl (hobject members)
  | item => exact absurd rfl (harray _)
  | member => exact absurd rfl (hobject _)

theorem flag_type (hw : Watches flag place kind) (ctx : ValueContext) (key : List Byte) (t : Tree) :
    flag (typeFlags ctx key t) = true ↔
      place ctx = true ∧ key = ascii "type" ∧ ∃ text, t = .string text ∧ kind text = true := by
  cases t with
  | string text =>
    rw [hw.type, Bool.and_eq_true, Bool.and_eq_true, beq_iff_eq, and_assoc]
    simp
  | _ => simp [typeFlags, hw.none]

mutual

/-- **A flag is raised exactly when there is something to find.** -/
theorem raises_iff (hw : Watches flag place kind) (ctx : ValueContext) :
    ∀ t : Tree, flag (treeFlags ctx t) = true ↔ Finds place kind ctx t
  | .array items => by
    rw [treeFlags, finds_array]
    exact raises_items hw ctx.element items
  | .object members => by
    rw [treeFlags, finds_object]
    exact raises_members hw ctx false members
  | .null => raises_leaf hw nofun nofun
  | .bool _ => raises_leaf hw nofun nofun
  | .number _ => raises_leaf hw nofun nofun
  | .string _ => raises_leaf hw nofun nofun

theorem raises_items (hw : Watches flag place kind) (ctx : ValueContext) :
    ∀ ts : List Tree, flag (itemsFlags ctx ts) = true ↔ ∃ t ∈ ts, Finds place kind ctx t
  | [] => by simp [itemsFlags, hw.none]
  | t :: ts => by
    rw [itemsFlags, hw.or, Bool.or_eq_true, raises_iff hw ctx t, raises_items hw ctx ts]
    simp

theorem raises_members (hw : Watches flag place kind) (ctx : ValueContext) (root : Bool) :
    ∀ ms : List (List Byte × Tree), flag (membersFlags ctx root ms) = true ↔ ∃ m ∈ ms,
      Finds place kind (ctx.child root m.1) m.2 ∨
        place ctx = true ∧ m.1 = ascii "type" ∧ ∃ text, m.2 = .string text ∧ kind text = true
  | [] => by simp [membersFlags, hw.none]
  | (key, t) :: ms => by
    rw [membersFlags, hw.or, hw.or, Bool.or_eq_true, Bool.or_eq_true, raises_iff hw _ t,
      flag_type hw, raises_members hw ctx root ms]
    simp

end

end Raises

/-! ## What the contexts mean -/

variable {ctx : ValueContext} {u t : Tree} {key : List Byte} {r : RequestScan} {es : List Entry}
variable {e : Entry}

theorem Stands.trans {ctx' ctx'' : ValueContext} {v : Tree} (h : Stands ctx t ctx' u)
    (h' : Stands ctx' u ctx'' v) : Stands ctx t ctx'' v := by
  induction h with
  | here => exact h'
  | item ht _ ih => exact .item ht (ih h')
  | member hm _ ih => exact .member hm (ih h')

/-- What is met inside a value is inside it, and the context knows whether that is in `input`. -/
theorem stands_inside {ctx' : ValueContext} (h : Stands ctx t ctx' u) :
    t.Inside u ∧ ctx'.inInput = ctx.inInput := by
  induction h with
  | here => exact ⟨.here _, rfl⟩
  | item ht _ ih => exact ⟨.item ht ih.1, ih.2⟩
  | member hm _ ih => exact ⟨.member hm ih.1, ih.2.trans (Bool.or_false _)⟩

theorem inside_stands (h : t.Inside u) (ctx : ValueContext) :
    ∃ ctx', Stands ctx t ctx' u := by
  induction h generalizing ctx with
  | here => exact ⟨ctx, .here _ _⟩
  | item ht _ ih =>
    obtain ⟨ctx', hstands⟩ := ih ctx.element
    exact ⟨ctx', .item ht hstands⟩
  | member hm _ ih =>
    obtain ⟨ctx', hstands⟩ := ih (ctx.child false _)
    exact ⟨ctx', .member hm hstands⟩

theorem child_false (ctx : ValueContext) (key : List Byte) :
    ctx.child false key = ⟨ctx.inInput, key == ascii "tools" && ctx.inInput, false⟩ := by
  simp [child]

/-- **The entries of lists of tools**: the value itself where it is known to be one, the elements of
    the value where it is known to be such a list, and inside `input` those of every list `tools`. -/
theorem stands_toolEntry :
    (∃ ctx', Stands ctx t ctx' u ∧ ctx'.toolEntry = true) ↔
      ctx.toolEntry = true ∧ u = t ∨
      ctx.toolArray = true ∧ (∃ items, t = .array items ∧ u ∈ items) ∨
      ctx.inInput = true ∧ ∃ o items, t.Inside o ∧ o.Has (ascii "tools") (.array items) ∧ u ∈ items := by
  constructor
  · rintro ⟨ctx', hstands, hentry⟩
    induction hstands with
    | here => exact .inl ⟨hentry, rfl⟩
    | @item ctx ctx' items t u ht _ ih =>
      rcases ih hentry with ⟨hlist, rfl⟩ | ⟨hnever, -⟩ | ⟨hinput, o, tools, ho, htools, hu⟩
      · exact .inr (.inl ⟨hlist, items, rfl, ht⟩)
      · cases hnever
      · exact .inr (.inr ⟨hinput, o, tools, .item ht ho, htools, hu⟩)
    | @member ctx ctx' members key t u hm _ ih =>
      rw [child_false] at ih
      rcases ih hentry with ⟨hnever, -⟩ | ⟨hlist, items, rfl, hu⟩ | ⟨hinput, o, tools, ho, htools, hu⟩
      · cases hnever
      · obtain ⟨hkey, hinput⟩ := (Bool.and_eq_true _ _).mp hlist
        obtain rfl := beq_iff_eq.mp hkey
        exact .inr (.inr ⟨hinput, .object members, items, .here _, ⟨members, rfl, hm⟩, hu⟩)
      · exact .inr (.inr ⟨hinput, o, tools, .member hm ho, htools, hu⟩)
  · rintro (⟨hentry, rfl⟩ | ⟨hlist, items, rfl, hu⟩ | ⟨hinput, o, items, ho, ⟨members, rfl, hm⟩, hu⟩)
    · exact ⟨ctx, .here _ _, hentry⟩
    · exact ⟨ctx.element, .item hu (.here _ _), hlist⟩
    · obtain ⟨ctx1, hstands⟩ := inside_stands ho ctx
      have hinput1 : ctx1.inInput = true := (stands_inside hstands).2.trans hinput
      refine ⟨_, hstands.trans (.member hm (.item hu (.here _ _))), ?_⟩
      simp [child_false, element, hinput1]

/-- The contexts of the members of the root. -/
theorem child_root (key : List Byte) :
    zero.child true key =
      ⟨key == ascii "input", key == ascii "tools", key == ascii "tool_choice"⟩ := by
  simp [child, zero]

theorem hostedTool_iff {kind : List Byte → Bool} {members : List (List Byte × Tree)} :
    HostedTool kind (.object members) ↔
      ∃ m ∈ members, Finds toolEntry kind (zero.child true m.1) m.2 := by
  constructor
  · rintro ⟨u, text, hentry, htype, hkind⟩
    have hfinds : ∀ m ∈ members, (∃ ctx', Stands (zero.child true m.1) m.2 ctx' u ∧
        ctx'.toolEntry = true) →
        ∃ m ∈ members, Finds toolEntry kind (zero.child true m.1) m.2 := by
      rintro m hm ⟨ctx', hstands, hplace⟩
      exact ⟨m, hm, ctx', u, text, hstands, hplace, htype, hkind⟩
    cases hentry with
    | tools htools hu =>
      obtain ⟨ms, hms, hm⟩ := htools
      obtain rfl := Tree.object.inj hms
      refine hfinds _ hm (stands_toolEntry.mpr (.inr (.inl ⟨?_, _, rfl, hu⟩)))
      simp [child_root]
    | input hinput ho htools hu =>
      obtain ⟨ms, hms, hm⟩ := hinput
      obtain rfl := Tree.object.inj hms
      refine hfinds _ hm (stands_toolEntry.mpr (.inr (.inr ⟨?_, _, _, ho, htools, hu⟩)))
      simp [child_root]
    | choice hchoice =>
      obtain ⟨ms, hms, hm⟩ := hchoice
      obtain rfl := Tree.object.inj hms
      refine hfinds _ hm (stands_toolEntry.mpr (.inl ⟨?_, rfl⟩))
      simp [child_root]
  · rintro ⟨⟨key, t⟩, hm, ctx', u, text, hstands, hplace, htype, hkind⟩
    refine ⟨u, text, ?_, htype, hkind⟩
    have hwhere := stands_toolEntry.mp ⟨ctx', hstands, hplace⟩
    simp only [child_root, beq_iff_eq] at hwhere
    rcases hwhere with ⟨rfl, rfl⟩ | ⟨rfl, items, rfl, hu⟩ | ⟨rfl, o, items, ho, htools, hu⟩
    · exact .choice ⟨members, rfl, hm⟩
    · exact .tools ⟨members, rfl, hm⟩ hu
    · exact .input ⟨members, rfl, hm⟩ ho htools hu

theorem hostedOutput_iff {members : List (List Byte × Tree)} :
    HostedOutput (.object members) ↔
      ∃ m ∈ members, Finds inInput (· == ascii "computer_call_output")
        (zero.child true m.1) m.2 := by
  constructor
  · rintro ⟨input, u, ⟨ms, hms, hm⟩, hinside, htype⟩
    obtain rfl := Tree.object.inj hms
    obtain ⟨ctx', hstands⟩ := inside_stands hinside (zero.child true (ascii "input"))
    refine ⟨_, hm, ctx', u, _, hstands, ?_, htype, beq_self_eq_true _⟩
    rw [(stands_inside hstands).2, child_root]
    simp
  · rintro ⟨⟨key, t⟩, hm, ctx', u, text, hstands, hplace, htype, hkind⟩
    obtain ⟨hinside, hinput⟩ := stands_inside hstands
    rw [hplace, child_root] at hinput
    obtain rfl := beq_iff_eq.mp hinput.symm
    obtain rfl := beq_iff_eq.mp hkind
    exact ⟨t, u, ⟨members, rfl, hm⟩, hinside, htype⟩

/-- The flags of the members of the root. -/
theorem rootFlags_iff {flag : Flags → Bool} {place : ValueContext → Bool} {kind : List Byte → Bool}
    (hw : Watches flag place kind) (hplace : place .zero = false)
    (members : List (List Byte × Tree)) :
    flag (membersFlags .zero true members) = true ↔
      ∃ m ∈ members, Finds place kind (zero.child true m.1) m.2 := by
  rw [raises_members hw]
  simp [hplace]

/-! ## `model` and `stream` -/

theorem withAll_seen (r : RequestScan) (es : List Entry) :
    (r.withAll es).modelSeen = (r.modelSeen || es.any (·.key == ascii "model")) ∧
      (r.withAll es).streamSeen = (r.streamSeen || es.any (·.key == ascii "stream")) := by
  induction es generalizing r with
  | nil => simp [withAll]
  | cons e es ih =>
    obtain ⟨hmodel, hstream⟩ := member_seen r .zero e 0
    obtain ⟨ihm, ihs⟩ := ih (r.withRoot e 0)
    simp only [List.any_cons, ← Bool.or_assoc]
    exact ⟨ihm.trans (congrArg (· || _) hmodel), ihs.trans (congrArg (· || _) hstream)⟩

theorem withAll_flags (r : RequestScan) (es : List Entry) :
    (r.withAll es).hostedImage = r.hostedImage ∧ (r.withAll es).hostedComputer = r.hostedComputer ∧
      (r.withAll es).hostedComputerOutput = r.hostedComputerOutput := by
  induction es generalizing r with
  | nil => exact ⟨rfl, rfl, rfl⟩
  | cons e es ih =>
    have hkeeps : (r.withRoot e 0).hostedImage = r.hostedImage ∧
        (r.withRoot e 0).hostedComputer = r.hostedComputer ∧
        (r.withRoot e 0).hostedComputerOutput = r.hostedComputerOutput := by
      unfold withRoot
      split_ifs <;> exact ⟨rfl, rfl, rfl⟩
    obtain ⟨h1, h2, h3⟩ := ih (r.withRoot e 0)
    exact ⟨h1.trans hkeeps.1, h2.trans hkeeps.2.1, h3.trans hkeeps.2.2⟩

theorem withRoot_model (h : e.key = ascii "model") (r : RequestScan) :
    (r.withRoot e 0).model = textOf e.value := by
  rw [withRoot, if_pos h]

theorem withRoot_model_ne (h : e.key ≠ ascii "model") (r : RequestScan) :
    (r.withRoot e 0).model = r.model := by
  rw [withRoot, if_neg h]
  split <;> rfl

theorem withRoot_stream (h : e.key = ascii "stream") (r : RequestScan) :
    (r.withRoot e 0).stream = boolOf e.value := (member_stream h r .zero 0).2.2

theorem withRoot_stream_ne (h : e.key ≠ ascii "stream") (r : RequestScan) :
    (r.withRoot e 0).stream = r.stream := (member_keeps h r .zero 0).2.2

/-- What only members of one name set keeps its value where there is none, and has the value of the
    member where there is one. -/
theorem withAll_field {α : Type} {field : RequestScan → α} {get : Tree → α}
    (hset : ∀ e : Entry, e.key = key → ∀ r : RequestScan, field (r.withRoot e 0) = get e.value)
    (hkeep : ∀ e : Entry, e.key ≠ key → ∀ r : RequestScan, field (r.withRoot e 0) = field r)
    (honce : es.countP (·.key == key) ≤ 1) (r : RequestScan) :
    ((∀ e ∈ es, e.key ≠ key) → field (r.withAll es) = field r) ∧
      ∀ e ∈ es, e.key = key → field (r.withAll es) = get e.value := by
  induction es generalizing r with
  | nil => exact ⟨fun _ => rfl, nofun⟩
  | cons e es ih =>
    rw [List.countP_cons] at honce
    obtain ⟨ihnone, ihsome⟩ := ih (by omega) (r.withRoot e 0)
    refine ⟨fun hnone => ?_, fun e' he' hkey => ?_⟩
    · have hrest := ihnone fun e' he' => hnone e' (List.mem_cons_of_mem _ he')
      exact hrest.trans (hkeep e (hnone e List.mem_cons_self) r)
    · rcases List.mem_cons.mp he' with rfl | he'
      · -- This member is the only one, so the others keep what it set.
        have hnone : ∀ x ∈ es, x.key ≠ key := by
          intro x hx hxkey
          have hpos : 0 < es.countP (·.key == key) :=
            List.countP_pos_iff.mpr ⟨x, hx, by simpa using hxkey⟩
          rw [if_pos (by simpa using hkey)] at honce
          omega
        exact (ihnone hnone).trans (hset e' hkey r)
      · exact ihsome e' he' hkey

theorem has_rootTree :
    (rootTree es).Has key t ↔ ∃ e ∈ es, e.key = key ∧ e.value = t := by
  constructor
  · rintro ⟨members, hmembers, hmem⟩
    obtain rfl := Tree.object.inj hmembers
    obtain ⟨e, he, hpair⟩ := List.mem_map.mp hmem
    obtain ⟨rfl, rfl⟩ := Prod.mk.inj hpair
    exact ⟨e, he, rfl, rfl⟩
  · rintro ⟨e, he, rfl, rfl⟩
    exact ⟨_, rfl, List.mem_map_of_mem he⟩

theorem any_key_iff :
    es.any (·.key == key) = true ↔ ∃ t, (rootTree es).Has key t := by
  rw [List.any_eq_true]
  constructor
  · rintro ⟨e, he, hkey⟩
    exact ⟨e.value, has_rootTree.mpr ⟨e, he, beq_iff_eq.mp hkey, rfl⟩⟩
  · rintro ⟨t, ht⟩
    obtain ⟨e, he, hkey, -⟩ := has_rootTree.mp ht
    exact ⟨e, he, beq_iff_eq.mpr hkey⟩

theorem not_any_key (h : es.any (·.key == key) = false) :
    ∀ e ∈ es, e.key ≠ key := by
  intro e he hkey
  have hany : es.any (·.key == key) = true := List.any_eq_true.mpr ⟨e, he, beq_iff_eq.mpr hkey⟩
  exact Bool.false_ne_true (h.symm.trans hany)

/-- **The result after admissible members means what they denote.** -/
theorem RootAfter.meaning {d : ℕ} {T : List Byte → List Entry → Prop} {text : List Byte}
    {offset : ℕ} (h : RootAfter d T .zero text es offset .zero r)
    (hadmissible : Admissible false false es) : Meaning (rootTree es) r := by
  have hresult := h.result
  simp only [unplaced, mark, RequestScan.mk.injEq] at hresult
  obtain ⟨hmodel, hmodelSeen, hstreamSeen, hstream, -, -, himage, hcomputer, houtput⟩ := hresult
  obtain ⟨hseenModel, hseenStream⟩ := withAll_seen .zero es
  obtain ⟨hflagImage, hflagComputer, hflagOutput⟩ := withAll_flags .zero es
  obtain ⟨hmodelNone, hmodelSome⟩ := @withAll_field _ es _ RequestScan.model _
    (fun e he r => withRoot_model he r) (fun e he r => withRoot_model_ne he r)
    hadmissible.modelOnce .zero
  obtain ⟨hstreamNone, hstreamSome⟩ := @withAll_field _ es _ RequestScan.stream _
    (fun e he r => withRoot_stream he r) (fun e he r => withRoot_stream_ne he r)
    hadmissible.streamOnce .zero
  refine ⟨?_, ?_, ?_, ?_, ?_, ?_, ?_, ?_, ?_⟩
  · rw [hmodelSeen, hseenModel]
    exact any_key_iff
  · intro t ht
    obtain ⟨e, he, hkey, rfl⟩ := has_rootTree.mp ht
    obtain ⟨body, -, -, hvalue, -, -⟩ := hadmissible.model e he hkey
    rw [hmodel, hmodelSome e he hkey, hvalue]
    rfl
  · intro hnot
    rw [hmodel]
    rw [hmodelSeen, hseenModel] at hnot
    exact hmodelNone (not_any_key hnot)
  · rw [hstreamSeen, hseenStream]
    exact any_key_iff
  · intro t ht
    obtain ⟨e, he, hkey, rfl⟩ := has_rootTree.mp ht
    obtain ⟨b, hvalue⟩ := hadmissible.stream e he hkey
    rw [hstream, hstreamSome e he hkey, hvalue]
    rfl
  · intro hnot
    rw [hstream]
    rw [hstreamSeen, hseenStream] at hnot
    exact hstreamNone (not_any_key hnot)
  · rw [himage, hflagImage, rootTree, hostedTool_iff, ← rootFlags_iff watches_image rfl]
    exact Iff.of_eq (congrArg (· = true) (Bool.false_or _))
  · rw [hcomputer, hflagComputer, rootTree, hostedTool_iff, ← rootFlags_iff watches_computer rfl]
    exact Iff.of_eq (congrArg (· = true) (Bool.false_or _))
  · rw [houtput, hflagOutput, rootTree, hostedOutput_iff, ← rootFlags_iff watches_output rfl]
    exact Iff.of_eq (congrArg (· = true) (Bool.false_or _))

/-! ## The action -/

/-- `Mode`: there is one only. -/
inductive Mode where
  | boundedJson
  deriving DecidableEq, Repr

/-- `Policy`: the models it names, in lower case. -/
structure Policy where
  models : List (List Byte × Mode)
  deriving DecidableEq, Repr

inductive Action where
  | passthrough
  | normalize
  | rejectHostedComputer
  deriving DecidableEq, Repr

section Actions

-- `strings.ToLower`.
variable (toLower : List Byte → List Byte)

def Policy.modeForModel (p : Policy) (model : List Byte) : Option Mode :=
  p.models.lookup (toLower model)

/-- The action of `PrepareRequest`. -/
def chooseAction (policy : Policy) (scan : RequestScan) : Action :=
  if scan.hostedComputer || scan.hostedComputerOutput then .rejectHostedComputer
  else if (policy.modeForModel toLower scan.model).isSome && scan.stream && !scan.hostedImage then
    .normalize
  else .passthrough

end Actions

/-- **The meaning of a document determines the result**, but for where `stream` stands. -/
theorem Meaning.unique {root : Tree} {r' : RequestScan} (h : Meaning root r) (h' : Meaning root r') :
    r.unplaced = r'.unplaced := by
  have hmodelSeen : r.modelSeen = r'.modelSeen :=
    Bool.eq_iff_iff.mpr (h.modelSeen.trans h'.modelSeen.symm)
  have hstreamSeen : r.streamSeen = r'.streamSeen :=
    Bool.eq_iff_iff.mpr (h.streamSeen.trans h'.streamSeen.symm)
  have hmodel : r.model = r'.model := by
    cases hseen : r.modelSeen with
    | false => rw [h.noModel hseen, h'.noModel (hmodelSeen ▸ hseen)]
    | true =>
      obtain ⟨t, ht⟩ := h.modelSeen.mp hseen
      exact Tree.string.inj ((h.model t ht).symm.trans (h'.model t ht))
  have hstream : r.stream = r'.stream := by
    cases hseen : r.streamSeen with
    | false => rw [h.noStream hseen, h'.noStream (hstreamSeen ▸ hseen)]
    | true =>
      obtain ⟨t, ht⟩ := h.streamSeen.mp hseen
      exact Tree.bool.inj ((h.stream t ht).symm.trans (h'.stream t ht))
  have himage : r.hostedImage = r'.hostedImage :=
    Bool.eq_iff_iff.mpr (h.hostedImage.trans h'.hostedImage.symm)
  have hcomputer : r.hostedComputer = r'.hostedComputer :=
    Bool.eq_iff_iff.mpr (h.hostedComputer.trans h'.hostedComputer.symm)
  have houtput : r.hostedComputerOutput = r'.hostedComputerOutput :=
    Bool.eq_iff_iff.mpr (h.hostedComputerOutput.trans h'.hostedComputerOutput.symm)
  simp only [unplaced, hmodelSeen, hstreamSeen, hmodel, hstream, himage, hcomputer,
    houtput]

theorem chooseAction_unplaced (toLower : List Byte → List Byte) (policy : Policy) {r' : RequestScan}
    (h : r.unplaced = r'.unplaced) :
    chooseAction toLower policy r = chooseAction toLower policy r' := by
  simp only [unplaced, RequestScan.mk.injEq] at h
  obtain ⟨hmodel, -, -, hstream, -, -, himage, hcomputer, houtput⟩ := h
  simp only [chooseAction, hmodel, hstream, himage, hcomputer, houtput]

theorem scan_ok {bytes : List Byte} (h : scanResponsesRequest bytes = .ok r) :
    ∃ s, scanDocument (.start bytes) = (.ok r, s) := by
  rcases hrun : scanDocument (.start bytes) with ⟨e | r', s⟩
  · rw [scanResponsesRequest, hrun] at h
    cases h
  · rw [scanResponsesRequest, hrun] at h
    obtain rfl := Except.ok.inj h
    exact ⟨s, rfl⟩

/-- What an accepted document means, in whichever way it is read. -/
theorem meaning_of_scan {bytes : List Byte} (h : scanResponsesRequest bytes = .ok r)
    (hdocument : Document 511 bytes es) :
    Meaning (rootTree es) r ∧ RootAfter 511 (Document 511) .zero bytes es 0 .zero r := by
  obtain ⟨s, hrun⟩ := scan_ok h
  have hadmissible := admissible_of_scan hdocument hrun
  obtain ⟨r', s', hrun', hroot⟩ := scanDocument_of hdocument hadmissible
  obtain ⟨hr, -⟩ := Prod.mk.inj (hrun.symm.trans hrun')
  obtain rfl := Except.ok.inj hr
  exact ⟨hroot.meaning hadmissible, hroot⟩

/-- **The result of the scan is the query over the document's tree**, for every accepted document.
    So documents that denote the same tree get the same action, whatever the policy: no spelling
    hides a tool. -/
theorem scan_meaning (toLower : List Byte → List Byte) (policy : Policy) {bytes : List Byte}
    {r : RequestScan} (h : scanResponsesRequest bytes = .ok r) :
    (∃ es, Document 511 bytes es) ∧
      ∀ es, Document 511 bytes es → Meaning (rootTree es) r ∧
        ∀ bytes' r' es', scanResponsesRequest bytes' = .ok r' → Document 511 bytes' es' →
          rootTree es' = rootTree es →
          chooseAction toLower policy r' = chooseAction toLower policy r := by
  constructor
  · obtain ⟨s, hrun⟩ := scan_ok h
    obtain ⟨es, hdocument, -⟩ := scanDocument_inv hrun
    exact ⟨es, hdocument⟩
  · intro es hdocument
    have hmeaning := (meaning_of_scan h hdocument).1
    refine ⟨hmeaning, fun bytes' r' es' h' hdocument' htree => ?_⟩
    have hmeaning' := (meaning_of_scan h' hdocument').1
    rw [htree] at hmeaning'
    exact chooseAction_unplaced toLower policy (hmeaning'.unique hmeaning)

/-- A computer tool whose type is spelled with an escape is found. -/
theorem scan_meaning_escapedComputer :
    ∃ r, scanResponsesRequest (ascii "\x7b\"tool_choice\":\x7b\"type\":\"\\u0063omputer\"\x7d\x7d") = .ok r ∧
      chooseAction id ⟨[]⟩ r = .rejectHostedComputer ∧
      ∃ es, HostedTool isComputerTool (rootTree es) := by
  have hscan : scanResponsesRequest (ascii "\x7b\"tool_choice\":\x7b\"type\":\"\\u0063omputer\"\x7d\x7d") =
      .ok { RequestScan.zero with hostedComputer := true } := by
    decide +kernel
  obtain ⟨⟨es, hdocument⟩, hmeaning⟩ := scan_meaning id ⟨[]⟩ hscan
  exact ⟨_, hscan, by decide, es, (hmeaning es hdocument).1.hostedComputer.mp rfl⟩

end Responses
