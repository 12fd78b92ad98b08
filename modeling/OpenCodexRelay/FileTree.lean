/-
  A tree of directories and files, on a file system that may identify names.

  Programs that create files name them by paths, and whether two paths name the same file is up to the
  file system: it may fold the case of letters, or not.  Here a file system is a function `key` on names;
  two names are the same to it if they have the same key.

  1. `find`, `isDirectory`: what stands at a path.
  2. `mkdir`, `mkdirAll`, `create`: the three ways to make something, as the operating system offers
     them.  None of them replaces anything.
  3. One lemma for each: what it means that the call succeeded.  `mkdirAll_ok` says that exactly the
     directories below some directory that was there have been made.
-/
import Mathlib.Data.List.Infix
import Mathlib.Tactic.Common

namespace FileTree

/-- A directory or a file, with its mode. -/
inductive Node (μ γ : Type) where
  | dir (mode : μ)
  | file (mode : μ) (content : γ)
  deriving DecidableEq, Repr

/-- Why a call refuses. -/
inductive Refusal where
  | exists
  | missing
  | notDirectory
  deriving DecidableEq, Repr

section Tree

variable {ν κ μ γ : Type} [DecidableEq κ] (key : ν → κ)

/-- What stands at a path. -/
def find (nodes : List (List ν × Node μ γ)) (p : List ν) : Option (Node μ γ) :=
  (nodes.find? fun x => x.1.map key = p.map key).map (·.2)

/-- The root is a directory. -/
def isDirectory (nodes : List (List ν × Node μ γ)) (p : List ν) : Bool :=
  p.isEmpty || match find key nodes p with
    | some (.dir _) => true
    | _ => false

/-- `mkdir(2)`. -/
def mkdir (mode : μ) (nodes : List (List ν × Node μ γ)) (p : List ν) :
    Except Refusal (List (List ν × Node μ γ)) :=
  if p.isEmpty || (find key nodes p).isSome then .error .exists
  else if isDirectory key nodes p.dropLast then .ok ((p, .dir mode) :: nodes)
  else .error .missing

/-- `mkdirAll` for a path whose last name stands first. -/
def mkdirAllUp (mode : μ) (nodes : List (List ν × Node μ γ)) :
    List ν → Except Refusal (List (List ν × Node μ γ))
  | [] => .ok nodes
  | c :: up =>
    match find key nodes (c :: up).reverse with
    | some (.dir _) => .ok nodes
    | some (.file _ _) => .error .notDirectory
    | none => match mkdirAllUp mode nodes up with
      | .error e => .error e
      | .ok nodes' => mkdir key mode nodes' (c :: up).reverse

/-- Makes a directory and those above it that are missing. -/
def mkdirAll (mode : μ) (nodes : List (List ν × Node μ γ)) (p : List ν) :
    Except Refusal (List (List ν × Node μ γ)) :=
  mkdirAllUp key mode nodes p.reverse

/-- `open(2)` with `O_CREAT | O_EXCL`, and the content that is written. -/
def create (mode : μ) (content : γ) (nodes : List (List ν × Node μ γ)) (p : List ν) :
    Except Refusal (List (List ν × Node μ γ)) :=
  if p.isEmpty || (find key nodes p).isSome then .error .exists
  else if isDirectory key nodes p.dropLast then .ok ((p, .file mode content) :: nodes)
  else .error .missing

variable {key} {nodes nodes' : List (List ν × Node μ γ)} {p q : List ν} {mode : μ} {node : Node μ γ}

theorem find_mem (h : find key nodes p = some node) :
    ∃ q, (q, node) ∈ nodes ∧ q.map key = p.map key := by
  obtain ⟨⟨q, n⟩, hfind, rfl⟩ := Option.map_eq_some_iff.mp h
  have hkey := List.find?_some hfind
  exact ⟨q, List.mem_of_find?_eq_some hfind, of_decide_eq_true hkey⟩

theorem find_eq_none : find key nodes p = none ↔ ∀ x ∈ nodes, x.1.map key ≠ p.map key := by
  rw [find, Option.map_eq_none_iff, List.find?_eq_none]
  simp

theorem isDirectory_cases (h : isDirectory key nodes p = true) :
    p = [] ∨ ∃ mode, find key nodes p = some (.dir mode) := by
  rw [isDirectory, Bool.or_eq_true] at h
  rcases h with hnil | hfind
  · exact .inl (List.isEmpty_iff.mp hnil)
  · right
    split at hfind
    · exact ⟨_, ‹_›⟩
    · cases hfind

theorem place_ok
    (h : (if p.isEmpty || (find key nodes p).isSome then .error .exists
      else if isDirectory key nodes p.dropLast then .ok ((p, node) :: nodes)
      else .error .missing : Except Refusal (List (List ν × Node μ γ))) = .ok nodes') :
    nodes' = (p, node) :: nodes ∧ isDirectory key nodes p.dropLast = true := by
  split_ifs at h with _ hparent
  exact ⟨(Except.ok.inj h).symm, hparent⟩

theorem mkdir_ok (h : mkdir key mode nodes p = .ok nodes') :
    nodes' = (p, .dir mode) :: nodes ∧ isDirectory key nodes p.dropLast = true :=
  place_ok h

theorem create_ok {content : γ} (h : create key mode content nodes p = .ok nodes') :
    nodes' = (p, .file mode content) :: nodes ∧ isDirectory key nodes p.dropLast = true :=
  place_ok h

/-- **What `mkdirAll` has made**: the directories on the way that are below one that was there. -/
structure Made (key : ν → κ) (mode : μ) (nodes new : List (List ν × Node μ γ)) (p above : List ν) :
    Prop where
  onWay : above <+: p
  directory : isDirectory key nodes above = true
  mem : ∀ q node, (q, node) ∈ new ↔ q <+: p ∧ above.length < q.length ∧ node = .dir mode
  free : ∀ q, q <+: p → above.length < q.length → find key nodes q = none

/-- Where the directory is there, nothing is made. -/
theorem made_nil (h : isDirectory key nodes p = true) : Made key mode nodes [] p p := by
  refine ⟨List.prefix_rfl, h, fun q node => ?_, fun q hq hlt => ?_⟩
  · refine iff_of_false List.not_mem_nil fun hmem => ?_
    exact absurd hmem.1.length_le (Nat.not_le.mpr hmem.2.1)
  · exact absurd hq.length_le (Nat.not_le.mpr hlt)

theorem mkdirAll_ok (h : mkdirAll key mode nodes p = .ok nodes') :
    ∃ new above, nodes' = new ++ nodes ∧ Made key mode nodes new p above := by
  have hup : ∀ (up : List ν) (nodes' : List (List ν × Node μ γ)),
      mkdirAllUp key mode nodes up = .ok nodes' →
      ∃ new above, nodes' = new ++ nodes ∧ Made key mode nodes new up.reverse above := by
    intro up
    induction up with
    | nil =>
      intro nodes' h
      obtain rfl := Except.ok.inj h
      exact ⟨[], [], rfl, made_nil rfl⟩
    | cons c up ih =>
      intro nodes' h
      rw [mkdirAllUp] at h
      split at h
      · -- The directory is there.
        rename_i mode' hfind
        obtain rfl := Except.ok.inj h
        refine ⟨[], (c :: up).reverse, rfl, made_nil ?_⟩
        rw [isDirectory, hfind]
        exact Bool.or_true _
      · cases h
      · rename_i hfind
        split at h
        · cases h
        · rename_i nodes1 hrec
          obtain ⟨new, above, rfl, hmade⟩ := ih nodes1 hrec
          obtain ⟨rfl, -⟩ := mkdir_ok h
          have hlength : (c :: up).reverse.length = up.reverse.length + 1 := by simp
          have hpre : up.reverse <+: (c :: up).reverse := by
            rw [List.reverse_cons]
            exact List.prefix_append _ _
          -- A path on the way is the whole way, or on the way to the directory above.
          have hcases : ∀ q, q <+: (c :: up).reverse ↔ q = (c :: up).reverse ∨ q <+: up.reverse := by
            intro q
            rw [List.reverse_cons, List.prefix_concat_iff]
          refine ⟨((c :: up).reverse, .dir mode) :: new, above, rfl, hmade.onWay.trans hpre,
            hmade.directory, fun q node => ?_, fun q hq hlt => ?_⟩
          · rw [List.mem_cons, hmade.mem, hcases, Prod.mk.injEq]
            have hle := hmade.onWay.length_le
            constructor
            · rintro (⟨rfl, rfl⟩ | ⟨hq, hlt, rfl⟩)
              · exact ⟨.inl rfl, by omega, rfl⟩
              · exact ⟨.inr hq, hlt, rfl⟩
            · rintro ⟨rfl | hq, hlt, rfl⟩
              · exact .inl ⟨rfl, rfl⟩
              · exact .inr ⟨hq, hlt, rfl⟩
          · rcases (hcases q).mp hq with rfl | hq
            · exact hfind
            · exact hmade.free q hq hlt
  obtain ⟨new, above, hnodes, hmade⟩ := hup p.reverse nodes' h
  rw [List.reverse_reverse] at hmade
  exact ⟨new, above, hnodes, hmade⟩

end Tree

end FileTree
