/-
  Strict decoding of control messages, journals and manifests.

  Five places read JSON that is not trusted: the control socket, two journals beside the routing state, the
  container store and the signed runtime manifest.  Each pairs a scan that refuses an object with two members
  of the same name with a decoder that refuses members without a field.

  1. `Schema`: the types into which is decoded, and `fieldFor`: the field a name is decoded into, by its exact
     spelling or else without regard to case.
  2. `decodes`: whether the decoder accepts a document.
  3. `scanValue`: the scan for names that occur twice, over the decoder's tokens.
  4. `readControlJSON`, `loadMaintenance`, `loadRuntimeRouting`, `decodeStrict`, `Verify`.

  What becomes of a character beyond ASCII when case is disregarded is a parameter, as are the checks of the
  decoded values.
-/
import OpenCodexRelay.JsonReader

namespace StrictJson

open Json

abbrev Bytes := List Byte

/-! ## Types and fields -/

inductive Schema where
  | string
  | bool
  /-- `int` and `int64`. -/
  | int
  /-- `uint64`. -/
  | uint
  | pointer (target : Schema)
  | slice (item : Schema)
  | struct (fields : List (Bytes × Schema))

/-- Pointers are followed. -/
def Schema.target : Schema → Schema
  | .pointer s => s.target
  | s => s

section Folding

-- the smallest character of the same fold set, for characters beyond ASCII
variable (foldRune : Bytes → Bytes)

def foldByte (b : Byte) : Byte := if 0x61 ≤ b && b ≤ 0x7a then b - 0x20 else b

/-- `appendFoldedName`, at most so many characters. -/
def foldSome : ℕ → Bytes → Bytes
  | n + 1, b :: rest =>
    if b < 0x80 then foldByte b :: foldSome n rest
    else foldRune (nextCharacter b rest).1 ++ foldSome n ((b :: rest).drop (nextCharacter b rest).2)
  | _, _ => []

/-- `foldName`: two names are the same without regard to case if they are folded to the same name. -/
def foldName (name : Bytes) : Bytes := foldSome foldRune name.length name

/-- **The field into which a member is decoded**: the one with exactly that name, or else the first that has
    it without regard to case. -/
def fieldFor (fields : List (Bytes × Schema)) (name : Bytes) : Option (Bytes × Schema) :=
  match fields.find? fun f => f.1 == name with
  | some f => some f
  | none => fields.find? fun f => foldName foldRune f.1 == foldName foldRune name

/-! ## The decoder -/

/-- `strconv.ParseInt` of the literal. -/
def fitsInt (n : NumberLiteral) : Bool :=
  n.frac.isNone && n.exp.isNone &&
    decide (NumberLiteral.digitsValue n.int ≤ if n.minus then 2 ^ 63 else 2 ^ 63 - 1)

/-- `strconv.ParseUint` of the literal. -/
def fitsUint (n : NumberLiteral) : Bool :=
  n.frac.isNone && n.exp.isNone && !n.minus && decide (NumberLiteral.digitsValue n.int < 2 ^ 64)

mutual

/-- `Decode` with `DisallowUnknownFields` succeeds; `null` leaves every destination as it is. -/
def decodes (s : Schema) : Doc → Bool
  | .null => true
  | .bool _ => match s.target with
    | .bool => true
    | _ => false
  | .number n => match s.target with
    | .int => fitsInt n
    | .uint => fitsUint n
    | _ => false
  | .string _ => match s.target with
    | .string => true
    | _ => false
  | .array items => match s.target with
    | .slice item => decodesItems item items
    | _ => false
  | .object members => match s.target with
    | .struct fields => decodesMembers fields members
    | _ => false

def decodesItems (item : Schema) : List Doc → Bool
  | [] => true
  | d :: rest => decodes item d && decodesItems item rest

def decodesMembers (fields : List (Bytes × Schema)) : List (Bytes × Doc) → Bool
  | [] => true
  | (name, d) :: rest =>
    (match fieldFor foldRune fields name with
      | some f => decodes f.2 d
      | none => false) && decodesMembers fields rest

end

end Folding

/-! ## The scan for names that occur twice -/

/-- `decoder.More()`. -/
def more : List Token → Bool
  | [] => false
  | .closeObject :: _ => false
  | .closeArray :: _ => false
  | _ => true

mutual

/-- `walk`, `scanJSON`, `scanJSONValue`: the tokens that are left after one value; `none` for an error. -/
def scanValue : ℕ → List Token → Option (List Token)
  | 0, _ => none
  | n + 1, tokens => match tokens with
    | .openObject :: rest => scanMembers n [] rest
    | .openArray :: rest => scanItems n rest
    | .closeObject :: _ => none
    | .closeArray :: _ => none
    | _ :: rest => some rest
    | [] => none

/-- The loop over an object; `seen` are the names so far. -/
def scanMembers : ℕ → List Bytes → List Token → Option (List Token)
  | 0, _, _ => none
  | n + 1, seen, tokens =>
    if more tokens then match tokens with
      | .string key :: rest =>
        if key ∈ seen then none
        else (scanValue n rest).bind fun rest => scanMembers n (key :: seen) rest
      | _ => none
    else match tokens with
      | .closeObject :: rest => some rest
      | _ => none

def scanItems : ℕ → List Token → Option (List Token)
  | 0, _ => none
  | n + 1, tokens =>
    if more tokens then (scanValue n tokens).bind fun rest => scanItems n rest
    else match tokens with
      | .closeArray :: rest => some rest
      | _ => none

end

/-- The decoder refuses more nested containers. -/
def maxNestingDepth : ℕ := 10000

/-- `rejectDuplicateJSONKeys` returns no error: one value and nothing after it, and no object in it has two
    members of the same name.  Every step of the scan takes a token. -/
def rejectDuplicateJSONKeys (payload : Bytes) : Bool :=
  match parse maxNestingDepth payload with
  | some d => scanValue (2 * d.tokens.length + 1) d.tokens == some []
  | none => false

section Readers

variable (foldRune : Bytes → Bytes)

/-- One value is decoded, and nothing comes after it. -/
def decodeOnly (destination : Schema) (payload : Bytes) : Option Doc :=
  match parse maxNestingDepth payload with
  | some d => if decodes foldRune destination d then some d else none
  | none => none

/-! ## Destinations -/

/-- `MaintenanceIntent`, the same in both packages. -/
def maintenanceIntent : Schema := .struct
  [(ascii "operation_id", .string), (ascii "installation_id", .string),
    (ascii "old_manifest_sha256", .string), (ascii "new_manifest_sha256", .string),
    (ascii "old_image_digest", .string), (ascii "new_image_digest", .string),
    (ascii "old_state_generation", .uint), (ascii "new_state_generation", .uint)]

/-- `RuntimeRoutingIntent` has the same fields. -/
def runtimeRoutingIntent : Schema := maintenanceIntent

/-- `MaintenanceWitness`, the same in both packages. -/
def maintenanceWitness : Schema := .struct
  [(ascii "schema", .int), (ascii "backend", .string), (ascii "origin_routing_generation", .uint),
    (ascii "prepared_routing_generation", .uint), (ascii "final_routing_generation", .uint),
    (ascii "intent", maintenanceIntent)]

def maintenanceRoutingStatus : Schema := .struct
  [(ascii "schema", .int), (ascii "routing_generation", .uint), (ascii "backend", .string),
    (ascii "phase", .string), (ascii "pending", .bool)]

def controlRequest : Schema := .struct
  [(ascii "schema", .int), (ascii "operation", .string), (ascii "generation", .uint),
    (ascii "backend", .string), (ascii "intent", .pointer maintenanceIntent),
    (ascii "witness", .pointer maintenanceWitness)]

def controlResponse : Schema := .struct
  [(ascii "ok", .bool), (ascii "generation", .uint), (ascii "backend", .string),
    (ascii "maintenance", .pointer maintenanceRoutingStatus), (ascii "witness", .pointer maintenanceWitness),
    (ascii "code", .string)]

def maintenanceJournal : Schema := .struct
  [(ascii "schema", .int), (ascii "bound_config_path", .string), (ascii "witness", maintenanceWitness)]

def runtimeRoutingJournal : Schema := .struct
  [(ascii "schema", .int), (ascii "bound_config_path", .string), (ascii "bound_codex_config_path", .string),
    (ascii "intent", runtimeRoutingIntent), (ascii "origin_backend", .string),
    (ascii "target_backend", .string), (ascii "origin_routing_generation", .uint),
    (ascii "target_apple_active", .bool), (ascii "phase", .string), (ascii "attempt_kind", .string),
    (ascii "attempt_direction", .string), (ascii "attempt_start_generation", .uint),
    (ascii "attempt_start_desired_backend", .string), (ascii "attempt_start_applied_backend", .string),
    (ascii "attempt_start_phase", .string), (ascii "attempt_origin_backend", .string),
    (ascii "attempt_target_backend", .string), (ascii "attempt_requested_generation", .uint),
    (ascii "attempt_recovery_generation", .uint), (ascii "attempt_applying_generation", .uint),
    (ascii "attempt_final_generation", .uint), (ascii "source_journal_generation", .uint),
    (ascii "source_journal_origin_backend", .string), (ascii "source_journal_target_backend", .string),
    (ascii "resolved_routing_generation", .uint), (ascii "resolved_apple_active", .bool)]

/-- The embedded `ArtifactSummary` has its fields in the record. -/
def artifactRecord : Schema := .struct
  [(ascii "artifact_version", .string), (ascii "release_sequence", .uint),
    (ascii "manifest_sha256", .string), (ascii "index_digest", .string), (ascii "arm64_digest", .string),
    (ascii "release_id", .int), (ascii "release_tag", .string), (ascii "source_revision", .string)]

def durableState : Schema := .struct
  [(ascii "schema", .int), (ascii "installation_id", .string), (ascii "status", .string),
    (ascii "highest_seen_sequence", .uint), (ascii "staged", .pointer artifactRecord),
    (ascii "active", .pointer artifactRecord), (ascii "previous", .pointer artifactRecord),
    (ascii "active_generation", .uint), (ascii "previous_generation", .uint),
    (ascii "next_generation", .uint), (ascii "container_id", .string),
    (ascii "active_operation_id", .string), (ascii "routing_generation", .uint)]

def transactionJournal : Schema := .struct
  [(ascii "schema", .int), (ascii "installation_id", .string), (ascii "operation_id", .string),
    (ascii "phase", .string), (ascii "expected_state_digest", .string),
    (ascii "expected_routing_generation", .uint), (ascii "old_artifact", .pointer artifactRecord),
    (ascii "new_artifact", artifactRecord), (ascii "old_generation", .uint),
    (ascii "new_generation", .uint), (ascii "old_container_id", .string),
    (ascii "old_operation_id", .string), (ascii "new_container_id", .string),
    (ascii "reuse_generation", .bool), (ascii "cleanup_new_generation", .bool),
    (ascii "obsolete_generation", .uint), (ascii "maintenance", .pointer maintenanceWitness)]

def stopTransactionJournal : Schema := .struct
  [(ascii "schema", .int), (ascii "installation_id", .string), (ascii "operation_id", .string),
    (ascii "phase", .string), (ascii "expected_state_digest", .string),
    (ascii "expected_routing_generation", .uint), (ascii "final_routing_generation", .uint),
    (ascii "artifact", artifactRecord), (ascii "state_generation", .uint), (ascii "container_id", .string),
    (ascii "active_operation_id", .string)]

def oauthSession : Schema := .struct
  [(ascii "schema", .int), (ascii "operation_id", .string), (ascii "provider", .string),
    (ascii "kind", .string), (ascii "upstream_flow_id", .string), (ascii "created_at_unix", .int)]

/-- The answer to the delivery of the secrets. -/
def bootstrapAck : Schema := .struct [(ascii "schema", .int), (ascii "accepted", .bool)]

def platform : Schema := .struct
  [(ascii "os", .string), (ascii "arch", .string), (ascii "digest", .string)]

def manifest : Schema := .struct
  [(ascii "schema", .int), (ascii "artifact_kind", .string), (ascii "artifact_version", .string),
    (ascii "release_sequence", .uint), (ascii "channel", .string),
    (ascii "source", .struct [(ascii "repository", .string), (ascii "revision", .string),
      (ascii "upstream_lock_sha256", .string)]),
    (ascii "upstream", .struct [(ascii "repository", .string), (ascii "release_id", .int),
      (ascii "release_tag", .string), (ascii "version", .string), (ascii "revision", .string),
      (ascii "npm_package", .string), (ascii "npm_integrity", .string)]),
    (ascii "image", .struct [(ascii "repository", .string), (ascii "index_digest", .string),
      (ascii "platforms", .slice platform)]),
    (ascii "compatibility", .struct [(ascii "minimum_relay_version", .string),
      (ascii "minimum_macos", .string), (ascii "minimum_apple_container", .string),
      (ascii "management_api_revision", .int), (ascii "secret_delivery", .string),
      (ascii "state_format_revision", .int)]),
    (ascii "canary", .struct [(ascii "source_revision", .string), (ascii "workflow_run_id", .string),
      (ascii "workflow_run_attempt", .int), (ascii "result", .string)]),
    (ascii "trust_key_id", .string)]

/-! ## The five readers -/

/-- The encodings of the characters that `bytes.TrimSpace` removes. -/
def trimmed : List Bytes :=
  [[0x09], [0x0a], [0x0b], [0x0c], [0x0d], [0x20], [0xc2, 0x85], [0xc2, 0xa0], [0xe1, 0x9a, 0x80],
    [0xe2, 0x80, 0x80], [0xe2, 0x80, 0x81], [0xe2, 0x80, 0x82], [0xe2, 0x80, 0x83], [0xe2, 0x80, 0x84],
    [0xe2, 0x80, 0x85], [0xe2, 0x80, 0x86], [0xe2, 0x80, 0x87], [0xe2, 0x80, 0x88], [0xe2, 0x80, 0x89],
    [0xe2, 0x80, 0x8a], [0xe2, 0x80, 0xa8], [0xe2, 0x80, 0xa9], [0xe2, 0x80, 0xaf], [0xe2, 0x81, 0x9f],
    [0xe3, 0x80, 0x80]]

def trimLeft : ℕ → Bytes → Bytes
  | n + 1, bs => match trimmed.find? fun space => space.isPrefixOf bs with
    | some space => trimLeft n (bs.drop space.length)
    | none => bs
  | 0, bs => bs

def trimRight : ℕ → Bytes → Bytes
  | n + 1, bs => match trimmed.find? fun space => space.isSuffixOf bs with
    | some space => trimRight n (bs.take (bs.length - space.length))
    | none => bs
  | 0, bs => bs

def trimSpace (bs : Bytes) : Bytes := trimRight bs.length (trimLeft bs.length bs)

def maxControlBytes : ℕ := 16 * 1024

/-- `ReadSlice('\n')`, and whether it ended at a newline. -/
def readLine (connection : Bytes) : Bytes × Bool :=
  let head := connection.takeWhile (· != 0x0a)
  if head.length < connection.length then (head ++ [0x0a], true) else (head, false)

/-- `readControlJSON` on what the peer sends until it stops; `broken`: it stopped by an error.  The only
    error is `ErrControlRequest`. -/
def readControlJSON (connection : Bytes) (broken : Bool) (destination : Schema) : Option Doc :=
  let (line, ended) := readLine connection
  if maxControlBytes < line.length then none
  else if !ended && broken then none
  else
    let payload := trimSpace line
    if payload = [] ∨ maxControlBytes < payload.length ∨ rejectDuplicateJSONKeys payload = false then none
    else decodeOnly foldRune destination payload

inductive Refusal where
  /-- `ErrStateCorrupt`, with its text. -/
  | stateCorrupt (text : String)
  | runtimeRoutingWitness
  | unsafeState
  /-- An error of the decoder or of the scan. -/
  | decoder
  /-- Another error of `Verify`, with its text. -/
  | manifest (text : String)
  deriving DecidableEq, Repr

def maxMaintenanceBytes : ℕ := 16 * 1024

/-- `loadMaintenance`, of a file that could be read; `validate` is the check of the decoded journal. -/
def loadMaintenance (validate : Doc → Except Refusal Unit) (payload : Bytes) : Except Refusal Doc :=
  if maxMaintenanceBytes < payload.length then
    .error (.stateCorrupt "runtime maintenance journal exceeds limit")
  else if rejectDuplicateJSONKeys payload = false then
    .error (.stateCorrupt "duplicate runtime maintenance journal key")
  else match decodeOnly foldRune maintenanceJournal payload with
    | none => .error (.stateCorrupt "decode runtime maintenance journal")
    | some d => (validate d).map fun _ => d

def maxRuntimeRoutingBytes : ℕ := 16 * 1024

/-- `loadRuntimeRouting`, of a file that could be read. -/
def loadRuntimeRouting (validate : Doc → Except Refusal Unit) (payload : Bytes) : Except Refusal Doc :=
  if maxRuntimeRoutingBytes < payload.length ∨ rejectDuplicateJSONKeys payload = false then
    .error .runtimeRoutingWitness
  else match decodeOnly foldRune runtimeRoutingJournal payload with
    | none => .error .runtimeRoutingWitness
    | some d => (validate d).map fun _ => d

def maximumStateBytes : ℕ := 64 * 1024

/-- `decodeStrict` of the container store. -/
def decodeStrict (data : Bytes) (destination : Schema) : Except Refusal Doc :=
  if data = [] ∨ maximumStateBytes < data.length then .error .unsafeState
  else if rejectDuplicateJSONKeys data = false then .error .decoder
  else match decodeOnly foldRune destination data with
    | none => .error .decoder
    | some d => .ok d

def maximumManifestBytes : ℕ := 64 * 1024

def maximumSignatureBytes : ℕ := 4 * 1024

/-- `runtimemanifest.Verify`; `authentic` stands for the public key and the signature, `validate` for the
    policy. -/
def Verify (authentic : Bytes → Bytes → Except Refusal Unit) (validate : Doc → Except Refusal Unit)
    (manifestBytes signatureBytes : Bytes) : Except Refusal Doc :=
  if manifestBytes = [] ∨ maximumManifestBytes < manifestBytes.length then
    .error (.manifest "runtime manifest size is invalid")
  else if signatureBytes = [] ∨ maximumSignatureBytes < signatureBytes.length then
    .error (.manifest "runtime manifest signature size is invalid")
  else match authentic manifestBytes signatureBytes with
    | .error e => .error e
    | .ok _ =>
      if rejectDuplicateJSONKeys manifestBytes = false then .error .decoder
      else match decodeOnly foldRune manifest manifestBytes with
        | none => .error .decoder
        | some d => (validate d).map fun _ => d

end Readers

end StrictJson
