import NodeAtlas.Decimal

/-! How the credentials of connections are encrypted, and what that binds them
to. -/

set_option autoImplicit false

namespace NodeAtlas.Secrets

structure Envelope where
  ciphertext : GoString
  nonce : GoString
  keyVersion : Int
  deriving DecidableEq, Repr

/-- AES-GCM: `seal_` and `open_` are `Seal` and `Open` under a key. -/
structure GCM where
  seal_ : (key nonce plaintext data : GoString) → GoString
  open_ : (key nonce ciphertext data : GoString) → Option GoString

/-- AES-GCM opens what was sealed with the same key, nonce and additional data,
and nothing else that was sealed. -/
structure GCM.Authentic (gcm : GCM) : Prop where
  opens : ∀ key nonce plaintext data,
    gcm.open_ key nonce (gcm.seal_ key nonce plaintext data) data = some plaintext
  only : ∀ key nonce data sealedKey sealedNonce sealedData plaintext,
    (gcm.open_ key nonce (gcm.seal_ sealedKey sealedNonce plaintext sealedData) data).isSome = true →
    key = sealedKey ∧ nonce = sealedNonce ∧ data = sealedData

def nonceSize : Nat := 12

/-- What `io.ReadFull` fills a nonce with. -/
abbrev Nonce : Type := { bytes : GoString // bytes.length = nonceSize }

/-- The key lengths for which `newGCM` succeeds. -/
def validKey (key : GoString) : Bool :=
  key.length = 16 || key.length = 24 || key.length = 32

def keyOf (keys : List (Int × GoString)) (version : Int) : Option GoString :=
  (keys.find? fun entry => entry.1 = version).map (·.2)

structure CredentialCipher where
  keys : List (Int × GoString)
  activeVersion : Int
  positive : ∀ entry ∈ keys, 1 ≤ entry.1
  sized : ∀ entry ∈ keys, entry.2.length = 32
  configured : (keyOf keys activeVersion).isSome = true

private theorem proper {keys : List (Int × GoString)}
    (fine : (keys.find? fun entry => entry.1 < 1 || entry.2.length ≠ 32) = none) :
    ∀ entry ∈ keys, 1 ≤ entry.1 ∧ entry.2.length = 32 := by
  intro entry member
  have passed := List.find?_eq_none.mp fine entry member
  simp only [Bool.or_eq_true, decide_eq_true_eq, not_or, not_not] at passed
  constructor
  · omega
  · exact passed.2

/-- `NewCredentialCipher`; the map of the keys is a list of its entries. -/
def newCredentialCipher (keys : List (Int × GoString)) (activeVersion : Int) :
    Except GoError CredentialCipher :=
  if keys = [] then .error (.plain (text "at least one credential key is required"))
  else
    match fine : keys.find? fun entry => entry.1 < 1 || entry.2.length ≠ 32 with
    | some (version, _) =>
        if version < 1 then .error (.plain (text "credential key versions must be positive"))
        else .error (.plain (text "credential key version " ++ integerText version ++ text " must be 32 bytes"))
    | none =>
        if configured : (keyOf keys activeVersion).isSome = true then
          .ok ⟨keys, activeVersion, fun entry member => (proper fine entry member).1,
            fun entry member => (proper fine entry member).2, configured⟩
        else .error (.plain (text "active credential key version is not configured"))

def additionalData (connectionID providerType : GoString) (version : Int) : GoString :=
  text "controlpanel:credentials:v" ++ integerText version ++ 0 :: (providerType ++ 0 :: connectionID)

section Code

variable (gcm : GCM) (credentialCipher : CredentialCipher)

/-- The key is there, and of the right length, by how the cipher was made. -/
def activeKey : GoString :=
  (keyOf credentialCipher.keys credentialCipher.activeVersion).get credentialCipher.configured

/-- `random` is what becomes of the nonce. -/
def encrypt {m : Type → Type} [Monad m] (random : m (Option Nonce))
    (connectionID providerType plaintext : GoString) : m (Except GoError Envelope) := do
  if connectionID = [] ∨ providerType = [] then
    return .error (.plain (text "connection ID and provider type are required"))
  else
    match ← random with
    | none => return .error (.plain (text "generate credential nonce"))
    | some nonce =>
        let version := credentialCipher.activeVersion
        let ciphertext := gcm.seal_ (activeKey credentialCipher) nonce.1 plaintext
          (additionalData connectionID providerType version)
        return .ok ⟨ciphertext, nonce.1, version⟩

def decrypt (connectionID providerType : GoString) (envelope : Envelope) : Except GoError GoString :=
  match keyOf credentialCipher.keys envelope.keyVersion with
  | none =>
      .error (.plain (text "unknown credential key version: " ++ integerText envelope.keyVersion))
  | some key =>
      if validKey key = false ∨ envelope.nonce.length ≠ nonceSize then
        .error (.plain (text "unable to decrypt credentials"))
      else
        match gcm.open_ key envelope.nonce envelope.ciphertext
            (additionalData connectionID providerType envelope.keyVersion) with
        | some plaintext => .ok plaintext
        | none => .error (.plain (text "unable to decrypt credentials"))

end Code

/-! ## What the additional data say -/

/-- Without NUL in provider types the additional data determine what they were
made from. -/
theorem additionalData_injective {id otherID type otherType : GoString} {version otherVersion : Int}
    (clean : 0 ∉ type) (otherClean : 0 ∉ otherType)
    (same : additionalData id type version = additionalData otherID otherType otherVersion) :
    id = otherID ∧ type = otherType ∧ version = otherVersion := by
  unfold additionalData at same
  rw [List.append_assoc, List.append_assoc] at same
  obtain ⟨versions, rest⟩ :=
    cut_unique (integerText_clean _ (by decide) (by decide)) (integerText_clean _ (by decide) (by decide))
      (List.append_cancel_left same)
  obtain ⟨types, ids⟩ := cut_unique clean otherClean rest
  exact ⟨ids, types, integerText_injective versions⟩

/-! ## Envelopes -/

/-- Every key of the one is a key of the other. -/
def Grows (before after : CredentialCipher) : Prop :=
  ∀ entry ∈ before.keys, keyOf before.keys entry.1 = keyOf after.keys entry.1

instance (before after : CredentialCipher) : Decidable (Grows before after) := by
  unfold Grows
  infer_instance

theorem Grows.key {before after : CredentialCipher} (grows : Grows before after) {version : Int}
    {key : GoString} (known : keyOf before.keys version = some key) : keyOf after.keys version = some key := by
  obtain ⟨entry, found, _⟩ := Option.map_eq_some_iff.mp known
  have named : entry.1 = version := by simpa using List.find?_some found
  have kept := grows entry (List.mem_of_find?_eq_some found)
  rw [named, known] at kept
  exact kept.symm

theorem Grows.refl (credentialCipher : CredentialCipher) : Grows credentialCipher credentialCipher :=
  fun _ _ => rfl

theorem Grows.trans {first second third : CredentialCipher} (earlier : Grows first second)
    (later : Grows second third) : Grows first third := by
  intro entry member
  have known : (keyOf first.keys entry.1).isSome = true := by
    unfold keyOf
    rw [Option.isSome_map, List.find?_isSome]
    exact ⟨entry, member, by simp⟩
  obtain ⟨key, found⟩ := Option.isSome_iff_exists.mp known
  rw [found]
  exact (later.key (earlier.key found)).symm

/-- An envelope that one of the keys of a cipher sealed. -/
structure SealedBy (gcm : GCM) (credentialCipher : CredentialCipher) (connectionID providerType plaintext : GoString)
    (envelope : Envelope) : Prop where
  sealed : ∃ key, keyOf credentialCipher.keys envelope.keyVersion = some key ∧
    envelope.ciphertext = gcm.seal_ key envelope.nonce plaintext
      (additionalData connectionID providerType envelope.keyVersion)
  sized : envelope.nonce.length = nonceSize

variable {gcm : GCM} {credentialCipher : CredentialCipher} {id type plaintext : GoString} {envelope : Envelope}

theorem SealedBy.grown {later : CredentialCipher} (by_ : SealedBy gcm credentialCipher id type plaintext envelope)
    (grows : Grows credentialCipher later) : SealedBy gcm later id type plaintext envelope := by
  obtain ⟨key, known, same⟩ := by_.sealed
  exact ⟨⟨key, grows.key known, same⟩, by_.sized⟩

/-- What a cipher encrypts, it has sealed. -/
theorem sealed_envelope (nonce : Nonce) :
    SealedBy gcm credentialCipher id type plaintext
      ⟨gcm.seal_ (activeKey credentialCipher) nonce.1 plaintext
        (additionalData id type credentialCipher.activeVersion), nonce.1, credentialCipher.activeVersion⟩ :=
  ⟨⟨_, (Option.some_get credentialCipher.configured).symm, rfl⟩, nonce.2⟩

theorem SealedBy.opens (authentic : gcm.Authentic)
    (by_ : SealedBy gcm credentialCipher id type plaintext envelope) :
    decrypt gcm credentialCipher id type envelope = .ok plaintext := by
  obtain ⟨key, known, same⟩ := by_.sealed
  obtain ⟨entry, found, rfl⟩ := Option.map_eq_some_iff.mp known
  have length := credentialCipher.sized entry (List.mem_of_find?_eq_some found)
  have allowed : ¬ (validKey entry.2 = false ∨ envelope.nonce.length ≠ nonceSize) := by
    simp [validKey, length, by_.sized]
  unfold decrypt
  rw [known]
  dsimp only
  rw [if_neg allowed, same, authentic.opens]

/-- Whoever the cipher is, an envelope opens only for what it was sealed for. -/
theorem SealedBy.bound (authentic : gcm.Authentic)
    (by_ : SealedBy gcm credentialCipher id type plaintext envelope) {reader : CredentialCipher}
    {otherID otherType read : GoString} {otherVersion : Int} (clean : 0 ∉ type) (otherClean : 0 ∉ otherType)
    (opened : decrypt gcm reader otherID otherType { envelope with keyVersion := otherVersion } = .ok read) :
    otherID = id ∧ otherType = type ∧ otherVersion = envelope.keyVersion := by
  obtain ⟨key, _, same⟩ := by_.sealed
  unfold decrypt at opened
  split at opened
  · cases opened
  · split at opened
    · cases opened
    · split at opened
      · next unsealed =>
          dsimp only at unsealed
          rw [same] at unsealed
          obtain ⟨_, _, data⟩ := authentic.only _ _ _ _ _ _ _ (Option.isSome_of_eq_some unsealed)
          exact additionalData_injective otherClean clean data
      · cases opened

end NodeAtlas.Secrets
