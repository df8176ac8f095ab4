import KnowledgeCore.Federation.Runs
import KnowledgeCore.Lifecycle.Loading

/-!
# Access that is denied

A query reports that access to the source is denied when the process may not open the database
file. Nothing else that goes wrong while the documents are read is reported so.
-/

namespace KnowledgeCore

namespace Federation

open Lifecycle

variable {α β ε : Type} {ext : Externals} {parse : JsonParser} {toLowercase : String → String}
  {vault : FederationVault} {config : VaultJsonV3} {db : FederationDb} {store : ObjectStore}
  {files : Files} {byDoc : EventsByDoc} {faults : Faults} {owner : OwnerDb}

/-! ### Outcomes -/

/-- The code of the error of a file that the process may not open. -/
def ACCESS_DENIED : String := "KC_DB_PERMISSION_DENIED"

/-- An outcome that is not that access is denied. -/
def Undenied (x : AppResult α) : Prop :=
  ∀ e, x = .error e → e.code ≠ ACCESS_DENIED

theorem undenied_ok (a : α) :
  Undenied (.ok a)
  := by
  rintro e ⟨⟩

theorem undenied_error {e : AppError} (h : e.code ≠ ACCESS_DENIED) :
  Undenied (.error e : AppResult α)
  := by
  rintro _ ⟨⟩
  exact h

theorem Undenied.bind {x : AppResult α} {f : α → AppResult β} (hx : Undenied x)
    (hf : ∀ a, Undenied (f a)) :
  Undenied (x >>= f)
  := by
  cases x with
  | error e => exact fun _ h => hx _ (congrArg Except.error (Except.error.inj h))
  | ok a => apply hf

theorem undenied_mapErr {f : ε → AppError} (h : ∀ e, (f e).code ≠ ACCESS_DENIED)
    (x : Except ε α) :
  Undenied (mapErr f x)
  := by
  cases x with
  | error e => apply undenied_error (h e)
  | ok a => apply undenied_ok

theorem undenied_okOrElse {e : AppError} (h : e.code ≠ ACCESS_DENIED) (x : Option α) :
  Undenied (okOrElse e x)
  := by
  cases x with
  | none => apply undenied_error h
  | some a => apply undenied_ok

theorem undenied_attempt {fault : Option String} {refused : String → AppError}
    {outcome : AppResult α} (h : ∀ error, (refused error).code ≠ ACCESS_DENIED)
    (houtcome : Undenied outcome) :
  Undenied (attempt fault refused outcome)
  := by
  cases fault with
  | some error => apply undenied_error (h error)
  | none => exact houtcome

theorem undenied_ite {p : Prop} [Decidable p] {x y : AppResult α} (hx : Undenied x)
    (hy : Undenied y) :
  Undenied (if p then x else y)
  := by
  split
  · exact hx
  · exact hy

/-! ### The vault -/

theorem undenied_dbEncryptionPassphrase (host : Host) (dir : Dir Content) :
  Undenied (Vault.dbEncryptionPassphrase host dir)
  := by
  apply Undenied.bind
  · rw [Vault.readVaultMetaForDb]
    split
    · apply undenied_ok
    · apply Undenied.bind
      · apply undenied_mapErr
        intro e
        simp [Vault.dbError, ACCESS_DENIED]
      · intro metadata
        apply undenied_ok
  · intro metadata
    split
    · apply undenied_ok
    · apply undenied_ite
      · apply undenied_ok
      · apply undenied_ite
        · apply undenied_error
          simp [Vault.dbError, ACCESS_DENIED]
        · apply Undenied.bind
          · apply undenied_okOrElse
            simp [Vault.dbError, ACCESS_DENIED]
          · intro passphrase
            apply undenied_ok

theorem undenied_dbEncryptionKey (host : Host) (dir : Dir Content) :
  Undenied (Vault.dbEncryptionKey host dir)
  := by
  apply Undenied.bind (undenied_dbEncryptionPassphrase host dir)
  intro passphrase
  apply undenied_ok

theorem undenied_notADatabase (key : Option String) :
  (Vault.notADatabase key).code ≠ ACCESS_DENIED
  := by
  cases key <;> simp [Vault.notADatabase, Vault.dbError, ACCESS_DENIED]

/-- A database file that is there is not reported as access that is denied. -/
theorem undenied_openDbReadonly {fault : Option String} {path : String}
    {tables : Option String → Option FederationDb} (h : vault.database path = .file tables) :
  Undenied (openDbReadonly vault fault path)
  := by
  rw [openDbReadonly, h]
  apply Undenied.bind (undenied_dbEncryptionKey _ _)
  intro key
  apply undenied_ite
  · apply undenied_error (undenied_notADatabase key)
  · apply Undenied.bind
    · apply undenied_attempt
      · intro error
        simp [Vault.dbError, ACCESS_DENIED]
      · apply undenied_ok
    · intro _
      apply Undenied.bind
      · apply undenied_okOrElse (undenied_notADatabase none)
      · intro db
        apply undenied_ite
        · apply undenied_error
          simp [Vault.dbError, ACCESS_DENIED]
        · apply undenied_ok

theorem undenied_objectStoreEncryptionContext (passphrase : Option String) :
  Undenied (config.objectStoreEncryptionContext ext passphrase)
  := by
  rw [VaultJsonV3.objectStoreEncryptionContext]
  apply undenied_ite
  · apply undenied_ok
  · apply undenied_ite
    · apply undenied_error
      simp [encryptionError, ACCESS_DENIED]
    · apply undenied_ite
      · apply undenied_error
        simp [encryptionError, ACCESS_DENIED]
      · apply Undenied.bind
        · apply undenied_okOrElse
          simp [encryptionError, ACCESS_DENIED]
        · intro passphrase
          apply Undenied.bind
          · rw [deriveObjectStoreKey]
            apply undenied_ite
            · apply undenied_error
              simp [ACCESS_DENIED]
            · apply undenied_mapErr
              intro e
              simp [ACCESS_DENIED]
          · intro key
            apply undenied_ok

theorem undenied_storeForRead :
  Undenied (storeForRead ext vault config)
  := by
  rw [storeForRead]
  apply undenied_ite
  · apply undenied_ok
  · apply Undenied.bind
    · apply undenied_okOrElse
      simp [federationError, ACCESS_DENIED]
    · intro passphrase
      apply Undenied.bind (undenied_objectStoreEncryptionContext _)
      intro found
      apply Undenied.bind
      · apply undenied_okOrElse
        simp [federationError, ACCESS_DENIED]
      · intro context
        apply undenied_ok

theorem undenied_sourceRevision (fault : Option String) (events : EventTable) :
  Undenied (sourceRevision fault events)
  := by
  rw [sourceRevision]
  apply undenied_attempt
  · intro error
    simp [federationError, ACCESS_DENIED]
  · split
    · apply undenied_ok
    · apply Undenied.bind
      · apply undenied_okOrElse
        simp [federationError, ACCESS_DENIED]
      · intro eventHash
        apply Undenied.bind
        · apply undenied_okOrElse
          simp [federationError, ACCESS_DENIED]
        · intro eventAtMs
          apply undenied_ok

theorem undenied_attempt_retrieval {fault : Option String} {message : String}
    {outcome : AppResult α} (h : Undenied outcome) :
  Undenied (attempt fault (retrievalFailed message) outcome)
  := by
  apply undenied_attempt _ h
  intro error
  simp [retrievalFailed, federationError, ACCESS_DENIED]

theorem undenied_queryCandidates :
  Undenied (queryCandidates vault db)
  := by
  apply Undenied.bind (undenied_attempt_retrieval (undenied_ok ()))
  intro _
  apply Undenied.bind (undenied_attempt_retrieval (undenied_ok ()))
  intro _
  apply undenied_attempt_retrieval (undenied_ok _)

/-! ### The log and its lifecycle events -/

theorem corrupt_undenied (message : String) :
  (corrupt message).code ≠ ACCESS_DENIED
  := by
  simp [corrupt, lifecycleError, ACCESS_DENIED]

theorem eventError_undenied (message : String) (details : List (String × Json)) :
  (eventError message details).code ≠ ACCESS_DENIED
  := by
  simp [eventError, ACCESS_DENIED]

mutual

theorem undenied_writeCanonical (j : Json) :
  Undenied (CanonJson.writeCanonical j)
  := by
  match j with
  | .null | .bool _ | .int _ | .str _ => apply undenied_ok
  | .float _ =>
    apply undenied_error
    simp [CanonJson.floatForbidden, ACCESS_DENIED]
  | .arr items =>
    rw [CanonJson.writeCanonical]
    apply Undenied.bind (undenied_writeItems items)
    intro texts
    apply undenied_ok
  | .obj members =>
    rw [CanonJson.writeCanonical]
    apply Undenied.bind (undenied_writeMembers members)
    intro texts
    apply undenied_ok

theorem undenied_writeItems (items : List Json) :
  Undenied (CanonJson.writeItems items)
  := by
  match items with
  | [] => apply undenied_ok
  | j :: rest =>
    rw [CanonJson.writeItems]
    apply Undenied.bind (undenied_writeCanonical j)
    intro text
    apply Undenied.bind (undenied_writeItems rest)
    intro texts
    apply undenied_ok

theorem undenied_writeMembers (members : List (String × Json)) :
  Undenied (CanonJson.writeMembers members)
  := by
  match members with
  | [] => apply undenied_ok
  | (key, j) :: rest =>
    rw [CanonJson.writeMembers]
    apply Undenied.bind (undenied_writeCanonical j)
    intro text
    apply Undenied.bind (undenied_writeMembers rest)
    intro texts
    apply undenied_ok

end

theorem undenied_verifyEventRecord (record : EventRecord) :
  Undenied (verifyEventRecord ext parse record)
  := by
  apply Undenied.bind (undenied_mapErr (fun _ => eventError_undenied _ _) _)
  intro payload
  apply Undenied.bind (undenied_writeCanonical payload)
  intro canonicalPayload
  apply undenied_ite (undenied_error (eventError_undenied _ _))
  apply undenied_ite (undenied_error (eventError_undenied _ _))
  apply undenied_ok

theorem undenied_readVerifiedRows (start : Option String) (rows : List EventRow) :
  Undenied (readVerifiedRows ext parse start rows)
  := by
  induction rows generalizing start with
  | nil => apply undenied_ok
  | cons row rest ih =>
    apply Undenied.bind (undenied_okOrElse (eventError_undenied _ _) _)
    intro record
    apply undenied_ite (undenied_error (eventError_undenied _ _))
    apply Undenied.bind (undenied_verifyEventRecord record)
    intro _
    apply Undenied.bind (ih _)
    intro records
    apply undenied_ok

theorem undenied_eventFromRecord (record : EventRecord) :
  Undenied (eventFromRecord ext parse record)
  := by
  rw [eventFromRecord]
  apply undenied_ite (undenied_ok none)
  apply undenied_ite (undenied_error (corrupt_undenied _))
  apply Undenied.bind (undenied_mapErr (fun _ => corrupt_undenied _) _)
  intro payload
  apply undenied_ite (undenied_error (corrupt_undenied _))
  apply Undenied.bind
  · rw [checkReplacement]
    split
    · apply Undenied.bind (undenied_okOrElse (corrupt_undenied _) _)
      intro replacementDocId
      apply Undenied.bind (undenied_okOrElse (corrupt_undenied _) _)
      intro replacementHash
      apply undenied_ite (undenied_error (corrupt_undenied _)) (undenied_ok ())
    · apply undenied_ite (undenied_error (corrupt_undenied _)) (undenied_ok ())
  · intro _
    apply undenied_ok

theorem undenied_checkCurrentHash (lookup : Lookup) (docId expected missing changed : String) :
  Undenied (checkCurrentHash faults owner lookup docId expected missing changed)
  := by
  apply Undenied.bind
  · apply Undenied.bind
    · apply undenied_attempt _ (undenied_ok _)
      intro error
      simp [lifecycleError, ACCESS_DENIED]
    · intro hash
      cases hash with
      | none => apply undenied_ok
      | some value =>
        apply Undenied.bind (undenied_mapErr (fun _ => corrupt_undenied _) _)
        intro _
        apply undenied_ok
  · intro found
    apply Undenied.bind (undenied_okOrElse (corrupt_undenied _) _)
    intro current
    apply undenied_ite (undenied_error (corrupt_undenied _)) (undenied_ok ())

theorem undenied_loadRecords (records : List EventRecord) (byDoc : EventsByDoc) :
  Undenied (loadRecords ext parse faults owner records byDoc)
  := by
  induction records generalizing byDoc with
  | nil => apply undenied_ok
  | cons record rest ih =>
    apply Undenied.bind (undenied_eventFromRecord record)
    intro found
    cases found with
    | none => apply ih
    | some entry =>
      apply Undenied.bind
      · apply Undenied.bind (undenied_checkCurrentHash _ _ _ _ _)
        intro _
        split
        · apply undenied_checkCurrentHash
        · apply undenied_ok
      · intro _
        apply ih

theorem undenied_loadDocumentLifecycleEvents :
  Undenied (loadDocumentLifecycleEvents ext parse faults owner)
  := by
  apply Undenied.bind
  · apply undenied_attempt (fun _ => eventError_undenied _ _)
    apply undenied_readVerifiedRows
  · intro records
    apply undenied_loadRecords

theorem undenied_resolveFrom (sourceDocId : String) (room : Nat) (current : String)
    (visited : List String) (initialState : DocumentLifecycleInitialStateV1)
    (events : List DocumentLifecycleEventV1) :
  Undenied (resolveFrom byDoc sourceDocId room current visited initialState events)
  := by
  induction room generalizing current visited initialState events with
  | zero =>
    have hresolves := resolves byDoc sourceDocId 0 current visited initialState events
    generalize resolveFrom byDoc sourceDocId 0 current visited initialState events
      = result at hresolves ⊢
    cases hresolves with
    | active => apply undenied_ok
    | full => apply undenied_error (corrupt_undenied _)
    | cycle => apply undenied_error (corrupt_undenied _)
  | succ room ih =>
    have hresolves := resolves byDoc sourceDocId (room + 1) current visited initialState events
    generalize resolveFrom byDoc sourceDocId (room + 1) current visited initialState events
      = result at hresolves ⊢
    cases hresolves with
    | active => apply undenied_ok
    | tombstoned => apply undenied_ok
    | conflicted => apply undenied_ok
    | superseded _ _ _ _ _ event next _ _ _ _ hnext =>
      rw [← hnext]
      apply ih
    | dangling => apply undenied_error (corrupt_undenied _)
    | cycle => apply undenied_error (corrupt_undenied _)

/-! ### The candidates -/

theorem undenied_getBytes (objectHash : String) :
  Undenied (store.getBytes ext objectHash files)
  := by
  apply Undenied.bind
  · apply Undenied.bind
    · rw [ObjectStore.filePathForHash]
      apply undenied_ite
      · apply undenied_error
        simp [objectStoreError, ACCESS_DENIED]
      · apply Undenied.bind
        · apply undenied_okOrElse
          simp [objectStoreError, ACCESS_DENIED]
        · intro dir
          apply undenied_ok
    · intro path
      apply undenied_okOrElse
      simp [objectStoreError, ACCESS_DENIED]
  · intro raw
    rw [ObjectStore.maybeDecryptBytes]
    apply undenied_ite (undenied_ok raw)
    apply Undenied.bind
    · apply undenied_okOrElse
      simp [encryptionError, ACCESS_DENIED]
    · intro enc
      apply undenied_ite
      · apply undenied_error
        simp [encryptionError, ACCESS_DENIED]
      · apply undenied_ite
        · apply undenied_error
          simp [encryptionError, ACCESS_DENIED]
        · apply undenied_okOrElse
          simp [encryptionError, ACCESS_DENIED]

theorem undenied_candidateText (row : CandidateRow) :
  Undenied (candidateText ext store files row)
  := by
  rw [candidateText]
  apply undenied_ite
  · apply undenied_error
    simp [federationError, ACCESS_DENIED]
  · apply Undenied.bind (undenied_getBytes _)
    intro canonicalBytes
    apply undenied_ite
    · apply undenied_error
      simp [federationError, ACCESS_DENIED]
    · apply undenied_okOrElse
      simp [federationError, ACCESS_DENIED]

theorem undenied_findFactOrNotice (request : FederationQueryRequestV2) (row : CandidateRow) :
  Undenied (findFactOrNotice ext toLowercase store files byDoc request row)
  := by
  apply Undenied.bind (undenied_candidateText row)
  intro text
  apply undenied_ite (undenied_ok none)
  apply Undenied.bind
  · apply Undenied.bind
    · apply undenied_mapErr
      intro e
      simp [lifecycleError, ACCESS_DENIED]
    · intro _
      apply undenied_resolveFrom
  · intro resolution
    apply undenied_ok

/-- A query of a vault whose database file is there does not fail for want of access. -/
theorem undenied_runQueryV2 {request : FederationQueryRequestV2}
    {tables : Option String → Option FederationDb}
    (h : vault.database (vault.dbPath config) = .file tables) :
  Undenied (runQueryV2 ext parse toLowercase vault config request (clampedLimit request.limit))
  := by
  obtain ⟨room, hroom⟩ := Nat.exists_eq_add_one.mpr (clampedLimit_pos request.limit)
  apply Undenied.bind (undenied_openDbReadonly h)
  intro db
  apply Undenied.bind undenied_storeForRead
  intro store
  apply Undenied.bind (undenied_attempt_retrieval (undenied_ok ()))
  intro _
  apply Undenied.bind undenied_loadDocumentLifecycleEvents
  intro byDoc
  apply Undenied.bind (undenied_sourceRevision _ _)
  intro revision
  apply Undenied.bind undenied_queryCandidates
  intro candidates
  apply Undenied.bind
  · rw [hroom, collectFactsAndNotices_eq_scan (by rw [List.length_nil, List.length_nil,
      Nat.zero_add])]
    intro e he
    obtain ⟨row, -, hrow⟩ := Scan.exists_of_scan_eq_error (Scan.map_eq_error.mp he)
    apply undenied_findFactOrNotice request row e hrow
  · rintro ⟨facts, notices⟩
    apply Undenied.bind (undenied_attempt_retrieval (undenied_ok ()))
    intro _
    apply undenied_ok

end Federation

end KnowledgeCore
