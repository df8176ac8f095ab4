import KnowledgeCore.Lifecycle.Graph
import KnowledgeCore.ObjectStore

/-!
# Extracting a text again

The canonical text of a document is stored in the row of its document, in place of the text that
was there before. The lifecycle events keep the hashes of the texts as they were.
-/

namespace KnowledgeCore

structure CanonicalTextArtifact where
  docId : String
  canonicalBytes : List UInt8
  canonicalHash : String
  canonicalObjectHash : String
  extractorName : String
  extractorVersion : String
  extractorFlagsJson : String
  normalizationVersion : Int64
  toolchainJson : String

/-- The row that an artifact is stored in. -/
def CanonicalTextArtifact.row (artifact : CanonicalTextArtifact) (storedHash : String)
    (createdEventId : Int64) : CanonicalTextRow where
  canonicalObjectHash := storedHash
  canonicalHash := artifact.canonicalHash
  extractorName := artifact.extractorName
  extractorVersion := artifact.extractorVersion
  extractorFlagsJson := artifact.extractorFlagsJson
  normalizationVersion := artifact.normalizationVersion
  toolchainJson := artifact.toolchainJson
  createdEventId := createdEventId

def canonicalError (message : String) (details : List (String × Json)) : AppError where
  code := "KC_DB_INTEGRITY_FAILED"
  category := "canonical"
  message := message
  details := .obj details

/-- Store the canonical text of a document. The statement that writes its row may fail. -/
def persistCanonicalText (ext : Externals) (store : ObjectStore)
    (artifact : CanonicalTextArtifact) (createdEventId : Int64) (stop : Option Nat)
    (fault : Option String) (files : Files) (db : OwnerDb) :
  AppResult Unit × Files × OwnerDb
  :=
  let computed := blake3HexPrefixed ext (.raw artifact.canonicalBytes)
  if computed ≠ artifact.canonicalHash ∨ computed ≠ artifact.canonicalObjectHash then
    (.error (canonicalError "canonical hash invariant failed"
      [("computed", .str computed), ("canonical_hash", .str artifact.canonicalHash),
        ("canonical_object_hash", .str artifact.canonicalObjectHash)]), files, db)
  else
    match store.putBytes ext artifact.canonicalBytes stop ⟨files, db.toDb⟩ with
    | (.error e, after) => (.error e, after.files, { db with toDb := after.db })
    | (.ok storedHash, after) =>
      match fault with
      | some error =>
        (.error (canonicalError "failed to upsert canonical_text row" [("error", .str error)]),
          after.files, { db with toDb := after.db })
      | none =>
        (.ok (), after.files, { db with toDb := { after.db with
          canonicalText := after.db.canonicalText.insert artifact.docId
            (artifact.row storedHash createdEventId) } })

/-- A text that has been stored replaces the row of its document, and leaves the log and the
other rows. -/
theorem persistCanonicalText_eq_ok {ext : Externals} {store : ObjectStore}
    {artifact : CanonicalTextArtifact} {createdEventId : Int64} {stop : Option Nat}
    {fault : Option String} {files files' : Files} {db after : OwnerDb}
    (h : persistCanonicalText ext store artifact createdEventId stop fault files db
      = (.ok (), files', after)) :
  artifact.canonicalHash = blake3HexPrefixed ext (.raw artifact.canonicalBytes)
    ∧ after.events = db.events
    ∧ ∀ docId, after.canonicalText[docId]?.map CanonicalTextRow.canonicalHash
      = if docId = artifact.docId then some artifact.canonicalHash
        else db.canonicalText[docId]?.map CanonicalTextRow.canonicalHash
  := by
  rw [persistCanonicalText] at h
  split at h
  case isTrue => cases h
  case isFalse hcomputed =>
    rw [not_or, not_not] at hcomputed
    obtain ⟨objects, hdb⟩ := store.db_putBytes ext artifact.canonicalBytes stop ⟨files, db.toDb⟩
    have htexts := congrArg Db.canonicalText hdb
    rcases hput : store.putBytes ext artifact.canonicalBytes stop ⟨files, db.toDb⟩
      with ⟨e | storedHash, disk⟩
    · rw [hput] at h
      cases h
    · rw [hput] at h htexts
      cases fault with
      | some error => cases h
      | none =>
        cases h
        use hcomputed.1.symm, rfl
        intro docId
        change Option.map CanonicalTextRow.canonicalHash (disk.db.canonicalText.insert
          artifact.docId (artifact.row storedHash createdEventId))[docId]? = _
        rw [Std.ExtTreeMap.getElem?_insert, htexts]
        simp only [Std.LawfulEqCmp.compare_eq_iff_eq]
        by_cases hdocId : docId = artifact.docId
        · rw [if_pos hdocId.symm, if_pos hdocId]
          rfl
        · rw [if_neg (Ne.symm hdocId), if_neg hdocId]

namespace Lifecycle

variable {ext : Externals} {parse : JsonParser} {faults : Faults} {db after : OwnerDb}

/-! ### What does not load is corrupt -/

/-- The only error is that the lifecycle data is corrupt. -/
def OnlyCorrupt {α : Type} (x : AppResult α) : Prop :=
  ∀ e, x = .error e → e.code = "KC_DOCUMENT_LIFECYCLE_CORRUPT"

theorem onlyCorrupt_ok {α : Type} (a : α) :
  OnlyCorrupt (.ok a : AppResult α)
  := by
  rintro e ⟨⟩

theorem onlyCorrupt_corrupt {α : Type} (message : String) :
  OnlyCorrupt (.error (corrupt message) : AppResult α)
  := by
  rintro e ⟨⟩
  rfl

theorem OnlyCorrupt.bind {α β : Type} {x : AppResult α} {f : α → AppResult β}
    (hx : OnlyCorrupt x) (hf : ∀ a, x = .ok a → OnlyCorrupt (f a)) :
  OnlyCorrupt (x >>= f)
  := by
  cases x with
  | error e =>
    intro e' he'
    cases he'
    apply hx e rfl
  | ok a => apply hf a rfl

theorem onlyCorrupt_okOrElse {α : Type} (message : String) (x : Option α) :
  OnlyCorrupt (okOrElse (corrupt message) x)
  := by
  cases x with
  | none => apply onlyCorrupt_corrupt
  | some a => apply onlyCorrupt_ok

theorem onlyCorrupt_canonicalHashForDoc (db : OwnerDb) (docId : String) :
  OnlyCorrupt (canonicalHashForDoc none db docId)
  := by
  rw [canonicalHashForDoc, attempt_none, AppResult.ok_bind]
  split
  · apply onlyCorrupt_ok
  next value _ =>
    apply OnlyCorrupt.bind
    · cases validateBlake3Prefixed value with
      | error e => apply onlyCorrupt_corrupt
      | ok u => apply onlyCorrupt_ok
    · intro u _
      apply onlyCorrupt_ok

theorem onlyCorrupt_checkCurrentHash (db : OwnerDb) (lookup : Lookup)
    (docId expected missing changed : String) :
  OnlyCorrupt (checkCurrentHash noFaults db lookup docId expected missing changed)
  := by
  apply OnlyCorrupt.bind
  · apply onlyCorrupt_canonicalHashForDoc
  · intro found _
    apply OnlyCorrupt.bind
    · apply onlyCorrupt_okOrElse
    · intro current _
      split
      · apply onlyCorrupt_corrupt
      · apply onlyCorrupt_ok

theorem onlyCorrupt_checkPinned (db : OwnerDb) (eventId : Int64)
    (payload : DocumentLifecyclePayloadV1) :
  OnlyCorrupt (checkPinned noFaults db eventId payload)
  := by
  apply OnlyCorrupt.bind
  · apply onlyCorrupt_checkCurrentHash
  · intro u _
    split
    · apply onlyCorrupt_checkCurrentHash
    · apply onlyCorrupt_ok

theorem onlyCorrupt_loadRecords {records : List EventRecord} (byDoc : EventsByDoc)
    (h : ∀ record ∈ records, (eventFromRecord ext parse record).isOk = true) :
  OnlyCorrupt (loadRecords ext parse noFaults db records byDoc)
  := by
  induction records generalizing byDoc with
  | nil => apply onlyCorrupt_ok
  | cons record rest ih =>
    rw [List.forall_mem_cons] at h
    obtain ⟨found, hfound⟩ := exists_of_isOk h.1
    rw [loadRecords, hfound, AppResult.ok_bind]
    cases found with
    | none => apply ih byDoc h.2
    | some entry =>
      apply OnlyCorrupt.bind
      · apply onlyCorrupt_checkPinned
      · intro u _
        apply ih _ h.2

/-! ### The documents that the events name -/

/-- An event that has been loaded is about a document, or names it as the replacement. -/
def Named (byDoc : EventsByDoc) (docId : String) : Prop :=
  ∃ (source : String) (events : List DocumentLifecycleEventV1), byDoc[source]? = some events
    ∧ ∃ event ∈ events, event.docId = docId ∨ event.replacementDocId = some docId

/-- The canonical hash of a document, if it has a canonical text. -/
def canonicalHashOf (db : OwnerDb) (docId : String) : Option String :=
  db.canonicalText[docId]?.map CanonicalTextRow.canonicalHash

theorem named_group {l : List Entry} {docId : String} :
  Named (group ∅ l) docId
    ↔ ∃ entry ∈ l, entry.2.docId = docId ∨ entry.2.replacementDocId = some docId
  := by
  constructor
  · rintro ⟨source, events, hevents, event, hevent, hnames⟩
    rw [getElem?_group] at hevents
    split_ifs at hevents
    · simp at hevents
    · simp only [Std.ExtTreeMap.getD_empty, List.nil_append, Option.some.injEq] at hevents
      rw [← hevents] at hevent
      obtain ⟨entry, hentry, rfl⟩ := List.mem_map.mp hevent
      use entry, (List.mem_filter.mp hentry).1
  · rintro ⟨entry, hentry, hnames⟩
    have hmem : entry.2 ∈ eventsOf l entry.1.docId := by
      apply List.mem_map_of_mem
      rw [List.mem_filter]
      use hentry
      simp
    use entry.1.docId, eventsOf l entry.1.docId
    constructor
    · rw [getElem?_group, if_neg (List.ne_nil_of_mem hmem)]
      simp
    · use entry.2, hmem

theorem exists_replacementHash {payload : DocumentLifecyclePayloadV1} {docId : String}
    (h : checkReplacement payload = .ok ()) (hdocId : payload.replacementDocId = some docId) :
  ∃ hash, payload.replacementCanonicalHash = some hash
  := by
  rw [checkReplacement] at h
  cases haction : payload.action with
  | supersede =>
    simp only [haction, AppResult.bind_eq_ok, okOrElse_eq_ok] at h
    obtain ⟨replacement, -, hash, hhash, -⟩ := h
    use hash
  | tombstone =>
    simp [haction, hdocId] at h

/-- The event of a payload pins the hash of every document it names. -/
theorem exists_pinnedHash {records : List EventRecord} {entry : Entry} {docId : String}
    (hentry : entry ∈ entries ext parse records)
    (hnames : entry.2.docId = docId ∨ entry.2.replacementDocId = some docId) :
  ∃ hash, ∀ db, Pinned db entry.1 → canonicalHashOf db docId = some hash
  := by
  obtain ⟨record, hrecord⟩ := exists_of_mem_entries hentry
  obtain ⟨-, -, hreplacement, hpublic⟩ := eventFromRecord_eq_some hrecord
  rw [hpublic] at hnames
  rcases hnames with rfl | hdocId
  · use entry.1.docCanonicalHash
    intro db hpinned
    apply hpinned.source.1
  · obtain ⟨hash, hhash⟩ := exists_replacementHash hreplacement hdocId
    use hash
    intro db hpinned
    apply (hpinned.replacement docId hash hdocId hhash).1

/-- Only the documents that a payload names matter. -/
theorem Pinned.of_canonicalHashOf_eq {entry : Entry} {records : List EventRecord}
    (hentry : entry ∈ entries ext parse records) (h : Pinned db entry.1)
    (hafter : ∀ docId, entry.2.docId = docId ∨ entry.2.replacementDocId = some docId →
      canonicalHashOf after docId = canonicalHashOf db docId) :
  Pinned after entry.1
  := by
  obtain ⟨record, hrecord⟩ := exists_of_mem_entries hentry
  obtain ⟨-, -, -, hpublic⟩ := eventFromRecord_eq_some hrecord
  rw [hpublic] at hafter
  constructor
  · use (hafter _ (Or.inl rfl)).trans h.source.1
    apply h.source.2
  · intro docId hash hdocId hhash
    obtain ⟨hrow, hvalid⟩ := h.replacement docId hash hdocId hhash
    use (hafter docId (Or.inr hdocId)).trans hrow

section Persist

variable {store : ObjectStore} {artifact : CanonicalTextArtifact} {createdEventId : Int64}
  {stop : Option Nat} {fault : Option String} {files files' : Files} {byDoc : EventsByDoc}

/-- The same events are loaded when no event names the document, or its hash is what it was. -/
theorem load_persist_of_unchanged
    (hload : loadDocumentLifecycleEvents ext parse noFaults db = .ok byDoc)
    (hpersist : persistCanonicalText ext store artifact createdEventId stop fault files db
      = (.ok (), files', after))
    (h : ¬ Named byDoc artifact.docId
      ∨ canonicalHashOf db artifact.docId = some artifact.canonicalHash) :
  loadDocumentLifecycleEvents ext parse noFaults after = .ok byDoc
  := by
  obtain ⟨-, hevents, htexts⟩ := persistCanonicalText_eq_ok hpersist
  obtain ⟨records, hread, hloadable, rfl⟩ := load_eq_ok.mp hload
  apply load_eq_ok.mpr
  use records, hevents ▸ hread
  constructor
  · use hloadable.readable
    intro entry hentry
    apply (hloadable.pinned entry hentry).of_canonicalHashOf_eq hentry
    intro docId hnames
    rw [canonicalHashOf, htexts]
    split
    case isTrue hdocId =>
      rw [hdocId] at hnames ⊢
      rcases h with hnot | hhash
      · exact absurd (named_group.mpr ⟨entry, hentry, hnames⟩) hnot
      · apply hhash.symm
    case isFalse => rfl
  · rfl

/-- An event that names the document pins the hash that the document had. -/
theorem load_persist_of_changed
    (hload : loadDocumentLifecycleEvents ext parse noFaults db = .ok byDoc)
    (hpersist : persistCanonicalText ext store artifact createdEventId stop fault files db
      = (.ok (), files', after))
    (hnamed : Named byDoc artifact.docId)
    (hhash : canonicalHashOf db artifact.docId ≠ some artifact.canonicalHash) :
  ∃ e, loadDocumentLifecycleEvents ext parse noFaults after = .error e
    ∧ e.code = "KC_DOCUMENT_LIFECYCLE_CORRUPT"
  := by
  obtain ⟨-, hevents, htexts⟩ := persistCanonicalText_eq_ok hpersist
  obtain ⟨records, hread, hloadable, rfl⟩ := load_eq_ok.mp hload
  have hread' : readVerifiedEventChain ext parse after.events = .ok records := by
    rw [hevents]
    apply hread
  cases hafter : loadDocumentLifecycleEvents ext parse noFaults after with
  | error e =>
    use e, rfl
    rw [loadDocumentLifecycleEvents, noFaults, attempt_none, hread', AppResult.ok_bind] at hafter
    apply onlyCorrupt_loadRecords ∅ hloadable.readable e hafter
  | ok byDoc =>
    obtain ⟨records', hread'', hloadable', -⟩ := load_eq_ok.mp hafter
    cases hread'.symm.trans hread''
    obtain ⟨entry, hentry, hnames⟩ := named_group.mp hnamed
    obtain ⟨hash, hpinned⟩ := exists_pinnedHash hentry hnames
    have hbefore := hpinned db (hloadable.pinned entry hentry)
    have hnow := hpinned after (hloadable'.pinned entry hentry)
    rw [canonicalHashOf, htexts, if_pos rfl] at hnow
    exact absurd (hbefore.trans hnow.symm) hhash

end Persist

/-- After the canonical text of a document has been stored the same events are loaded, if no
loaded event names the document or its hash is what it was. Otherwise the lifecycle data is
corrupt. -/
theorem load_persistCanonicalText (ext : Externals) (parse : JsonParser) (store : ObjectStore)
    (artifact : CanonicalTextArtifact) (createdEventId : Int64) (stop : Option Nat)
    (fault : Option String) (files files' : Files) (db after : OwnerDb) (byDoc : EventsByDoc)
    (hload : loadDocumentLifecycleEvents ext parse noFaults db = .ok byDoc)
    (hpersist : persistCanonicalText ext store artifact createdEventId stop fault files db
      = (.ok (), files', after)) :
  (loadDocumentLifecycleEvents ext parse noFaults after = .ok byDoc
      ↔ ¬ Named byDoc artifact.docId
        ∨ canonicalHashOf db artifact.docId = some artifact.canonicalHash)
    ∧ (Named byDoc artifact.docId →
        canonicalHashOf db artifact.docId ≠ some artifact.canonicalHash →
          ∃ e, loadDocumentLifecycleEvents ext parse noFaults after = .error e
            ∧ e.code = "KC_DOCUMENT_LIFECYCLE_CORRUPT")
  := by
  constructor
  · constructor
    · intro hok
      by_contra hnot
      rw [not_or, not_not] at hnot
      obtain ⟨e, he, -⟩ := load_persist_of_changed hload hpersist hnot.1 hnot.2
      rw [hok] at he
      cases he
    · apply load_persist_of_unchanged hload hpersist
  · apply load_persist_of_changed hload hpersist

end Lifecycle

/-! ### A document that is extracted again -/

namespace Sample

open Lifecycle

/-- A new canonical text for a document. -/
def newText (docId : String) : CanonicalTextArtifact where
  docId
  canonicalBytes := [1]
  canonicalHash := blake3HexPrefixed ext (.raw [1])
  canonicalObjectHash := blake3HexPrefixed ext (.raw [1])
  extractorName := "plain"
  extractorVersion := "2"
  extractorFlagsJson := "\x7b\x7d"
  normalizationVersion := 1
  toolchainJson := "\x7b\x7d"

def plainStore : ObjectStore := .new "/vault/store/objects"

theorem exists_persist (docId : String) (db : OwnerDb) :
  ∃ files' after,
    persistCanonicalText ext plainStore (newText docId) 7 none none ∅ db = (.ok (), files', after)
  := by
  have hstored : plainStore.maybeEncryptBytes ext (blake3HexPrefixed ext (.raw [1])) [1]
      = .ok [1] := rfl
  obtain ⟨disk, hput⟩ := ObjectStore.exists_putBytes hstored ⟨∅, db.toDb⟩
  have hmatch : ¬ (blake3HexPrefixed ext (.raw (newText docId).canonicalBytes)
        ≠ (newText docId).canonicalHash
      ∨ blake3HexPrefixed ext (.raw (newText docId).canonicalBytes)
        ≠ (newText docId).canonicalObjectHash) := by
    simp [newText]
  rw [persistCanonicalText, if_neg hmatch]
  simp only [newText, hput]
  exact ⟨_, _, rfl⟩

/-- A database after one document has been superseded by another. -/
theorem exists_superseded :
  ∃ db byDoc event, loadDocumentLifecycleEvents ext JsonText.parse noFaults db = .ok byDoc
    ∧ byDoc = addEvent ∅ (smallHash 0) event ∧ event.docId = smallHash 0
    ∧ canonicalHashOf db (smallHash 0) = some (smallHash 0)
  := by
  have hload : loadDocumentLifecycleEvents ext JsonText.parse noFaults
      (boundDb "owner" [smallHash 0, smallHash 1] .empty []) = .ok ∅ := load_of_rows_eq_nil rfl
  obtain ⟨event, events, audit, happend, hdocId, -⟩ := exists_append 0 1 (by decide) (by decide)
    (by decide) (by decide +kernel) (by simp) (by simp) hload (by simp) (by simp) (by decide)
  have hload' :=
    load_of_append (fun payload => JsonText.readsBack_parse payload.toValue) hload happend
  have hsubject : subjectOf (boundDb "owner" [smallHash 0, smallHash 1] .empty [])
      (supersede (smallHash 0) (smallHash 1) 5) = "owner" := by
    simp [subjectOf, boundDb, ownerDb, supersede]
  rw [hsubject, if_pos (by decide), hdocId] at hload'
  use boundDb "owner" [smallHash 0, smallHash 1] events audit
  use addEvent ∅ (smallHash 0) event, event, hload', rfl, hdocId
  apply (currentHash_boundDb (n := 0) (by decide) (by simp)).1

end Sample

namespace Lifecycle

theorem load_persistCanonicalText_superseded :
  ∃ db files' after byDoc,
    loadDocumentLifecycleEvents Sample.ext JsonText.parse noFaults db = .ok byDoc
      ∧ persistCanonicalText Sample.ext Sample.plainStore (Sample.newText (Sample.smallHash 0)) 7
          none none ∅ db = (.ok (), files', after)
      ∧ (loadDocumentLifecycleEvents Sample.ext JsonText.parse noFaults after = .ok byDoc
        ↔ ¬ Named byDoc (Sample.smallHash 0)
          ∨ canonicalHashOf db (Sample.smallHash 0)
            = some (Sample.newText (Sample.smallHash 0)).canonicalHash)
  := by
  obtain ⟨db, byDoc, event, hload, -⟩ := Sample.exists_superseded
  obtain ⟨files', after, hpersist⟩ := Sample.exists_persist (Sample.smallHash 0) db
  use db, files', after, byDoc, hload, hpersist
  apply (load_persistCanonicalText _ _ _ _ _ _ _ _ _ _ _ _ hload hpersist).1

/-- A document that has been superseded is extracted again, and the lifecycle data is corrupt. -/
theorem load_persistCanonicalText_corrupt :
  ∃ db files' after byDoc e,
    loadDocumentLifecycleEvents Sample.ext JsonText.parse noFaults db = .ok byDoc
      ∧ persistCanonicalText Sample.ext Sample.plainStore (Sample.newText (Sample.smallHash 0)) 7
          none none ∅ db = (.ok (), files', after)
      ∧ loadDocumentLifecycleEvents Sample.ext JsonText.parse noFaults after = .error e
      ∧ e.code = "KC_DOCUMENT_LIFECYCLE_CORRUPT"
  := by
  obtain ⟨db, byDoc, event, hload, hbyDoc, hdocId, hhash⟩ := Sample.exists_superseded
  obtain ⟨files', after, hpersist⟩ := Sample.exists_persist (Sample.smallHash 0) db
  have hnamed : Named byDoc (Sample.smallHash 0) := by
    use Sample.smallHash 0, [event]
    constructor
    · rw [hbyDoc, getElem?_addEvent, if_pos rfl]
      simp
    · use event, List.mem_singleton_self event
      apply Or.inl hdocId
  have hchanged : canonicalHashOf db (Sample.smallHash 0)
      ≠ some (Sample.newText (Sample.smallHash 0)).canonicalHash := by
    rw [hhash]
    decide +kernel
  obtain ⟨e, he, hcode⟩ := load_persist_of_changed hload hpersist hnamed hchanged
  use db, files', after, byDoc, e, hload, hpersist

end Lifecycle

end KnowledgeCore
