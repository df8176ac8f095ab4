import Mathlib.Data.List.Dedup
import Mathlib.Data.List.Find
import KnowledgeCore.Lifecycle.Reextraction
import KnowledgeCore.Objects.Ingest
import KnowledgeCore.Objects.RoundTrip

/-!
# What the tables refer to

A document that is ingested and a text that is extracted are put into the object store, and rows
of the database name the objects they are in. The row of a document stays as its first ingest has
written it, and the row of a text is that of the last extraction.
-/

namespace KnowledgeCore

/-- The files of the machine and the open database of the owner. -/
structure OwnerDisk where
  files : Files
  db : OwnerDb

namespace References

open Ingest

def ingestPayload (req : IngestBytesReq) : Json :=
  .obj [("mime", .str req.mime), ("source_kind", .str req.sourceKind),
    ("source_path", (req.sourcePath.map Json.str).getD .null), ("bytes", .int req.bytes.length)]

/-- The whole of `ingest_bytes`, with the event that it starts with. -/
def ingestBytes (ext : Externals) (store : ObjectStore) (req : IngestBytesReq) (nowMs : Int64)
    (fault : Option String) (stop : Option Nat) (disk : OwnerDisk) :
  AppResult IngestedDoc × OwnerDisk
  :=
  match appendEvent ext fault nowMs "ingest.bytes" (ingestPayload req) disk.db.events with
  | .error e => (.error e, disk)
  | .ok (_, events) =>
    let (result, after) := Ingest.ingestBytes ext store req stop ⟨disk.files, disk.db.toDb⟩
    (result, ⟨after.files, { disk.db with toDb := after.db, events }⟩)

/-- A call on the store, with what fails in it. -/
inductive Call
  | ingest (req : IngestBytesReq) (nowMs : Int64) (fault : Option String) (stop : Option Nat)
  | persist (artifact : CanonicalTextArtifact) (createdEventId : Int64) (stop : Option Nat)
    (fault : Option String)

def Call.run (ext : Externals) (store : ObjectStore) (disk : OwnerDisk) :
    Call → AppResult Unit × OwnerDisk
  | .ingest req nowMs fault stop =>
    let (result, after) := ingestBytes ext store req nowMs fault stop disk
    (result.map fun _ => (), after)
  | .persist artifact createdEventId stop fault =>
    let (result, files, db) :=
      persistCanonicalText ext store artifact createdEventId stop fault disk.files disk.db
    (result, ⟨files, db⟩)

/-- Calls one after the other, until one fails. -/
def runAll (ext : Externals) (store : ObjectStore) :
    List Call → OwnerDisk → AppResult Unit × OwnerDisk
  | [], disk => (.ok (), disk)
  | call :: rest, disk =>
    match call.run ext store disk with
    | (.error e, after) => (.error e, after)
    | (.ok (), after) => runAll ext store rest after

/-! ### What calls ask for -/

def Call.request? : Call → Option IngestBytesReq
  | .ingest req _ _ _ => some req
  | .persist _ _ _ _ => none

def Call.text? : Call → Option (CanonicalTextArtifact × Int64)
  | .ingest _ _ _ _ => none
  | .persist artifact createdEventId _ _ => some (artifact, createdEventId)

/-- The bytes that a call puts into the store. -/
def Call.payload : Call → List UInt8
  | .ingest req _ _ _ => req.bytes
  | .persist artifact _ _ _ => artifact.canonicalBytes

def requests (calls : List Call) : List IngestBytesReq := calls.filterMap Call.request?

def texts (calls : List Call) : List (CanonicalTextArtifact × Int64) :=
  calls.filterMap Call.text?

/-- The byte strings that calls ingest. -/
def ingested (calls : List Call) : List (List UInt8) :=
  (requests calls).map IngestBytesReq.bytes

/-- The first request to ingest a byte string. -/
def firstIngest (calls : List Call) (bytes : List UInt8) : Option IngestBytesReq :=
  (requests calls).find? fun req => req.bytes = bytes

/-- The last text that was extracted from a document. -/
def lastText (calls : List Call) (docId : String) : Option (CanonicalTextArtifact × Int64) :=
  (texts calls).reverse.find? fun text => text.1.docId = docId

/-! ### The invariant -/

variable {ext : Externals} {store : ObjectStore} {calls : List Call} {disk after : OwnerDisk}

/-- The row that a request writes. -/
def docRow (ext : Externals) (req : IngestBytesReq) : DocRow where
  originalObjectHash := blake3HexPrefixed ext (.raw req.bytes)
  bytes := Int64.ofNat req.bytes.length
  mime := req.mime
  sourceKind := req.sourceKind
  effectiveTsMs := req.effectiveTsMs

/-- The file of an object holds bytes: as they are in a plain store, and as what opens to them in
a store with a key. -/
def HoldsBytes (ext : Externals) (store : ObjectStore) (files : Files) (hash : String)
    (bytes : List UInt8) : Prop :=
  match store.encryption with
  | none => store.rawBytes hash files = .ok bytes
  | some _ => store.getBytes ext hash files = .ok bytes

/-- An object has its row, and its file holds bytes. -/
structure Stored (ext : Externals) (store : ObjectStore) (disk : OwnerDisk) (hash : String)
    (bytes : List UInt8) : Prop where
  row : hash ∈ disk.db.objects
  file : HoldsBytes ext store disk.files hash bytes

/-- What holds after calls have gone through. -/
structure StoreInvariant (ext : Externals) (store : ObjectStore) (calls : List Call)
    (disk : OwnerDisk) : Prop where
  /-- There is one row for each byte string that was ingested, under its hash, and no other. -/
  one : disk.db.docs.keys.Perm
    ((ingested calls).dedup.map fun bytes => blake3HexPrefixed ext (.raw bytes))
  /-- A row is that of the first ingest of its bytes. -/
  first : ∀ bytes ∈ ingested calls, ∃ req, firstIngest calls bytes = some req
    ∧ disk.db.docs[blake3HexPrefixed ext (.raw bytes)]? = some (docRow ext req)
  /-- What was ingested is in the store. -/
  original : ∀ bytes ∈ ingested calls,
    Stored ext store disk (blake3HexPrefixed ext (.raw bytes)) bytes
  /-- A text names an object that holds it. -/
  text : ∀ docId row, disk.db.canonicalText[docId]? = some row →
    ∃ artifact createdEventId, lastText calls docId = some (artifact, createdEventId)
      ∧ row.canonicalHash = artifact.canonicalHash
      ∧ Stored ext store disk row.canonicalObjectHash artifact.canonicalBytes

/-- The store and the tables that refer to it are empty. -/
structure Empty (ext : Externals) (store : ObjectStore) (disk : OwnerDisk) : Prop where
  docs : disk.db.docs = ∅
  objects : disk.db.objects = ∅
  canonicalText : disk.db.canonicalText = ∅
  files : ∀ bytes path, store.filePathForHash (blake3HexPrefixed ext (.raw bytes)) = .ok path →
    path ∉ disk.files

/-- No two of the byte strings that are put have the same hash. -/
def CollisionFree (ext : Externals) (calls : List Call) : Prop :=
  ∀ call ∈ calls, ∀ call' ∈ calls,
    ext.blake3 (.raw call.payload) = ext.blake3 (.raw call'.payload) → call.payload = call'.payload

/-! ### What a put does -/

/-- What holds of a store after byte strings have been put: each has its row and its file, and
every file of an object is one that a put has written. -/
structure Puts (ext : Externals) (store : ObjectStore) (payloads : List (List UInt8))
    (disk : Disk) : Prop where
  row : ∀ bytes ∈ payloads, blake3HexPrefixed ext (.raw bytes) ∈ disk.db.objects
  present : ∀ bytes ∈ payloads, ∀ path,
    store.filePathForHash (blake3HexPrefixed ext (.raw bytes)) = .ok path → path ∈ disk.files
  written : ∀ bytes path raw,
    store.filePathForHash (blake3HexPrefixed ext (.raw bytes)) = .ok path →
    disk.files[path]? = some raw →
    ∃ bytes' ∈ payloads, blake3HexPrefixed ext (.raw bytes') = blake3HexPrefixed ext (.raw bytes)
      ∧ store.maybeEncryptBytes ext (blake3HexPrefixed ext (.raw bytes')) bytes' = .ok raw

/-- A put that goes through finds its file, or seals its bytes and writes all of it, and makes sure
of its row. -/
theorem putBytes_eq_ok {bytes : List UInt8} {path hash : String} {stop : Option Nat}
    {disk after : Disk}
    (hpath : store.filePathForHash (blake3HexPrefixed ext (.raw bytes)) = .ok path)
    (h : store.putBytes ext bytes stop disk = (.ok hash, after)) :
  hash = blake3HexPrefixed ext (.raw bytes)
    ∧ after.db = { disk.db with
      objects := disk.db.objects.insertIfNew (blake3HexPrefixed ext (.raw bytes))
        { bytes := Int64.ofNat bytes.length } }
    ∧ (path ∈ disk.files ∧ after.files = disk.files
      ∨ ∃ stored, store.maybeEncryptBytes ext (blake3HexPrefixed ext (.raw bytes)) bytes
          = .ok stored
        ∧ after.files = disk.files.insert path stored)
  := by
  simp only [ObjectStore.putBytes, hpath] at h
  rcases hensure : store.ensureFile ext (blake3HexPrefixed ext (.raw bytes)) path bytes stop disk
    with ⟨e | _, after'⟩
  · simp [hensure] at h
  · simp only [hensure, Prod.mk.injEq, Except.ok.injEq] at h
    obtain ⟨rfl, rfl⟩ := h
    use rfl
    rw [ObjectStore.ensureFile] at hensure
    split at hensure
    next hmem =>
      cases hensure
      use rfl
      left
      use by simpa using hmem
      rfl
    next =>
      split at hensure
      next => cases hensure
      next stored hstored =>
        cases stop with
        | some n => cases hensure
        | none =>
          cases hensure
          use rfl
          right
          use stored, hstored
          rfl

theorem Puts.putBytes {payloads : List (List UInt8)} {bytes : List UInt8} {hash : String}
    {stop : Option Nat} {disk after : Disk} (hputs : Puts ext store payloads disk)
    (h : store.putBytes ext bytes stop disk = (.ok hash, after)) :
  Puts ext store (payloads ++ [bytes]) after
  := by
  obtain ⟨dir, hpath⟩ := store.exists_filePathForHash ext (.raw bytes)
  obtain ⟨-, hdb, hfiles⟩ := putBytes_eq_ok hpath h
  constructor
  · intro bytes' hbytes'
    rw [hdb, Std.ExtTreeMap.mem_insertIfNew, Std.LawfulEqCmp.compare_eq_iff_eq]
    rw [List.mem_append, List.mem_singleton] at hbytes'
    rcases hbytes' with hold | rfl
    · exact .inr (hputs.row bytes' hold)
    · exact .inl rfl
  · intro bytes' hbytes' path' hpath'
    have hgrows : path' ∈ disk.files → path' ∈ after.files := by
      rcases hfiles with ⟨-, hsame⟩ | ⟨stored, -, hwritten⟩
      · rw [hsame]
        exact id
      · rw [hwritten, Std.ExtTreeMap.mem_insert]
        exact .inr
    rw [List.mem_append, List.mem_singleton] at hbytes'
    rcases hbytes' with hold | rfl
    · exact hgrows (hputs.present bytes' hold path' hpath')
    · rw [hpath] at hpath'
      cases hpath'
      rcases hfiles with ⟨hmem, -⟩ | ⟨stored, -, hwritten⟩
      · exact hgrows hmem
      · rw [hwritten]
        apply Std.ExtTreeMap.mem_insert_self
  · intro bytes' path' raw hpath' hraw
    rcases hfiles with ⟨-, hsame⟩ | ⟨stored, hstored, hwritten⟩
    · rw [hsame] at hraw
      obtain ⟨old, hold, hhash⟩ := hputs.written bytes' path' raw hpath' hraw
      use old, List.mem_append_left _ hold
    · rw [hwritten, Std.ExtTreeMap.getElem?_insert] at hraw
      simp only [Std.LawfulEqCmp.compare_eq_iff_eq] at hraw
      split at hraw
      next hsame =>
        cases hraw
        subst hsame
        use bytes, by simp
        exact ⟨ObjectStore.filePathForHash_inj hpath hpath', hstored⟩
      next =>
        obtain ⟨old, hold, hhash⟩ := hputs.written bytes' path' raw hpath' hraw
        use old, List.mem_append_left _ hold

/-- What was put is stored, when no other byte string that was put has its hash. -/
theorem Puts.stored (haead : ext.AeadInverse) {payloads : List (List UInt8)}
    (hputs : Puts ext store payloads ⟨disk.files, disk.db.toDb⟩) {bytes : List UInt8}
    (hbytes : bytes ∈ payloads)
    (hcollision : ∀ bytes' ∈ payloads,
      ext.blake3 (.raw bytes') = ext.blake3 (.raw bytes) → bytes' = bytes) :
  Stored ext store disk (blake3HexPrefixed ext (.raw bytes)) bytes
  := by
  obtain ⟨dir, hpath⟩ := store.exists_filePathForHash ext (.raw bytes)
  obtain ⟨raw, hraw⟩ := Option.isSome_iff_exists.mp
    (Std.ExtTreeMap.mem_iff_isSome_getElem?.mp (hputs.present bytes hbytes _ hpath))
  obtain ⟨bytes', hbytes', hhash, hstored⟩ := hputs.written bytes _ raw hpath hraw
  cases hcollision bytes' hbytes' (blake3HexPrefixed_inj.mp hhash)
  constructor
  · exact hputs.row bytes hbytes
  · have hread : store.rawBytes (blake3HexPrefixed ext (.raw bytes)) disk.files = .ok raw := by
      rw [ObjectStore.rawBytes, hpath, AppResult.ok_bind, okOrElse_eq_ok]
      exact hraw
    rw [HoldsBytes]
    obtain ⟨hnone, rfl⟩ | ⟨enc, ciphertext, henc, hseal, rfl⟩ :=
      ObjectStore.maybeEncryptBytes_eq_ok.mp hstored
    · rw [hnone]
      exact hread
    · rw [henc, ObjectStore.getBytes, hread, AppResult.ok_bind,
        ObjectStore.maybeDecryptBytes_eq_ok rfl]
      exact ⟨enc, ciphertext, henc, rfl, (haead _ _ _ _).mp hseal⟩

/-! ### What a call does -/

@[simp] theorem docs_insertDocSource (db : Db) (docId : String) (sourcePath : Option String) :
  (insertDocSource db docId sourcePath).docs = db.docs
  := by
  cases sourcePath with
  | none => rfl
  | some path =>
    rw [insertDocSource]
    split <;> rfl

@[simp] theorem objects_insertDocSource (db : Db) (docId : String) (sourcePath : Option String) :
  (insertDocSource db docId sourcePath).objects = db.objects
  := by
  cases sourcePath with
  | none => rfl
  | some path =>
    rw [insertDocSource]
    split <;> rfl

@[simp] theorem canonicalText_insertDocSource (db : Db) (docId : String)
    (sourcePath : Option String) :
  (insertDocSource db docId sourcePath).canonicalText = db.canonicalText
  := by
  cases sourcePath with
  | none => rfl
  | some path =>
    rw [insertDocSource]
    split <;> rfl

/-- The rows of documents after a call. -/
def docsAfter (ext : Externals) (call : Call) (docs : Table DocRow) : Table DocRow :=
  match call.request? with
  | none => docs
  | some req => docs.insertIfNew (blake3HexPrefixed ext (.raw req.bytes)) (docRow ext req)

/-- The row that a text is kept in. -/
def textRow (ext : Externals) (text : CanonicalTextArtifact × Int64) : CanonicalTextRow :=
  text.1.row (blake3HexPrefixed ext (.raw text.1.canonicalBytes)) text.2

/-- The rows of texts after a call. -/
def textsAfter (ext : Externals) (call : Call) (texts : Table CanonicalTextRow) :
  Table CanonicalTextRow
  :=
  match call.text? with
  | none => texts
  | some text => texts.insert text.1.docId (textRow ext text)

/-- A call that goes through has put its bytes, and then written the row of its document or its
text. -/
theorem run_eq_ok {call : Call} (h : call.run ext store disk = (.ok (), after)) :
  ∃ stop hash put, store.putBytes ext call.payload stop ⟨disk.files, disk.db.toDb⟩
      = (.ok hash, put)
    ∧ after.files = put.files ∧ after.db.objects = put.db.objects
    ∧ after.db.docs = docsAfter ext call disk.db.docs
    ∧ after.db.canonicalText = textsAfter ext call disk.db.canonicalText
  := by
  obtain ⟨dir, hpath⟩ := store.exists_filePathForHash ext (.raw call.payload)
  cases call with
  | ingest req nowMs fault stop =>
    rw [Call.run, ingestBytes] at h
    cases happend : appendEvent ext fault nowMs "ingest.bytes" (ingestPayload req)
        disk.db.events with
    | error e =>
      rw [happend] at h
      cases h
    | ok appended =>
      rw [happend] at h
      simp only [Ingest.ingestBytes] at h
      rcases hput : store.putBytes ext req.bytes stop ⟨disk.files, disk.db.toDb⟩
        with ⟨e | hash, put⟩
      · rw [hput] at h
        cases h
      · rw [hput] at h
        obtain ⟨rfl, hdb, -⟩ := putBytes_eq_ok hpath hput
        rw [Prod.mk.injEq] at h
        obtain ⟨-, rfl⟩ := h
        use stop, blake3HexPrefixed ext (.raw req.bytes), put, hput, rfl
        simp [Call.payload, insertDoc, docsAfter, textsAfter, Call.request?, Call.text?, docRow,
          hdb]
  | persist artifact createdEventId stop fault =>
    rcases hpersist : persistCanonicalText ext store artifact createdEventId stop fault disk.files
      disk.db with ⟨result, files, db⟩
    rw [Call.run, hpersist] at h
    cases h
    rw [persistCanonicalText] at hpersist
    split at hpersist
    case isTrue => cases hpersist
    case isFalse =>
      rcases hput : store.putBytes ext artifact.canonicalBytes stop ⟨disk.files, disk.db.toDb⟩
        with ⟨e | hash, put⟩
      · rw [hput] at hpersist
        cases hpersist
      · rw [hput] at hpersist
        obtain ⟨rfl, hdb, -⟩ := putBytes_eq_ok hpath hput
        cases fault with
        | some error => cases hpersist
        | none =>
          cases hpersist
          use stop, blake3HexPrefixed ext (.raw artifact.canonicalBytes), put, hput, rfl, rfl
          simp [Call.payload, docsAfter, textsAfter, Call.request?, Call.text?, textRow, hdb]

/-! ### What calls leave -/

/-- What the tables and the files are after calls, row by row. -/
structure Tracks (ext : Externals) (store : ObjectStore) (calls : List Call) (disk : OwnerDisk) :
  Prop
  where
  docs : ∀ docId, disk.db.docs[docId]?
    = ((requests calls).find? fun req => blake3HexPrefixed ext (.raw req.bytes) = docId).map
        (docRow ext)
  texts : ∀ docId, disk.db.canonicalText[docId]? = (lastText calls docId).map (textRow ext)
  puts : Puts ext store (calls.map Call.payload) ⟨disk.files, disk.db.toDb⟩

theorem Empty.tracks (h : Empty ext store disk) :
  Tracks ext store [] disk
  := by
  constructor
  · intro docId
    rw [h.docs, Std.ExtTreeMap.getElem?_empty]
    rfl
  · intro docId
    rw [h.canonicalText, Std.ExtTreeMap.getElem?_empty]
    rfl
  · constructor
    · rintro bytes ⟨⟩
    · rintro bytes ⟨⟩
    · intro bytes path raw hpath hraw
      exfalso
      apply h.files bytes path hpath
      rw [Std.ExtTreeMap.mem_iff_isSome_getElem?, hraw]
      rfl

theorem requests_append_singleton (calls : List Call) (call : Call) :
  requests (calls ++ [call]) = requests calls ++ call.request?.toList
  := by
  rw [requests, List.filterMap_append]
  cases call <;> rfl

theorem lastText_append_singleton (calls : List Call) (call : Call) (docId : String) :
  lastText (calls ++ [call]) docId
    = (call.text?.filter fun text => text.1.docId = docId).or (lastText calls docId)
  := by
  rw [lastText, texts, List.filterMap_append, List.reverse_append, List.find?_append]
  cases call with
  | ingest _ _ _ _ => rfl
  | persist artifact createdEventId _ _ =>
    by_cases h : artifact.docId = docId <;> simp [Call.text?, Option.filter, h, lastText, texts]

/-- A call that goes through leaves one row more at most, and the row of a document that is there
stays. -/
theorem Tracks.run {call : Call} (htracks : Tracks ext store calls disk)
    (h : call.run ext store disk = (.ok (), after)) :
  Tracks ext store (calls ++ [call]) after
  := by
  obtain ⟨stop, hash, put, hput, hfiles, hobjects, hdocs, htexts⟩ := run_eq_ok h
  constructor
  · intro docId
    rw [hdocs, requests_append_singleton, List.find?_append, docsAfter]
    cases call.request? with
    | none => simpa using htracks.docs docId
    | some req =>
      simp only [Std.ExtTreeMap.getElem?_insertIfNew, Std.LawfulEqCmp.compare_eq_iff_eq,
        Std.ExtTreeMap.mem_iff_isSome_getElem?, htracks.docs, Option.isSome_map]
      by_cases hreq : blake3HexPrefixed ext (.raw req.bytes) = docId
      · subst hreq
        cases (requests calls).find? fun req' => blake3HexPrefixed ext (.raw req'.bytes)
          = blake3HexPrefixed ext (.raw req.bytes) with
        | none => simp
        | some first => simp
      · simp [hreq]
  · intro docId
    rw [htexts, lastText_append_singleton, textsAfter]
    cases call.text? with
    | none => exact htracks.texts docId
    | some text =>
      simp only [Std.ExtTreeMap.getElem?_insert, Std.LawfulEqCmp.compare_eq_iff_eq]
      by_cases htext : text.1.docId = docId
      · simp [htext, Option.filter]
      · simp [htext, Option.filter, htracks.texts docId]
  · rw [List.map_append]
    have hputs := htracks.puts.putBytes hput
    constructor
    · rw [hobjects]
      exact hputs.row
    · rw [hfiles]
      exact hputs.present
    · rw [hfiles]
      exact hputs.written

theorem Tracks.runAll {later : List Call} (htracks : Tracks ext store calls disk)
    (h : runAll ext store later disk = (.ok (), after)) :
  Tracks ext store (calls ++ later) after
  := by
  induction later generalizing calls disk with
  | nil =>
    cases h
    simpa using htracks
  | cons call rest ih =>
    rw [References.runAll] at h
    rcases hcall : call.run ext store disk with ⟨e | _, mid⟩
    · rw [hcall] at h
      cases h
    · rw [hcall] at h
      have hmid := ih (htracks.run hcall) h
      simpa using hmid

/-! ### The claim about any run -/

theorem mem_ingested {bytes : List UInt8} :
  bytes ∈ ingested calls ↔ ∃ req ∈ requests calls, req.bytes = bytes
  := List.mem_map

theorem mem_payloads_of_mem_requests {req : IngestBytesReq} (h : req ∈ requests calls) :
  ∃ call ∈ calls, call.payload = req.bytes
  := by
  obtain ⟨call, hcall, hreq⟩ := List.mem_filterMap.mp h
  use call, hcall
  cases call <;> cases hreq
  rfl

theorem mem_payloads_of_lastText {docId : String} {text : CanonicalTextArtifact × Int64}
    (h : lastText calls docId = some text) :
  ∃ call ∈ calls, call.payload = text.1.canonicalBytes
  := by
  have hmem := List.mem_reverse.mp (List.mem_of_find?_eq_some h)
  obtain ⟨call, hcall, htext⟩ := List.mem_filterMap.mp hmem
  use call, hcall
  cases call <;> cases htext
  rfl

theorem Tracks.stored (haead : ext.AeadInverse) (hcollision : CollisionFree ext calls)
    (htracks : Tracks ext store calls disk) {bytes : List UInt8}
    (hbytes : ∃ call ∈ calls, call.payload = bytes) :
  Stored ext store disk (blake3HexPrefixed ext (.raw bytes)) bytes
  := by
  obtain ⟨call, hcall, rfl⟩ := hbytes
  apply htracks.puts.stored haead (List.mem_map_of_mem hcall)
  intro bytes' hbytes' hhash
  obtain ⟨call', hcall', rfl⟩ := List.mem_map.mp hbytes'
  apply hcollision call' hcall' call hcall hhash

/-- Byte strings that were ingested are the same when their hashes are. -/
theorem CollisionFree.bytes_eq (hcollision : CollisionFree ext calls)
    {bytes bytes' : List UInt8} (h : bytes ∈ ingested calls) (h' : bytes' ∈ ingested calls)
    (hhash : blake3HexPrefixed ext (.raw bytes) = blake3HexPrefixed ext (.raw bytes')) :
  bytes = bytes'
  := by
  obtain ⟨req, hreq, rfl⟩ := mem_ingested.mp h
  obtain ⟨req', hreq', rfl⟩ := mem_ingested.mp h'
  obtain ⟨call, hcall, hpayload⟩ := mem_payloads_of_mem_requests hreq
  obtain ⟨call', hcall', hpayload'⟩ := mem_payloads_of_mem_requests hreq'
  rw [← hpayload, ← hpayload'] at hhash ⊢
  apply hcollision call hcall call' hcall' (blake3HexPrefixed_inj.mp hhash)

/-- The request that the row of a byte string comes from is its first one. -/
theorem Tracks.docs_firstIngest (hcollision : CollisionFree ext calls)
    (htracks : Tracks ext store calls disk) {bytes : List UInt8} (hbytes : bytes ∈ ingested calls) :
  disk.db.docs[blake3HexPrefixed ext (.raw bytes)]? = (firstIngest calls bytes).map (docRow ext)
  := by
  rw [htracks.docs, firstIngest]
  congr 1
  apply List.find?_congr
  intro req hreq
  have hreq' : req.bytes ∈ ingested calls := mem_ingested.mpr ⟨req, hreq, rfl⟩
  rw [decide_eq_decide]
  constructor
  · apply hcollision.bytes_eq hreq' hbytes
  · rintro rfl
    rfl

theorem Tracks.keys_perm (hcollision : CollisionFree ext calls)
    (htracks : Tracks ext store calls disk) :
  disk.db.docs.keys.Perm
    ((ingested calls).dedup.map fun bytes => blake3HexPrefixed ext (.raw bytes))
  := by
  apply (List.perm_ext_iff_of_nodup Std.ExtTreeMap.nodup_keys _).mpr
  · intro docId
    rw [Std.ExtTreeMap.mem_keys, Std.ExtTreeMap.mem_iff_isSome_getElem?, htracks.docs,
      Option.isSome_map, List.find?_isSome]
    simp [ingested]
  · apply List.Nodup.map_on _ (List.nodup_dedup _)
    intro bytes hbytes bytes' hbytes'
    apply hcollision.bytes_eq (List.mem_dedup.mp hbytes) (List.mem_dedup.mp hbytes')

theorem Tracks.storeInvariant (haead : ext.AeadInverse) (hcollision : CollisionFree ext calls)
    (htracks : Tracks ext store calls disk) :
  StoreInvariant ext store calls disk
  := by
  constructor
  · apply htracks.keys_perm hcollision
  · intro bytes hbytes
    obtain ⟨req, hreq, hsame⟩ := mem_ingested.mp hbytes
    have hsome : (firstIngest calls bytes).isSome := by
      rw [firstIngest, List.find?_isSome]
      use req, hreq
      simpa using hsame
    obtain ⟨first, hfirst⟩ := Option.isSome_iff_exists.mp hsome
    use first, hfirst
    rw [htracks.docs_firstIngest hcollision hbytes, hfirst, Option.map_some]
  · intro bytes hbytes
    obtain ⟨req, hreq, rfl⟩ := mem_ingested.mp hbytes
    apply htracks.stored haead hcollision (mem_payloads_of_mem_requests hreq)
  · intro docId row hrow
    rw [htracks.texts] at hrow
    obtain ⟨⟨artifact, createdEventId⟩, hlast, rfl⟩ := Option.map_eq_some_iff.mp hrow
    use artifact, createdEventId, hlast, rfl
    apply htracks.stored haead hcollision (mem_payloads_of_lastText hlast)

/-- The rows of documents stay through further calls. -/
def RowsStay (ext : Externals) (store : ObjectStore) (disk : OwnerDisk) : Prop :=
  ∀ later after, runAll ext store later disk = (.ok (), after) →
    ∀ (docId : String) row, disk.db.docs[docId]? = some row → after.db.docs[docId]? = some row

theorem Tracks.rowsStay (htracks : Tracks ext store calls disk) :
  RowsStay ext store disk
  := by
  intro later after hlater docId row hrow
  have hafter := htracks.runAll hlater
  rw [htracks.docs] at hrow
  rw [hafter.docs, requests, List.filterMap_append, List.find?_append, Option.map_or]
  rw [requests] at hrow
  rw [hrow, Option.some_or]

/-- From an empty vault, calls that go through keep one row for each byte string, as its first
ingest has written it, and every row names an object that is stored. -/
theorem runAll_storeInvariant (ext : Externals) (store : ObjectStore) (start : OwnerDisk)
    (calls : List Call) (disk : OwnerDisk) (haead : ext.AeadInverse)
    (hcollision : CollisionFree ext calls) (hempty : Empty ext store start)
    (hrun : runAll ext store calls start = (.ok (), disk)) :
  StoreInvariant ext store calls disk ∧ RowsStay ext store disk
  := by
  have htracks : Tracks ext store ([] ++ calls) disk := hempty.tracks.runAll hrun
  constructor
  · apply htracks.storeInvariant haead hcollision
  · apply htracks.rowsStay

/-! ### An example -/

namespace Sample

/-- A vault with nothing in it. -/
def emptyDisk : OwnerDisk where
  files := ∅
  db := {
    Db.empty with
    events := .empty
    trustProviderPolicies := ∅
    lineagePolicies := ∅
    lineagePolicyBindings := []
    lineagePolicyAudit := [] }

/-- Ingest three bytes. -/
def ingestAs (mime sourceKind : String) (effectiveTsMs : Int64) : Call :=
  .ingest {
    bytes := [1, 2, 3]
    mime
    sourceKind
    effectiveTsMs
    sourcePath := none } 5 none none

/-- The same bytes are ingested twice, and a text is extracted from them. -/
def ingestedTwice : List Call :=
  [ingestAs "text/plain" "notes" 1, ingestAs "text/html" "manuals" 2,
    .persist (Sample.newText (blake3HexPrefixed Sample.ext (.raw [1, 2, 3]))) 3 none none]

end Sample

/-- The second ingest changes nothing, and the text is stored sealed. -/
theorem runAll_storeInvariant_twice :
  ∃ disk, runAll Sample.ext ObjectStore.Sample.sealingStore Sample.ingestedTwice Sample.emptyDisk
      = (.ok (), disk)
    ∧ StoreInvariant Sample.ext ObjectStore.Sample.sealingStore Sample.ingestedTwice disk
    ∧ RowsStay Sample.ext ObjectStore.Sample.sealingStore disk
  := by
  have hok : (runAll Sample.ext ObjectStore.Sample.sealingStore Sample.ingestedTwice
      Sample.emptyDisk).1.toOption = some () := by
    decide +kernel
  rcases hrun : runAll Sample.ext ObjectStore.Sample.sealingStore Sample.ingestedTwice
    Sample.emptyDisk with ⟨result, disk⟩
  rw [hrun] at hok
  cases ok_of_toOption hok
  use disk, rfl
  apply runAll_storeInvariant _ _ _ _ _ ObjectStore.Sample.aeadInverse _ _ hrun
  · have hpayloads : ∀ call ∈ Sample.ingestedTwice, ∀ call' ∈ Sample.ingestedTwice,
        Sample.ext.blake3 (.raw call.payload) = Sample.ext.blake3 (.raw call'.payload) →
        call.payload = call'.payload := by
      decide +kernel
    apply hpayloads
  · constructor
    · rfl
    · rfl
    · rfl
    · intro _ _ _
      apply Std.ExtTreeMap.not_mem_empty

end References

end KnowledgeCore
