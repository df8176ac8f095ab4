import KnowledgeCore.Objects.RoundTrip

/-!
# Reading by hash

A locator names a range of the canonical text of a document. It is resolved by reading the
object the database names for the document. What is read under a hash is not compared with the
hash, so that it is the file that decides whether it is what the hash stands for.
-/

namespace KnowledgeCore

structure LocatorRange where
  start : Int64
  end_ : Int64

/-- A locator, without its hints, which no resolver reads. -/
structure LocatorV1 where
  v : Int64
  docId : String
  canonicalHash : String
  range : LocatorRange

namespace Locator

def locatorError (code message : String) (details : List (String × Json)) : AppError where
  code := code
  category := "locator"
  message := message
  details := .obj details

/-- Load the row of a document. -/
def loadCanonical (db : Db) (docId : String) : AppResult CanonicalTextRow :=
  okOrElse
    (locatorError "KC_LOCATOR_INVALID_SCHEMA" "failed to load canonical metadata for doc_id"
      [("error", .str "Query returned no rows"), ("doc_id", .str docId)])
    db.canonicalText[docId]?

/-- The part of a text in a range. -/
def slice (text : String) (range : LocatorRange) : AppResult String :=
  let total := Int64.ofNat text.length
  if range.start < 0 ∨ range.end_ < range.start ∨ range.end_ > total then
    .error (locatorError "KC_LOCATOR_RANGE_OOB"
      "locator range is outside canonical text bounds"
      [("start", .int range.start.toInt), ("end", .int range.end_.toInt),
        ("len", .int total.toInt)])
  else
    .ok (String.ofList ((text.toList.drop range.start.toInt.toNat).take
      (range.end_ - range.start).toInt.toNat))

/-- Check the version of a locator. -/
def checkVersion (locator : LocatorV1) : AppResult Unit :=
  if locator.v ≠ 1 then
    .error (locatorError "KC_LOCATOR_INVALID_SCHEMA" "unsupported locator version"
      [("expected", .int 1), ("actual", .int locator.v.toInt)])
  else
    .ok ()

/-- Check the hash of a locator against that of its document. -/
def checkCanonicalHash (locator : LocatorV1) (row : CanonicalTextRow) : AppResult Unit :=
  if row.canonicalHash ≠ locator.canonicalHash then
    .error (locatorError "KC_LOCATOR_CANONICAL_HASH_MISMATCH"
      "locator canonical hash does not match stored canonical hash"
      [("expected", .str row.canonicalHash), ("actual", .str locator.canonicalHash)])
  else
    .ok ()

def resolveLocatorStrict (ext : Externals) (db : Db) (store : ObjectStore) (files : Files)
    (locator : LocatorV1) : AppResult String
  := do
  checkVersion locator
  let row ← loadCanonical db locator.docId
  checkCanonicalHash locator row
  let bytes ← store.getBytes ext row.canonicalObjectHash files
  let text ← okOrElse
    (locatorError "KC_LOCATOR_INVALID_SCHEMA" "canonical bytes are not utf8"
      [("error", .str "invalid utf-8 sequence")])
    (String.fromUTF8? ⟨bytes.toArray⟩)
  slice text locator.range

/-- What a locator resolves to is a part of what is read under the hash its document has. -/
theorem resolveLocatorStrict_eq_ok {ext : Externals} {db : Db} {store : ObjectStore}
    {files : Files} {locator : LocatorV1} {text : String} :
  resolveLocatorStrict ext db store files locator = .ok text
    ↔ locator.v = 1 ∧ ∃ row bytes whole, db.canonicalText[locator.docId]? = some row
      ∧ row.canonicalHash = locator.canonicalHash
      ∧ store.getBytes ext row.canonicalObjectHash files = .ok bytes
      ∧ String.fromUTF8? ⟨bytes.toArray⟩ = some whole
      ∧ slice whole locator.range = .ok text
  := by
  have hversion {u : Unit} : checkVersion locator = .ok u ↔ locator.v = 1 := by
    rw [checkVersion]
    split <;> simp_all
  have hhash {row : CanonicalTextRow} {u : Unit} :
      checkCanonicalHash locator row = .ok u ↔ row.canonicalHash = locator.canonicalHash := by
    rw [checkCanonicalHash]
    split <;> simp_all
  simp only [resolveLocatorStrict, loadCanonical, AppResult.bind_eq_ok, okOrElse_eq_ok, hversion,
    hhash]
  constructor
  · rintro ⟨_, hv, row, hrow, _, hsame, bytes, hbytes, whole, hwhole, hslice⟩
    use hv, row, bytes, whole
  · rintro ⟨hv, row, bytes, whole, hrow, hsame, hbytes, hwhole, hslice⟩
    exact ⟨(), hv, row, hrow, (), hsame, bytes, hbytes, whole, hwhole, hslice⟩

end Locator

namespace ObjectStore

open Locator

variable {ext : Externals} {store : ObjectStore} {files : Files} {hash : String}

/-- What is read under a hash has the hash. -/
def ReadsMatch (ext : Externals) (store : ObjectStore) (files : Files) (hash : String) : Prop :=
  ∀ bytes, store.getBytes ext hash files = .ok bytes → blake3HexPrefixed ext (.raw bytes) = hash

/-- What a locator resolves to is read from bytes that have the hash the database names. -/
def ResolvesMatch (ext : Externals) (store : ObjectStore) (files : Files) (db : Db)
    (locator : LocatorV1) : Prop :=
  ∀ text, resolveLocatorStrict ext db store files locator = .ok text →
    ∃ row bytes, db.canonicalText[locator.docId]? = some row
      ∧ store.getBytes ext row.canonicalObjectHash files = .ok bytes
      ∧ blake3HexPrefixed ext (.raw bytes) = row.canonicalObjectHash

/-- What is asked of reading under a hash: what is read has the hash, also when a locator is
resolved by it. -/
def ContentAddressed (ext : Externals) (store : ObjectStore) (files : Files) (hash : String) :
  Prop
  :=
  ReadsMatch ext store files hash
    ∧ ∀ db locator row, db.canonicalText[locator.docId]? = some row →
      row.canonicalObjectHash = hash → ResolvesMatch ext store files db locator

/-- The file of a hash, if there is one, either does not look sealed and has the hash, or looks
sealed and what it opens to, if it opens, has the hash. -/
def StoredFaithfully (ext : Externals) (store : ObjectStore) (files : Files) (hash : String) :
  Prop
  :=
  ∀ path raw, store.filePathForHash hash = .ok path → files[path]? = some raw →
    (isEncryptedPayload raw = false → blake3HexPrefixed ext (.raw raw) = hash)
      ∧ ∀ enc ciphertext bytes, store.encryption = some enc →
        raw = sealedPayload (deterministicNonce ext hash enc.keyReference) ciphertext →
        ext.decrypt enc.key (deterministicNonce ext hash enc.keyReference) ciphertext
          = some bytes →
        blake3HexPrefixed ext (.raw bytes) = hash

theorem readsMatch_iff :
  ReadsMatch ext store files hash ↔ StoredFaithfully ext store files hash
  := by
  constructor
  · intro hreads path raw hpath hraw
    constructor
    · intro hlooks
      apply hreads
      apply (getBytes_eq_ok hpath).mpr
      exact ⟨raw, hraw, maybeDecryptBytes_plain hlooks⟩
    · rintro enc ciphertext bytes henc rfl hopen
      apply hreads
      apply (getBytes_eq_ok hpath).mpr
      exact ⟨_, hraw, (maybeDecryptBytes_eq_ok rfl).mpr ⟨enc, ciphertext, henc, rfl, hopen⟩⟩
  · intro hstored bytes hbytes
    cases hpath : store.filePathForHash hash with
    | error e => simp [getBytes, rawBytes, hpath] at hbytes
    | ok path =>
      obtain ⟨raw, hraw, hread⟩ := (getBytes_eq_ok hpath).mp hbytes
      obtain ⟨hplain, hsealed⟩ := hstored path raw hpath hraw
      cases hlooks : isEncryptedPayload raw with
      | false =>
        rw [maybeDecryptBytes_plain hlooks, Except.ok.injEq] at hread
        rw [← hread]
        apply hplain hlooks
      | true =>
        obtain ⟨enc, ciphertext, henc, rfl, hopen⟩ := (maybeDecryptBytes_eq_ok hlooks).mp hread
        apply hsealed enc ciphertext bytes henc rfl hopen

/-- What is read under a hash has the hash exactly when the file of the hash holds it. -/
theorem content_addressed_iff (ext : Externals) (store : ObjectStore) (files : Files)
    (hash : String) :
  ContentAddressed ext store files hash ↔ StoredFaithfully ext store files hash
  := by
  rw [← readsMatch_iff]
  constructor
  · intro h
    exact h.1
  · intro hreads
    use hreads
    rintro db locator row hrow rfl text htext
    obtain ⟨-, row', bytes, -, hrow', -, hbytes, -⟩ := resolveLocatorStrict_eq_ok.mp htext
    rw [hrow] at hrow'
    cases hrow'
    use row, bytes, hrow, hbytes, hreads bytes hbytes

/-- A store in which the file of an object has been replaced. -/
def Sample.alteredFiles : Files :=
  (∅ : Files).insert ("/vault/store/objects/3f/" ++ Sample.objectHash) [1, 2, 3]

/-- The store reads the new bytes under the old hash. -/
theorem altered_file_is_read :
  ¬ ContentAddressed Sample.ext Sample.plainStore Sample.alteredFiles Sample.objectHash
  := by
  rintro ⟨hreads, -⟩
  have hread : Sample.plainStore.getBytes Sample.ext Sample.objectHash Sample.alteredFiles
      = .ok [1, 2, 3] := by
    have hpath : Sample.plainStore.filePathForHash Sample.objectHash
        = .ok ("/vault/store/objects/3f/" ++ Sample.objectHash) := by
      apply ok_of_toOption
      decide +kernel
    have hlooks : isEncryptedPayload [1, 2, 3] = false := rfl
    apply (getBytes_eq_ok hpath).mpr
    use [1, 2, 3]
    constructor
    · simp [Sample.alteredFiles]
    · apply maybeDecryptBytes_plain hlooks
  have hhash : blake3HexPrefixed Sample.ext (.raw [1, 2, 3]) ≠ Sample.objectHash := by
    decide +kernel
  exact hhash (hreads _ hread)

end ObjectStore

end KnowledgeCore
