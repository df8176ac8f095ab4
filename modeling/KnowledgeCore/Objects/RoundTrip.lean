import Mathlib.Data.List.TakeDrop
import KnowledgeCore.ObjectStore

/-!
# Getting back what was put

A byte string that was put is read back unless its file does not hold what a put writes: in a
plain store it may look sealed, and in any store an earlier put may have been stopped and have
left a part of the file, which no later put completes.
-/

namespace KnowledgeCore

/-- The cipher opens exactly what it has sealed. -/
def Externals.AeadInverse (ext : Externals) : Prop :=
  ∀ key nonce plaintext ciphertext,
    ext.encrypt key nonce plaintext = some ciphertext
      ↔ ext.decrypt key nonce ciphertext = some plaintext

namespace ObjectStore

variable {ext : Externals} {store : ObjectStore} {bytes : List UInt8}

/-- A put: its bytes, and after how many bytes of its file it was stopped, if it was. -/
structure Put where
  bytes : List UInt8
  stop : Option Nat

/-- The disk after a history of puts. -/
def putAll (ext : Externals) (store : ObjectStore) (puts : List Put) (disk : Disk) : Disk :=
  puts.foldl (fun disk put => (store.putBytes ext put.bytes put.stop disk).2) disk

/-- No other byte string that is put has the same hash. -/
def CollisionFree (ext : Externals) (puts : List Put) (bytes : List UInt8) : Prop :=
  ∀ put ∈ puts, ext.blake3 (.raw put.bytes) = ext.blake3 (.raw bytes) → put.bytes = bytes

/-- What is asked of a store after a history of puts: what a further put stores under a hash is
what is read under it. -/
def RoundTrips (ext : Externals) (store : ObjectStore) (puts : List Put) (db : Db)
    (bytes : List UInt8) : Prop :=
  ∀ stop hash after, store.putBytes ext bytes stop (store.putAll ext puts ⟨∅, db⟩)
      = (.ok hash, after) →
    store.getBytes ext hash after.files = .ok bytes

/-- After how many bytes the first put of a byte string was stopped, if it was. -/
def firstStop (puts : List Put) (bytes : List UInt8) : Option Nat :=
  (puts.find? fun put => put.bytes = bytes).bind Put.stop

/-- A byte string is kept: a plain store does not take it for sealed, and the first put of it
has written the whole file. A store with a key keeps it also when that put has left fewer bytes
than the magic number has, and these are the byte string. -/
def Keeps (store : ObjectStore) (puts : List Put) (bytes stored : List UInt8) : Prop :=
  ((store.encryption = none → isEncryptedPayload bytes = false)
      ∧ ∀ n, firstStop puts bytes = some n → stored.length ≤ n)
    ∨ (store.encryption.isSome ∧ ∃ n < Content.ENCRYPTED_MAGIC.length,
      firstStop puts bytes = some n ∧ bytes = Content.ENCRYPTED_MAGIC.take n)

/-! ### What a history leaves -/

/-- The file of a byte string is the one its first put has left. -/
theorem getElem?_putAll {path : String} {stored : List UInt8}
    (hpath : store.filePathForHash (blake3HexPrefixed ext (.raw bytes)) = .ok path)
    (hstored : store.maybeEncryptBytes ext (blake3HexPrefixed ext (.raw bytes)) bytes
      = .ok stored)
    {puts : List Put} (hcollision : CollisionFree ext puts bytes) (disk : Disk) :
  (store.putAll ext puts disk).files[path]?
    = disk.files[path]?.or ((puts.find? fun put => put.bytes = bytes).map fun put =>
        written stored put.stop)
  := by
  induction puts generalizing disk with
  | nil => simp [putAll]
  | cons put rest ih =>
    have hrest : CollisionFree ext rest bytes := by
      intro put' hput'
      apply hcollision put' (List.mem_cons_of_mem put hput')
    have hstep : store.putAll ext (put :: rest) disk
        = store.putAll ext rest (store.putBytes ext put.bytes put.stop disk).2 := rfl
    rw [hstep, ih hrest, List.find?_cons]
    by_cases hsame : put.bytes = bytes
    · subst hsame
      rw [getElem?_files_putBytes hpath hstored, if_pos rfl, Option.or_assoc]
      simp
    · rw [getElem?_files_putBytes_of_ne hpath]
      · simp [hsame]
      · intro hhash
        exact hsame (hcollision put (by simp) (blake3HexPrefixed_inj.mp hhash))

/-- Bytes that cannot be sealed have no file. -/
theorem getElem?_putAll_of_error {path : String} {e : AppError}
    (hpath : store.filePathForHash (blake3HexPrefixed ext (.raw bytes)) = .ok path)
    (he : store.maybeEncryptBytes ext (blake3HexPrefixed ext (.raw bytes)) bytes = .error e)
    {puts : List Put} (hcollision : CollisionFree ext puts bytes) (disk : Disk) :
  (store.putAll ext puts disk).files[path]? = disk.files[path]?
  := by
  induction puts generalizing disk with
  | nil => rfl
  | cons put rest ih =>
    have hrest : CollisionFree ext rest bytes := by
      intro put' hput'
      apply hcollision put' (List.mem_cons_of_mem put hput')
    have hstep : store.putAll ext (put :: rest) disk
        = store.putAll ext rest (store.putBytes ext put.bytes put.stop disk).2 := rfl
    rw [hstep, ih hrest]
    by_cases hsame : put.bytes = bytes
    · subst hsame
      rw [files_putBytes_of_error he]
    · apply getElem?_files_putBytes_of_ne hpath
      intro hhash
      exact hsame (hcollision put (by simp) (blake3HexPrefixed_inj.mp hhash))

/-- The file of a byte string after a put of it has gone through. -/
theorem getElem?_putBytes_putAll {path hash : String} {stored : List UInt8} {puts : List Put}
    {db : Db} {stop : Option Nat} {after : Disk}
    (hpath : store.filePathForHash (blake3HexPrefixed ext (.raw bytes)) = .ok path)
    (hstored : store.maybeEncryptBytes ext (blake3HexPrefixed ext (.raw bytes)) bytes
      = .ok stored)
    (hcollision : CollisionFree ext puts bytes)
    (h : store.putBytes ext bytes stop (store.putAll ext puts ⟨∅, db⟩) = (.ok hash, after)) :
  after.files[path]? = some (written stored (firstStop puts bytes))
  := by
  have hfile := getElem?_putAll hpath hstored hcollision ⟨∅, db⟩
  have hafter := getElem?_files_putBytes hpath hstored stop (store.putAll ext puts ⟨∅, db⟩) path
  rw [h, hfile] at hafter
  rw [hafter, firstStop]
  cases hfirst : puts.find? (fun put => put.bytes = bytes) with
  | some put => simp
  | none =>
    obtain ⟨-, hmem | ⟨rfl, -⟩⟩ := putBytes_eq_ok hpath h
    · rw [Std.ExtTreeMap.mem_iff_isSome_getElem?, hfile, hfirst] at hmem
      simp at hmem
    · simp [written]

/-! ### What is read -/

/-- The first bytes of a byte string that looks sealed look sealed from the end of the magic
number on. -/
theorem isEncryptedPayload_take {n : Nat} (hn : Content.ENCRYPTED_MAGIC.length ≤ n) :
  isEncryptedPayload (bytes.take n) = isEncryptedPayload bytes
  := by
  have hiff : Content.ENCRYPTED_MAGIC <+: bytes.take n ↔ Content.ENCRYPTED_MAGIC <+: bytes := by
    rw [List.prefix_take_iff, and_iff_left hn]
  rw [Bool.eq_iff_iff, isEncryptedPayload, isEncryptedPayload, List.isPrefixOf_iff_prefix,
    List.isPrefixOf_iff_prefix, hiff]

theorem isEncryptedPayload_of_short (h : bytes.length < Content.ENCRYPTED_MAGIC.length) :
  isEncryptedPayload bytes = false
  := by
  rw [← Bool.not_eq_true, isEncryptedPayload, List.isPrefixOf_iff_prefix]
  intro hstarts
  have := hstarts.length_le
  omega

/-- A plain store reads what it has written of a byte string as the byte string exactly when it
does not look sealed and is whole. -/
theorem reads_plain (hplain : store.encryption = none) {hash : String} {first : Option Nat} :
  store.maybeDecryptBytes ext hash (written bytes first) = .ok bytes
    ↔ isEncryptedPayload bytes = false ∧ ∀ n, first = some n → bytes.length ≤ n
  := by
  have hread : store.maybeDecryptBytes ext hash (written bytes first) = .ok bytes
      ↔ isEncryptedPayload (written bytes first) = false ∧ written bytes first = bytes := by
    cases hlooks : isEncryptedPayload (written bytes first) with
    | false => simp [maybeDecryptBytes_plain hlooks]
    | true =>
      rw [maybeDecryptBytes_eq_ok hlooks]
      simp [hplain]
  rw [hread]
  cases first with
  | none => simp [written]
  | some n =>
    simp only [written, Option.some.injEq, forall_eq']
    rw [List.take_eq_self_iff]
    apply and_congr_left
    intro hwhole
    rw [List.take_of_length_le hwhole]

/-- A store with a key reads what it has written of a byte string as the byte string exactly
when it is whole, or too short to look sealed and the byte string itself. -/
theorem reads_sealed (haead : ext.AeadInverse) {enc : ObjectStoreEncryptionContext}
    (henc : store.encryption = some enc) {hash : String} {first : Option Nat}
    {stored : List UInt8} (hstored : store.maybeEncryptBytes ext hash bytes = .ok stored) :
  store.maybeDecryptBytes ext hash (written stored first) = .ok bytes
    ↔ (∀ n, first = some n → stored.length ≤ n)
      ∨ ∃ n < Content.ENCRYPTED_MAGIC.length, first = some n
        ∧ bytes = Content.ENCRYPTED_MAGIC.take n
  := by
  obtain ⟨hnone, -⟩ | ⟨enc', ciphertext, henc', hseal, rfl⟩ := maybeEncryptBytes_eq_ok.mp hstored
  · rw [henc] at hnone
    cases hnone
  rw [henc] at henc'
  cases henc'
  have hwhole : store.maybeDecryptBytes ext hash
      (sealedPayload (deterministicNonce ext hash enc.keyReference) ciphertext) = .ok bytes := by
    apply (maybeDecryptBytes_eq_ok rfl).mpr
    exact ⟨enc, ciphertext, henc, rfl, (haead _ _ _ _).mp hseal⟩
  generalize hnonce : deterministicNonce ext hash enc.keyReference = nonce at *
  cases first with
  | none => simp [written, hwhole]
  | some n =>
    simp only [written, Option.some.injEq, forall_eq']
    by_cases hn : (sealedPayload nonce ciphertext).length ≤ n
    · rw [List.take_of_length_le hn]
      exact iff_of_true hwhole (.inl hn)
    · rw [or_iff_right hn]
      by_cases hshort : n < Content.ENCRYPTED_MAGIC.length
      · have htake : (sealedPayload nonce ciphertext).take n = Content.ENCRYPTED_MAGIC.take n := by
          rw [sealedPayload, List.append_assoc, List.take_append_of_le_length hshort.le]
        have hlooks : isEncryptedPayload (Content.ENCRYPTED_MAGIC.take n) = false := by
          apply isEncryptedPayload_of_short
          rw [List.length_take]
          omega
        rw [htake, maybeDecryptBytes_plain hlooks, Except.ok.injEq]
        constructor
        · rintro rfl
          use n
        · rintro ⟨_, -, rfl, rfl⟩
          rfl
      · apply iff_of_false
        · intro hread
          rw [maybeDecryptBytes_eq_ok (isEncryptedPayload_take (not_lt.mp hshort))] at hread
          obtain ⟨enc', ciphertext', henc', hraw, hopen⟩ := hread
          rw [henc] at henc'
          cases henc'
          -- a ciphertext that opens to the bytes is the one they are sealed as
          have hseal' := (haead _ _ _ _).mpr hopen
          rw [hnonce, hseal] at hseal'
          cases hseal'
          rw [hnonce] at hraw
          exact hn (List.take_eq_self_iff _ |>.mp hraw)
        · rintro ⟨m, hm, rfl, -⟩
          exact hshort hm

/-- Whatever was put before, what is put is read back exactly when the store keeps it. -/
theorem round_trips_iff (ext : Externals) (store : ObjectStore) (puts : List Put) (db : Db)
    (bytes : List UInt8) (haead : ext.AeadInverse) (hcollision : CollisionFree ext puts bytes) :
  RoundTrips ext store puts db bytes
    ↔ ∀ stored,
      store.maybeEncryptBytes ext (blake3HexPrefixed ext (.raw bytes)) bytes = .ok stored →
      Keeps store puts bytes stored
  := by
  obtain ⟨dir, hpath⟩ := exists_filePathForHash ext store (.raw bytes)
  have hreads {stored : List UInt8} (hstored : store.maybeEncryptBytes ext
      (blake3HexPrefixed ext (.raw bytes)) bytes = .ok stored) :
      store.maybeDecryptBytes ext (blake3HexPrefixed ext (.raw bytes))
          (written stored (firstStop puts bytes)) = .ok bytes
        ↔ Keeps store puts bytes stored := by
    cases henc : store.encryption with
    | none =>
      obtain ⟨-, rfl⟩ | ⟨enc, _, henc', -⟩ := maybeEncryptBytes_eq_ok.mp hstored
      · rw [reads_plain henc]
        simp [Keeps, henc]
      · rw [henc] at henc'
        cases henc'
    | some enc =>
      rw [reads_sealed haead henc hstored]
      simp [Keeps, henc]
  constructor
  · intro htrips stored hstored
    obtain ⟨after, hput⟩ := exists_putBytes hstored (store.putAll ext puts ⟨∅, db⟩)
    have hfile := getElem?_putBytes_putAll hpath hstored hcollision hput
    obtain ⟨raw, hraw, hread⟩ := (getBytes_eq_ok hpath).mp (htrips none _ after hput)
    rw [hfile] at hraw
    cases hraw
    apply (hreads hstored).mp hread
  · intro hkeeps stop hash after hput
    cases hstored : store.maybeEncryptBytes ext (blake3HexPrefixed ext (.raw bytes)) bytes with
    | error e =>
      obtain ⟨rfl, hmem | ⟨-, stored, hstored'⟩⟩ := putBytes_eq_ok hpath hput
      · rw [Std.ExtTreeMap.mem_iff_isSome_getElem?,
          getElem?_putAll_of_error hpath hstored hcollision] at hmem
        simp at hmem
      · rw [hstored] at hstored'
        cases hstored'
    | ok stored =>
      obtain ⟨rfl, -⟩ := putBytes_eq_ok hpath hput
      apply (getBytes_eq_ok hpath).mpr
      use written stored (firstStop puts bytes)
      constructor
      · apply getElem?_putBytes_putAll hpath hstored hcollision hput
      · apply (hreads hstored).mpr (hkeeps stored hstored)

/-- A plain store with nothing in it. -/
def Sample.plainStore : ObjectStore := ObjectStore.new "/vault/store/objects"

/-- A store with a key. -/
def Sample.sealingStore : ObjectStore :=
  ObjectStore.withEncryption "/vault/store/objects" ⟨Vector.replicate 32 1, "vault:vault-a"⟩

theorem Sample.aeadInverse : Sample.ext.AeadInverse := by
  intro _ _ plaintext ciphertext
  simp [Sample.ext, eq_comm]

/-- A store with a key keeps a byte string that an earlier put has written. -/
theorem round_trips_iff_sealingStore :
  RoundTrips Sample.ext Sample.sealingStore [⟨[1, 2, 3], none⟩] Db.empty [1, 2, 3]
  := by
  apply (round_trips_iff _ _ _ _ _ Sample.aeadInverse _).mpr
  · intro stored _
    left
    constructor
    · intro hplain
      cases hplain
    · intro n hn
      cases hn
  · intro put hput _
    rw [List.mem_singleton.mp hput]

/-- A plain store takes the magic number for a sealed object. -/
theorem plain_store_loses_magic :
  ¬ RoundTrips Sample.ext Sample.plainStore [] Db.empty Content.ENCRYPTED_MAGIC
  := by
  have hread : (Sample.plainStore.getBytes Sample.ext
      (blake3HexPrefixed Sample.ext (.raw Content.ENCRYPTED_MAGIC))
      (Sample.plainStore.putBytes Sample.ext Content.ENCRYPTED_MAGIC none
        ⟨∅, Db.empty⟩).2.files).isOk = false := by
    decide +kernel
  intro htrips
  have hstored : Sample.plainStore.maybeEncryptBytes Sample.ext
      (blake3HexPrefixed Sample.ext (.raw Content.ENCRYPTED_MAGIC)) Content.ENCRYPTED_MAGIC
      = .ok Content.ENCRYPTED_MAGIC := rfl
  obtain ⟨after, hput⟩ := exists_putBytes hstored ⟨∅, Db.empty⟩
  have hok := htrips none _ after hput
  rw [hput, hok] at hread
  cases hread

end ObjectStore

end KnowledgeCore
