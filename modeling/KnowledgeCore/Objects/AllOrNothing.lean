import KnowledgeCore.Objects.Migration

/-!
# Whether a migration is all or nothing

A migration rewrites the plain objects in place, in the order of their hashes, and stops at the
first error. What it has rewritten by then stays rewritten.
-/

namespace KnowledgeCore

namespace Migration

open Ingest (openDbOf opened closed objectsDir)
open ObjectStore (maybeEncryptBytes_eq_ok maybeDecryptBytes_eq_ok getBytes_eq_ok sealedPayload
  deterministicNonce)

variable {ext : Externals} {dir : String} {enc : ObjectStoreEncryptionContext}
  {trouble : Trouble} {files : Files} {hash : String}

/-! ### One object -/

/-- An object that looks sealed and opens, and whose file is read both times. -/
structure OpensAs (ext : Externals) (dir : String) (enc : ObjectStoreEncryptionContext)
    (trouble : Trouble) (files : Files) (hash path : String) (raw bytes : List UInt8) :
  Prop
  where
  place : (ObjectStore.new dir).filePathForHash hash = .ok path
  found : files[path]? = some raw
  looks : isEncryptedPayload raw = true
  opens : (ObjectStore.withEncryption dir enc).maybeDecryptBytes ext hash raw = .ok bytes
  reads : trouble.reads hash = false
  rereads : trouble.rereads hash = false

def Opens (ext : Externals) (dir : String) (enc : ObjectStoreEncryptionContext)
    (trouble : Trouble) (files : Files) (hash : String) : Prop
  :=
  ∃ path raw bytes, OpensAs ext dir enc trouble files hash path raw bytes

/-- A plain object that gets as far as being written anew. -/
structure Rewrites (ext : Externals) (dir : String) (enc : ObjectStoreEncryptionContext)
    (trouble : Trouble) (files : Files) (hash path : String) (raw stored : List UInt8) :
  Prop
  where
  place : (ObjectStore.new dir).filePathForHash hash = .ok path
  found : files[path]? = some raw
  plain : isEncryptedPayload raw = false
  names : blake3HexPrefixed ext (.raw raw) = hash
  seals : (ObjectStore.withEncryption dir enc).maybeEncryptBytes ext hash raw = .ok stored
  reads : trouble.reads hash = false
  rereads : trouble.rereads hash = false
  dirs : trouble.dirs hash = false

/-- What can become of an object: it opens and is left alone, it is written anew, writing it is
stopped, or the migration stops at it before it is written. -/
inductive Outcome (ext : Externals) (dir : String) (enc : ObjectStoreEncryptionContext)
    (trouble : Trouble) (files : Files) (hash : String) : AppResult Bool × Files → Prop
  | opens : Opens ext dir enc trouble files hash →
    Outcome ext dir enc trouble files hash (.ok false, files)
  | rewrites {path : String} {raw stored : List UInt8} :
    Rewrites ext dir enc trouble files hash path raw stored → trouble.stops hash = none →
    Outcome ext dir enc trouble files hash (.ok true, files.insert path stored)
  | breaks {path : String} {raw stored : List UInt8} {n : Nat} {e : AppError} :
    Rewrites ext dir enc trouble files hash path raw stored → trouble.stops hash = some n →
    Outcome ext dir enc trouble files hash (.error e, files.insert path (stored.take n))
  | refuses {e : AppError} : ¬ Opens ext dir enc trouble files hash →
    (∀ path raw stored, ¬ Rewrites ext dir enc trouble files hash path raw stored) →
    Outcome ext dir enc trouble files hash (.error e, files)

theorem rawBytes_seen_eq_ok {store : ObjectStore} {fails : Bool} {raw : List UInt8} :
  store.rawBytes hash (seen fails files) = .ok raw
    ↔ fails = false ∧ ∃ path, store.filePathForHash hash = .ok path ∧ files[path]? = some raw
  := by
  simp only [ObjectStore.rawBytes, AppResult.bind_eq_ok, okOrElse_eq_ok]
  cases fails <;> simp [seen]

theorem getBytes_seen_eq_ok {store : ObjectStore} {fails : Bool} {bytes : List UInt8} :
  store.getBytes ext hash (seen fails files) = .ok bytes
    ↔ fails = false ∧ ∃ path raw, store.filePathForHash hash = .ok path
      ∧ files[path]? = some raw ∧ store.maybeDecryptBytes ext hash raw = .ok bytes
  := by
  simp only [ObjectStore.getBytes, AppResult.bind_eq_ok, rawBytes_seen_eq_ok]
  constructor
  · rintro ⟨raw, ⟨hfails, path, hpath, hraw⟩, hbytes⟩
    use hfails, path, raw
  · rintro ⟨hfails, path, raw, hpath, hraw, hbytes⟩
    use raw, ⟨hfails, path, hpath, hraw⟩

/-- Whether the file of an object gets as far as being written anew. -/
structure Writable (ext : Externals) (store : ObjectStore) (hash : String)
    (plaintext : List UInt8) (dirFails : Bool) (path : String) (stored : List UInt8) : Prop where
  names : blake3HexPrefixed ext (.raw plaintext) = hash
  place : store.filePathForHash hash = .ok path
  dirs : dirFails = false
  seals : store.maybeEncryptBytes ext hash plaintext = .ok stored

theorem rewritePlaintextForHash_of_writable {store : ObjectStore} {plaintext stored : List UInt8}
    {dirFails : Bool} {path : String}
    (h : Writable ext store hash plaintext dirFails path stored) (stop : Option Nat)
    (files : Files) :
  ∃ result, rewritePlaintextForHash ext store hash plaintext dirFails stop files
      = (result, files.insert path (written stored stop))
    ∧ (stop = none → result = .ok ()) ∧ (∀ n, stop = some n → ∃ e, result = .error e)
  := by
  rw [rewritePlaintextForHash, if_neg (not_not_intro h.names), h.place, h.dirs, h.seals]
  cases stop with
  | none => exact ⟨_, rfl, fun _ => rfl, by simp⟩
  | some n => exact ⟨_, rfl, by simp, fun _ _ => ⟨_, rfl⟩⟩

theorem rewritePlaintextForHash_of_not_writable {store : ObjectStore} {plaintext : List UInt8}
    {dirFails : Bool} {stop : Option Nat}
    (h : ∀ path stored, ¬ Writable ext store hash plaintext dirFails path stored) :
  ∃ e, rewritePlaintextForHash ext store hash plaintext dirFails stop files = (.error e, files)
  := by
  rw [rewritePlaintextForHash]
  split
  · exact ⟨_, rfl⟩
  · next hnames =>
    split
    · exact ⟨_, rfl⟩
    · next path hplace =>
      split
      · exact ⟨_, rfl⟩
      · next hdirs =>
        split
        · exact ⟨_, rfl⟩
        · next stored hseals =>
          exact absurd ⟨not_not.mp hnames, hplace, Bool.of_not_eq_true hdirs, hseals⟩
            (h path stored)

theorem outcome_migrateObject :
  Outcome ext dir enc trouble files hash
    (migrateObject ext (ObjectStore.new dir) (ObjectStore.withEncryption dir enc) trouble hash
      files)
  := by
  rw [migrateObject]
  split
  · next e hraw =>
    have hread (raw : List UInt8) : (ObjectStore.new dir).rawBytes hash
        (seen (trouble.reads hash) files) ≠ .ok raw := by
      rw [hraw]
      rintro ⟨⟩
    apply Outcome.refuses
    · rintro ⟨path, raw, bytes, h⟩
      exact hread raw (rawBytes_seen_eq_ok.mpr ⟨h.reads, path, h.place, h.found⟩)
    · intro path raw stored h
      exact hread raw (rawBytes_seen_eq_ok.mpr ⟨h.reads, path, h.place, h.found⟩)
  · next raw hraw =>
    obtain ⟨hreads, path, hpath, hfound⟩ := rawBytes_seen_eq_ok.mp hraw
    have hunique {path' : String} {raw' : List UInt8}
        (hpath' : (ObjectStore.new dir).filePathForHash hash = .ok path')
        (hfound' : files[path']? = some raw') : path = path' ∧ raw = raw' := by
      rw [hpath] at hpath'
      cases hpath'
      rw [hfound] at hfound'
      cases hfound'
      exact ⟨rfl, rfl⟩
    split
    · next hlooks =>
      split
      · next e hget =>
        apply Outcome.refuses
        · rintro ⟨path', raw', bytes, h⟩
          obtain ⟨rfl, rfl⟩ := hunique h.place h.found
          have hok : (ObjectStore.withEncryption dir enc).getBytes ext hash
              (seen (trouble.rereads hash) files) = .ok bytes :=
            getBytes_seen_eq_ok.mpr ⟨h.rereads, path, raw, h.place, h.found, h.opens⟩
          rw [hget] at hok
          cases hok
        · intro path' raw' stored h
          obtain ⟨rfl, rfl⟩ := hunique h.place h.found
          rw [h.plain] at hlooks
          cases hlooks
      · next bytes hget =>
        obtain ⟨hrereads, path', raw', hpath', hfound', hopens⟩ := getBytes_seen_eq_ok.mp hget
        obtain ⟨rfl, rfl⟩ := hunique hpath' hfound'
        apply Outcome.opens
        exact ⟨path, raw, bytes, hpath, hfound, hlooks, hopens, hreads, hrereads⟩
    · next hlooks =>
      rw [Bool.not_eq_true] at hlooks
      have hopens : ¬ Opens ext dir enc trouble files hash := by
        rintro ⟨path', raw', bytes, h⟩
        obtain ⟨rfl, rfl⟩ := hunique h.place h.found
        rw [h.looks] at hlooks
        cases hlooks
      split
      · next e hget =>
        apply Outcome.refuses hopens
        intro path' raw' stored h
        obtain ⟨rfl, rfl⟩ := hunique h.place h.found
        have hok : (ObjectStore.new dir).getBytes ext hash
            (seen (trouble.rereads hash) files) = .ok raw :=
          getBytes_seen_eq_ok.mpr
            ⟨h.rereads, path, raw, h.place, h.found, ObjectStore.maybeDecryptBytes_plain h.plain⟩
        rw [hget] at hok
        cases hok
      · next plaintext hget =>
        obtain ⟨hrereads, path', raw', hpath', hfound', hplain⟩ := getBytes_seen_eq_ok.mp hget
        obtain ⟨rfl, rfl⟩ := hunique hpath' hfound'
        rw [ObjectStore.maybeDecryptBytes_plain hlooks, Except.ok.injEq] at hplain
        subst hplain
        by_cases hwritable : ∃ path stored, Writable ext (ObjectStore.withEncryption dir enc) hash
            raw (trouble.dirs hash) path stored
        · obtain ⟨path', stored, hw⟩ := hwritable
          obtain rfl : path = path' := by
            have hsame : (.ok path : AppResult String) = .ok path' := hpath.symm.trans hw.place
            simpa using hsame
          have hrewrites : Rewrites ext dir enc trouble files hash path raw stored :=
            ⟨hpath, hfound, hlooks, hw.names, hw.seals, hreads, hrereads, hw.dirs⟩
          obtain ⟨result, hresult, hnone, hsome⟩ :=
            rewritePlaintextForHash_of_writable hw (trouble.stops hash) files
          rw [hresult]
          cases hstop : trouble.stops hash with
          | none =>
            rw [hnone hstop]
            apply Outcome.rewrites hrewrites hstop
          | some n =>
            obtain ⟨e, he⟩ := hsome n hstop
            rw [he]
            apply Outcome.breaks hrewrites hstop
        · have hrefuses (path' : String) (stored : List UInt8) :
              ¬ Writable ext (ObjectStore.withEncryption dir enc) hash raw (trouble.dirs hash)
                path' stored := by
            intro hw
            exact hwritable ⟨path', stored, hw⟩
          obtain ⟨e, he⟩ := rewritePlaintextForHash_of_not_writable hrefuses
          rw [he]
          apply Outcome.refuses hopens
          intro path' raw' stored h
          obtain ⟨rfl, rfl⟩ := hunique h.place h.found
          exact hwritable ⟨path, stored, h.names, hpath, h.dirs, h.seals⟩

/-! ### What a migration keeps and changes -/

/-- The loop of the migration. -/
def loop (ext : Externals) (dir : String) (enc : ObjectStoreEncryptionContext)
    (trouble : Trouble) (hashes : List String) (counts : Int64 × Int64) (files : Files) :
  AppResult (Int64 × Int64) × Files
  :=
  migrateObjects ext (ObjectStore.new dir) (ObjectStore.withEncryption dir enc) trouble hashes
    counts files

/-- The loop goes on after an object exactly when the object has opened or has been written
anew. -/
theorem loop_cons (rest : List String) (counts : Int64 × Int64) :
  (Opens ext dir enc trouble files hash
      ∧ ∃ counts', loop ext dir enc trouble (hash :: rest) counts files
        = loop ext dir enc trouble rest counts' files)
    ∨ (∃ path raw stored, Rewrites ext dir enc trouble files hash path raw stored
      ∧ trouble.stops hash = none
      ∧ ∃ counts', loop ext dir enc trouble (hash :: rest) counts files
        = loop ext dir enc trouble rest counts' (files.insert path stored))
    ∨ (∃ path raw stored n e, Rewrites ext dir enc trouble files hash path raw stored
      ∧ trouble.stops hash = some n
      ∧ loop ext dir enc trouble (hash :: rest) counts files
        = (.error e, files.insert path (stored.take n)))
    ∨ (¬ Opens ext dir enc trouble files hash
      ∧ (∀ path raw stored, ¬ Rewrites ext dir enc trouble files hash path raw stored)
      ∧ ∃ e, loop ext dir enc trouble (hash :: rest) counts files = (.error e, files))
  := by
  have houtcome : Outcome ext dir enc trouble files hash
      (migrateObject ext (ObjectStore.new dir) (ObjectStore.withEncryption dir enc) trouble hash
        files) := outcome_migrateObject
  simp only [loop, migrateObjects]
  generalize migrateObject ext (ObjectStore.new dir) (ObjectStore.withEncryption dir enc) trouble
    hash files = step at houtcome
  cases houtcome with
  | opens hopens =>
    left
    exact ⟨hopens, _, rfl⟩
  | rewrites hrewrites hstop =>
    right
    left
    exact ⟨_, _, _, hrewrites, hstop, _, rfl⟩
  | breaks hrewrites hstop =>
    right
    right
    left
    exact ⟨_, _, _, _, _, hrewrites, hstop, rfl⟩
  | refuses hopens hrewrites =>
    right
    right
    right
    exact ⟨hopens, hrewrites, _, rfl⟩

theorem Rewrites.congr {files' : Files} {path : String} {raw stored : List UInt8}
    (h : Rewrites ext dir enc trouble files hash path raw stored)
    (hsame : files'[path]? = files[path]?) :
  Rewrites ext dir enc trouble files' hash path raw stored
  := { h with found := hsame.trans h.found }

theorem OpensAs.congr {files' : Files} {path : String} {raw bytes : List UInt8}
    (h : OpensAs ext dir enc trouble files hash path raw bytes)
    (hsame : files'[path]? = files[path]?) :
  OpensAs ext dir enc trouble files' hash path raw bytes
  := { h with found := hsame.trans h.found }

/-- An object that opens is not written anew. -/
theorem Opens.not_rewrites (h : Opens ext dir enc trouble files hash) {path : String}
    {raw stored : List UInt8} :
  ¬ Rewrites ext dir enc trouble files hash path raw stored
  := by
  intro hwrites
  obtain ⟨path', raw', bytes, hopens⟩ := h
  have hpath := Except.ok.inj (hopens.place.symm.trans hwrites.place)
  subst hpath
  have hlooks := hopens.looks
  rw [Option.some.inj (hopens.found.symm.trans hwrites.found), hwrites.plain] at hlooks
  cases hlooks

theorem Rewrites.unique {path path' : String} {raw raw' stored stored' : List UInt8}
    (h : Rewrites ext dir enc trouble files hash path raw stored)
    (h' : Rewrites ext dir enc trouble files hash path' raw' stored') :
  path = path' ∧ raw = raw' ∧ stored = stored'
  := by
  obtain rfl := Except.ok.inj (h.place.symm.trans h'.place)
  obtain rfl := Option.some.inj (h.found.symm.trans h'.found)
  use rfl, rfl, Except.ok.inj (h.seals.symm.trans h'.seals)

/-- What an object is written anew as looks sealed. -/
theorem Rewrites.looks {path : String} {raw stored : List UInt8}
    (h : Rewrites ext dir enc trouble files hash path raw stored) :
  isEncryptedPayload stored = true
  := by
  obtain ⟨hplain, -⟩ | ⟨enc', ciphertext, -, -, rfl⟩ := maybeEncryptBytes_eq_ok.mp h.seals
  · cases hplain
  · rfl

theorem getElem?_insert_of_ne {path path' : String} {stored : List UInt8} (h : path ≠ path') :
  (files.insert path stored)[path']? = files[path']?
  := by
  simp [Std.ExtTreeMap.getElem?_insert, h]

theorem getElem?_insert_of_eq {path : String} {stored : List UInt8} :
  (files.insert path stored)[path]? = some stored
  := by
  simp

/-- A file that looks sealed stays. -/
theorem loop_keeps_sealed {path : String} {raw : List UInt8} (hfound : files[path]? = some raw)
    (hlooks : isEncryptedPayload raw = true) (hashes : List String) (counts : Int64 × Int64) :
  (loop ext dir enc trouble hashes counts files).2[path]? = some raw
  := by
  induction hashes generalizing files counts with
  | nil => apply hfound
  | cons hash rest ih =>
    have hother {path' : String} {raw' stored stored' : List UInt8}
        (h : Rewrites ext dir enc trouble files hash path' raw' stored) :
        (files.insert path' stored')[path]? = some raw := by
      rw [getElem?_insert_of_ne, hfound]
      rintro rfl
      have hplain := h.plain
      rw [Option.some.inj (hfound.symm.trans h.found), hplain] at hlooks
      cases hlooks
    obtain ⟨-, counts', heq⟩ | ⟨path', raw', stored, h, -, counts', heq⟩
      | ⟨path', raw', stored, n, e, h, -, heq⟩ | ⟨-, -, e, heq⟩ := loop_cons rest counts
    · rw [heq, ih hfound]
    · rw [heq, ih (hother h)]
    · rw [heq]
      apply hother h
    · rw [heq]
      apply hfound

/-- A file that has changed is that of a plain object, as far as it was written anew. -/
theorem loop_changes {path : String} (hashes : List String) (counts : Int64 × Int64)
    (hchanged : (loop ext dir enc trouble hashes counts files).2[path]? ≠ files[path]?) :
  ∃ hash ∈ hashes, ∃ raw stored, Rewrites ext dir enc trouble files hash path raw stored
    ∧ (loop ext dir enc trouble hashes counts files).2[path]?
      = some (written stored (trouble.stops hash))
    ∧ ((loop ext dir enc trouble hashes counts files).1.isOk = true →
      trouble.stops hash = none)
  := by
  induction hashes generalizing files counts with
  | nil => exact absurd rfl hchanged
  | cons hash rest ih =>
    obtain ⟨-, counts', heq⟩ | ⟨path', raw', stored, h, hstop, counts', heq⟩
      | ⟨path', raw', stored, n, e, h, hstop, heq⟩ | ⟨-, -, e, heq⟩ := loop_cons rest counts
    · rw [heq] at hchanged ⊢
      obtain ⟨hash', hmem, hwrites⟩ := ih _ hchanged
      exact ⟨hash', List.mem_cons_of_mem hash hmem, hwrites⟩
    · rw [heq] at hchanged ⊢
      by_cases hpath : path' = path
      · subst hpath
        use hash, List.mem_cons_self, raw', stored, h
        rw [loop_keeps_sealed getElem?_insert_of_eq h.looks, hstop]
        exact ⟨rfl, fun _ => rfl⟩
      · have hrest : (loop ext dir enc trouble rest counts' (files.insert path' stored)).2[path]?
            ≠ (files.insert path' stored)[path]? := by
          rw [getElem?_insert_of_ne hpath]
          exact hchanged
        obtain ⟨hash', hmem, raw, stored', hwrites, hfile⟩ := ih _ hrest
        use hash', List.mem_cons_of_mem hash hmem, raw, stored'
        exact ⟨hwrites.congr (getElem?_insert_of_ne hpath).symm, hfile⟩
    · rw [heq] at hchanged ⊢
      by_cases hpath : path' = path
      · subst hpath
        use hash, List.mem_cons_self, raw', stored, h
        rw [hstop]
        exact ⟨getElem?_insert_of_eq, by simp [Except.isOk, Except.toBool]⟩
      · exact absurd (getElem?_insert_of_ne hpath) hchanged
    · rw [heq] at hchanged
      exact absurd rfl hchanged

/-- What an object is written anew as opens to what it was. -/
theorem Rewrites.opensAs (haead : ext.AeadInverse) {path : String} {raw stored : List UInt8}
    (h : Rewrites ext dir enc trouble files hash path raw stored) {files' : Files}
    (hfound : files'[path]? = some stored) :
  OpensAs ext dir enc trouble files' hash path stored raw
  := by
  refine ⟨h.place, hfound, h.looks, ?_, h.reads, h.rereads⟩
  obtain ⟨hplain, -⟩ | ⟨enc', ciphertext, henc, hseal, rfl⟩ := maybeEncryptBytes_eq_ok.mp h.seals
  · cases hplain
  · apply (maybeDecryptBytes_eq_ok rfl).mpr
    exact ⟨enc', ciphertext, henc, rfl, (haead _ _ _ _).mp hseal⟩

/-- After a migration that goes through, every object opens. -/
theorem loop_opens (haead : ext.AeadInverse) (hashes : List String) (counts : Int64 × Int64)
    (hok : (loop ext dir enc trouble hashes counts files).1.isOk = true) :
  ∀ hash ∈ hashes,
    Opens ext dir enc trouble (loop ext dir enc trouble hashes counts files).2 hash
  := by
  induction hashes generalizing files counts with
  | nil =>
    intro hash hmem
    cases hmem
  | cons hash rest ih =>
    obtain ⟨⟨path, raw, bytes, hopens⟩, counts', heq⟩ | ⟨path, raw, stored, h, -, counts', heq⟩
      | ⟨path, raw, stored, n, e, h, -, heq⟩ | ⟨-, -, e, heq⟩ := loop_cons rest counts
    · rw [heq] at hok ⊢
      rintro hash' (_ | ⟨_, hmem⟩)
      · use path, raw, bytes
        apply hopens.congr
        rw [loop_keeps_sealed hopens.found hopens.looks, hopens.found]
      · apply ih _ hok hash' hmem
    · rw [heq] at hok ⊢
      rintro hash' (_ | ⟨_, hmem⟩)
      · use path, stored, raw
        apply h.opensAs haead
        apply loop_keeps_sealed getElem?_insert_of_eq h.looks
      · apply ih _ hok hash' hmem
    · rw [heq] at hok
      cases hok
    · rw [heq] at hok
      cases hok

/-! ### When a migration goes through -/

/-- An object at which a migration does not stop. -/
def Passes (ext : Externals) (dir : String) (enc : ObjectStoreEncryptionContext)
    (trouble : Trouble) (files : Files) (hash : String) : Prop
  :=
  Opens ext dir enc trouble files hash
    ∨ trouble.stops hash = none
      ∧ ∃ path raw stored, Rewrites ext dir enc trouble files hash path raw stored

/-- Writing a plain object anew does not concern the others. -/
theorem Passes.insert {hash' path : String} {raw stored : List UInt8}
    (h : Passes ext dir enc trouble files hash')
    (hwrites : Rewrites ext dir enc trouble files hash path raw stored) (hne : hash' ≠ hash) :
  Passes ext dir enc trouble (files.insert path stored) hash'
  := by
  obtain ⟨path', raw', bytes, hopens⟩ | ⟨hstop, path', raw', stored', hwrites'⟩ := h
  · left
    use path', raw', bytes
    apply hopens.congr
    apply getElem?_insert_of_ne
    rintro rfl
    have hlooks := hopens.looks
    rw [Option.some.inj (hopens.found.symm.trans hwrites.found), hwrites.plain] at hlooks
    cases hlooks
  · right
    use hstop, path', raw', stored'
    apply hwrites'.congr
    apply getElem?_insert_of_ne
    rintro rfl
    -- two plain objects with one file have one hash
    have hraw := Option.some.inj (hwrites'.found.symm.trans hwrites.found)
    apply hne
    rw [← hwrites'.names, ← hwrites.names, hraw]

theorem loop_isOk_of_passes {hashes : List String} (hnodup : hashes.Nodup)
    (counts : Int64 × Int64) (h : ∀ hash ∈ hashes, Passes ext dir enc trouble files hash) :
  (loop ext dir enc trouble hashes counts files).1.isOk = true
  := by
  induction hashes generalizing files counts with
  | nil => rfl
  | cons hash rest ih =>
    obtain ⟨hnew, hnodup⟩ := List.nodup_cons.mp hnodup
    have hhead := h hash List.mem_cons_self
    have hrest (hash' : String) (hmem : hash' ∈ rest) :
        Passes ext dir enc trouble files hash' := h hash' (List.mem_cons_of_mem hash hmem)
    obtain ⟨-, counts', heq⟩ | ⟨path, raw, stored, hwrites, -, counts', heq⟩
      | ⟨path, raw, stored, n, e, hwrites, hstop, heq⟩ | ⟨hopens, hwrites, e, heq⟩ :=
      loop_cons rest counts
    · rw [heq]
      apply ih hnodup _ hrest
    · rw [heq]
      apply ih hnodup
      intro hash' hmem
      apply (hrest hash' hmem).insert hwrites
      rintro rfl
      exact hnew hmem
    · exfalso
      obtain hopens | ⟨hstop', -⟩ := hhead
      · exact hopens.not_rewrites hwrites
      · rw [hstop] at hstop'
        cases hstop'
    · exfalso
      obtain hopens' | ⟨-, path, raw, stored, hwrites'⟩ := hhead
      · exact hopens hopens'
      · exact hwrites path raw stored hwrites'

/-! ### When a migration changes a file -/

/-- The first object that does not look sealed is written anew, and what gets written is not
what was there. -/
def Touches (ext : Externals) (dir : String) (enc : ObjectStoreEncryptionContext)
    (trouble : Trouble) (files : Files) (hashes : List String) : Prop
  :=
  ∃ before hash rest path raw stored, hashes = before ++ hash :: rest
    ∧ (∀ hash' ∈ before, Opens ext dir enc trouble files hash')
    ∧ Rewrites ext dir enc trouble files hash path raw stored
    ∧ written stored (trouble.stops hash) ≠ raw

/-- A migration that touches an object leaves its file changed. -/
theorem Touches.changes {hashes : List String}
    (h : Touches ext dir enc trouble files hashes) (counts : Int64 × Int64) :
  ∃ hash ∈ hashes, ∃ path, (ObjectStore.new dir).filePathForHash hash = .ok path
    ∧ (loop ext dir enc trouble hashes counts files).2[path]? ≠ files[path]?
  := by
  obtain ⟨before, hash, rest, path, raw, stored, rfl, hbefore, hwrites, hne⟩ := h
  use hash, by simp, path, hwrites.place
  induction before generalizing counts with
  | nil =>
    have hchanged {raw' : List UInt8} (hraw' : raw' ≠ raw) : some raw' ≠ files[path]? := by
      rw [hwrites.found]
      intro hsame
      exact hraw' (Option.some.inj hsame)
    obtain ⟨hopens, -⟩ | ⟨path', raw', stored', h, hstop, counts', heq⟩
      | ⟨path', raw', stored', n, e, h, hstop, heq⟩ | ⟨-, hnot, -⟩ := loop_cons rest counts
    · exact absurd hwrites hopens.not_rewrites
    · obtain ⟨rfl, rfl, rfl⟩ := hwrites.unique h
      rw [hstop] at hne
      rw [List.nil_append, heq, loop_keeps_sealed getElem?_insert_of_eq h.looks]
      apply hchanged hne
    · obtain ⟨rfl, rfl, rfl⟩ := hwrites.unique h
      rw [hstop] at hne
      rw [List.nil_append, heq, getElem?_insert_of_eq]
      apply hchanged hne
    · exact absurd hwrites (hnot path raw stored)
  | cons first before ih =>
    have hfirst := hbefore first List.mem_cons_self
    obtain ⟨-, counts', heq⟩ | ⟨path', raw', stored', h, -⟩
      | ⟨path', raw', stored', n, e, h, -⟩ | ⟨hnot, -⟩ :=
      loop_cons (before ++ hash :: rest) counts
    · rw [List.cons_append, heq]
      apply ih
      intro hash' hmem
      apply hbefore hash' (List.mem_cons_of_mem first hmem)
    · exact absurd h hfirst.not_rewrites
    · exact absurd h hfirst.not_rewrites
    · exact absurd hfirst hnot

/-- A migration that touches no object leaves the files as they are, and goes through only if
every object opens. -/
theorem loop_of_not_touches (hashes : List String) (counts : Int64 × Int64)
    (h : ¬ Touches ext dir enc trouble files hashes) :
  (∀ path : String, (loop ext dir enc trouble hashes counts files).2[path]? = files[path]?)
    ∧ ((loop ext dir enc trouble hashes counts files).1.isOk = true →
      ∀ hash ∈ hashes, Opens ext dir enc trouble files hash)
  := by
  induction hashes generalizing counts with
  | nil =>
    constructor
    · intro path
      rfl
    · intro _ hash hmem
      cases hmem
  | cons hash rest ih =>
    obtain ⟨hopens, counts', heq⟩ | ⟨path, raw, stored, hwrites, hstop, -⟩
      | ⟨path, raw, stored, n, e, hwrites, hstop, heq⟩ | ⟨-, -, e, heq⟩ := loop_cons rest counts
    · have hrest : ¬ Touches ext dir enc trouble files rest := by
        rintro ⟨before, hash', after, path, raw, stored, rfl, hbefore, hwrites⟩
        apply h
        refine ⟨hash :: before, hash', after, path, raw, stored, rfl, ?_, hwrites⟩
        rintro hash'' (_ | ⟨_, hmem⟩)
        · exact hopens
        · apply hbefore hash'' hmem
      obtain ⟨hfiles, hall⟩ := ih counts' hrest
      rw [heq]
      use hfiles
      rintro hok hash' (_ | ⟨_, hmem⟩)
      · exact hopens
      · apply hall hok hash' hmem
    · exfalso
      apply h
      refine ⟨[], hash, rest, path, raw, stored, rfl, by simp, hwrites, ?_⟩
      rw [hstop, written]
      rintro rfl
      have hlooks := hwrites.looks
      rw [hwrites.plain] at hlooks
      cases hlooks
    · have hsame : stored.take n = raw := by
        by_contra hne
        apply h
        refine ⟨[], hash, rest, path, raw, stored, rfl, by simp, hwrites, ?_⟩
        rw [hstop]
        exact hne
      rw [heq]
      constructor
      · intro path'
        by_cases hpath : path = path'
        · subst hpath
          rw [getElem?_insert_of_eq, hsame, hwrites.found]
        · apply getElem?_insert_of_ne hpath
      · rintro ⟨⟩
    · rw [heq]
      constructor
      · intro path
        rfl
      · rintro ⟨⟩

/-! ### The vault -/

variable {host : Host} {passphrase : String} {m : Machine} {config : VaultJsonV3}
  {file : SqliteFile}

/-- The hashes of the objects that the database file of a vault lists. -/
def listedObjects (host : Host) (vault : Dir Content) : List String :=
  match Vault.vaultOpen host vault with
  | .error _ => []
  | .ok config =>
    match vault.get (Export.relPath config.db.relativePath) with
    | some (.sqlite file) => file.db.objects.keys
    | _ => []

/-- The context that a passphrase gives for a vault. -/
def HasContext (ext : Externals) (host : Host) (passphrase : String) (vault : Dir Content)
    (enc : ObjectStoreEncryptionContext) : Prop
  :=
  ∃ config, Vault.vaultOpen host vault = .ok config
    ∧ config.objectStoreEncryptionContext ext (some passphrase) = .ok (some enc)

/-- What a migration needs of the vault. -/
structure OpensVault (ext : Externals) (host : Host) (passphrase : String)
    (vault : Dir Content) (config : VaultJsonV3) (enc : ObjectStoreEncryptionContext)
    (file : SqliteFile) : Prop
  where
  configuration : Vault.vaultOpen host vault = .ok config
  enabled : config.encryption.enabled = true
  context : config.objectStoreEncryptionContext ext (some passphrase) = .ok (some enc)
  database : openDbOf ext host vault config = .ok file

theorem openForMigration_eq_ok :
  openForMigration ext host passphrase m.vault = .ok (config, enc, file)
    ↔ OpensVault ext host passphrase m.vault config enc file
  := by
  rw [openForMigration]
  constructor
  · intro h
    obtain ⟨config', hconfig, h⟩ := AppResult.bind_eq_ok.mp h
    split at h
    · cases h
    · next henabled =>
      simp only [AppResult.bind_eq_ok, okOrElse_eq_ok] at h
      obtain ⟨_, hcontext, enc', rfl, file', hfile, h⟩ := h
      cases h
      exact ⟨hconfig, Bool.of_not_eq_false henabled, hcontext, hfile⟩
  · intro h
    rw [h.configuration, AppResult.ok_bind, if_neg (by simp [h.enabled]), h.context,
      AppResult.ok_bind, okOrElse_some, AppResult.ok_bind, h.database]
    rfl

theorem OpensVault.openVault (h : OpensVault ext host passphrase m.vault config enc file) :
  Ingest.openVault ext host m.vault = .ok (config, file)
  := by
  rw [Ingest.openVault, h.configuration, AppResult.ok_bind, h.database]
  rfl

/-- Opening the database changes none of the rows of its objects. -/
theorem OpensVault.keys (h : OpensVault ext host passphrase m.vault config enc file) :
  listedObjects host m.vault = file.db.objects.keys
  := by
  have hdb := h.database
  simp only [openDbOf, AppResult.bind_eq_ok] at hdb
  obtain ⟨key, -, hfile⟩ := hdb
  simp only [listedObjects, h.configuration]
  cases hget : m.vault.get (Export.relPath config.db.relativePath) with
  | none =>
    rw [hget, Vault.openDbFile] at hfile
    obtain ⟨db, hmigrated, hfile⟩ := AppResult.bind_eq_ok.mp hfile
    cases hfile
    rw [Db.applyMigrations_eq_ok hmigrated]
    rfl
  | some content =>
    rw [hget] at hfile
    cases content with
    | sqlite file' =>
      obtain ⟨htables, -⟩ := Vault.openDbFile_tables hfile
      rw [htables]
    | _ => cases hfile

/-- The database opens again after the migration. -/
theorem OpensVault.reopens (h : OpensVault ext host passphrase m.vault config enc file)
    (files : Files) :
  openDbOf ext host (closed ext m config file ⟨files, file.db⟩).vault config
    = .ok (ext.commit file file.db)
  := by
  apply Ingest.openDbOf_closed h.openVault rfl

theorem countEncrypted_isOk_iff {store : ObjectStore} {hashes : List String} :
  (countEncrypted store trouble files hashes).isOk = true
    ↔ ∀ hash ∈ hashes, trouble.statusReads hash = false
      ∧ ∃ path raw, store.filePathForHash hash = .ok path ∧ files[path]? = some raw
  := by
  induction hashes with
  | nil => simp [countEncrypted, Except.isOk, Except.toBool]
  | cons hash rest ih =>
    rw [List.forall_mem_cons, ← ih, countEncrypted]
    constructor
    · intro h
      obtain ⟨n, hn⟩ := exists_of_isOk h
      obtain ⟨raw, hraw, encrypted, hrest, -⟩ := by
        simpa only [AppResult.bind_eq_ok] using hn
      obtain ⟨hreads, path, hpath, hfound⟩ := rawBytes_seen_eq_ok.mp hraw
      exact ⟨⟨hreads, path, raw, hpath, hfound⟩, by rw [hrest]; rfl⟩
    · rintro ⟨⟨hreads, path, raw, hpath, hfound⟩, hrest⟩
      obtain ⟨n, hn⟩ := exists_of_isOk hrest
      rw [rawBytes_seen_eq_ok.mpr ⟨hreads, path, hpath, hfound⟩, AppResult.ok_bind, hn]
      rfl

theorem isOk_map {ε α β : Type} (f : α → β) (x : Except ε α) : (x.map f).isOk = x.isOk
  := by
  cases x <;> rfl

/-- The migration when its vault opens: the loop, and what comes after it. -/
theorem migrateService_of_opensVault
    (h : OpensVault ext host passphrase m.vault config enc file) (hhashes : trouble.hashes = false) :
  (vaultEncryptionMigrateService ext host passphrase trouble m).2.files
      = (loop ext (objectsDir host.vaultPath) enc trouble file.db.objects.keys (0, 0) m.files).2
    ∧ ((vaultEncryptionMigrateService ext host passphrase trouble m).1.isOk = true
      ↔ (loop ext (objectsDir host.vaultPath) enc trouble file.db.objects.keys (0, 0)
          m.files).1.isOk = true
        ∧ trouble.event = false ∧ trouble.status = false
        ∧ (countEncrypted (ObjectStore.new (objectsDir host.vaultPath)) trouble
          (loop ext (objectsDir host.vaultPath) enc trouble file.db.objects.keys (0, 0)
            m.files).2 file.db.objects.keys).isOk = true)
  := by
  have hload : loadObjectHashes trouble.hashes file = .ok file.db.objects.keys := by
    rw [loadObjectHashes, hhashes]
    rfl
  simp only [vaultEncryptionMigrateService, openForMigration_eq_ok.mpr h, hload]
  rw [loop]
  rcases migrateObjects ext (ObjectStore.new (objectsDir host.vaultPath))
    (ObjectStore.withEncryption (objectsDir host.vaultPath) enc) trouble file.db.objects.keys
    (0, 0) m.files with ⟨e | ⟨migrated, alreadyEncrypted⟩, files⟩
  · use rfl
    simp [Except.isOk, Except.toBool]
  · cases hevent : trouble.event with
    | true => simp [Except.isOk, Except.toBool]
    | false =>
      use rfl
      have hstatus : (encryptionStatusForVault ext host trouble config
            (closed ext m config file ⟨files, file.db⟩)).isOk = true
          ↔ trouble.status = false
            ∧ (countEncrypted (ObjectStore.new (objectsDir host.vaultPath)) trouble files
              file.db.objects.keys).isOk = true := by
        rw [encryptionStatusForVault, h.reopens, AppResult.ok_bind, loadObjectHashes,
          Externals.commit_db]
        cases trouble.status with
        | true => simp [Except.isOk, Except.toBool, bind, Except.bind]
        | false =>
          simp only [Bool.false_eq_true, if_false, AppResult.ok_bind, true_and, closed]
          cases countEncrypted (ObjectStore.new (objectsDir host.vaultPath)) trouble files
            file.db.objects.keys <;> rfl
      rw [← hstatus]
      change (Except.map _ (encryptionStatusForVault ext host trouble config
        (closed ext m config file ⟨files, file.db⟩))).isOk = true ↔ _
      rw [isOk_map]
      constructor
      · intro hok
        exact ⟨rfl, rfl, hok⟩
      · rintro ⟨-, -, hok⟩
        exact hok

/-- A migration whose vault does not open, or that cannot read the hashes of its objects, fails
and leaves the files as they are. -/
theorem migrateService_of_not_opensVault
    (h : ∀ config enc file, OpensVault ext host passphrase m.vault config enc file →
      trouble.hashes = true) :
  (vaultEncryptionMigrateService ext host passphrase trouble m).2.files = m.files
    ∧ (vaultEncryptionMigrateService ext host passphrase trouble m).1.isOk = false
  := by
  rw [vaultEncryptionMigrateService]
  split
  · exact ⟨rfl, rfl⟩
  · next config enc file hopen =>
    rw [loadObjectHashes, if_pos (h config enc file (openForMigration_eq_ok.mp hopen))]
    exact ⟨rfl, rfl⟩

/-! ### All or nothing -/

/-- What is asked of a migration: when it fails, the files of all objects are as they were, and
when it goes through, all of them look sealed and open, under the key of the passphrase, to bytes
that have the hash. -/
structure AllOrNothing (ext : Externals) (host : Host) (passphrase : String)
    (trouble : Trouble) (m : Machine) : Prop
  where
  nothing : ∀ e, (vaultEncryptionMigrateService ext host passphrase trouble m).1 = .error e →
    ∀ hash ∈ listedObjects host m.vault, ∀ path,
      (ObjectStore.new (objectsDir host.vaultPath)).filePathForHash hash = .ok path →
      (vaultEncryptionMigrateService ext host passphrase trouble m).2.files[path]?
        = m.files[path]?
  all : ∀ result, (vaultEncryptionMigrateService ext host passphrase trouble m).1 = .ok result →
    ∃ enc, HasContext ext host passphrase m.vault enc
      ∧ ∀ hash ∈ listedObjects host m.vault, ∃ path raw bytes,
        (ObjectStore.new (objectsDir host.vaultPath)).filePathForHash hash = .ok path
        ∧ (vaultEncryptionMigrateService ext host passphrase trouble m).2.files[path]? = some raw
        ∧ isEncryptedPayload raw = true
        ∧ (ObjectStore.withEncryption (objectsDir host.vaultPath) enc).maybeDecryptBytes ext hash
          raw = .ok bytes
        ∧ blake3HexPrefixed ext (.raw bytes) = hash

/-- Every object passes, and nothing goes wrong before or after the objects. -/
def GoesThrough (ext : Externals) (host : Host) (passphrase : String) (trouble : Trouble)
    (m : Machine) : Prop
  :=
  ∃ config enc file, OpensVault ext host passphrase m.vault config enc file
    ∧ trouble.hashes = false ∧ trouble.event = false ∧ trouble.status = false
    ∧ ∀ hash ∈ listedObjects host m.vault, trouble.statusReads hash = false
      ∧ Passes ext (objectsDir host.vaultPath) enc trouble m.files hash

/-- The objects that look sealed before the migration open to bytes that have the hash. -/
def OpensFaithfully (ext : Externals) (host : Host) (passphrase : String) (m : Machine) : Prop :=
  ∀ enc, HasContext ext host passphrase m.vault enc →
    ∀ hash ∈ listedObjects host m.vault, ∀ path raw bytes,
      (ObjectStore.new (objectsDir host.vaultPath)).filePathForHash hash = .ok path →
      m.files[path]? = some raw → isEncryptedPayload raw = true →
      (ObjectStore.withEncryption (objectsDir host.vaultPath) enc).maybeDecryptBytes ext hash raw
        = .ok bytes →
      blake3HexPrefixed ext (.raw bytes) = hash

/-- The migration gets to an object and changes its file. -/
def TouchesObjects (ext : Externals) (host : Host) (passphrase : String) (trouble : Trouble)
    (m : Machine) : Prop
  :=
  ∃ config enc file, OpensVault ext host passphrase m.vault config enc file
    ∧ trouble.hashes = false
    ∧ Touches ext (objectsDir host.vaultPath) enc trouble m.files (listedObjects host m.vault)

theorem OpensVault.hasContext (h : OpensVault ext host passphrase m.vault config enc file) :
  HasContext ext host passphrase m.vault enc
  := ⟨config, h.configuration, h.context⟩

theorem HasContext.unique {enc' : ObjectStoreEncryptionContext}
    (h : HasContext ext host passphrase m.vault enc)
    (h' : HasContext ext host passphrase m.vault enc') :
  enc = enc'
  := by
  obtain ⟨config, hconfig, henc⟩ := h
  obtain ⟨config', hconfig', henc'⟩ := h'
  obtain rfl := Except.ok.inj (hconfig.symm.trans hconfig')
  exact Option.some.inj (Except.ok.inj (henc.symm.trans henc'))

/-- Whatever object the bytes that an object was sealed as are read for, they open to what it
was. -/
theorem Rewrites.eq_of_opens (haead : ext.AeadInverse) {hash' path : String}
    {raw stored bytes : List UInt8}
    (h : Rewrites ext dir enc trouble files hash path raw stored)
    (hopens : (ObjectStore.withEncryption dir enc).maybeDecryptBytes ext hash' stored
      = .ok bytes) :
  bytes = raw
  := by
  obtain ⟨hplain, -⟩ | ⟨enc', ciphertext, henc, hseal, hstored⟩ :=
    maybeEncryptBytes_eq_ok.mp h.seals
  · cases hplain
  · obtain ⟨enc'', ciphertext', henc', hstored', hopen⟩ :=
      (maybeDecryptBytes_eq_ok h.looks).mp hopens
    obtain rfl := Option.some.inj (henc.symm.trans henc')
    have hlists := hstored.symm.trans hstored'
    rw [sealedPayload, sealedPayload, List.append_assoc, List.append_assoc,
      List.append_cancel_left_eq] at hlists
    obtain ⟨hnonce, rfl⟩ := List.append_inj hlists (by simp)
    rw [← Vector.toList_inj.mp hnonce] at hopen
    exact Option.some.inj (hopen.symm.trans ((haead _ _ _ _).mp hseal))

theorem GoesThrough.isOk (haead : ext.AeadInverse)
    (h : GoesThrough ext host passphrase trouble m) :
  (vaultEncryptionMigrateService ext host passphrase trouble m).1.isOk = true
  := by
  obtain ⟨config, enc, file, hopen, hhashes, hevent, hstatus, hpasses⟩ := h
  rw [hopen.keys] at hpasses
  have hloop : (loop ext (objectsDir host.vaultPath) enc trouble file.db.objects.keys (0, 0)
      m.files).1.isOk = true := by
    apply loop_isOk_of_passes Std.ExtTreeMap.nodup_keys
    intro hash hmem
    apply (hpasses hash hmem).2
  apply (migrateService_of_opensVault hopen hhashes).2.mpr
  refine ⟨hloop, hevent, hstatus, countEncrypted_isOk_iff.mpr ?_⟩
  intro hash hmem
  obtain ⟨path, raw, bytes, hopens⟩ := loop_opens haead _ _ hloop hash hmem
  use (hpasses hash hmem).1, path, raw, hopens.place, hopens.found

/-- A migration that goes through has sealed the plain objects, and what was sealed has stayed. -/
theorem GoesThrough.allOrNothing (haead : ext.AeadInverse)
    (h : GoesThrough ext host passphrase trouble m)
    (hfaithful : OpensFaithfully ext host passphrase m) :
  AllOrNothing ext host passphrase trouble m
  := by
  have hok := h.isOk haead
  obtain ⟨config, enc, file, hopen, hhashes, hevent, hstatus, hpasses⟩ := h
  obtain ⟨hfiles, hiff⟩ := migrateService_of_opensVault hopen hhashes
  have hloop := (hiff.mp hok).1
  constructor
  · intro e he
    rw [he] at hok
    cases hok
  · intro result _
    use enc, hopen.hasContext
    intro hash hmem
    have hpass := (hpasses hash hmem).2
    have hmem' := hmem
    rw [hopen.keys] at hmem'
    obtain ⟨path, raw, bytes, hopens⟩ := loop_opens haead _ _ hloop hash hmem'
    use path, raw, bytes, hopens.place, hfiles ▸ hopens.found, hopens.looks, hopens.opens
    by_cases hsame : (loop ext (objectsDir host.vaultPath) enc trouble file.db.objects.keys
        (0, 0) m.files).2[path]? = m.files[path]?
    · apply hfaithful enc hopen.hasContext hash hmem path raw bytes hopens.place
      · rw [← hsame, hopens.found]
      · exact hopens.looks
      · exact hopens.opens
    · obtain ⟨hash', -, raw', stored, hwrites, hfile, hstop⟩ := loop_changes _ _ hsame
      rw [hstop hloop, hopens.found] at hfile
      obtain rfl := Option.some.inj hfile
      rw [hwrites.eq_of_opens haead hopens.opens]
      obtain ⟨path', raw'', bytes', hopens'⟩ | ⟨-, path', raw'', stored', hwrites'⟩ := hpass
      · obtain rfl := Except.ok.inj (hopens.place.symm.trans hopens'.place)
        have hlooks := hopens'.looks
        rw [Option.some.inj (hopens'.found.symm.trans hwrites.found), hwrites.plain] at hlooks
        cases hlooks
      · obtain rfl := Except.ok.inj (hopens.place.symm.trans hwrites'.place)
        rw [Option.some.inj (hwrites.found.symm.trans hwrites'.found)]
        exact hwrites'.names

/-- A migration that changes no file and does not go through has failed. -/
theorem allOrNothing_of_not_touches (h : ¬ GoesThrough ext host passphrase trouble m)
    (htouches : ¬ TouchesObjects ext host passphrase trouble m) :
  AllOrNothing ext host passphrase trouble m
  := by
  obtain ⟨hsame, hfails⟩ : (∀ path : String,
        (vaultEncryptionMigrateService ext host passphrase trouble m).2.files[path]?
          = m.files[path]?)
      ∧ (vaultEncryptionMigrateService ext host passphrase trouble m).1.isOk = false := by
    by_cases hvault : ∃ config enc file, OpensVault ext host passphrase m.vault config enc file
        ∧ trouble.hashes = false
    · obtain ⟨config, enc, file, hopen, hhashes⟩ := hvault
      obtain ⟨hfiles, hiff⟩ := migrateService_of_opensVault hopen hhashes
      have hloop : ¬ Touches ext (objectsDir host.vaultPath) enc trouble m.files
          file.db.objects.keys := by
        intro htouch
        rw [← hopen.keys] at htouch
        exact htouches ⟨config, enc, file, hopen, hhashes, htouch⟩
      obtain ⟨hsame, hall⟩ := loop_of_not_touches _ (0, 0) hloop
      constructor
      · rw [hfiles]
        exact hsame
      · rw [← Bool.not_eq_true]
        intro hok
        obtain ⟨hok, hevent, hstatus, hcount⟩ := hiff.mp hok
        apply h
        refine ⟨config, enc, file, hopen, hhashes, hevent, hstatus, ?_⟩
        rw [hopen.keys]
        intro hash hmem
        use (countEncrypted_isOk_iff.mp hcount hash hmem).1
        left
        apply hall hok hash hmem
    · have hstops (config : VaultJsonV3) (enc : ObjectStoreEncryptionContext) (file : SqliteFile)
          (hopen : OpensVault ext host passphrase m.vault config enc file) :
          trouble.hashes = true := by
        apply Bool.of_not_eq_false
        intro hhashes
        exact hvault ⟨config, enc, file, hopen, hhashes⟩
      obtain ⟨hfiles, hfails⟩ := migrateService_of_not_opensVault hstops
      rw [hfiles]
      exact ⟨fun _ => rfl, hfails⟩
  constructor
  · intro e _ hash _ path _
    apply hsame
  · intro result hresult
    rw [hresult] at hfails
    cases hfails

/-- A migration that is all or nothing and goes through has found what was sealed faithful. -/
theorem AllOrNothing.opensFaithfully (haead : ext.AeadInverse)
    (h : AllOrNothing ext host passphrase trouble m)
    (hthrough : GoesThrough ext host passphrase trouble m) :
  OpensFaithfully ext host passphrase m
  := by
  intro enc henc hash hmem path raw bytes hplace hfound hlooks hopens
  obtain ⟨result, hresult⟩ := exists_of_isOk (hthrough.isOk haead)
  obtain ⟨enc', henc', hall⟩ := h.all result hresult
  obtain rfl := henc.unique henc'
  obtain ⟨config, enc', file, hopen, hhashes, -⟩ := hthrough
  obtain rfl := henc.unique hopen.hasContext
  obtain ⟨hfiles, -⟩ := migrateService_of_opensVault hopen hhashes
  obtain ⟨path', raw', bytes', hplace', hfound', -, hopens', hnames⟩ := hall hash hmem
  obtain rfl := Except.ok.inj (hplace.symm.trans hplace')
  rw [hfiles, loop_keeps_sealed hfound hlooks] at hfound'
  obtain rfl := Option.some.inj hfound'
  obtain rfl := Except.ok.inj (hopens.symm.trans hopens')
  exact hnames

/-- A migration that is all or nothing and touches an object goes through. -/
theorem AllOrNothing.goesThrough (haead : ext.AeadInverse)
    (h : AllOrNothing ext host passphrase trouble m)
    (htouches : TouchesObjects ext host passphrase trouble m) :
  GoesThrough ext host passphrase trouble m
  := by
  obtain ⟨config, enc, file, hopen, hhashes, htouch⟩ := htouches
  obtain ⟨hfiles, hiff⟩ := migrateService_of_opensVault hopen hhashes
  cases hresult : (vaultEncryptionMigrateService ext host passphrase trouble m).1 with
  | error e =>
    obtain ⟨hash, hmem, path, hplace, hchanged⟩ := htouch.changes (0, 0)
    have hsame := h.nothing e hresult hash hmem path hplace
    rw [hfiles, ← hopen.keys] at hsame
    exact absurd hsame hchanged
  | ok result =>
    obtain ⟨hloop, hevent, hstatus, hcount⟩ := hiff.mp (by rw [hresult]; rfl)
    refine ⟨config, enc, file, hopen, hhashes, hevent, hstatus, ?_⟩
    intro hash hmem
    have hmem' := hmem
    rw [hopen.keys] at hmem'
    use (countEncrypted_isOk_iff.mp hcount hash hmem').1
    obtain ⟨path, raw, bytes, hopens⟩ := loop_opens haead _ _ hloop hash hmem'
    by_cases hsame : (loop ext (objectsDir host.vaultPath) enc trouble file.db.objects.keys
        (0, 0) m.files).2[path]? = m.files[path]?
    · left
      use path, raw, bytes
      apply hopens.congr hsame.symm
    · -- the file is the one that a plain object was sealed as, and it opens to the bytes of
      -- both objects, so that they have the same hash
      right
      obtain ⟨hash', -, raw', stored, hwrites, hfile, hstop⟩ := loop_changes _ _ hsame
      rw [hstop hloop, hopens.found] at hfile
      obtain rfl := Option.some.inj hfile
      obtain ⟨enc', henc', hall⟩ := h.all result hresult
      obtain rfl := hopen.hasContext.unique henc'
      obtain ⟨path', raw'', bytes', hplace', hfound', -, hopens', hnames⟩ := hall hash hmem
      obtain rfl := Except.ok.inj (hopens.place.symm.trans hplace')
      rw [hfiles, hopens.found] at hfound'
      obtain rfl := Option.some.inj hfound'
      rw [hwrites.eq_of_opens haead hopens', hwrites.names] at hnames
      subst hnames
      exact ⟨hstop hloop, path, raw', _, hwrites⟩

/-- A migration is all or nothing exactly when either it goes through, and what was sealed
before it opens faithfully, or it does not go through and changes no file. -/
theorem all_or_nothing_iff (ext : Externals) (host : Host) (passphrase : String)
    (trouble : Trouble) (m : Machine) (haead : ext.AeadInverse) :
  AllOrNothing ext host passphrase trouble m
    ↔ (GoesThrough ext host passphrase trouble m ∧ OpensFaithfully ext host passphrase m)
      ∨ (¬ GoesThrough ext host passphrase trouble m
        ∧ ¬ TouchesObjects ext host passphrase trouble m)
  := by
  constructor
  · intro h
    by_cases hthrough : GoesThrough ext host passphrase trouble m
    · left
      use hthrough, h.opensFaithfully haead hthrough
    · right
      use hthrough
      intro htouches
      exact hthrough (h.goesThrough haead htouches)
  · rintro (⟨hthrough, hfaithful⟩ | ⟨hthrough, htouches⟩)
    · apply hthrough.allOrNothing haead hfaithful
    · apply allOrNothing_of_not_touches hthrough htouches

/-! ### A migration that stops half-way -/

/-- A migration in which nothing goes wrong. -/
def Sample.noTrouble : Trouble where
  hashes := false
  reads _ := false
  rereads _ := false
  dirs _ := false
  stops _ := none
  event := false
  status := false
  statusReads _ := false

/-- The hash of the bytes of an object, and that of an object without a file. -/
def Sample.plainHash : String := blake3HexPrefixed Sample.ext (.raw [1])
def Sample.missingHash : String := blake3HexPrefixed Sample.ext (.raw [1, 2])

/-- A vault that lists objects, of which only one has a file, a plain one. -/
def Sample.machine (hashes : List String) : Machine where
  vault := Dir.ofFiles [(Vault.vaultJsonPath, .json Sample.encryptedVaultJson 0),
    (Vault.dbPath, .sqlite {
      db := { Sample.db with
        objects := hashes.foldl (fun t hash => t.insert hash { bytes := 1 }) ∅ }
      key := none
      layout := 0 })]
  files := (∅ : Files).insert ("/vault/store/objects/18/" ++ Sample.plainHash) [1]

theorem Sample.plainHash_place :
  (ObjectStore.new (objectsDir Sample.host.vaultPath)).filePathForHash Sample.plainHash
    = .ok ("/vault/store/objects/18/" ++ Sample.plainHash)
  := by
  apply ok_of_toOption
  decide +kernel

/-- The first object is sealed, and then the migration fails at the second. -/
theorem migration_stops_half_way :
  ¬ AllOrNothing Sample.ext Sample.host "secret" Sample.noTrouble
    (Sample.machine [Sample.plainHash, Sample.missingHash])
  := by
  obtain ⟨hfails, hchanged⟩ : (vaultEncryptionMigrateService Sample.ext Sample.host "secret"
        Sample.noTrouble (Sample.machine [Sample.plainHash, Sample.missingHash])).1.isOk = false
      ∧ (vaultEncryptionMigrateService Sample.ext Sample.host "secret" Sample.noTrouble
        (Sample.machine [Sample.plainHash, Sample.missingHash])).2.files[
          "/vault/store/objects/18/" ++ Sample.plainHash]? ≠ some [1] := by
    decide +kernel
  have hlisted : Sample.plainHash ∈ listedObjects Sample.host
      (Sample.machine [Sample.plainHash, Sample.missingHash]).vault := by
    decide +kernel
  intro h
  cases hresult : (vaultEncryptionMigrateService Sample.ext Sample.host "secret"
      Sample.noTrouble (Sample.machine [Sample.plainHash, Sample.missingHash])).1 with
  | error e =>
    apply hchanged
    rw [h.nothing e hresult Sample.plainHash hlisted _ Sample.plainHash_place]
    simp [Sample.machine]
  | ok result =>
    rw [hresult] at hfails
    cases hfails

/-- With one plain object the migration is all or nothing. -/
theorem all_or_nothing_iff_machine :
  AllOrNothing Sample.ext Sample.host "secret" Sample.noTrouble
    (Sample.machine [Sample.plainHash])
  := by
  have hlisted : listedObjects Sample.host (Sample.machine [Sample.plainHash]).vault
      = [Sample.plainHash] := by decide +kernel
  have hopen : (openForMigration Sample.ext Sample.host "secret"
      (Sample.machine [Sample.plainHash]).vault).isOk = true := by decide +kernel
  have hfile : (Sample.machine [Sample.plainHash]).files[
      "/vault/store/objects/18/" ++ Sample.plainHash]? = some [1] := by
    simp [Sample.machine]
  obtain ⟨⟨config, enc, file⟩, hopen⟩ := exists_of_isOk hopen
  apply (all_or_nothing_iff _ _ _ _ _ ObjectStore.Sample.aeadInverse).mpr
  left
  constructor
  · refine ⟨config, enc, file, openForMigration_eq_ok.mp hopen, rfl, rfl, rfl, ?_⟩
    rw [hlisted]
    intro hash hmem
    obtain rfl := List.mem_singleton.mp hmem
    refine ⟨rfl, Or.inr ⟨rfl, _, [1], _, Sample.plainHash_place, hfile, rfl, rfl, rfl, rfl, rfl,
      rfl⟩⟩
  · rw [OpensFaithfully, hlisted]
    intro enc' _ hash hmem path raw bytes hplace hfound hlooks
    obtain rfl := List.mem_singleton.mp hmem
    obtain rfl := Except.ok.inj (Sample.plainHash_place.symm.trans hplace)
    obtain rfl := Option.some.inj (hfile.symm.trans hfound)
    cases hlooks

end Migration

end KnowledgeCore
