import KnowledgeCore.Operations.Reached
import KnowledgeCore.Verifier.Zip

/-!
# Verifying what has been exported

The manifest of an export conforms to the schema and passes the check of the escrow block, and the
files of the bundle are those that the manifest lists. What remains is that the manifest takes the
encryption from the configuration, where it has been enabled, and the files are as a migration has
left them: the two agree when the vault is as it is declared to be.
-/

namespace KnowledgeCore

namespace Verifier

open Export (ESCROW_PROVIDER_PRIORITY ExportOptions ExportSource ExportedObject ReadsExport
  RecoveryEscrowDescriptorV2 exportBundle manifestOf recoveryEscrowExportBlock relPath)
open Operations (Complete EscrowKept Kept Reached WellKept get_vaultDirOf_of_not_under vaultDirOf)

/-! ### Patterns -/

namespace Pattern

theorem fits_append {p q : Pattern} {l l' : List Char} (h : p.fits l = true)
    (h' : q.fits l' = true) :
  Pattern.fits (p ++ q) (l ++ l') = true
  := by
  induction p generalizing l with
  | nil =>
    cases l with
    | nil => exact h'
    | cons c l => cases h
  | cons cls p ih =>
    cases l with
    | nil => cases h
    | cons c l =>
      rw [fits_cons, Bool.and_eq_true] at h
      rw [List.cons_append, List.cons_append, fits_cons, h.1, ih h.2]
      rfl

theorem fits_literal (s : String) : (literal s).fits s.toList = true
  := by
  rw [literal]
  induction s.toList with
  | nil => rfl
  | cons c l ih => simpa using ih

theorem fits_replicate {cls : Char → Bool} {l : List Char} (h : l.all cls = true) :
  Pattern.fits (List.replicate l.length cls) l = true
  := by
  induction l with
  | nil => rfl
  | cons c l ih =>
    rw [List.all_cons, Bool.and_eq_true] at h
    rw [List.length_cons, List.replicate_succ, fits_cons, h.1, ih h.2]
    rfl

/-- A pattern with larger classes. -/
def Le (p q : Pattern) : Prop :=
  List.Forall₂ (fun cls cls' => ∀ c, cls c = true → cls' c = true) p q

theorem Le.refl (p : Pattern) : p.Le p
  := by
  rw [Le, List.forall₂_same]
  intro cls _ c h
  exact h

theorem Le.append {p p' q q' : Pattern} (h : p.Le p') (h' : q.Le q') :
  Le (p ++ q) (p' ++ q')
  := List.rel_append h h'

theorem Le.replicate {cls cls' : Char → Bool} (n : Nat) (h : ∀ c, cls c = true → cls' c = true) :
  Le (List.replicate n cls) (List.replicate n cls')
  := by
  induction n with
  | zero => exact List.Forall₂.nil
  | succ n ih => exact List.Forall₂.cons h ih

theorem Le.singleton {cls cls' : Char → Bool} (h : ∀ c, cls c = true → cls' c = true) :
  Le [cls] [cls']
  := List.Forall₂.cons h List.Forall₂.nil

theorem Le.fits {p q : Pattern} {l : List Char} (h : p.Le q) (hfits : p.fits l = true) :
  q.fits l = true
  := by
  induction h generalizing l with
  | nil => exact hfits
  | cons hcls _ ih =>
    cases l with
    | nil => cases hfits
    | cons c l =>
      rw [fits_cons, Bool.and_eq_true] at hfits
      rw [fits_cons, hcls c hfits.1, ih hfits.2]
      rfl

end Pattern

theorem fits_blake3Pattern (ext : Externals) (bytes : Content) :
  blake3Pattern.fits (blake3HexPrefixed ext bytes).toList = true
  := by
  have hdigits : (Hex.bytesToHex (ext.blake3 bytes).toList).toList.length = 64 := by
    rw [Hex.bytesToHex, String.toList_ofList, Hex.length_digits, Vector.length_toList]
  have hfits := Pattern.fits_replicate (Hex.all_isLowerHex_bytesToHex (ext.blake3 bytes).toList)
  rw [hdigits] at hfits
  rw [blake3HexPrefixed, String.toList_append]
  exact Pattern.fits_append (Pattern.fits_literal _) hfits

/-- An identifier that has been drawn is one that the schema takes. -/
theorem uuidV4Pattern_le : VaultJsonV3.uuidV4Pattern.Le uuidPattern
  := by
  have hhex (c : Char) (h : Hex.isLowerHex c = true) : isHexDigit c = true := by
    rw [isHexDigit, h, Bool.true_or]
  have hversion (c : Char) (h : (c == '4') = true) : ('1' ≤ c && c ≤ '5') = true := by
    rw [beq_iff_eq.mp h]
    decide
  have hvariant (c : Char) (h : "89ab".toList.contains c = true) :
      "89abAB".toList.contains c = true := by
    have hsubset : "89ab".toList ⊆ "89abAB".toList := by decide
    exact List.contains_iff_mem.mpr (hsubset (List.contains_iff_mem.mp h))
  have hdash := Pattern.Le.refl (.literal "-")
  apply Pattern.Le.append _ (.replicate 12 hhex)
  apply Pattern.Le.append _ hdash
  apply Pattern.Le.append _ (.replicate 3 hhex)
  apply Pattern.Le.append _ (.singleton hvariant)
  apply Pattern.Le.append _ hdash
  apply Pattern.Le.append _ (.replicate 3 hhex)
  apply Pattern.Le.append _ (.singleton hversion)
  apply Pattern.Le.append _ hdash
  apply Pattern.Le.append _ (.replicate 4 hhex)
  exact Pattern.Le.append (.replicate 8 hhex) hdash

/-! ### The manifest conforms to the schema -/

section Manifest

variable {ext : Externals} {host : Host} {vaultDir : Dir Content} {opts : ExportOptions}
  {source : ExportSource} {key : Option String} {file : SqliteFile} {db : Db}

theorem accepts_hashSchema (ext : Externals) (bytes : Content) :
  accepts hashSchema (.str (blake3HexPrefixed ext bytes)) = true
  := by
  simp [hashSchema, JsonType.has, fits_blake3Pattern]

theorem accepts_nonEmptySchema {s : String} (h : s ≠ "") :
  accepts nonEmptySchema (.str s) = true
  := by
  have hlength : 1 ≤ s.length := by
    rw [Nat.one_le_iff_ne_zero]
    intro hzero
    apply h
    apply String.toList_inj.mp
    exact List.eq_nil_of_length_eq_zero hzero
  simp [nonEmptySchema, JsonType.has, hlength]

theorem accepts_encryptionBlock {config : VaultJsonV3} (h : config.Genuine) :
  accepts encryptionSchema (Export.encryptionBlock config) = true
  := by
  cases hreference : config.encryption.keyReference
  all_goals
    simp [encryptionSchema, objectSchema, booleanSchema, stringSchema, JsonType.has, Export.encryptionBlock, List.lookup_cons, h.kdf, hreference,
      Json.ofOption]

theorem accepts_dbEncryptionBlock (config : VaultJsonV3) :
  accepts dbEncryptionSchema (Export.dbEncryptionBlock config) = true
  := by
  cases hreference : config.dbEncryption.keyReference
  all_goals
    simp [dbEncryptionSchema, objectSchema, booleanSchema, stringSchema, JsonType.has, Export.dbEncryptionBlock, List.lookup_cons, hreference,
      Json.ofOption]

theorem accepts_packagingBlock (opts : ExportOptions) :
  accepts packagingSchema (Export.packagingBlock opts) = true
  := by
  cases hzip : opts.asZip
  all_goals
    simp [packagingSchema, objectSchema, constSchema, JsonType.has, Export.packagingBlock, List.lookup_cons, hzip, Json.isSame]

theorem ne_empty_of_complete {descriptor : RecoveryEscrowDescriptorV2}
    (h : Complete descriptor) :
  descriptor.provider ≠ ""
  := by
  intro hempty
  have hsupported := h.supported
  rw [hempty] at hsupported
  revert hsupported
  decide

theorem accepts_descriptor {descriptor : RecoveryEscrowDescriptorV2} (h : Complete descriptor) :
  accepts descriptorSchema descriptor.toJson = true
  := by
  simp [descriptorSchema, objectSchema, integerSchema, JsonType.has, RecoveryEscrowDescriptorV2.toJson, List.lookup_cons,
    accepts_nonEmptySchema (ne_empty_of_complete h), accepts_nonEmptySchema h.providerRef,
    accepts_nonEmptySchema h.keyId]

/-- A block with a part for each member of the schema conforms when the parts do. -/
theorem accepts_escrowBlock {provider updated descriptor : Json} {providers descriptors : List Json}
    (hprovider : accepts nonEmptySchema provider = true)
    (hproviders : providers.all (accepts nonEmptySchema) = true)
    (hupdated : accepts [.type [.integer, .null]] updated = true)
    (hdescriptor : accepts [.type [.object, .null]] descriptor = true)
    (hdescriptors : descriptors.all (accepts descriptorSchema) = true) :
  accepts recoveryEscrowSchema
    (.obj [("enabled", .bool true), ("provider", provider), ("providers", .arr providers),
      ("updated_at_ms", updated), ("descriptor", descriptor),
      ("escrow_descriptors", .arr descriptors)]) = true
  := by
  have hitems {schema : Schema} {items : List Json} (h : items.all (accepts schema) = true) :
      accepts [.type [.array], .items schema] (.arr items) = true := by
    simpa [JsonType.has] using h
  have henabled : accepts booleanSchema (.bool true) = true := rfl
  rw [recoveryEscrowSchema, accepts_objectSchema]
  simp [List.lookup_cons, hprovider, hitems hproviders, hupdated, hdescriptor,
    hitems hdescriptors, henabled]

/-- The escrow block conforms to its schema when the descriptors in the table are complete. -/
theorem accepts_recoveryEscrow {block : Json} (h : recoveryEscrowExportBlock db = .ok block)
    (hkept : EscrowKept db) :
  accepts recoveryEscrowSchema block = true
  := by
  simp only [recoveryEscrowExportBlock, AppResult.bind_eq_ok] at h
  obtain ⟨found, hfound, h⟩ := h
  have hcomplete : ∀ d ∈ found, Complete d.1 := by
    intro d hd
    obtain ⟨row, hrow, hdescriptor⟩ := exists_row_of_mem hfound hd
    exact hkept _ _ _ (Std.ExtTreeMap.mem_toList_iff_getElem?_eq_some.mp hrow) hdescriptor
  split at h
  · cases h
    decide
  · next first rest hdescriptors =>
    cases h
    have hproviders : (((found.map fun d => d.1.provider).insertionSort
        fun a b => Export.providerLe a b).map Json.str).all (accepts nonEmptySchema) = true := by
      rw [List.all_map, List.all_eq_true]
      intro provider hprovider
      obtain ⟨d, hd, rfl⟩ := List.mem_map.mp ((List.mem_insertionSort _).mp hprovider)
      exact accepts_nonEmptySchema (ne_empty_of_complete (hcomplete d hd))
    have hitems : ((Export.normalizeEscrowDescriptors (found.map Prod.fst)).map
        RecoveryEscrowDescriptorV2.toJson).all (accepts descriptorSchema) = true := by
      rw [List.all_map, List.all_eq_true]
      intro descriptor hdescriptor
      obtain ⟨d, hd, rfl⟩ := List.mem_map.mp ((List.mem_insertionSort _).mp hdescriptor)
      exact accepts_descriptor (hcomplete d hd)
    have hupdated : accepts [.type [.integer, .null]]
        (((Export.latest (found.map Prod.snd)).map fun t => Json.int t.toInt).getD .null)
        = true := by
      cases Export.latest (found.map Prod.snd) <;> rfl
    have hprimary : accepts nonEmptySchema (.str (primaryProvider
        ((found.map fun d => d.1.provider).insertionSort fun a b => Export.providerLe a b)))
        = true := by
      apply accepts_nonEmptySchema
      unfold primaryProvider
      split
      · next provider hsingle =>
        have hmem : provider ∈ (found.map fun d => d.1.provider).insertionSort
            fun a b => Export.providerLe a b := by
          rw [hsingle]
          exact List.mem_singleton_self _
        obtain ⟨d, hd, rfl⟩ := List.mem_map.mp ((List.mem_insertionSort _).mp hmem)
        exact ne_empty_of_complete (hcomplete d hd)
      · decide
    exact accepts_escrowBlock hprimary hproviders hupdated rfl hitems

/-- Every object is that of a row. -/
theorem exists_exportObject_of_mem {rows : List (String × ObjectRow)}
    {objects : List ExportedObject} (h : Export.exportObjects ext vaultDir rows = .ok objects)
    {object : ExportedObject} (hobject : object ∈ objects) :
  ∃ row ∈ rows, Export.exportObject ext vaultDir row.1 row.2 = .ok object
  := by
  induction rows generalizing objects with
  | nil =>
    cases h
    cases hobject
  | cons row rows ih =>
    simp only [Export.exportObjects, AppResult.bind_eq_ok] at h
    obtain ⟨first, hfirst, rest, hrest, h⟩ := h
    cases h
    obtain rfl | hmem := List.mem_cons.mp hobject
    · exact ⟨row, List.mem_cons_self .., hfirst⟩
    · obtain ⟨row', hrow', hobject'⟩ := ih hrest hmem
      exact ⟨row', List.mem_cons_of_mem _ hrow', hobject'⟩

/-- The entry of an object conforms to its schema when the row is that of a byte string. -/
theorem accepts_objectEntry {hash : String} {row : ObjectRow} {object : ExportedObject}
    {bytes : List UInt8} (h : Export.exportObject ext vaultDir hash row = .ok object)
    (hhash : hash = blake3HexPrefixed ext (.raw bytes)) (hrow : row.bytes.toInt = bytes.length) :
  accepts objectEntrySchema object.entry = true
  := by
  simp only [Export.exportObject, AppResult.bind_eq_ok] at h
  obtain ⟨dir, -, stored, -, h⟩ := h
  cases h
  have hpath (path : String) : accepts stringSchema (.str path) = true := rfl
  have hencrypted (b : Bool) : accepts booleanSchema (.bool b) = true := rfl
  have hbytes : accepts [.type [.integer], .minimum 0] (.int row.bytes.toInt) = true := by
    simp [JsonType.has, hrow]
  rw [objectEntrySchema, accepts_objectSchema, hhash]
  simp [List.lookup_cons, hpath, hencrypted, hbytes, accepts_hashSchema]

/-- The manifest of an export conforms to the schema when the configuration is one that a vault
has been made with, and the tables are of the right form. -/
theorem accepts_manifestOf (h : ReadsExport ext host vaultDir opts source key file)
    (hgenuine : source.vault.Genuine) (hkept : Kept ext file.db) :
  accepts manifestSchema (manifestOf ext opts source) = true
  := by
  have hobjects : (source.objects.map ExportedObject.entry).all (accepts objectEntrySchema)
      = true := by
    rw [List.all_map, List.all_eq_true]
    intro object hobject
    obtain ⟨row, hrow, hexport⟩ := exists_exportObject_of_mem h.objects hobject
    obtain ⟨bytes, hhash, hbytes⟩ := hkept.objects _ _
      (Std.ExtTreeMap.mem_toList_iff_getElem?_eq_some.mp hrow)
    exact accepts_objectEntry hexport hhash hbytes
  have hitems : accepts [.type [.array], .items objectEntrySchema]
      (.arr (source.objects.map ExportedObject.entry)) = true := by
    simpa [JsonType.has] using hobjects
  have hversion : accepts [.const (.int 1)] (.int 1) = true := by decide
  have hid : accepts [.type [.string], .pattern uuidPattern] (.str source.vault.vaultId)
      = true := by
    simp [JsonType.has, uuidV4Pattern_le.fits hgenuine.vaultId]
  have hobject (members : List (String × Json)) : accepts [.type [.object]] (.obj members) = true :=
    rfl
  have hstring (s : String) : accepts stringSchema (.str s) = true := rfl
  have hescrow := accepts_recoveryEscrow h.recoveryEscrow hkept.escrow
  have hdb (path : String) : accepts (objectSchema ["relative_path", "hash"]
      [("relative_path", stringSchema), ("hash", hashSchema)])
      (.obj [("relative_path", .str path), ("hash", .str (blake3HexPrefixed ext source.dbSrc))])
      = true := by
    rw [accepts_objectSchema]
    simp [List.lookup_cons, hstring, accepts_hashSchema]
  rw [manifestSchema, manifestOf, Export.buildManifest, accepts_objectSchema]
  simp [List.lookup_cons, hitems, hversion, hid, hobject, hstring, hescrow, hdb,
    accepts_hashSchema, accepts_encryptionBlock hgenuine, accepts_dbEncryptionBlock,
    accepts_packagingBlock]

theorem get_recoveryEscrow :
  (manifestOf ext opts source).get "recovery_escrow" = some source.recoveryEscrow
  := rfl

/-- The verifier finds nothing wrong with the manifest. -/
theorem manifestErrors_manifestOf {validatorFor : ValidatorFor} (hvalid : Validates validatorFor)
    (h : ReadsExport ext host vaultDir opts source key file) (hgenuine : source.vault.Genuine)
    (hkept : Kept ext file.db) (hfolder : opts.asZip = false) :
  manifestErrors validatorFor "folder" (manifestOf ext opts source) = .ok []
  := by
  obtain ⟨validate, hcompiled, hvalidate⟩ := hvalid manifestSchema
  have hconforms := (hvalidate _ (Export.hasFloat_manifestOf h)).mpr
    (accepts_manifestOf h hgenuine hkept)
  have hformat : packagingFormat (manifestOf ext opts source) = some "folder" := by
    change some (if opts.asZip then "zip" else "folder") = some "folder"
    rw [hfolder]
    rfl
  have hescrow : verifyRecoveryEscrowMetadata (manifestOf ext opts source) = none := by
    apply verifyRecoveryEscrowMetadata_of_supported h.recoveryEscrow get_recoveryEscrow
    intro id row d hrow hdescriptor
    exact (hkept.escrow id row d hrow hdescriptor).supported
  simp [manifestErrors, hcompiled, hconforms, hformat, hescrow]

end Manifest

/-! ### The files are those that the manifest lists -/

section Files

variable {ext : Externals} {bundle : Dir Content} {opts : ExportOptions} {source : ExportSource}
  {path : String}

/-- The entry of the database in the manifest of an export. -/
def dbEntryOf (ext : Externals) (source : ExportSource) : Json :=
  .obj [("relative_path", .str source.vault.db.relativePath),
    ("hash", .str (blake3HexPrefixed ext source.dbSrc))]

theorem readManifest_export (h : Export.IsExport ext bundle opts source) :
  readManifest (.ofDir path bundle) = .ok (manifestOf ext opts source)
  := by
  have hentry : (Folder.ofDir path bundle).entry "manifest.json"
      = .file (.json (manifestOf ext opts source) 0) := by
    apply Folder.entry_of_get (by decide)
    exact h.get_manifestPath
  rw [readManifest, hentry]
  rfl

/-- The database passes when it is encrypted as the configuration says. -/
theorem verifyDb_export (h : Export.IsExport ext bundle opts source) {enabled : Bool} :
  verifyDb ext (.ofDir path bundle) enabled (dbEntryOf ext source) = []
    ↔ (16 ≤ ext.byteLen source.dbSrc → (!isPlaintextSqliteDb source.dbSrc) = enabled)
  := by
  have hrel : relPath (textAt (dbEntryOf ext source) "relative_path") = Vault.dbPath := by
    change relPath source.vault.db.relativePath = _
    rw [h.usualPlace, Export.relPath_usualPlace]
  have hentry : (Folder.ofDir path bundle).entry (textAt (dbEntryOf ext source) "relative_path")
      = .file source.dbSrc := by
    apply Folder.entry_of_get
    · rw [hrel]
      decide
    · rw [hrel, h.get_dbPath]
  rw [verifyDb_eq_nil, hentry]
  constructor
  · rintro ⟨bytes, hbytes, -, henabled⟩
    cases hbytes
    exact henabled
  · intro henabled
    exact ⟨source.dbSrc, rfl, rfl, henabled⟩

/-- An object passes when its file is encrypted as the configuration says. -/
theorem verifyObject_export {host : Host} {vaultDir : Dir Content} {key : Option String}
    {file : SqliteFile} (h : Export.IsExport ext bundle opts source)
    (hreads : ReadsExport ext host vaultDir opts source key file) {enabled : Bool}
    {counts : CheckedCounts} {object : ExportedObject} (hobject : object ∈ source.objects) :
  verifyObject ext (.ofDir path bundle) enabled counts object.entry = .ok []
    ↔ object.stored.isEncryptedPayload = enabled
  := by
  have hlisted := isListed_of_mem hreads.objects hobject
  obtain ⟨row, -, hrow⟩ := Export.exists_row_of_mem hreads.objects hobject
  have hentry : (Folder.ofDir path bundle).entry (textAt object.entry "relative_path")
      = .file object.stored := by
    apply Folder.entry_of_get
    · rw [hlisted.path]
      intro hnil
      have hhead := head_objectPath hrow.path
      rw [hnil] at hhead
      cases hhead
    · rw [hlisted.path, h.get_object hobject]
  rw [verifyObject_eq_nil, hentry, hlisted.storageHash, hlisted.encrypted]
  constructor
  · rintro ⟨bytes, hbytes, -, -, henabled⟩
    exact henabled
  · intro henabled
    exact ⟨object.stored, rfl, rfl, rfl, henabled⟩

/-- There are no errors in the files of an export without a vector index if and only if the
database and the objects are encrypted as the configuration says. -/
theorem fileErrors_export (path : String) {host : Host} {vaultDir : Dir Content} {key : Option String}
    {file : SqliteFile} (h : Export.IsExport ext bundle opts source)
    (hreads : ReadsExport ext host vaultDir opts source key file) (hvectors : source.vectors = []) :
  fileErrors ext (.ofDir path bundle) (manifestOf ext opts source) (dbEntryOf ext source) = .ok []
    ↔ (16 ≤ ext.byteLen source.dbSrc
        → (!isPlaintextSqliteDb source.dbSrc) = source.vault.dbEncryption.enabled)
      ∧ ∀ object ∈ source.objects,
          object.stored.isEncryptedPayload = source.vault.encryption.enabled
  := by
  have hempty (idx : Json) : ¬ idx ∈ vectorsOf (manifestOf ext opts source) := by
    rw [mem_vectorsOf_manifestOf, hvectors]
    rintro ⟨file, hfile, -⟩
    cases hfile
  rw [fileErrors_eq_nil, objectsOf_manifestOf, verifyDb_export h]
  constructor
  · rintro ⟨hdb, hobjects, -⟩
    use hdb
    intro object hobject
    exact (verifyObject_export h hreads hobject).mp
      (hobjects _ (List.mem_map_of_mem hobject))
  · rintro ⟨hdb, hobjects⟩
    refine ⟨hdb, ?_, fun idx hidx => absurd hidx (hempty idx)⟩
    intro entry hentry
    obtain ⟨object, hobject, rfl⟩ := List.mem_map.mp hentry
    exact (verifyObject_export h hreads hobject).mpr (hobjects object hobject)

end Files

/-! ### The verdict on an export -/

/-- The vault is as its configuration declares it: the database, unless it is too short for a
header, and the files of the objects are encrypted exactly if that has been enabled. -/
structure AsDeclared (ext : Externals) (dir : Dir Content) (config : VaultJsonV3)
    (file : SqliteFile) : Prop where
  database : 16 ≤ ext.byteLen (.sqlite file) → file.key.isSome = config.dbEncryption.enabled
  objects : ∀ hash ∈ file.db.objects, ∀ path bytes, objectPath hash = some path →
    dir.get path = some bytes → bytes.isEncryptedPayload = config.encryption.enabled

/-- Encryption has been enabled in the vault, and the database or the file of an object is still
plain. -/
inductive Unmigrated (ext : Externals) (dir : Dir Content) (config : VaultJsonV3)
    (file : SqliteFile) : Prop
  | database (henabled : config.dbEncryption.enabled = true) (hplain : file.key = none)
    (hlength : 16 ≤ ext.byteLen (.sqlite file))
  | object (henabled : config.encryption.enabled = true) {hash path bytes}
    (hrow : hash ∈ file.db.objects) (hpath : objectPath hash = some path)
    (hbytes : dir.get path = some bytes) (hplain : bytes.isEncryptedPayload = false)

section Verdict

variable {ext : Externals} {validatorFor : ValidatorFor} {host : Host} {vaultDir bundle : Dir Content}
  {opts : ExportOptions} {source : ExportSource} {key : Option String} {file file' : SqliteFile}
  {config : VaultJsonV3} {vaultPath : String} {m : Machine}

/-- The verification of an export gets to its files. -/
theorem verifyFolderBundle_export (path : String) (hvalid : Validates validatorFor)
    (h : Export.IsExport ext bundle opts source)
    (hreads : ReadsExport ext host vaultDir opts source key file)
    (hgenuine : source.vault.Genuine) (hkept : Kept ext file.db) (hfolder : opts.asZip = false) :
  verifyFolderBundle ext validatorFor (.ofDir path bundle) "folder"
    = .ok (filesVerdict ext (.ofDir path bundle) (manifestOf ext opts source)
        (dbEntryOf ext source))
  := by
  have hdb : ((manifestOf ext opts source).get "db").filter Json.isObject
      = some (dbEntryOf ext source) := rfl
  rw [verifyFolderBundle, readManifest_export h]
  simp only [manifestErrors_manifestOf hvalid hreads hgenuine hkept hfolder, AppResult.ok_bind, hdb,
    okOrElse_some]

/-- What an export has read of a vault that is as it is declared agrees with its manifest. -/
theorem AsDeclared.agrees (h : AsDeclared ext vaultDir source.vault file)
    (hreads : ReadsExport ext host vaultDir opts source key file')
    (hdb : source.dbSrc = .sqlite file) (hobjects : file'.db.objects = file.db.objects) :
  (16 ≤ ext.byteLen source.dbSrc
      → (!isPlaintextSqliteDb source.dbSrc) = source.vault.dbEncryption.enabled)
    ∧ ∀ object ∈ source.objects,
        object.stored.isEncryptedPayload = source.vault.encryption.enabled
  := by
  constructor
  · intro hlength
    rw [hdb] at hlength ⊢
    rw [← h.database hlength]
    cases hkey : file.key <;> simp [isPlaintextSqliteDb, DbCipher.startsWithHeader, hkey]
  · intro object hobject
    obtain ⟨row, hrow, his⟩ := Export.exists_row_of_mem hreads.objects hobject
    apply h.objects row.1 _ object.path object.stored his.path his.stored
    rw [hobjects] at hrow
    rw [Std.ExtTreeMap.mem_iff_isSome_getElem?,
      Std.ExtTreeMap.mem_toList_iff_getElem?_eq_some.mp hrow, Option.isSome_some]

/-- What an export has read of a vault that has not been migrated does not agree with its
manifest. -/
theorem Unmigrated.not_agrees (h : Unmigrated ext vaultDir source.vault file)
    (hreads : ReadsExport ext host vaultDir opts source key file')
    (hdb : source.dbSrc = .sqlite file) (hobjects : file'.db.objects = file.db.objects) :
  ¬ ((16 ≤ ext.byteLen source.dbSrc
      → (!isPlaintextSqliteDb source.dbSrc) = source.vault.dbEncryption.enabled)
    ∧ ∀ object ∈ source.objects,
        object.stored.isEncryptedPayload = source.vault.encryption.enabled)
  := by
  rintro ⟨hdatabase, hstored⟩
  cases h with
  | database henabled hplain hlength =>
    rw [hdb] at hdatabase
    have heq := hdatabase hlength
    rw [henabled] at heq
    simp [isPlaintextSqliteDb, DbCipher.startsWithHeader, hplain] at heq
  | object henabled hrow hpath hbytes hplain =>
    rw [← hobjects, Std.ExtTreeMap.mem_iff_isSome_getElem?, Option.isSome_iff_exists] at hrow
    obtain ⟨row, hrow⟩ := hrow
    obtain ⟨object, hobject, his⟩ := Export.exists_object_of_mem hreads.objects
      (Std.ExtTreeMap.mem_toList_iff_getElem?_eq_some.mpr hrow)
    obtain rfl : _ = object.path := Option.some.inj (hpath.symm.trans his.path)
    obtain rfl : _ = object.stored := Option.some.inj (hbytes.symm.trans his.stored)
    have heq := hstored object hobject
    rw [hplain, henabled] at heq
    cases heq

/-- In a vault that has been reached there is no vector index. -/
theorem exportedVectors_eq_nil (h : WellKept ext m.vault) (opts : ExportOptions) :
  Export.exportedVectors (vaultDirOf vaultPath m) opts = []
  := by
  rw [Export.exportedVectors]
  split
  · rw [List.eq_nil_iff_forall_not_mem]
    rintro ⟨p, bytes⟩ hmem
    obtain ⟨hunder, hget⟩ := Dir.mem_listFiles.mp hmem
    have hhead := Export.under_vectorsDir hunder
    have hobjects : Dir.under Export.objectsDir p = false := by
      cases p with
      | nil => rfl
      | cons name p =>
        cases hhead
        rfl
    rw [get_vaultDirOf_of_not_under hobjects] at hget
    have hplace := h.only p bytes hget
    simp only [List.mem_cons, List.not_mem_nil, or_false] at hplace
    obtain rfl | rfl | rfl | rfl := hplace <;> exact absurd hhead (by decide)
  · rfl

end Verdict

/-! ### A vault whose encryption has been enabled -/

namespace Sample

open KnowledgeCore.Sample (host)

/-- Algorithms for which no database is too short for a header. -/
def pagedExt : Externals :=
  { KnowledgeCore.Sample.ext with byteLen := fun _ => 4096 }

/-- A new vault, with a file in its inbox. -/
def newMachine : Machine where
  vault := Operations.vaultInit "11111111-1111-4111-8111-111111111111" "a" 0 Dir.empty
  files := (∅ : Files).insert "/vault/Inbox/note.txt" [110, 111, 116, 101]

/-- The vault with the file in it. -/
def notedMachine : Machine :=
  Ingest.Sample.takeNote.after pagedExt "/vault" newMachine

/-- The vault after its encryption has been enabled. -/
def enabledMachine : Machine :=
  (Operations.vaultEncryptionEnableService pagedExt host "secret" Migration.Sample.noTrouble
    notedMachine).2

theorem reached_notedMachine : Reached pagedExt "/vault" notedMachine
  := by
  have hstart : Reached pagedExt "/vault" ⟨Dir.empty, newMachine.files⟩ := Reached.start _
  have hmade : Reached pagedExt "/vault" newMachine :=
    hstart.step (Operations.Step.init "a" 0 (by decide +kernel))
  exact hmade.step (Operations.Step.ingest Ingest.Sample.takeNote)

theorem reached_enabledMachine : Reached pagedExt "/vault" enabledMachine
  := reached_notedMachine.step (Operations.Step.enableEncryption "secret" _ rfl)

/-- Whether no file of an object looks encrypted. -/
def hasPlainObjects (dir : Dir Content) (file : SqliteFile) : Bool :=
  file.db.objects.keys.all fun hash =>
    ((objectPath hash).bind dir.get).all fun bytes => !bytes.isEncryptedPayload

end Sample

end Verifier

end KnowledgeCore
