import KnowledgeCore.Lib.CrashLogic
import KnowledgeCore.Lifecycle.Session
import KnowledgeCore.Objects.Ingest

/-!
# Identity providers

The providers of identities, which are kept in two tables, and the statements of SQL that read and
write them together with the sessions, their revocations, the policies of the providers and the
certificates. A statement that fails leaves the tables as they were.
-/

namespace KnowledgeCore

/-! ### Tables -/

/-- A row of `trust_providers` with all of its columns, under its `provider_id`. -/
structure TrustProviderRecord extends TrustProviderRow where
  issuer : String
  audience : String
  jwksUrl : String
  createdAtMs : Int64
  updatedAtMs : Int64

/-- A row of the older table `identity_providers`, under its `provider_id`. -/
structure IdentityProviderRow where
  issuer : String
  audience : String
  enabled : Bool
  createdAtMs : Int64

/-- The database with all that is known of the providers. What it says of a provider elsewhere is
read off its row. -/
structure TrustDb extends OwnerDb where
  providers : Table TrustProviderRecord
  identityProviders : Table IdentityProviderRow
  trustProviders_eq : trustProviders = providers.map fun _ row => row.toTrustProviderRow

namespace TrustDb

/-- The database with other providers. -/
def withProviders (db : TrustDb) (providers : Table TrustProviderRecord) : TrustDb where
  __ := db
  trustProviders := providers.map fun _ row => row.toTrustProviderRow
  providers := providers
  trustProviders_eq := rfl

@[simp] theorem providers_withProviders (db : TrustDb) (providers : Table TrustProviderRecord) :
  (db.withProviders providers).providers = providers
  := rfl

/-- Whether a provider may be used is a column of its row. -/
theorem getElem?_trustProviders (db : TrustDb) (providerId : String) :
  db.trustProviders[providerId]?
    = db.providers[providerId]?.map TrustProviderRecord.toTrustProviderRow
  := by
  rw [db.trustProviders_eq, Std.ExtTreeMap.getElem?_map]

/-- The row of a provider after it has been added, or added again. -/
def upserted (existing : Option TrustProviderRecord) (issuer audience jwksUrl : String)
    (nowMs : Int64) : TrustProviderRecord where
  enabled := true
  issuer
  audience
  jwksUrl
  createdAtMs := (existing.map TrustProviderRecord.createdAtMs).getD nowMs
  updatedAtMs := nowMs

def upsertedLegacy (existing : Option IdentityProviderRow) (issuer audience : String)
    (nowMs : Int64) : IdentityProviderRow where
  issuer
  audience
  enabled := true
  createdAtMs := (existing.map IdentityProviderRow.createdAtMs).getD nowMs

end TrustDb

/-! ### Statements -/

/-- The statements of SQL that identities are governed with. The evaluation of the policy of a
provider is one, and so is the authentication of a session. -/
inductive TrustOp
  | readProvider (providerId : String)
  | readLegacyProvider (providerId : String)
  | upsertProvider (providerId issuer audience jwksUrl : String) (nowMs : Int64)
  | upsertLegacyProvider (providerId issuer audience : String) (nowMs : Int64)
  | disableProvider (providerId : String) (nowMs : Int64)
  | disableLegacyProvider (providerId : String)
  | providerExists (providerId : String)
  | upsertPolicy (providerId : String) (policy : TrustProviderPolicyRow)
  | readPolicy (providerId : String)
  | insertSession (sessionId : String) (session : IdentitySessionRow)
  | policyAllows (providerId sessionId claimSubsetJson : String)
      (issuedAtMs expiresAtMs nowMs : Int64)
  | authenticate (sessionId : String) (nowMs : Int64)
  | sessionExists (sessionId : String)
  | revoke (sessionId : String)
  | readFingerprint (deviceId : String)
  | latestSubject (providerId : String) (nowMs : Int64)
  | insertCertificate (certId providerId : String) (certificate : DeviceCertificateRow)

abbrev TrustOp.Ans : TrustOp → Type
  | .readProvider _ => Except String (Option TrustProviderRecord)
  | .readLegacyProvider _ => Except String (Option IdentityProviderRow)
  | .upsertProvider _ _ _ _ _ => Except String Unit
  | .upsertLegacyProvider _ _ _ _ => Except String Unit
  | .disableProvider _ _ => Except String Unit
  | .disableLegacyProvider _ => Except String Unit
  | .providerExists _ => Except String Bool
  | .upsertPolicy _ _ => Except String Unit
  | .readPolicy _ => Except String (Option TrustProviderPolicyRow)
  | .insertSession _ _ => Except String Unit
  | .policyAllows _ _ _ _ _ _ => AppResult Unit
  | .authenticate _ _ => AppResult Trust.IdentitySessionRecord
  | .sessionExists _ => Except String Bool
  | .revoke _ => Except String Unit
  | .readFingerprint _ => Except String (Option String)
  | .latestSubject _ _ => Except String (Option String)
  | .insertCertificate _ _ _ => Except String Unit

/-- A program over the tables of the identities. -/
abbrev TrustProg := Prog TrustOp TrustOp.Ans AppError

namespace TrustDb

/-- Insert a session. Its id has to be new, and its provider has to be in the older table. -/
def insertSession (sessionId : String) (session : IdentitySessionRow) (db : TrustDb) :
  Except String Unit × TrustDb
  :=
  if sessionId ∈ db.identitySessions then
    (.error (Trust.uniqueFailed "identity_sessions.session_id"), db)
  else if session.providerId ∉ db.identityProviders then
    (.error "FOREIGN KEY constraint failed", db)
  else
    (.ok (), { db with identitySessions := db.identitySessions.insert sessionId session })

/-- Insert a certificate, of a device and a provider that are there. -/
def insertCertificate (certId providerId : String) (certificate : DeviceCertificateRow)
    (db : TrustDb) : Except String Unit × TrustDb
  :=
  if certId ∈ db.deviceCertificates then
    (.error (Trust.uniqueFailed "device_certificates.cert_id"), db)
  else if certificate.deviceId ∉ db.trustedDevices ∨ providerId ∉ db.identityProviders then
    (.error "FOREIGN KEY constraint failed", db)
  else
    (.ok (), { db with deviceCertificates := db.deviceCertificates.insert certId certificate })

/-- What a statement answers and does when the database is at its service. -/
def perform (parse : JsonParser) (faults : Faults) : (op : TrustOp) → TrustDb → op.Ans × TrustDb
  | .readProvider providerId, db => (.ok db.providers[providerId]?, db)
  | .readLegacyProvider providerId, db => (.ok db.identityProviders[providerId]?, db)
  | .upsertProvider providerId issuer audience jwksUrl nowMs, db =>
    (.ok (), db.withProviders (db.providers.alter providerId fun existing =>
      some (upserted existing issuer audience jwksUrl nowMs)))
  | .upsertLegacyProvider providerId issuer audience nowMs, db =>
    (.ok (), { db with
      identityProviders := db.identityProviders.alter providerId fun existing =>
        some (upsertedLegacy existing issuer audience nowMs) })
  | .disableProvider providerId nowMs, db =>
    (.ok (), db.withProviders (db.providers.alter providerId fun existing =>
      existing.map fun row => { row with enabled := false, updatedAtMs := nowMs }))
  | .disableLegacyProvider providerId, db =>
    (.ok (), { db with
      identityProviders := db.identityProviders.alter providerId fun existing =>
        existing.map fun row => { row with enabled := false } })
  | .providerExists providerId, db => (.ok (db.providers.contains providerId), db)
  | .upsertPolicy providerId policy, db =>
    if providerId ∈ db.providers then
      (.ok (), { db with
        trustProviderPolicies := db.trustProviderPolicies.insert providerId policy })
    else
      (.error "FOREIGN KEY constraint failed", db)
  | .readPolicy providerId, db => (.ok db.trustProviderPolicies[providerId]?, db)
  | .insertSession sessionId session, db => insertSession sessionId session db
  | .policyAllows providerId sessionId claimSubsetJson issuedAtMs expiresAtMs nowMs, db =>
    (TrustPolicy.ensureSessionPolicyAllows parse faults db.toOwnerDb providerId sessionId
      claimSubsetJson issuedAtMs expiresAtMs nowMs, db)
  | .authenticate sessionId nowMs, db =>
    (Trust.authenticateIdentitySession parse faults db.toOwnerDb sessionId nowMs, db)
  | .sessionExists sessionId, db => (.ok (db.identitySessions.contains sessionId), db)
  | .revoke sessionId, db =>
    if sessionId ∈ db.identitySessions then
      (.ok (), { db with
        trustSessionRevocations := db.trustSessionRevocations.insert sessionId () })
    else
      (.error "FOREIGN KEY constraint failed", db)
  | .readFingerprint deviceId, db =>
    (.ok (Trust.deviceFingerprint db.toDb deviceId).toOption, db)
  | .latestSubject providerId nowMs, db =>
    (.ok (Trust.latestSessionSubject db.toDb providerId nowMs).toOption, db)
  | .insertCertificate certId providerId certificate, db =>
    insertCertificate certId providerId certificate db

/-- The answer of a statement that the database fails with an error. The evaluation of a policy
and the authentication of a session are made of several statements. -/
def refused : (op : TrustOp) → String → Option op.Ans
  | .readProvider _, error => some (.error error)
  | .readLegacyProvider _, error => some (.error error)
  | .upsertProvider _ _ _ _ _, error => some (.error error)
  | .upsertLegacyProvider _ _ _ _, error => some (.error error)
  | .disableProvider _ _, error => some (.error error)
  | .disableLegacyProvider _, error => some (.error error)
  | .providerExists _, error => some (.error error)
  | .upsertPolicy _ _, error => some (.error error)
  | .readPolicy _, error => some (.error error)
  | .insertSession _ _, error => some (.error error)
  | .policyAllows _ _ _ _ _ _, _ => none
  | .authenticate _ _, _ => none
  | .sessionExists _, error => some (.error error)
  | .revoke _, error => some (.error error)
  | .readFingerprint _, error => some (.error error)
  | .latestSubject _ _, error => some (.error error)
  | .insertCertificate _ _ _, error => some (.error error)

/-- What a statement may do, when the statements of a kind may fail. -/
def Effect (parse : JsonParser) (mayFail : TrustOp → Prop) :
    Prog.Effect TrustOp TrustOp.Ans TrustDb :=
  fun op db ans after =>
    (∃ faults, perform parse faults op db = (ans, after))
      ∨ mayFail op ∧ ∃ error, refused op error = some ans ∧ after = db

/-- Any statement may fail. -/
abbrev Anything : TrustOp → Prop := fun _ => True

/-- What a statement does when it is settled which statements fail, and with what error. -/
def answer (parse : JsonParser) (faults : Faults) (plan : TrustOp → Option String) (op : TrustOp)
    (db : TrustDb) : op.Ans × TrustDb
  :=
  match (plan op).bind (refused op) with
  | some ans => (ans, db)
  | none => perform parse faults op db

/-- No statement fails. -/
abbrev noPlan : TrustOp → Option String := fun _ => none

theorem effect_answer (parse : JsonParser) (faults : Faults) (plan : TrustOp → Option String)
    {mayFail : TrustOp → Prop} (h : ∀ op, (plan op).isSome = true → mayFail op) (op : TrustOp)
    (db : TrustDb) :
  Effect parse mayFail op db (answer parse faults plan op db).1
    (answer parse faults plan op db).2
  := by
  rw [answer]
  cases hrefused : (plan op).bind (refused op) with
  | none =>
    left
    use faults
  | some ans =>
    obtain ⟨error, herror, hans⟩ := Option.bind_eq_some_iff.mp hrefused
    right
    constructor
    · apply h op
      rw [herror]
      rfl
    · use error, hans

end TrustDb

end KnowledgeCore
