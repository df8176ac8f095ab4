import KnowledgeCore.Governance.Providers

/-!
# Governing identities

Providers are added, disabled and discovered by the issuer of their identities, and each may have
a policy for the claims of its sessions. An identity is started and completed with a provider,
which makes a session; a session may be revoked, and is what a device is enrolled by.
-/

namespace KnowledgeCore

open Prog (perform ofExcept)

namespace TrustIdentity

open Trust (IdentitySessionRecord expectedCertChainHash normalizedSubject)

def DEFAULT_SESSION_TTL_MS : Int64 := 60 * 60 * 1000

structure IdentityProviderRecord where
  providerId : String
  issuer : String
  audience : String
  jwksUrl : String
  enabled : Bool
  createdAtMs : Int64
  updatedAtMs : Int64

structure IdentityStartResult where
  providerId : String
  state : String
  authorizationUrl : String

structure DeviceCertificateRecord where
  certId : String
  deviceId : String
  providerId : String
  subject : String
  certChainHash : String
  issuedAtMs : Int64
  expiresAtMs : Int64
  createdAtMs : Int64

def identityError (code message : String) (details : List (String × Json)) : AppError :=
  Trust.identityError code message (.obj details)

/-- The error of a statement that fails. -/
def queryFailed (code message : String) (details : List (String × Json)) (error : String) :
    AppError :=
  identityError code message (("error", .str error) :: details)

/-! ### Issuers -/

def providerRefIsIssuer (providerRef : String) : Bool :=
  let trimmed := (trim providerRef).toList
  "https://".toList.isPrefixOf trimmed || "http://".toList.isPrefixOf trimmed

/-- A text without the slashes at its end. -/
def trimEndSlashes (s : String) : String :=
  String.ofList (s.toList.reverse.dropWhile (· = '/')).reverse

def normalizeIssuer (issuer : String) : AppResult String :=
  let normalized := Ingest.toAsciiLowercase (trimEndSlashes (trim issuer))
  if normalized.isEmpty then
    .error (identityError "KC_TRUST_OIDC_PROVIDER_UNAVAILABLE" "issuer is required" [])
  else if providerRefIsIssuer normalized = false then
    .error (identityError "KC_TRUST_OIDC_PROVIDER_UNAVAILABLE" "issuer must use http(s) scheme"
      [("issuer", .str normalized)])
  else
    .ok normalized

def providerIdFromIssuer (ext : Externals) (issuer : String) : AppResult String := do
  let normalized ← normalizeIssuer issuer
  let hash := blake3HexPrefixed ext (.text ("kc.trust.provider.discovery.v1\n" ++ normalized))
  .ok ("auto-" ++ String.ofList ((hash.toList.drop 7).take 12))

def defaultIssuer (providerId : String) : String :=
  "https://" ++ providerId ++ ".oidc.knowledgecore.local"

def defaultAudience (providerId : String) : String :=
  "kc-desktop:" ++ providerId

def jwksOf (issuer : String) : String :=
  issuer ++ "/.well-known/jwks.json"

def defaultJwksUrl (providerId : String) : String :=
  jwksOf (defaultIssuer providerId)

/-! ### Providers -/

def recordOf (providerId : String) (row : TrustProviderRecord) : IdentityProviderRecord where
  providerId
  issuer := row.issuer
  audience := row.audience
  jwksUrl := row.jwksUrl
  enabled := row.enabled
  createdAtMs := row.createdAtMs
  updatedAtMs := row.updatedAtMs

def legacyRecordOf (providerId : String) (row : IdentityProviderRow) :
    IdentityProviderRecord where
  providerId
  issuer := row.issuer
  audience := row.audience
  jwksUrl := jwksOf row.issuer
  enabled := row.enabled
  createdAtMs := row.createdAtMs
  updatedAtMs := row.createdAtMs

/-- Read a provider, from the older table if the other one cannot be read. -/
def loadProvider (providerId : String) : TrustProg (Option IdentityProviderRecord) := do
  let found ← perform (.readProvider providerId)
  match (found : Except String (Option TrustProviderRecord)) with
  | .ok row => pure (row.map (recordOf providerId))
  | .error error => do
    let legacy ← perform (.readLegacyProvider providerId)
    let row ← ofExcept (mapErr (fun fallbackError =>
      identityError "KC_TRUST_OIDC_PROVIDER_UNAVAILABLE" "failed reading identity provider"
        [("error", .str fallbackError), ("fallback_error", .str error),
          ("provider_id", .str providerId)]) legacy)
    pure (row.map (legacyRecordOf providerId))

def upsertIdentityProviderWithJwks (providerId issuer audience jwksUrl : String)
    (nowMs : Int64) : TrustProg IdentityProviderRecord
  :=
  if isBlank providerId = true then
    .fail (identityError "KC_TRUST_OIDC_PROVIDER_UNAVAILABLE" "provider_id is required" [])
  else do
    let written ← perform (.upsertProvider providerId issuer audience jwksUrl nowMs)
    ofExcept (mapErr (queryFailed "KC_TRUST_OIDC_PROVIDER_UNAVAILABLE"
      "failed writing trust provider" [("provider_id", .str providerId)]) written)
    let written ← perform (.upsertLegacyProvider providerId issuer audience nowMs)
    ofExcept (mapErr (queryFailed "KC_TRUST_OIDC_PROVIDER_UNAVAILABLE"
      "failed writing identity provider" [("provider_id", .str providerId)]) written)
    let loaded ← loadProvider providerId
    ofExcept (okOrElse (identityError "KC_TRUST_OIDC_PROVIDER_UNAVAILABLE"
      "identity provider missing after upsert" [("provider_id", .str providerId)]) loaded)

def upsertIdentityProvider (providerId issuer audience : String) (nowMs : Int64) :
    TrustProg IdentityProviderRecord :=
  upsertIdentityProviderWithJwks providerId issuer audience (defaultJwksUrl providerId) nowMs

def discoverIdentityProvider (ext : Externals) (issuer : String) (nowMs : Int64) :
    TrustProg IdentityProviderRecord := do
  let normalizedIssuer ← ofExcept (normalizeIssuer issuer)
  let providerId ← ofExcept (providerIdFromIssuer ext normalizedIssuer)
  upsertIdentityProviderWithJwks providerId normalizedIssuer (defaultAudience providerId)
    (jwksOf normalizedIssuer) nowMs

def trustProviderAdd (providerId issuer audience jwksUrl : String) (nowMs : Int64) :
    TrustProg IdentityProviderRecord :=
  if isBlank issuer = true ∨ isBlank audience = true ∨ isBlank jwksUrl = true then
    .fail (identityError "KC_TRUST_PROVIDER_POLICY_INVALID"
      "issuer, audience, and jwks_url are required"
      [("provider_id", .str providerId), ("issuer", .str issuer), ("audience", .str audience),
        ("jwks_url", .str jwksUrl)])
  else
    upsertIdentityProviderWithJwks providerId issuer audience jwksUrl nowMs

def trustProviderDisable (providerId : String) (nowMs : Int64) :
    TrustProg IdentityProviderRecord := do
  let loaded ← loadProvider providerId
  let provider ← ofExcept (okOrElse (identityError "KC_TRUST_OIDC_PROVIDER_UNAVAILABLE"
    "identity provider is not registered" [("provider_id", .str providerId)]) loaded)
  let disabled ← perform (.disableProvider providerId nowMs)
  ofExcept (mapErr (queryFailed "KC_TRUST_PROVIDER_DISABLED" "failed disabling trust provider"
    [("provider_id", .str providerId)]) disabled)
  let disabled ← perform (.disableLegacyProvider providerId)
  ofExcept (mapErr (queryFailed "KC_TRUST_PROVIDER_DISABLED"
    "failed disabling legacy identity provider" [("provider_id", .str providerId)]) disabled)
  pure { provider with enabled := false, updatedAtMs := nowMs }

/-! ### Identities -/

def providerDisabled (providerId : String) : AppError :=
  identityError "KC_TRUST_PROVIDER_DISABLED" "identity provider is disabled"
    [("provider_id", .str providerId)]

/-- The provider an identity is started with, which is registered if it is not known. -/
def startProvider (ext : Externals) (providerRef : String) (nowMs : Int64) :
    TrustProg IdentityProviderRecord :=
  if providerRefIsIssuer providerRef = true then
    discoverIdentityProvider ext providerRef nowMs
  else do
    let loaded ← loadProvider providerRef
    match loaded with
    | some existing => pure existing
    | none =>
      upsertIdentityProvider providerRef (defaultIssuer providerRef)
        (defaultAudience providerRef) nowMs

def trustIdentityStart (ext : Externals) (providerRef : String) (nowMs : Int64) :
    TrustProg IdentityStartResult := do
  let provider ← startProvider ext providerRef nowMs
  if provider.enabled = false then
    .fail (providerDisabled provider.providerId)
  else do
    let state := blake3HexPrefixed ext (.text ("kc.trust.oidc.state.v1\n" ++ provider.providerId
      ++ "\n" ++ provider.issuer ++ "\n" ++ toString nowMs.toInt))
    pure {
      providerId := provider.providerId
      state
      authorizationUrl := provider.issuer ++ "?aud=" ++ provider.audience ++ "&state=" ++ state }

/-- The provider an identity is completed with. -/
def completeProvider (ext : Externals) (providerRef : String) (nowMs : Int64) :
    TrustProg IdentityProviderRecord :=
  if providerRefIsIssuer providerRef = true then
    discoverIdentityProvider ext providerRef nowMs
  else do
    let loaded ← loadProvider providerRef
    ofExcept (okOrElse (identityError "KC_TRUST_OIDC_PROVIDER_UNAVAILABLE"
      "identity provider is not registered" [("provider_id", .str providerRef)]) loaded)

/-- What a session claims. -/
def sessionClaims (audience issuer subject : String) (issuedAtMs expiresAtMs : Int64) : Json :=
  .obj [("aud", .str audience), ("exp", .int expiresAtMs.toInt), ("iat", .int issuedAtMs.toInt),
    ("iss", .str issuer), ("sub", .str subject)]

/-- The row of a session with a provider. -/
def sessionRow (provider : IdentityProviderRecord) (subject claimSubsetJson : String)
    (nowMs : Int64) : IdentitySessionRow where
  providerId := provider.providerId
  subject
  claimSubsetJson
  issuedAtMs := nowMs
  expiresAtMs := nowMs + DEFAULT_SESSION_TTL_MS
  createdAtMs := nowMs

/-- Make a session with a provider, and only then ask the policy of the provider about it. -/
def completeWith (ext : Externals) (sessionId : String) (provider : IdentityProviderRecord)
    (providerRef authCode : String) (nowMs : Int64) : TrustProg IdentitySessionRecord := do
  let subject := normalizedSubject ext provider.providerId authCode
  let expiresAtMs := nowMs + DEFAULT_SESSION_TTL_MS
  let claimSubsetJson ← ofExcept (CanonJson.toCanonicalBytes
    (sessionClaims provider.audience provider.issuer subject nowMs expiresAtMs))
  let inserted ← perform (.insertSession sessionId
    (sessionRow provider subject claimSubsetJson nowMs))
  ofExcept (mapErr (queryFailed "KC_TRUST_IDENTITY_INVALID" "failed creating identity session"
    [("provider_id", .str providerRef)]) inserted)
  let allowed ← perform (.policyAllows provider.providerId sessionId claimSubsetJson nowMs
    expiresAtMs nowMs)
  ofExcept allowed
  pure {
    sessionId
    providerId := provider.providerId
    subject
    claimSubsetJson
    issuedAtMs := nowMs
    expiresAtMs
    createdAtMs := nowMs }

/-- The id of the session is made up by the system. -/
def trustIdentityComplete (ext : Externals) (sessionId providerRef authCode : String)
    (nowMs : Int64) : TrustProg IdentitySessionRecord := do
  let provider ← completeProvider ext providerRef nowMs
  if provider.enabled = false then
    .fail (providerDisabled provider.providerId)
  else if isBlank authCode = true then
    .fail (identityError "KC_TRUST_IDENTITY_INVALID" "auth_code is required"
      [("provider_id", .str provider.providerId)])
  else
    completeWith ext sessionId provider providerRef authCode nowMs

def authenticateIdentitySession (sessionId : String) (nowMs : Int64) :
    TrustProg IdentitySessionRecord := do
  let session ← perform (.authenticate sessionId nowMs)
  ofExcept session

/-- Enrol a device under the subject of the latest session. The id of the certificate is made up
by the system. -/
def trustDeviceEnroll (ext : Externals) (certId providerId deviceId : String) (nowMs : Int64) :
    TrustProg DeviceCertificateRecord := do
  let fingerprint ← perform (.readFingerprint deviceId)
  let fingerprint ← ofExcept (mapErr (queryFailed "KC_TRUST_DEVICE_NOT_ENROLLED"
    "failed reading trusted device fingerprint" [("device_id", .str deviceId)]) fingerprint)
  let fingerprint ← ofExcept (okOrElse (identityError "KC_TRUST_DEVICE_NOT_ENROLLED"
    "device must be trusted and verified before enrollment" [("device_id", .str deviceId)])
    fingerprint)
  let subject ← perform (.latestSubject providerId nowMs)
  let subject ← ofExcept (mapErr (queryFailed "KC_TRUST_IDENTITY_INVALID"
    "failed reading identity session" [("provider_id", .str providerId)]) subject)
  let subject ← ofExcept (okOrElse (identityError "KC_TRUST_IDENTITY_INVALID"
    "no non-expired identity session available for provider"
    [("provider_id", .str providerId)]) subject)
  let certChainHash := expectedCertChainHash ext certId deviceId fingerprint
  let inserted ← perform (.insertCertificate certId providerId {
    deviceId
    certChainHash
    verifiedAtMs := none
    createdAtMs := nowMs })
  ofExcept (mapErr (queryFailed "KC_TRUST_DEVICE_NOT_ENROLLED"
    "failed creating device certificate record" [("device_id", .str deviceId)]) inserted)
  pure {
    certId
    deviceId
    providerId
    subject
    certChainHash
    issuedAtMs := nowMs
    expiresAtMs := nowMs + DEFAULT_SESSION_TTL_MS
    createdAtMs := nowMs }

end TrustIdentity

/-! ### Policies and revocations -/

namespace TrustPolicy

def DEFAULT_TENANT_TEMPLATE_CLOCK_SKEW_MS : Int64 := 5000

structure TrustProviderPolicyV1 where
  providerId : String
  maxClockSkewMs : Int64
  requireClaimsJson : String

structure TrustSessionRevocationV1 where
  sessionId : String
  revokedBy : String
  revokedAtMs : Int64
  detailsJson : String

/-- The error of a statement that fails. -/
def queryFailed (code message : String) (details : List (String × Json)) (error : String) :
    AppError :=
  policyError code message (("error", .str error) :: details)

def normalizeTenantId (tenantId : String) : AppResult String :=
  let normalized := Ingest.toAsciiLowercase (trim tenantId)
  if normalized.isEmpty then
    .error (policyError "KC_TRUST_PROVIDER_POLICY_INVALID" "tenant_id must not be empty" [])
  else
    .ok normalized

def trustProviderPolicyGet (providerId : String) : TrustProg (Option TrustProviderPolicyV1) := do
  let policy ← perform (.readPolicy providerId)
  let policy ← ofExcept (mapErr (queryFailed "KC_TRUST_PROVIDER_POLICY_INVALID"
    "failed reading trust provider policy" [("provider_id", .str providerId)]) policy)
  pure (policy.map fun row => {
    providerId
    maxClockSkewMs := row.maxClockSkewMs
    requireClaimsJson := row.requireClaimsJson })

def trustProviderPolicySet (parse : JsonParser) (providerId : String) (maxClockSkewMs : Int64)
    (requireClaimsJson : String) : TrustProg TrustProviderPolicyV1
  :=
  if isBlank providerId = true then
    .fail (policyError "KC_TRUST_PROVIDER_POLICY_INVALID" "provider_id is required" [])
  else if maxClockSkewMs < 0 then
    .fail (policyError "KC_TRUST_PROVIDER_POLICY_INVALID" "max_clock_skew_ms must be >= 0"
      [("max_clock_skew_ms", .int maxClockSkewMs.toInt)])
  else do
    let providerExists ← perform (.providerExists providerId)
    let providerExists ← ofExcept (mapErr (queryFailed "KC_TRUST_PROVIDER_POLICY_INVALID"
      "failed querying trust providers" [("provider_id", .str providerId)]) providerExists)
    if providerExists = false then
      .fail (policyError "KC_TRUST_PROVIDER_POLICY_INVALID"
        "provider must exist before policy can be set" [("provider_id", .str providerId)])
    else do
      let claims ← ofExcept (parseRequireClaims parse requireClaimsJson)
      let canonicalClaimsJson ← ofExcept (CanonJson.toCanonicalBytes (.obj claims))
      let written ← perform (.upsertPolicy providerId {
        maxClockSkewMs
        requireClaimsJson := canonicalClaimsJson })
      ofExcept (mapErr (queryFailed "KC_TRUST_PROVIDER_POLICY_INVALID"
        "failed writing trust provider policy" [("provider_id", .str providerId)]) written)
      let policy ← trustProviderPolicyGet providerId
      ofExcept (okOrElse (policyError "KC_TRUST_PROVIDER_POLICY_INVALID"
        "policy disappeared after write" [("provider_id", .str providerId)]) policy)

/-- The claims that the template of a tenant asks for. -/
def tenantClaims (audience issuer tenantId : String) : Json :=
  .obj [("aud", .str (trim audience)), ("iss", .str issuer), ("tenant", .str tenantId)]

def trustProviderPolicySetTenantTemplate (parse : JsonParser)
    (providerId issuer audience tenantId : String) : TrustProg TrustProviderPolicyV1 := do
  let tenantId ← ofExcept (normalizeTenantId tenantId)
  let issuer := Ingest.toAsciiLowercase (TrustIdentity.trimEndSlashes (trim issuer))
  if issuer.isEmpty ∨ isBlank audience = true then
    .fail (policyError "KC_TRUST_PROVIDER_POLICY_INVALID" "issuer and audience are required"
      [("issuer", .str issuer), ("audience", .str audience)])
  else do
    let requireClaimsJson ← ofExcept
      (CanonJson.toCanonicalBytes (tenantClaims audience issuer tenantId))
    trustProviderPolicySet parse providerId DEFAULT_TENANT_TEMPLATE_CLOCK_SKEW_MS
      requireClaimsJson

def trustSessionRevoke (sessionId revokedBy : String) (nowMs : Int64) :
    TrustProg TrustSessionRevocationV1 :=
  if isBlank sessionId = true ∨ isBlank revokedBy = true then
    .fail (policyError "KC_TRUST_SESSION_REVOKED" "session_id and revoked_by are required" [])
  else do
    let sessionExists ← perform (.sessionExists sessionId)
    let sessionExists ← ofExcept (mapErr (queryFailed "KC_TRUST_SESSION_REVOKED"
      "failed querying identity sessions" [("session_id", .str sessionId)]) sessionExists)
    if sessionExists = false then
      .fail (policyError "KC_TRUST_SESSION_REVOKED" "cannot revoke unknown identity session"
        [("session_id", .str sessionId)])
    else do
      let detailsJson ← ofExcept
        (CanonJson.toCanonicalBytes (.obj [("revoked_by", .str revokedBy)]))
      let written ← perform (.revoke sessionId)
      ofExcept (mapErr (queryFailed "KC_TRUST_SESSION_REVOKED"
        "failed writing session revocation" [("session_id", .str sessionId)]) written)
      pure { sessionId, revokedBy, revokedAtMs := nowMs, detailsJson }

end TrustPolicy

end KnowledgeCore
