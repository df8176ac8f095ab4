import KnowledgeCore.Enrolment
import KnowledgeCore.Events

/-!
# Identity sessions

The tables that the owner of a vault works on, and how a session proves who its owner is: by the
provider it was opened with, by its times, and by the claims the policy of the provider asks for.
A statement of SQL may fail, with an error of its own.
-/

namespace KnowledgeCore

/-- A row of `trust_provider_policies`, under its `provider_id`. -/
structure TrustProviderPolicyRow where
  maxClockSkewMs : Int64
  requireClaimsJson : String

/-- A row of `lineage_policies`, under its `policy_id`. -/
structure LineagePolicyRow where
  policyName : String
  effect : String
  priority : Int64
  conditionJson : String
  createdBy : String
  createdAtMs : Int64

/-- A row of `lineage_policy_bindings`. -/
structure LineagePolicyBindingRow where
  subjectId : String
  policyId : String
  boundBy : String
  boundAtMs : Int64

/-- A row of `lineage_policy_audit`. -/
structure LineagePolicyAuditRow where
  tsMs : Int64
  subjectId : String
  action : String
  docId : Option String
  allowed : Bool
  reason : String
  matchedPolicyId : Option String
  detailsJson : String

/-- The database with the tables of its owner: the log of events, what the providers ask for, and
the policies with the record of their decisions. -/
structure OwnerDb extends Db where
  events : EventTable
  trustProviderPolicies : Table TrustProviderPolicyRow
  lineagePolicies : Table LineagePolicyRow
  lineagePolicyBindings : List LineagePolicyBindingRow
  lineagePolicyAudit : List LineagePolicyAuditRow

/-- Which document a canonical hash is looked up for. -/
inductive Lookup
  | loadedSource (eventId : Int64)
  | loadedReplacement (eventId : Int64)
  | source
  | replacement

/-- The statements of SQL a change of a lifecycle consists of. -/
inductive Statement
  | begin
  | session
  | revocation
  | providerPolicy
  | policies
  | insertAudit
  | commitDenial
  | events
  | canonicalHash (lookup : Lookup)
  | insertEvent
  | commit

/-- The statements that fail, with their errors. -/
abbrev Faults := Statement → Option String

def noFaults : Faults := fun _ => none

/-- The outcome of a statement that may fail. -/
def attempt {α : Type} (fault : Option String) (refused : String → AppError)
    (outcome : AppResult α) : AppResult α
  :=
  match fault with
  | some error => .error (refused error)
  | none => outcome

@[simp] theorem attempt_none {α : Type} (refused : String → AppError) (outcome : AppResult α) :
  attempt none refused outcome = outcome
  := rfl

theorem attempt_eq_ok {α : Type} {fault : Option String} {refused : String → AppError}
    {outcome : AppResult α} {a : α} :
  attempt fault refused outcome = .ok a ↔ fault = none ∧ outcome = .ok a
  := by
  cases fault <;> simp [attempt]

/-! ### The policies of the providers -/

namespace TrustPolicy

def policyError (code message : String) (details : List (String × Json)) : AppError where
  code := code
  category := "trust_policy"
  message := message
  details := .obj details

/-- Check a claim that a policy asks for. -/
def checkRequiredClaim (claim : String × Json) : AppResult Unit :=
  if isBlank claim.1 = true then
    .error (policyError "KC_TRUST_PROVIDER_POLICY_INVALID"
      "required claim key must not be empty" [("key", .str claim.1)])
  else
    match claim.2 with
    | .str _ => .ok ()
    | value =>
      .error (policyError "KC_TRUST_PROVIDER_POLICY_INVALID"
        "required claims values must be strings"
        [("key", .str claim.1), ("value_type", value)])

def checkRequiredClaims : List (String × Json) → AppResult Unit
  | [] => .ok ()
  | claim :: rest => do
    checkRequiredClaim claim
    checkRequiredClaims rest

def parseRequireClaims (parse : JsonParser) (requireClaimsJson : String) :
  AppResult (List (String × Json))
  := do
  let parsed ← mapErr (fun error => policyError "KC_TRUST_PROVIDER_POLICY_INVALID"
    "failed parsing required claims JSON" [("error", .str error)]) (parse requireClaimsJson)
  match parsed with
  | .obj claims =>
    checkRequiredClaims claims
    .ok claims
  | _ =>
    .error (policyError "KC_TRUST_PROVIDER_POLICY_INVALID"
      "required claims JSON must be an object" [])

/-- Whether a claim has the value that is asked for, which is a string. -/
def claimHolds (claims : List (String × Json)) (required : String × Json) : Bool :=
  match claims.lookup required.1, required.2 with
  | some (.str actual), .str value => actual = value
  | _, _ => false

def checkClaims (providerId sessionId : String) (claims : List (String × Json)) :
    List (String × Json) → AppResult Unit
  | [] => .ok ()
  | required :: rest =>
    if claimHolds claims required then
      checkClaims providerId sessionId claims rest
    else
      .error (policyError "KC_TRUST_PROVIDER_POLICY_INVALID"
        "session claims do not satisfy provider policy"
        [("provider_id", .str providerId), ("session_id", .str sessionId),
          ("claim_key", .str required.1), ("expected", required.2),
          ("actual", (claims.lookup required.1).getD .null)])

def ensureSessionPolicyAllows (parse : JsonParser) (faults : Faults) (db : OwnerDb)
    (providerId sessionId claimSubsetJson : String) (issuedAtMs expiresAtMs nowMs : Int64) :
  AppResult Unit
  := do
  let revoked ← attempt (faults .revocation) (fun error =>
      policyError "KC_TRUST_SESSION_REVOKED" "failed reading session revocation state"
        [("error", .str error), ("session_id", .str sessionId)])
    (.ok (db.trustSessionRevocations.contains sessionId))
  if revoked then
    .error (policyError "KC_TRUST_SESSION_REVOKED" "identity session has been revoked"
      [("session_id", .str sessionId), ("provider_id", .str providerId)])
  else
    let policy ← attempt (faults .providerPolicy) (fun error =>
        policyError "KC_TRUST_PROVIDER_POLICY_INVALID" "failed reading trust provider policy"
          [("error", .str error), ("provider_id", .str providerId)])
      (.ok db.trustProviderPolicies[providerId]?)
    match policy with
    | none => .ok ()
    | some policy =>
      let lower := issuedAtMs - policy.maxClockSkewMs
      let upper := expiresAtMs + policy.maxClockSkewMs
      if nowMs < lower ∨ nowMs > upper then
        .error (policyError "KC_TRUST_PROVIDER_POLICY_INVALID"
          "identity session falls outside provider clock skew policy"
          [("provider_id", .str providerId), ("session_id", .str sessionId),
            ("now_ms", .int nowMs.toInt), ("lower_bound_ms", .int lower.toInt),
            ("upper_bound_ms", .int upper.toInt)])
      else
        let required ← parseRequireClaims parse policy.requireClaimsJson
        if required.isEmpty then
          .ok ()
        else
          let claimSubset ← mapErr (fun error =>
              policyError "KC_TRUST_PROVIDER_POLICY_INVALID"
                "session claim subset is not valid JSON"
                [("error", .str error), ("provider_id", .str providerId),
                  ("session_id", .str sessionId)])
            (parse claimSubsetJson)
          let claims ← okOrElse
            (policyError "KC_TRUST_PROVIDER_POLICY_INVALID"
              "session claim subset must be an object"
              [("provider_id", .str providerId), ("session_id", .str sessionId)])
            claimSubset.asObject
          checkClaims providerId sessionId claims required

end TrustPolicy

/-! ### Sessions -/

namespace Trust

structure IdentitySessionRecord where
  sessionId : String
  providerId : String
  subject : String
  claimSubsetJson : String
  issuedAtMs : Int64
  expiresAtMs : Int64
  createdAtMs : Int64

/-- Who an authorization code stands for. -/
def normalizedSubject (ext : Externals) (providerId authCode : String) : String :=
  if "sub:".toList.isPrefixOf authCode.toList then
    trim (String.ofList (authCode.toList.drop 4))
  else
    blake3HexPrefixed ext
      (.text ("kc.trust.oidc.subject.v1\n" ++ providerId ++ "\n" ++ authCode))

theorem normalizedSubject_sub (ext : Externals) (providerId subject : String) :
  normalizedSubject ext providerId ("sub:" ++ subject) = trim subject
  := by
  have hdrop : ("sub:" ++ subject).toList.drop 4 = subject.toList := by
    rw [String.toList_append]
    rfl
  have hstarts : "sub:".toList.isPrefixOf ("sub:" ++ subject).toList = true := by
    rw [String.toList_append]
    apply List.isPrefixOf_iff_prefix.mpr (List.prefix_append _ _)
  rw [normalizedSubject, if_pos hstarts, hdrop, String.ofList_toList]

/-- The session under an id, with a provider that is enabled. -/
def enabledSession (db : OwnerDb) (sessionId : String) : Option IdentitySessionRecord := do
  let session ← db.identitySessions[sessionId]?
  let provider ← db.trustProviders[session.providerId]?
  if provider.enabled then
    some {
      sessionId
      providerId := session.providerId
      subject := session.subject
      claimSubsetJson := session.claimSubsetJson
      issuedAtMs := session.issuedAtMs
      expiresAtMs := session.expiresAtMs
      createdAtMs := session.createdAtMs }
  else
    none

def authenticateIdentitySession (parse : JsonParser) (faults : Faults) (db : OwnerDb)
    (sessionId : String) (nowMs : Int64) : AppResult IdentitySessionRecord
  :=
  if isBlank sessionId = true ∨ nowMs < 0 then
    .error (identityError "KC_TRUST_IDENTITY_INVALID" "identity session binding is invalid"
      (.obj []))
  else do
    let found ← attempt (faults .session) (fun error =>
        identityError "KC_TRUST_IDENTITY_INVALID" "failed reading identity session binding"
          (.obj [("error", .str error)]))
      (.ok (enabledSession db sessionId))
    let session ← okOrElse
      (identityError "KC_TRUST_IDENTITY_INVALID" "identity session is unavailable" (.obj []))
      found
    if nowMs < session.issuedAtMs ∨ nowMs > session.expiresAtMs then
      .error (identityError "KC_TRUST_IDENTITY_INVALID"
        "identity session is outside its validity window" (.obj []))
    else
      TrustPolicy.ensureSessionPolicyAllows parse faults db session.providerId
        session.sessionId session.claimSubsetJson session.issuedAtMs session.expiresAtMs nowMs
      .ok session

end Trust

end KnowledgeCore
