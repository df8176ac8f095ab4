import KnowledgeCore.Governance.Runs
import KnowledgeCore.Registry

/-!
# Sessions of a run

When a session is authenticated, which session a device is enrolled by, and what the calls do to
the sessions and their revocations.
-/

namespace KnowledgeCore

open Prog (Ends safe_check safe_perform_bind)
open TrustDb (Effect)

-- No text is to be examined character by character.
attribute [local irreducible] isBlank TrustIdentity.normalizeIssuer
  TrustIdentity.providerIdFromIssuer TrustIdentity.providerRefIsIssuer

/-! ### What a policy admits -/

namespace TrustPolicy

variable {parse : JsonParser} {faults : Faults} {db : OwnerDb}

theorem parseRequireClaims_eq_ok {text : String} {required : List (String × Json)} :
  parseRequireClaims parse text = .ok required
    ↔ parse text = .ok (.obj required) ∧ checkRequiredClaims required = .ok ()
  := by
  simp only [parseRequireClaims, AppResult.bind_eq_ok, mapErr_eq_ok]
  constructor
  · rintro ⟨parsed, hparsed, h⟩
    cases parsed with
    | obj claims =>
      obtain ⟨_, hcheck, h⟩ := AppResult.bind_eq_ok.mp h
      cases h
      use hparsed, hcheck
    | _ => cases h
  · rintro ⟨hparsed, hcheck⟩
    use .obj required, hparsed
    show (checkRequiredClaims required >>= fun _ => .ok required) = .ok required
    rw [hcheck]
    rfl

/-- The claims a policy asks for are texts. -/
theorem exists_str_of_parseRequireClaims {text : String} {required : List (String × Json)}
    (h : parseRequireClaims parse text = .ok required) {claim : String × Json}
    (hmem : claim ∈ required) :
  ∃ value, claim.2 = .str value
  := by
  obtain ⟨-, hcheck⟩ := parseRequireClaims_eq_ok.mp h
  clear h
  induction required with
  | nil => cases hmem
  | cons first rest ih =>
    rw [checkRequiredClaims] at hcheck
    obtain ⟨_, hfirst, hrest⟩ := AppResult.bind_eq_ok.mp hcheck
    obtain rfl | hmem := List.mem_cons.mp hmem
    · rw [checkRequiredClaim] at hfirst
      split_ifs at hfirst with hkey
      cases hvalue : claim.2 with
      | str value => use value
      | _ =>
        rw [hvalue] at hfirst
        cases hfirst
    · apply ih hmem hrest

/-- The claims of a session have the values that are asked for. -/
def Satisfies (parse : JsonParser) (claimSubsetJson : String) (required : List (String × Json)) :
    Prop :=
  required = [] ∨ ∃ claims, parse claimSubsetJson = .ok (.obj claims)
    ∧ ∀ claim ∈ required, ∃ value, claim.2 = .str value ∧ claims.lookup claim.1 = some (.str value)

/-- A policy admits a session at a time. -/
structure Admits (parse : JsonParser) (policy : TrustProviderPolicyRow) (claimSubsetJson : String)
    (issuedAtMs expiresAtMs nowMs : Int64) : Prop where
  notBefore : issuedAtMs - policy.maxClockSkewMs ≤ nowMs
  notAfter : nowMs ≤ expiresAtMs + policy.maxClockSkewMs
  claims : ∃ required, parseRequireClaims parse policy.requireClaimsJson = .ok required
    ∧ Satisfies parse claimSubsetJson required

theorem claimHolds_iff {claims : List (String × Json)} {required : String × Json} :
  claimHolds claims required = true ↔
    ∃ value, required.2 = .str value ∧ claims.lookup required.1 = some (.str value)
  := by
  obtain ⟨key, j⟩ := required
  rw [claimHolds]
  cases claims.lookup key with
  | none => simp
  | some actual =>
    cases actual with
    | str s =>
      cases j with
      | str t => simp [eq_comm]
      | _ => simp
    | _ => simp

theorem checkClaims_eq_ok {providerId sessionId : String} {claims required : List (String × Json)} :
  checkClaims providerId sessionId claims required = .ok () ↔
    ∀ claim ∈ required, ∃ value, claim.2 = .str value ∧ claims.lookup claim.1 = some (.str value)
  := by
  induction required with
  | nil => simp [checkClaims]
  | cons claim rest ih =>
    rw [checkClaims, List.forall_mem_cons, ← ih, ← claimHolds_iff]
    split_ifs with hholds
    · simp [hholds]
    · simp [hholds]

/-- A session is allowed when it is not revoked and the policy of its provider admits it. -/
theorem ensureSessionPolicyAllows_eq_ok {providerId sessionId claimSubsetJson : String}
    {issuedAtMs expiresAtMs nowMs : Int64} :
  ensureSessionPolicyAllows parse faults db providerId sessionId claimSubsetJson issuedAtMs
      expiresAtMs nowMs = .ok () ↔
    faults .revocation = none ∧ sessionId ∉ db.trustSessionRevocations
      ∧ faults .providerPolicy = none
      ∧ ∀ policy, db.trustProviderPolicies[providerId]? = some policy →
        Admits parse policy claimSubsetJson issuedAtMs expiresAtMs nowMs
  := by
  rw [ensureSessionPolicyAllows]
  cases hrevocation : faults .revocation with
  | some error => simp [attempt, bind, Except.bind]
  | none =>
  rw [attempt_none, AppResult.ok_bind, ← Std.ExtTreeMap.contains_iff_mem]
  cases hrevoked : db.trustSessionRevocations.contains sessionId with
  | true => simp
  | false =>
  cases hread : faults .providerPolicy with
  | some error => simp [attempt, bind, Except.bind]
  | none =>
  rw [if_neg Bool.false_ne_true, attempt_none, AppResult.ok_bind]
  cases hpolicy : db.trustProviderPolicies[providerId]? with
  | none => simp
  | some policy =>
  simp only [Option.some.injEq, forall_eq', Bool.false_eq_true, not_false_eq_true, true_and]
  split_ifs with hwindow
  · simp only [false_iff]
    rintro ⟨hbefore, hafter, -⟩
    obtain hlower | hupper := hwindow
    · apply Int64.not_lt.mpr hbefore hlower
    · apply Int64.not_lt.mpr hafter hupper
  · rw [not_or, Int64.not_lt, Int64.not_lt] at hwindow
    have hadmits : Admits parse policy claimSubsetJson issuedAtMs expiresAtMs nowMs ↔
        ∃ required, parseRequireClaims parse policy.requireClaimsJson = .ok required
          ∧ Satisfies parse claimSubsetJson required :=
      ⟨Admits.claims, fun hclaims => ⟨hwindow.1, hwindow.2, hclaims⟩⟩
    rw [hadmits, AppResult.bind_eq_ok]
    apply exists_congr
    intro required
    apply and_congr_right
    intro _
    cases required with
    | nil => simp [Satisfies]
    | cons claim rest =>
      rw [List.isEmpty_cons, if_neg Bool.false_ne_true]
      simp only [AppResult.bind_eq_ok, mapErr_eq_ok, okOrElse_eq_ok, checkClaims_eq_ok, Satisfies,
        reduceCtorEq, false_or]
      constructor
      · rintro ⟨subset, hparse, claims, hobject, hholds⟩
        use claims, ?_, hholds
        cases subset <;> cases hobject
        exact hparse
      · rintro ⟨claims, hparse, hholds⟩
        use .obj claims, hparse, claims, rfl, hholds

end TrustPolicy

/-! ### Authentication and enrolment -/

namespace Trust

variable {parse : JsonParser} {faults : Faults} {sessionId providerId subject : String}
  {nowMs : Int64} {session : IdentitySessionRecord}

/-- A session may be used at a time: its provider is enabled, the time is within those of the
session, the session is not revoked, and the policy of the provider admits it. -/
structure Usable (parse : JsonParser) (db : OwnerDb) (sessionId : String) (nowMs : Int64)
    (session : IdentitySessionRow) : Prop where
  found : db.identitySessions[sessionId]? = some session
  enabled : (db.trustProviders[session.providerId]?.any TrustProviderRow.enabled) = true
  issued : session.issuedAtMs ≤ nowMs
  unexpired : nowMs ≤ session.expiresAtMs
  unrevoked : sessionId ∉ db.trustSessionRevocations
  admitted : ∀ policy, db.trustProviderPolicies[session.providerId]? = some policy →
    TrustPolicy.Admits parse policy session.claimSubsetJson session.issuedAtMs
      session.expiresAtMs nowMs

/-- A session that is authenticated may be used. -/
theorem usable_of_authenticate {db : OwnerDb}
    (h : authenticateIdentitySession parse faults db sessionId nowMs = .ok session) :
  ∃ row, Usable parse db sessionId nowMs row ∧ session.sessionId = sessionId
    ∧ session.subject = row.subject ∧ session.providerId = row.providerId
  := by
  rw [authenticateIdentitySession] at h
  split_ifs at h with hblank
  simp only [AppResult.bind_eq_ok, attempt_eq_ok, okOrElse_eq_ok, Except.ok.injEq] at h
  obtain ⟨_, ⟨-, rfl⟩, record, hrecord, h⟩ := h
  split_ifs at h with hwindow
  simp only [AppResult.bind_eq_ok] at h
  obtain ⟨⟨⟩, hallowed, h⟩ := h
  cases h
  simp only [enabledSession, bind, Option.bind_eq_some_iff] at hrecord
  obtain ⟨row, hrow, provider, hprovider, hrecord⟩ := hrecord
  split_ifs at hrecord with henabled
  cases hrecord
  rw [not_or, Int64.not_lt, Int64.not_lt] at hwindow
  obtain ⟨-, hrevoked, -, hpolicy⟩ := TrustPolicy.ensureSessionPolicyAllows_eq_ok.mp hallowed
  refine ⟨row, ?_, rfl, rfl, rfl⟩
  constructor
  · exact hrow
  · rw [hprovider, Option.any_some]
    exact henabled
  · exact hwindow.1
  · exact hwindow.2
  · exact hrevoked
  · exact hpolicy

/-- Whether a device may be enrolled by a session. -/
def Enrols (db : Db) (providerId : String) (nowMs : Int64) (sessionId : String)
    (session : IdentitySessionRow) : Prop :=
  session.providerId = providerId ∧ nowMs ≤ session.expiresAtMs
    ∧ (db.trustProviders[providerId]?.any TrustProviderRow.enabled) = true
    ∧ db.trustSessionRevocations.contains sessionId = false

/-- The subject that a device is enrolled under is that of a session. -/
theorem latestSessionSubject_eq_ok {db : Db}
    (h : latestSessionSubject db providerId nowMs = .ok subject) :
  ∃ sessionId session, db.identitySessions[sessionId]? = some session
    ∧ Enrols db providerId nowMs sessionId session ∧ session.subject = subject
  := by
  rw [latestSessionSubject] at h
  obtain ⟨entry, hentry, hsubject⟩ := Option.map_eq_some_iff.mp (okOrElse_eq_ok.mp h)
  obtain ⟨⟨sessionId, session⟩, hmem, hsome⟩ := List.mem_filterMap.mp (latest_mem hentry)
  dsimp only at hsome
  split_ifs at hsome with henrols
  cases hsome
  use sessionId, session, Std.ExtTreeMap.mem_toList_iff_getElem?_eq_some.mp hmem, henrols, hsubject

/-- An entry that is left out anyway may be removed before. -/
theorem filterMap_toList_erase {α β : Type} {t : Table α} {key : String}
    {f : String × α → Option β} (h : ∀ row, f (key, row) = none) :
  (t.erase key).toList.filterMap f = t.toList.filterMap f
  := by
  have hothers : (t.erase key).filter (fun k _ => k ≠ key) = t.filter (fun k _ => k ≠ key) := by
    apply Std.ExtTreeMap.ext_getElem?
    intro k
    rw [Std.ExtTreeMap.getElem?_filter', Std.ExtTreeMap.getElem?_filter',
      Std.ExtTreeMap.getElem?_erase]
    by_cases hk : key = k
    · subst hk
      simp
    · rw [if_neg fun heq => hk (Std.LawfulEqCmp.compare_eq_iff_eq.mp heq)]
  have hskip (u : Table α) :
      (u.filter fun k _ => k ≠ key).toList.filterMap f = u.toList.filterMap f := by
    rw [Std.ExtTreeMap.toList_filter, List.filterMap_filter]
    congr
    funext ⟨k, row⟩
    by_cases hk : k = key
    · subst hk
      simp [h]
    · simp [hk]
  rw [← hskip, hothers, hskip]

/-- A revoked session makes no difference to the subject a device is enrolled under. -/
theorem latestSessionSubject_erase {db : Db}
    (h : sessionId ∈ db.trustSessionRevocations) :
  latestSessionSubject { db with identitySessions := db.identitySessions.erase sessionId }
      providerId nowMs = latestSessionSubject db providerId nowMs
  := by
  rw [latestSessionSubject, latestSessionSubject]
  dsimp only
  rw [filterMap_toList_erase]
  intro session
  apply if_neg
  rintro ⟨-, -, -, hunrevoked⟩
  rw [Std.ExtTreeMap.contains_iff_mem.mpr h] at hunrevoked
  cases hunrevoked

end Trust

/-! ### What the calls do to sessions and revocations -/

section

variable {ext : Externals} {parse : JsonParser} {mayFail : TrustOp → Prop} {db after : TrustDb}
  {sessionId providerRef authCode : String} {nowMs : Int64}

/-- A statement leaves the sessions alone, or adds a session under a new id. -/
theorem identitySessions_effect {op : TrustOp} {ans : op.Ans}
    (h : Effect parse mayFail op db ans after) :
  after.identitySessions = db.identitySessions
    ∨ ∃ sessionId session, op = .insertSession sessionId session
        ∧ sessionId ∉ db.identitySessions
        ∧ after.identitySessions = db.identitySessions.insert sessionId session
  := by
  by_cases hwrites : op.writes = some .sessions
  · cases op with
    | insertSession sessionId session =>
      obtain ⟨faults, h⟩ | ⟨-, error, -, rfl⟩ := h
      · rw [TrustDb.perform, TrustDb.insertSession] at h
        split_ifs at h with hid hprovider
        · cases h
          left
          rfl
        · cases h
          right
          use sessionId, session, rfl, hid
        · cases h
          left
          rfl
      · left
        rfl
    | _ => cases hwrites
  · left
    exact table_effect hwrites h

/-- What has been revoked stays revoked. -/
theorem revoked_effect {op : TrustOp} {ans : op.Ans} (h : Effect parse mayFail op db ans after)
    (hrevoked : sessionId ∈ db.trustSessionRevocations) :
  sessionId ∈ after.trustSessionRevocations
  := by
  by_cases hwrites : op.writes = some .revocations
  · cases op with
    | revoke other =>
      obtain ⟨faults, h⟩ | ⟨-, error, -, rfl⟩ := h
      · rw [TrustDb.perform] at h
        split_ifs at h with hsession
        · cases h
          apply Std.ExtTreeMap.mem_insert.mpr (.inr hrevoked)
        · cases h
          exact hrevoked
      · exact hrevoked
    | _ => cases hwrites
  · have hsame : after.trustSessionRevocations = db.trustSessionRevocations :=
      table_effect hwrites h
    rw [hsame]
    exact hrevoked

namespace Governance

/-- A session is authenticated as the database has it. -/
theorem authenticate_eq_ok {session : Trust.IdentitySessionRecord}
    (h : Ends (Effect parse mayFail) (TrustIdentity.authenticateIdentitySession sessionId nowMs) db
      (.ok session) after) :
  ∃ faults, Trust.authenticateIdentitySession parse faults db.toOwnerDb sessionId nowMs
    = .ok session
  := by
  have hsafe : (TrustIdentity.authenticateIdentitySession sessionId nowMs).Safe
      (Effect parse mayFail) (fun _ => True)
      (fun r _ => ∀ session, r = .ok session → ∃ faults,
        Trust.authenticateIdentitySession parse faults db.toOwnerDb sessionId nowMs
          = .ok session) db := by
    rw [TrustIdentity.authenticateIdentitySession, safe_perform_bind]
    use trivial
    intro ans t h
    rw [Prog.safe_ofExcept]
    use trivial
    rintro session rfl
    obtain ⟨faults, h⟩ | ⟨-, error, ⟨⟩, -⟩ := h
    use faults
    exact congrArg Prod.fst h
  apply hsafe.ends h session rfl

/-- A device is enrolled under the subject of the latest session. -/
theorem subject_of_enroll {certId providerId deviceId : String}
    {record : TrustIdentity.DeviceCertificateRecord}
    (h : Ends (Effect parse mayFail) (TrustIdentity.trustDeviceEnroll ext certId providerId deviceId
      nowMs) db (.ok record) after) :
  Trust.latestSessionSubject db.toDb providerId nowMs = .ok record.subject
  := by
  have hsafe : (TrustIdentity.trustDeviceEnroll ext certId providerId deviceId nowMs).Safe
      (Effect parse mayFail) (fun _ => True)
      (fun r _ => ∀ record, r = .ok record →
        Trust.latestSessionSubject db.toDb providerId nowMs = .ok record.subject) db := by
    rw [TrustIdentity.trustDeviceEnroll, safe_perform_bind]
    use trivial
    intro fingerprint s h
    obtain rfl : s = db := by
      obtain ⟨faults, h⟩ | ⟨-, error, -, rfl⟩ := h
      · cases h
        rfl
      · rfl
    apply safe_check trivial
    · rintro e - record ⟨⟩
    intro fingerprint _
    apply safe_check trivial
    · rintro e - record ⟨⟩
    intro fingerprint _
    rw [safe_perform_bind]
    use trivial
    intro subject t h
    apply safe_check trivial
    · rintro e - record ⟨⟩
    intro found hfound
    apply safe_check trivial
    · rintro e - record ⟨⟩
    intro subject hsubject
    have hlatest : Trust.latestSessionSubject s.toDb providerId nowMs = .ok subject := by
      rw [mapErr_eq_ok] at hfound
      rw [okOrElse_eq_ok] at hsubject
      subst hfound hsubject
      obtain ⟨faults, h⟩ | ⟨-, error, ⟨⟩, -⟩ := h
      apply ok_of_toOption
      apply Except.ok.inj (congrArg Prod.fst h)
    rw [safe_perform_bind]
    use trivial
    intro inserted u _
    apply safe_check trivial
    · rintro e - record ⟨⟩
    intro _ _
    use trivial
    rintro record ⟨⟩
    exact hlatest
  apply hsafe.ends h record rfl

/-- The call completes an identity with a session under the id. -/
def Call.Completes (call : Call) (sessionId : String) : Prop :=
  ∃ providerRef authCode nowMs, call = .complete sessionId providerRef authCode nowMs

/-- A call leaves the sessions alone, or is a completion that adds one under its id. -/
theorem identitySessions_call {call : Call} {r : AppResult Unit}
    (h : Ends (Effect parse mayFail) (call.prog ext parse) db r after) :
  after.identitySessions = db.identitySessions
    ∨ ∃ sessionId session, call.Completes sessionId ∧ sessionId ∉ db.identitySessions
        ∧ after.identitySessions = db.identitySessions.insert sessionId session
  := by
  cases call with
  | complete sessionId providerRef authCode nowMs =>
    have hops : ((Call.complete sessionId providerRef authCode nowMs).prog ext parse).AllOps
        fun op => ∀ other session, op = .insertSession other session → other = sessionId := by
      apply Prog.AllOps.bind
      · apply TrustIdentity.allOps_trustIdentityComplete
        · rintro op hwrites other session rfl
          cases hwrites
        · intro _ providerId _ issuer audience jwksUrl nowMs
          constructor
          · rintro other session ⟨⟩
          · rintro other session ⟨⟩
        · rintro session other _ ⟨⟩
          rfl
      · intro _
        trivial
    have hend : after.identitySessions = db.identitySessions
        ∨ sessionId ∉ db.identitySessions ∧ ∃ session,
            after.identitySessions = db.identitySessions.insert sessionId session := by
      refine hops.ends (C := fun t : TrustDb => t.identitySessions = db.identitySessions
        ∨ sessionId ∉ db.identitySessions ∧ ∃ session,
            t.identitySessions = db.identitySessions.insert sessionId session) ?_ (.inl rfl) h
      intro op s ans t hop hs ht
      obtain hsame | ⟨other, session, heq, hnew, hinsert⟩ := identitySessions_effect ht
      · rw [hsame]
        exact hs
      · obtain rfl := hop other session heq
        obtain hs | ⟨-, session', hs⟩ := hs
        · rw [hs] at hnew hinsert
          right
          use hnew, session
        · exfalso
          apply hnew
          rw [hs]
          apply Std.ExtTreeMap.mem_insert_self
    obtain hsame | ⟨hnew, session, hinsert⟩ := hend
    · left
      exact hsame
    · right
      use sessionId, session, ⟨providerRef, authCode, nowMs, rfl⟩, hnew
  | _ =>
    left
    apply table_call (T := .sessions) (by simp [Call.writes]) h

/-- What has been revoked stays revoked. -/
theorem revoked_call {call : Call} {r : AppResult Unit}
    (h : Ends (Effect parse mayFail) (call.prog ext parse) db r after)
    (hrevoked : sessionId ∈ db.trustSessionRevocations) :
  sessionId ∈ after.trustSessionRevocations
  := by
  refine (call.allOps ext parse).ends (C := fun t => sessionId ∈ t.trustSessionRevocations) ?_
    hrevoked h
  intro op s ans t _ hs ht
  apply revoked_effect ht hs

/-- A session is revoked in the end when it has been revoked with success. -/
theorem revoked_of_trustSessionRevoke {revokedBy : String}
    {r : AppResult TrustPolicy.TrustSessionRevocationV1}
    (h : Ends (Effect parse mayFail) (TrustPolicy.trustSessionRevoke sessionId revokedBy nowMs) db
      r after)
    (hok : r.isOk = true) :
  sessionId ∈ after.trustSessionRevocations
  := by
  have hsafe : (TrustPolicy.trustSessionRevoke sessionId revokedBy nowMs).Safe
      (Effect parse mayFail) (fun _ => True)
      (fun r t => r.isOk = true → sessionId ∈ t.trustSessionRevocations) db := by
    rw [TrustPolicy.trustSessionRevoke]
    split_ifs with hblank
    · use trivial
      rintro ⟨⟩
    rw [safe_perform_bind]
    use trivial
    intro sessionExists s _
    apply safe_check trivial
    · rintro e - ⟨⟩
    intro sessionExists _
    split_ifs with hmissing
    · use trivial
      rintro ⟨⟩
    apply safe_check trivial
    · rintro e - ⟨⟩
    intro detailsJson _
    rw [safe_perform_bind]
    use trivial
    intro written t h
    apply safe_check trivial
    · rintro e - ⟨⟩
    intro _ hwritten
    use trivial
    intro _
    obtain ⟨faults, h⟩ | ⟨-, error, herror, -⟩ := h
    · rw [TrustDb.perform] at h
      split_ifs at h with hsession
      · cases h
        apply Std.ExtTreeMap.mem_insert_self
      · cases h
        cases hwritten
    · cases herror
      cases hwritten
  apply hsafe.ends h hok

/-- A step creates a session. -/
structure Step.Creates (step : Step) (sessionId : String) (session : IdentitySessionRow) :
    Prop where
  completes : step.call.Completes sessionId
  unknown : sessionId ∉ step.before.identitySessions
  created : step.after.identitySessions[sessionId]? = some session

/-- Every session of a run was there at its start, or was created by a completion. -/
theorem Run.created {steps : List Step} (h : Run ext parse mayFail db steps after)
    {session : IdentitySessionRow} (hsession : after.identitySessions[sessionId]? = some session) :
  db.identitySessions[sessionId]? = some session
    ∨ ∃ step ∈ steps, step.Creates sessionId session
  := by
  induction h with
  | nil =>
    left
    exact hsession
  | @snoc pre before last call result hrun hend ih =>
    have hearlier (h : before.identitySessions[sessionId]? = some session) :
        db.identitySessions[sessionId]? = some session
          ∨ ∃ step ∈ pre ++ [⟨call, before, result, last⟩], step.Creates sessionId session := by
      obtain hstart | ⟨step, hmem, hcreates⟩ := ih h
      · left
        exact hstart
      · right
        exact ⟨step, List.mem_append_left _ hmem, hcreates⟩
    obtain hsame | ⟨other, session', hcompletes, hnew, hinsert⟩ := identitySessions_call hend
    · apply hearlier
      rw [← hsame]
      exact hsession
    · by_cases hother : other = sessionId
      · subst hother
        right
        exact ⟨_, List.mem_append_right _ (List.mem_singleton_self _), hcompletes, hnew, hsession⟩
      · apply hearlier
        rw [hinsert, Std.ExtTreeMap.getElem?_insert,
          if_neg fun heq => hother (Std.LawfulEqCmp.compare_eq_iff_eq.mp heq)] at hsession
        exact hsession

end Governance

end

end KnowledgeCore
