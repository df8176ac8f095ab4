import KnowledgeCore.Governance.Tenant
import KnowledgeCore.Lib.Signed

/-!
# The clock skew of a policy

A policy widens the time in which a session is valid by a skew, at both ends. The skew is bounded
from below when the policy is set, and not from above, so that the later end may be past the
last time there is.
-/

namespace KnowledgeCore

open Prog (Ends)
open TrustDb (Effect Anything)

namespace TrustPolicy

variable {parse : JsonParser} {mayFail : TrustOp → Prop} {db after : TrustDb}
  {providerId sessionId claimSubsetJson requireClaimsJson : String} {skew : Int64}
  {r : AppResult TrustProviderPolicyV1} {issuedAtMs expiresAtMs nowMs : Int64}

-- No text is to be examined character by character.
attribute [local irreducible] isBlank

/-! ### The policy that has been set -/

/-- A skew that is accepted is not negative. -/
theorem skew_nonneg (h : Ends (Effect parse mayFail) (trustProviderPolicySet parse providerId skew
      requireClaimsJson) db r after) (hok : r.isOk = true) :
  0 ≤ skew.toInt
  := by
  have hsafe : (trustProviderPolicySet parse providerId skew requireClaimsJson).Safe
      (Effect parse mayFail) (fun _ => True) (fun r _ => r.isOk = true → 0 ≤ skew.toInt) db := by
    rw [trustProviderPolicySet]
    split_ifs with hblank hskew
    · use trivial
      rintro ⟨⟩
    · use trivial
      rintro ⟨⟩
    · apply Prog.safe_iff.mpr
      use fun _ _ _ => trivial
      intro _ _ _ _
      have hzero : (0 : Int64).toInt = 0 := rfl
      rw [Int64.lt_iff_toInt_lt] at hskew
      omega
  exact hsafe.ends h hok

/-- Setting a policy revokes no session. -/
theorem revocations_of_trustProviderPolicySet
    (h : Ends (Effect parse mayFail) (trustProviderPolicySet parse providerId skew
      requireClaimsJson) db r after) :
  after.trustSessionRevocations = db.trustSessionRevocations
  := by
  have hops : (trustProviderPolicySet parse providerId skew requireClaimsJson).AllOps
      fun op => op.writes ≠ some .revocations := by
    apply allOps_trustProviderPolicySet
    · intro op hreads
      rw [hreads]
      rintro ⟨⟩
    · rintro policy ⟨⟩
  exact table_ends (T := .revocations) hops h

/-! ### The window of a session -/

/-- The message of the error for a time outside the window of a session. -/
def OUTSIDE_WINDOW : String :=
  "identity session falls outside provider clock skew policy"

/-- The check of a session does not end at the window of its provider. -/
def PassesWindow (parse : JsonParser) (db : OwnerDb)
    (providerId sessionId claimSubsetJson : String) (issuedAtMs expiresAtMs nowMs : Int64) : Prop :=
  ∀ e, ensureSessionPolicyAllows parse noFaults db providerId sessionId claimSubsetJson issuedAtMs
    expiresAtMs nowMs = .error e → e.message ≠ OUTSIDE_WINDOW

theorem other_message {code message : String} {details : List (String × Json)}
    (h : message ≠ OUTSIDE_WINDOW) :
  (policyError code message details).message ≠ OUTSIDE_WINDOW
  := h

theorem parseRequireClaims_message {text : String} {e : AppError}
    (h : parseRequireClaims parse text = .error e) :
  e.message ≠ OUTSIDE_WINDOW
  := by
  have hcheck (claims : List (String × Json)) (h : checkRequiredClaims claims = .error e) :
      e.message ≠ OUTSIDE_WINDOW := by
    induction claims with
    | nil => cases h
    | cons claim rest ih =>
      rw [checkRequiredClaims] at h
      cases hclaim : checkRequiredClaim claim with
      | ok _ =>
        rw [hclaim, AppResult.ok_bind] at h
        exact ih h
      | error e' =>
        rw [hclaim] at h
        cases h
        rw [checkRequiredClaim] at hclaim
        split_ifs at hclaim
        · cases hclaim
          exact other_message (by decide)
        · split at hclaim
          · cases hclaim
          · cases hclaim
            exact other_message (by decide)
  rw [parseRequireClaims] at h
  cases hparsed : parse text with
  | error error =>
    rw [hparsed] at h
    cases h
    exact other_message (by decide)
  | ok parsed =>
    rw [hparsed] at h
    cases parsed with
    | obj claims =>
      dsimp only [mapErr, AppResult.ok_bind] at h
      cases hclaims : checkRequiredClaims claims with
      | ok _ =>
        rw [hclaims] at h
        cases h
      | error e' =>
        rw [hclaims] at h
        cases h
        exact hcheck claims hclaims
    | _ =>
      cases h
      exact other_message (by decide)

theorem checkClaims_message {claims required : List (String × Json)} {e : AppError}
    (h : checkClaims providerId sessionId claims required = .error e) :
  e.message ≠ OUTSIDE_WINDOW
  := by
  induction required with
  | nil => cases h
  | cons claim rest ih =>
    rw [checkClaims] at h
    split_ifs at h
    · exact ih h
    · cases h
      exact other_message (by decide)

/-- What the check of a session at the window is, in words of 64 bits. -/
theorem passesWindow_iff {db : OwnerDb} {policy : TrustProviderPolicyRow}
    (hlive : sessionId ∉ db.trustSessionRevocations)
    (hpolicy : db.trustProviderPolicies[providerId]? = some policy) :
  PassesWindow parse db providerId sessionId claimSubsetJson issuedAtMs expiresAtMs nowMs
    ↔ issuedAtMs - policy.maxClockSkewMs ≤ nowMs ∧ nowMs ≤ expiresAtMs + policy.maxClockSkewMs
  := by
  have hrevoked : db.trustSessionRevocations.contains sessionId = false := by
    rwa [← Std.ExtTreeMap.contains_iff_mem, Bool.not_eq_true] at hlive
  rw [PassesWindow, ensureSessionPolicyAllows]
  simp only [noFaults, attempt_none, AppResult.ok_bind, hrevoked, hpolicy, Bool.false_eq_true,
    if_false]
  by_cases hwindow : nowMs < issuedAtMs - policy.maxClockSkewMs
      ∨ nowMs > expiresAtMs + policy.maxClockSkewMs
  · rw [if_pos hwindow]
    constructor
    · intro h
      exact absurd rfl (h _ rfl)
    · rintro ⟨hlower, hupper⟩
      simp only [gt_iff_lt, Int64.lt_iff_toInt_lt, Int64.le_iff_toInt_le] at hwindow hlower hupper
      omega
  · rw [if_neg hwindow]
    apply iff_of_true
    · intro e h
      cases hrequired : parseRequireClaims parse policy.requireClaimsJson with
      | error e' =>
        rw [hrequired] at h
        cases h
        exact parseRequireClaims_message hrequired
      | ok required =>
      rw [hrequired, AppResult.ok_bind] at h
      split_ifs at h
      cases hsubset : parse claimSubsetJson with
      | error error =>
        rw [hsubset] at h
        cases h
        exact other_message (by decide)
      | ok claimSubset =>
      rw [hsubset] at h
      cases hclaims : claimSubset.asObject with
      | none =>
        simp only [mapErr, AppResult.ok_bind, hclaims] at h
        cases h
        exact other_message (by decide)
      | some claims =>
        simp only [mapErr, AppResult.ok_bind, hclaims] at h
        exact checkClaims_message h
    · simp only [gt_iff_lt, Int64.lt_iff_toInt_lt, Int64.le_iff_toInt_le, not_or] at hwindow ⊢
      omega

/-! ### The law of the skew -/

/-- What is asked of a skew that has been set for a provider, for a session with times of
issue and expiry. -/
structure SkewLaw (parse : JsonParser) (mayFail : TrustOp → Prop) (db : TrustDb)
    (providerId requireClaimsJson : String) (skew : Int64) (after : TrustDb)
    (sessionId claimSubsetJson : String) (issuedAtMs expiresAtMs : Int64) : Prop where
  /-- The ends of the window are times. -/
  lower : (issuedAtMs - skew).toInt = issuedAtMs.toInt - skew.toInt
  upper : (expiresAtMs + skew).toInt = expiresAtMs.toInt + skew.toInt
  /-- The window is what lies between its ends. -/
  exact_ : ∀ nowMs : Int64, 0 ≤ nowMs.toInt →
    (PassesWindow parse after.toOwnerDb providerId sessionId claimSubsetJson issuedAtMs expiresAtMs
        nowMs
      ↔ issuedAtMs.toInt - skew.toInt ≤ nowMs.toInt
        ∧ nowMs.toInt ≤ expiresAtMs.toInt + skew.toInt)
  /-- A session that is accepted under a smaller skew is accepted. -/
  monotone : ∀ (smaller : Int64) (r : AppResult TrustProviderPolicyV1) (earlier : TrustDb),
    Ends (Effect parse mayFail) (trustProviderPolicySet parse providerId smaller requireClaimsJson)
        db r earlier →
      r.isOk = true → smaller.toInt ≤ skew.toInt → ∀ nowMs : Int64, 0 ≤ nowMs.toInt →
        ensureSessionPolicyAllows parse noFaults earlier.toOwnerDb providerId sessionId
            claimSubsetJson issuedAtMs expiresAtMs nowMs = .ok () →
          ensureSessionPolicyAllows parse noFaults after.toOwnerDb providerId sessionId
            claimSubsetJson issuedAtMs expiresAtMs nowMs = .ok ()

/-- A skew that has been set obeys the law for a session exactly if it leads from the expiry of
the session to a time there is. -/
theorem skewLaw_iff {parse : JsonParser} {mayFail : TrustOp → Prop} {db after : TrustDb}
    {providerId requireClaimsJson : String} {skew : Int64} {r : AppResult TrustProviderPolicyV1}
    (hset : Ends (Effect parse mayFail) (trustProviderPolicySet parse providerId skew
      requireClaimsJson) db r after)
    (hok : r.isOk = true) (sessionId claimSubsetJson : String) (issuedAtMs expiresAtMs : Int64)
    (hlive : sessionId ∉ db.trustSessionRevocations) (hissued : 0 ≤ issuedAtMs.toInt)
    (hexpires : issuedAtMs.toInt ≤ expiresAtMs.toInt) :
  SkewLaw parse mayFail db providerId requireClaimsJson skew after sessionId claimSubsetJson
      issuedAtMs expiresAtMs
    ↔ expiresAtMs.toInt + skew.toInt < 2 ^ 63
  := by
  have hskew := skew_nonneg hset hok
  have hsmall := skew.toInt_lt
  have hlower : (issuedAtMs - skew).toInt = issuedAtMs.toInt - skew.toInt := by
    have := issuedAtMs.toInt_lt
    rw [Signed.toInt_sub] <;> omega
  obtain ⟨claims, text, hclaims, htext, hpolicy⟩ := policy_of_trustProviderPolicySet hset hok
  have hrevocations := revocations_of_trustProviderPolicySet hset
  constructor
  · rintro ⟨-, hupper, -, -⟩
    have := (expiresAtMs + skew).toInt_lt
    omega
  · intro hfits
    have hupper : (expiresAtMs + skew).toInt = expiresAtMs.toInt + skew.toInt := by
      rw [Signed.toInt_add] <;> omega
    refine ⟨hlower, hupper, ?_, ?_⟩
    · intro nowMs _
      rw [passesWindow_iff (hrevocations ▸ hlive) hpolicy, Int64.le_iff_toInt_le,
        Int64.le_iff_toInt_le, hlower, hupper]
    · intro smaller r' earlier hset' hok' hle nowMs _ haccepted
      have hsmaller := skew_nonneg hset' hok'
      obtain ⟨claims', text', hclaims', htext', hpolicy'⟩ :=
        policy_of_trustProviderPolicySet hset' hok'
      -- the claims are those of the text given, so that only the skews differ
      rw [hclaims] at hclaims'
      cases hclaims'
      rw [htext] at htext'
      cases htext'
      obtain ⟨hread, hlive', hread', hadmits⟩ := ensureSessionPolicyAllows_eq_ok.mp haccepted
      obtain ⟨hnotBefore, hnotAfter, hgranted⟩ := hadmits _ hpolicy'
      apply ensureSessionPolicyAllows_eq_ok.mpr
      refine ⟨hread, hrevocations ▸ hlive, hread', ?_⟩
      intro policy hstored
      rw [hpolicy] at hstored
      cases hstored
      have hlower' : (issuedAtMs - smaller).toInt = issuedAtMs.toInt - smaller.toInt := by
        have := issuedAtMs.toInt_lt
        rw [Signed.toInt_sub] <;> omega
      have hupper' : (expiresAtMs + smaller).toInt = expiresAtMs.toInt + smaller.toInt := by
        rw [Signed.toInt_add] <;> omega
      refine ⟨?_, ?_, hgranted⟩
      · rw [Int64.le_iff_toInt_le, hlower'] at hnotBefore
        rw [Int64.le_iff_toInt_le, hlower]
        omega
      · rw [Int64.le_iff_toInt_le, hupper'] at hnotAfter
        rw [Int64.le_iff_toInt_le, hupper]
        omega

/-! ### A provider with the largest skew -/

/-- A database with a provider. -/
def Sample.providedDb : TrustDb :=
  Governance.Sample.trustDb.withProviders ((∅ : Table TrustProviderRecord).insert "p" {
    enabled := true
    issuer := "i"
    audience := "a"
    jwksUrl := "j"
    createdAtMs := 0
    updatedAtMs := 0 })

/-- Set the skew of the provider. -/
def Sample.skewSet (skew : Int64) : AppResult TrustProviderPolicyV1 × TrustDb :=
  (trustProviderPolicySet JsonText.parse "p" skew "\x7b\x7d").eval
    (TrustDb.answer JsonText.parse noFaults TrustDb.noPlan) Sample.providedDb

theorem Sample.skewSet_ends (skew : Int64) :
  Ends (Effect JsonText.parse Anything) (trustProviderPolicySet JsonText.parse "p" skew
    "\x7b\x7d") Sample.providedDb (Sample.skewSet skew).1 (Sample.skewSet skew).2
  := Governance.Sample.ends Anything _ _

theorem Sample.not_revoked (sessionId : String) :
  sessionId ∉ Sample.providedDb.trustSessionRevocations
  := Std.ExtTreeMap.not_mem_empty

/-- The law for a skew of a minute. -/
theorem skewLaw_minute :
  (Sample.skewSet 60000).1.isOk = true
    ∧ (SkewLaw JsonText.parse Anything Sample.providedDb "p" "\x7b\x7d" 60000
        (Sample.skewSet 60000).2 "s" "\x7b\x7d" 1000 2000
      ↔ (2000 : Int64).toInt + (60000 : Int64).toInt < 2 ^ 63)
  := by
  have hok : (Sample.skewSet 60000).1.isOk = true := by decide +kernel
  use hok
  apply skewLaw_iff (Sample.skewSet_ends 60000) hok
  · apply Sample.not_revoked
  · decide
  · decide

/-- Under the largest skew a session is turned down at the time it was issued, which it is not
under the smallest one. -/
theorem largest_skew_turns_down :
  (Sample.skewSet 9223372036854775807).1.isOk = true
    ∧ ensureSessionPolicyAllows JsonText.parse noFaults (Sample.skewSet 0).2.toOwnerDb "p" "s"
        "\x7b\x7d" 1000 2000 1000 = .ok ()
    ∧ ¬ PassesWindow JsonText.parse (Sample.skewSet 9223372036854775807).2.toOwnerDb "p" "s"
        "\x7b\x7d" 1000 2000 1000
    ∧ ¬ SkewLaw JsonText.parse Anything Sample.providedDb "p" "\x7b\x7d" 9223372036854775807
        (Sample.skewSet 9223372036854775807).2 "s" "\x7b\x7d" 1000 2000
  := by
  obtain ⟨hok, haccepted⟩ : (Sample.skewSet 9223372036854775807).1.isOk = true
      ∧ (ensureSessionPolicyAllows JsonText.parse noFaults (Sample.skewSet 0).2.toOwnerDb "p" "s"
        "\x7b\x7d" 1000 2000 1000).isOk = true := by decide +kernel
  have hset := Sample.skewSet_ends 9223372036854775807
  have hlive := revocations_of_trustProviderPolicySet hset ▸ Sample.not_revoked "s"
  obtain ⟨claims, text, -, -, hpolicy⟩ := policy_of_trustProviderPolicySet hset hok
  have hpasses : ¬ PassesWindow JsonText.parse (Sample.skewSet 9223372036854775807).2.toOwnerDb
      "p" "s" "\x7b\x7d" 1000 2000 1000 := by
    rw [passesWindow_iff hlive hpolicy]
    rintro ⟨-, hupper⟩
    revert hupper
    dsimp only
    decide
  refine ⟨hok, ?_, hpasses, ?_⟩
  · obtain ⟨⟨⟩, haccepted⟩ := exists_of_isOk haccepted
    exact haccepted
  · intro hlaw
    apply hpasses
    apply (hlaw.exact_ 1000 (by decide)).mpr
    decide

end TrustPolicy

end KnowledgeCore
