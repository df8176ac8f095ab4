import KnowledgeCore.Governance.Sessions

/-!
# Revoked sessions

A session that has been revoked is never authenticated again and no device is enrolled by it,
whatever is done to its provider and the policy of it. A session that is authenticated was created
by a completion, and may be used at that time.
-/

namespace KnowledgeCore

namespace Governance

open Prog (Ends)
open TrustDb (Effect Anything)
open TrustIdentity (authenticateIdentitySession trustDeviceEnroll)

variable {ext : Externals} {parse : JsonParser} {db last : TrustDb} {sessionId : String}

/-- The session is revoked with success. -/
def Step.Revokes (step : Step) (sessionId : String) : Prop :=
  (∃ revokedBy nowMs, step.call = .revoke sessionId revokedBy nowMs) ∧ step.result.isOk = true

theorem Run.revoked {mayFail : TrustOp → Prop} {steps : List Step}
    (h : Run ext parse mayFail db steps last) {step : Step} (hmem : step ∈ steps)
    (hrevokes : step.Revokes sessionId) :
  sessionId ∈ last.trustSessionRevocations
  := by
  induction h with
  | nil => cases hmem
  | snoc call result hrun hend ih =>
    obtain hmem | hmem := List.mem_append.mp hmem
    · apply revoked_call hend (ih hmem)
    · obtain rfl := List.mem_singleton.mp hmem
      obtain ⟨⟨revokedBy, nowMs, rfl⟩, hok⟩ := hrevokes
      obtain ⟨r, hr, hisOk⟩ := Prog.ends_bind_ret hend
      apply revoked_of_trustSessionRevoke hr
      rw [← hisOk]
      exact hok

/-- Once a session is revoked it is not authenticated any more, and devices are enrolled as if it
was not there. Whenever a session is authenticated, it was created by a completion and may be
used. -/
theorem revocation_permanent {steps : List Step} (h : Run ext parse Anything db steps last)
    (hempty : db.identitySessions = ∅) (sessionId : String) :
  ((∃ step ∈ steps, step.Revokes sessionId) →
      (∀ nowMs session after, ¬ Ends (Effect parse Anything)
        (authenticateIdentitySession sessionId nowMs) last (.ok session) after)
      ∧ ∀ certId providerId deviceId nowMs record after, Ends (Effect parse Anything)
          (trustDeviceEnroll ext certId providerId deviceId nowMs) last (.ok record) after →
        Trust.latestSessionSubject
            { last.toDb with identitySessions := last.identitySessions.erase sessionId }
            providerId nowMs = .ok record.subject)
    ∧ ∀ nowMs session after, Ends (Effect parse Anything)
        (authenticateIdentitySession sessionId nowMs) last (.ok session) after →
      ∃ row, (∃ step ∈ steps, step.Creates sessionId row)
        ∧ Trust.Usable parse last.toOwnerDb sessionId nowMs row
  := by
  constructor
  · rintro ⟨step, hmem, hrevokes⟩
    have hrevoked := h.revoked hmem hrevokes
    constructor
    · intro nowMs session after hend
      obtain ⟨faults, hsession⟩ := authenticate_eq_ok hend
      obtain ⟨row, husable, -⟩ := Trust.usable_of_authenticate hsession
      apply husable.unrevoked hrevoked
    · intro certId providerId deviceId nowMs record after hend
      rw [Trust.latestSessionSubject_erase hrevoked]
      apply subject_of_enroll hend
  · intro nowMs session after hend
    obtain ⟨faults, hsession⟩ := authenticate_eq_ok hend
    obtain ⟨row, husable, -⟩ := Trust.usable_of_authenticate hsession
    refine ⟨row, ?_, husable⟩
    obtain hstart | hcreated := h.created husable.found
    · rw [hempty, Std.ExtTreeMap.getElem?_empty] at hstart
      cases hstart
    · exact hcreated

def Sample.corpRevoked : Step :=
  Sample.step (.revoke KnowledgeCore.Sample.sessionId "bob" 2) Sample.corpCompleted.after

/-- A session that is authenticated until it is revoked. -/
theorem revocation_permanent_corp :
  (Sample.step (.authenticate KnowledgeCore.Sample.sessionId 2)
      Sample.corpCompleted.after).result.isOk = true
    ∧ ∀ nowMs session after, ¬ Ends (Effect JsonText.parse Anything)
      (authenticateIdentitySession KnowledgeCore.Sample.sessionId nowMs) Sample.corpRevoked.after
      (.ok session) after
  := by
  have hrun : Run KnowledgeCore.Sample.ext JsonText.parse Anything Sample.trustDb
      [Sample.corpAdded, Sample.corpCompleted, Sample.corpRevoked] Sample.corpRevoked.after :=
    Sample.snoc_step (Sample.snoc_step (Sample.snoc_step .nil _) _) _
  use by decide +kernel
  apply ((revocation_permanent hrun rfl KnowledgeCore.Sample.sessionId).1 _).1
  use Sample.corpRevoked, by simp, ⟨"bob", 2, rfl⟩
  decide +kernel

end Governance

end KnowledgeCore
