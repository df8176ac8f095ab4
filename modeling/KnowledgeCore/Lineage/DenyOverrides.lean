import Mathlib.Data.Prod.Lex
import Mathlib.Data.String.Basic
import KnowledgeCore.Lib.Sorting
import KnowledgeCore.Lineage.PolicyStore

/-!
# Denials override

In a database that only adds and binds have made, every decision can be made: an action is allowed
when a policy that is bound to the subject and matches allows it and none denies it. Policies with
different names can be added and bound in any order.
-/

namespace KnowledgeCore

namespace LineagePolicy

variable {ext : Externals} {parse : JsonParser} {faults : StoreFaults} {db db' : OwnerDb}
  {subjectId action : String} {docId : Option String}

/-! ### Stored conditions -/

/-- A condition is stored as a text that stands for the same condition. -/
theorem parseCondition_canonical {conditionJson canonical : String}
    {condition : LineagePolicyConditionV4}
    (hparse : ∀ text value, parse text = .ok value → ReadsBack parse value)
    (h : parseCondition parse conditionJson = .ok (condition, canonical)) :
  parseCondition parse canonical = .ok (condition, canonical)
  := by
  rw [parseCondition] at h
  obtain ⟨parsed, hparsed, h⟩ := AppResult.bind_eq_ok.mp h
  cases parsed with
  | obj members =>
    obtain ⟨text, htext, hrest⟩ := AppResult.bind_eq_ok.mp h
    obtain rfl : text = canonical := by
      obtain ⟨_, -, h⟩ := AppResult.bind_eq_ok.mp hrest
      obtain ⟨_, -, h⟩ := AppResult.bind_eq_ok.mp h
      obtain ⟨_, -, h⟩ := AppResult.bind_eq_ok.mp h
      obtain ⟨_, -, h⟩ := AppResult.bind_eq_ok.mp h
      obtain ⟨_, -, h⟩ := AppResult.bind_eq_ok.mp h
      cases h
      rfl
    have hread := hparse conditionJson _ (mapErr_eq_ok.mp hparsed) text htext
    have hagain := CanonJson.writeCanonical_normalise htext
    rw [Json.normalise] at hread hagain
    rw [parseCondition, hread, mapErr_ok, AppResult.ok_bind]
    simp only [CanonJson.toCanonicalBytes, hagain, AppResult.ok_bind]
    apply hrest
  | _ => cases h

/-- A policy can be evaluated. -/
structure WellStored (parse : JsonParser) (row : LineagePolicyRow) : Prop where
  effect : row.effect = "allow" ∨ row.effect = "deny"
  condition : ∃ condition, parseCondition parse row.conditionJson
    = .ok (condition, row.conditionJson)

theorem normalizeEffect_eq_ok {effect normalized : String}
    (h : normalizeEffect effect = .ok normalized) :
  normalized = "allow" ∨ normalized = "deny"
  := by
  rw [normalizeEffect] at h
  split_ifs at h with hsupported
  cases h
  exact hsupported

theorem wellStored_of_policyRow {policyName effect conditionJson createdBy : String}
    {nowMs : Int64} {row : LineagePolicyRow}
    (hparse : ∀ text value, parse text = .ok value → ReadsBack parse value)
    (h : policyRow parse policyName effect conditionJson createdBy nowMs = .ok row) :
  WellStored parse row
  := by
  obtain ⟨-, -, normalized, condition, canonical, heffect, hcondition, rfl⟩ :=
    policyRow_eq_ok_iff.mp h
  constructor
  · apply normalizeEffect_eq_ok heffect
  · use condition, parseCondition_canonical hparse hcondition

/-- Every policy can be evaluated. -/
def AllWellStored (parse : JsonParser) (db : OwnerDb) : Prop :=
  ∀ (id : String) (row : LineagePolicyRow), db.lineagePolicies[id]? = some row →
    WellStored parse row

theorem AllWellStored.step
    (hparse : ∀ text value, parse text = .ok value → ReadsBack parse value)
    (hown : OwnPolicyIds ext db) (h : AllWellStored parse db) (call : PolicyCall) :
  AllWellStored parse (call.after ext parse faults db)
  := by
  cases call with
  | add policyName effect conditionJson createdBy nowMs =>
    rw [PolicyCall.after]
    obtain hsame | ⟨row, hrow, -, hafter⟩ := lineagePolicyAdd_cases hown
    · rw [hsame]
      apply h
    · rw [hafter]
      intro id stored hstored
      rw [OwnerDb.lineagePolicies_withPolicies, Std.ExtTreeMap.getElem?_insert] at hstored
      split_ifs at hstored
      · rw [← Option.some.inj hstored]
        apply wellStored_of_policyRow hparse hrow
      · apply h id stored hstored
  | bind subjectId policyName boundBy nowMs =>
    rw [PolicyCall.after]
    obtain hsame | ⟨-, -, -, -, hafter⟩ := lineagePolicyBind_cases hown
    · rw [hsame]
      apply h
    · rw [hafter]
      intro id stored hstored
      rw [OwnerDb.lineagePolicies_upsertBinding] at hstored
      apply h id stored hstored

theorem AllWellStored.history
    (hparse : ∀ text value, parse text = .ok value → ReadsBack parse value)
    (hown : OwnPolicyIds ext db) (h : AllWellStored parse db)
    (calls : List (PolicyCall × StoreFaults)) :
  AllWellStored parse (history ext parse calls db)
  := by
  induction calls generalizing db with
  | nil => exact h
  | cons step calls ih => apply ih (hown.step _) (h.step hparse hown _)

/-! ### Decisions -/

/-- The condition of a policy matches a request. -/
def Matches (parse : JsonParser) (subjectId action : String) (docId : Option String)
    (conditionJson : String) : Prop :=
  ∃ condition canonical, parseCondition parse conditionJson = .ok (condition, canonical)
    ∧ evaluateCondition condition subjectId action docId = true

/-- The policies are searched through, and what is found is there exactly when there is one to be
found. -/
theorem firstMatches_spec (subjectId action : String) (docId : Option String)
    {policies : List EvaluatedPolicy}
    (h : ∀ policy ∈ policies, (policy.effect = "allow" ∨ policy.effect = "deny")
      ∧ ∃ condition, parseCondition parse policy.conditionJson
        = .ok (condition, policy.conditionJson)) :
  ∃ allow deny, firstMatches parse subjectId action docId policies = .ok (allow, deny)
    ∧ (allow.isSome = true ↔ ∃ policy ∈ policies,
      Matches parse subjectId action docId policy.conditionJson ∧ policy.effect = "allow")
    ∧ (deny.isSome = true ↔ ∃ policy ∈ policies,
      Matches parse subjectId action docId policy.conditionJson ∧ policy.effect = "deny")
  := by
  induction policies with
  | nil =>
    use none, none, rfl
    simp
  | cons policy rest ih =>
    rw [List.forall_mem_cons] at h
    obtain ⟨⟨heffect, condition, hcondition⟩, hrest⟩ := h
    obtain ⟨allow, deny, hfirst, hallow, hdeny⟩ := ih hrest
    have hmatches : Matches parse subjectId action docId policy.conditionJson
        ↔ evaluateCondition condition subjectId action docId = true := by
      constructor
      · rintro ⟨condition', canonical, hcondition', heval⟩
        rw [hcondition] at hcondition'
        cases hcondition'
        exact heval
      · intro heval
        exact ⟨condition, _, hcondition, heval⟩
    simp only [List.exists_mem_cons_iff, hmatches, ← hallow, ← hdeny]
    rw [firstMatches, hcondition, AppResult.ok_bind]
    simp only [hfirst, AppResult.ok_bind]
    cases heval : evaluateCondition condition subjectId action docId with
    | false =>
      use allow, deny, rfl
      simp
    | true =>
      obtain hpolicy | hpolicy := heffect
      · rw [hpolicy]
        use some policy, deny, rfl
        simp
      · rw [hpolicy]
        use allow, some policy, rfl
        simp

/-- The policies that are bound to a subject, in the order of the bindings. -/
def boundRows (db : OwnerDb) (subjectId : String) : List (String × LineagePolicyRow) :=
  db.lineagePolicyBindings.filterMap fun binding =>
    if binding.subjectId = subjectId then
      db.lineagePolicies[binding.policyId]?.map fun policy => (binding.policyId, policy)
    else
      none

theorem mem_boundRows {id : String} {row : LineagePolicyRow} :
  (id, row) ∈ boundRows db subjectId
    ↔ db.IsBound subjectId id ∧ db.lineagePolicies[id]? = some row
  := by
  rw [boundRows, List.mem_filterMap]
  constructor
  · rintro ⟨binding, hmem, hbinding⟩
    split_ifs at hbinding with hsubject
    obtain ⟨row', hstored, heq⟩ := Option.map_eq_some_iff.mp hbinding
    cases heq
    exact ⟨⟨binding, hmem, hsubject, rfl⟩, hstored⟩
  · rintro ⟨⟨binding, hmem, hsubject, rfl⟩, hstored⟩
    use binding, hmem
    rw [if_pos hsubject, hstored]
    rfl

theorem mem_boundPolicies {policy : EvaluatedPolicy} :
  policy ∈ boundPolicies db subjectId
    ↔ ∃ id row, db.IsBound subjectId id ∧ db.lineagePolicies[id]? = some row
      ∧ policy = {
          policyId := id
          policyName := row.policyName
          effect := row.effect
          conditionJson := row.conditionJson }
  := by
  have hbound : policy ∈ boundPolicies db subjectId
      ↔ ∃ stored ∈ boundRows db subjectId, policy = {
          policyId := stored.1
          policyName := stored.2.policyName
          effect := stored.2.effect
          conditionJson := stored.2.conditionJson } := by
    simp only [boundPolicies, boundRows, List.mem_map, List.mem_insertionSort, eq_comm]
  rw [hbound]
  constructor
  · rintro ⟨⟨id, row⟩, hmem, hpolicy⟩
    obtain ⟨hisBound, hstored⟩ := mem_boundRows.mp hmem
    exact ⟨id, row, hisBound, hstored, hpolicy⟩
  · rintro ⟨id, row, hisBound, hstored, hpolicy⟩
    exact ⟨(id, row), mem_boundRows.mpr ⟨hisBound, hstored⟩, hpolicy⟩

/-- A policy that is stored and bound to a subject. -/
def BoundPolicy (db : OwnerDb) (subjectId : String) (row : LineagePolicyRow) : Prop :=
  ∃ id, db.IsBound subjectId id ∧ db.lineagePolicies[id]? = some row

/-- A policy of the given effect is bound to the subject and matches the request. -/
def HasMatch (parse : JsonParser) (db : OwnerDb) (subjectId action : String)
    (docId : Option String) (effect : String) : Prop :=
  ∃ row, BoundPolicy db subjectId row
    ∧ Matches parse subjectId action docId row.conditionJson ∧ row.effect = effect

theorem exists_mem_boundPolicies {effect : String} :
  (∃ policy ∈ boundPolicies db subjectId,
      Matches parse subjectId action docId policy.conditionJson ∧ policy.effect = effect)
    ↔ HasMatch parse db subjectId action docId effect
  := by
  constructor
  · rintro ⟨policy, hmem, hmatches, heffect⟩
    obtain ⟨id, row, hbound, hstored, rfl⟩ := mem_boundPolicies.mp hmem
    exact ⟨row, ⟨id, hbound, hstored⟩, hmatches, heffect⟩
  · rintro ⟨row, ⟨id, hbound, hstored⟩, hmatches, heffect⟩
    exact ⟨_, mem_boundPolicies.mpr ⟨id, row, hbound, hstored, rfl⟩, hmatches, heffect⟩

/-- When every policy can be evaluated, a decision is made, and it is to allow the action exactly
when a policy allows it and none denies it. -/
theorem lineagePolicyDecision_allowed_iff (h : AllWellStored parse db)
    (hsubjectId : isBlank subjectId = false) (haction : isBlank action = false) :
  ∃ decision, lineagePolicyDecision parse noFaults db subjectId action docId = .ok decision
    ∧ (decision.allowed = true ↔ HasMatch parse db subjectId action docId "allow"
      ∧ ¬ HasMatch parse db subjectId action docId "deny")
  := by
  have hpolicies : ∀ policy ∈ boundPolicies db subjectId,
      (policy.effect = "allow" ∨ policy.effect = "deny")
        ∧ ∃ condition, parseCondition parse policy.conditionJson
          = .ok (condition, policy.conditionJson) := by
    intro policy hmem
    obtain ⟨id, row, -, hstored, rfl⟩ := mem_boundPolicies.mp hmem
    constructor
    · apply (h _ row hstored).effect
    · apply (h _ row hstored).condition
  obtain ⟨allow, deny, hfirst, hallow, hdeny⟩ := firstMatches_spec subjectId action docId hpolicies
  rw [exists_mem_boundPolicies] at hallow hdeny
  rw [lineagePolicyDecision, if_neg (by simp [hsubjectId, haction])]
  simp only [noFaults, attempt_none, AppResult.ok_bind, hfirst, ← hallow, ← hdeny]
  cases deny with
  | some deny =>
    refine ⟨_, rfl, ?_⟩
    simp
  | none =>
    cases allow with
    | some allow =>
      refine ⟨_, rfl, ?_⟩
      simp
    | none =>
      refine ⟨_, rfl, ?_⟩
      simp

/-! ### Any order -/

/-- No policy is bound twice to a subject. -/
def DistinctBindings (db : OwnerDb) : Prop :=
  db.lineagePolicyBindings.Pairwise fun a b => OwnerDb.sameBinding a b = false

/-- The database after a history in which no statement fails. -/
def faultless (ext : Externals) (parse : JsonParser) (calls : List PolicyCall) (db : OwnerDb) :
    OwnerDb :=
  history ext parse (calls.map fun call => (call, noStoreFaults)) db

theorem faultless_concat (calls : List PolicyCall) (call : PolicyCall) :
  faultless ext parse (calls ++ [call]) db
    = call.after ext parse noStoreFaults (faultless ext parse calls db)
  := by
  rw [faultless, faultless, history, history, List.map_append, List.foldl_append]
  rfl

/-- The name of the policy that is added. -/
def PolicyCall.addedName : PolicyCall → Option String
  | .add policyName _ _ _ _ => some policyName
  | .bind _ _ _ _ => none

/-- The name of the policy that is bound. -/
def PolicyCall.boundName : PolicyCall → Option String
  | .add _ _ _ _ _ => none
  | .bind _ policyName _ _ => some policyName

/-- No policy is added after a bind to it. -/
def BindsFollow (calls : List PolicyCall) : Prop :=
  calls.Pairwise fun earlier later =>
    ∀ policyName ∈ later.addedName, earlier.boundName ≠ some policyName

/-- The names of the policies that are added differ in more than the whitespace around them. -/
def NamesDiffer (calls : List PolicyCall) : Prop :=
  ((calls.filterMap PolicyCall.addedName).map trim).Nodup

/-- Added names with the same id are the same without the whitespace around them. -/
def IdsTellNames (ext : Externals) (calls : List PolicyCall) : Prop :=
  ∀ a ∈ calls.filterMap PolicyCall.addedName, ∀ b ∈ calls.filterMap PolicyCall.addedName,
    policyIdForName ext a = policyIdForName ext b → trim a = trim b

instance (calls : List PolicyCall) : Decidable (BindsFollow calls) :=
  inferInstanceAs (Decidable (List.Pairwise _ calls))

instance (calls : List PolicyCall) : Decidable (NamesDiffer calls) :=
  inferInstanceAs (Decidable (List.Nodup _))

instance (ext : Externals) (calls : List PolicyCall) : Decidable (IdsTellNames ext calls) :=
  inferInstanceAs (Decidable (∀ a ∈ calls.filterMap PolicyCall.addedName,
    ∀ b ∈ calls.filterMap PolicyCall.addedName,
      policyIdForName ext a = policyIdForName ext b → trim a = trim b))

/-- The row is that of a valid add. -/
def Adds (parse : JsonParser) (calls : List PolicyCall) (row : LineagePolicyRow) : Prop :=
  ∃ policyName effect conditionJson createdBy nowMs,
    .add policyName effect conditionJson createdBy nowMs ∈ calls
      ∧ policyRow parse policyName effect conditionJson createdBy nowMs = .ok row

/-- A policy that is added is bound to the subject. -/
def Binds (parse : JsonParser) (calls : List PolicyCall) (subjectId policyName : String) : Prop :=
  (∃ boundBy nowMs, .bind subjectId policyName boundBy nowMs ∈ calls ∧ isBlank subjectId = false
      ∧ isBlank policyName = false ∧ isBlank boundBy = false)
    ∧ ∃ row, Adds parse calls row ∧ row.policyName = policyName

/-- What a history without faults leaves: the rows of the valid adds, and the valid binds to
them. -/
structure Holds (ext : Externals) (parse : JsonParser) (calls : List PolicyCall) (db : OwnerDb) :
    Prop where
  policies : ∀ (id : String) (row : LineagePolicyRow), db.lineagePolicies[id]? = some row
    ↔ id = policyIdForName ext row.policyName ∧ Adds parse calls row
  bindings : ∀ subjectId id, db.IsBound subjectId id
    ↔ ∃ policyName, id = policyIdForName ext policyName ∧ Binds parse calls subjectId policyName

theorem adds_concat {calls : List PolicyCall} {call : PolicyCall} {row : LineagePolicyRow} :
  Adds parse (calls ++ [call]) row ↔ Adds parse calls row ∨ Adds parse [call] row
  := by
  simp only [Adds, List.mem_append, or_and_right, exists_or]

theorem Adds.mem_names {calls : List PolicyCall} {row : LineagePolicyRow}
    (h : Adds parse calls row) :
  row.policyName ∈ calls.filterMap PolicyCall.addedName
  := by
  obtain ⟨policyName, effect, conditionJson, createdBy, nowMs, hmem, hrow⟩ := h
  rw [policyName_of_policyRow hrow]
  apply List.mem_filterMap.mpr
  exact ⟨_, hmem, rfl⟩

theorem Holds.perm {calls calls' : List PolicyCall} (h : Holds ext parse calls db)
    (hperm : calls.Perm calls') :
  Holds ext parse calls' db
  := by
  have hadds (row : LineagePolicyRow) : Adds parse calls row ↔ Adds parse calls' row := by
    simp only [Adds, hperm.mem_iff]
  constructor
  · simp only [← hadds]
    apply h.policies
  · simp only [Binds, ← hadds, ← hperm.mem_iff]
    apply h.bindings

theorem nodup_boundRows (h : DistinctBindings db) (subjectId : String) :
  ((boundRows db subjectId).map Prod.fst).Nodup
  := by
  rw [List.Nodup, List.pairwise_map, boundRows, List.pairwise_filterMap]
  apply h.imp
  intro a b hab stored hstored stored' hstored'
  split_ifs at hstored with hsubject
  split_ifs at hstored' with hsubject'
  obtain ⟨row, -, rfl⟩ := Option.map_eq_some_iff.mp hstored
  obtain ⟨row', -, rfl⟩ := Option.map_eq_some_iff.mp hstored'
  intro hid
  rw [OwnerDb.sameBinding_iff.mpr ⟨hsubject.trans hsubject'.symm, hid⟩] at hab
  cases hab

/-- The order of the policies: by their priorities, and then by their ids. -/
def Precedes (a b : String × LineagePolicyRow) : Prop :=
  a.2.priority < b.2.priority ∨ a.2.priority = b.2.priority ∧ a.1 ≤ b.1

instance : DecidableRel Precedes := fun a b =>
  inferInstanceAs (Decidable (a.2.priority < b.2.priority
    ∨ a.2.priority = b.2.priority ∧ a.1 ≤ b.1))

theorem boundPolicies_eq (db : OwnerDb) (subjectId : String) :
  boundPolicies db subjectId = ((boundRows db subjectId).insertionSort Precedes).map
    fun (policyId, policy) => {
      policyId
      policyName := policy.policyName
      effect := policy.effect
      conditionJson := policy.conditionJson }
  := rfl

/-- What the policies are ordered by. -/
def rank (policy : String × LineagePolicyRow) : ℤ ×ₗ String :=
  toLex (policy.2.priority.toInt, policy.1)

theorem precedes_eq :
  Precedes = Order.Preimage rank (· ≤ ·)
  := by
  ext a b
  rw [Order.Preimage, rank, rank, Prod.Lex.toLex_le_toLex, Precedes, Int64.lt_iff_toInt_lt,
    ← Int64.toInt_inj]

instance : Std.Total Precedes := by
  rw [precedes_eq]
  infer_instance

instance : IsTrans (String × LineagePolicyRow) Precedes := by
  rw [precedes_eq]
  infer_instance

theorem Precedes.id_eq {a b : String × LineagePolicyRow} (h : Precedes a b) (h' : Precedes b a) :
  a.1 = b.1
  := by
  rw [precedes_eq] at h h'
  have hrank : rank a = rank b := le_antisymm h h'
  exact (Prod.mk.inj (toLex.injective hrank)).2

/-- Databases that hold the same policies and bindings have the same policies bound to a subject,
in the same order. -/
theorem boundPolicies_congr (hpolicies : db.lineagePolicies = db'.lineagePolicies)
    (hbound : ∀ id, db.IsBound subjectId id ↔ db'.IsBound subjectId id)
    (hkeys : DistinctBindings db) (hkeys' : DistinctBindings db') :
  boundPolicies db subjectId = boundPolicies db' subjectId
  := by
  have hperm : (boundRows db subjectId).Perm (boundRows db' subjectId) := by
    apply (List.perm_ext_iff_of_nodup (nodup_boundRows hkeys subjectId).of_map
      (nodup_boundRows hkeys' subjectId).of_map).mpr
    rintro ⟨id, row⟩
    rw [mem_boundRows, mem_boundRows, hpolicies, hbound]
  rw [boundPolicies_eq, boundPolicies_eq]
  congr 1
  apply Sorting.insertionSort_eq_of_perm hperm
  rintro ⟨id, row⟩ hmem ⟨id', row'⟩ hmem' hle hge
  apply List.inj_on_of_nodup_map (nodup_boundRows hkeys subjectId) hmem hmem'
  apply hle.id_eq hge

/-! ### Histories without faults -/

/-- A binding that is updated keeps its subject and its policy. -/
theorem key_updated (row stored : LineagePolicyBindingRow) :
  (if OwnerDb.sameBinding row stored = true then row else stored).subjectId = stored.subjectId
    ∧ (if OwnerDb.sameBinding row stored = true then row else stored).policyId = stored.policyId
  := by
  by_cases hsame : OwnerDb.sameBinding row stored = true
  · rw [if_pos hsame]
    apply OwnerDb.sameBinding_iff.mp hsame
  · rw [if_neg hsame]
    use rfl

theorem DistinctBindings.upsertBinding (h : DistinctBindings db) (row : LineagePolicyBindingRow) :
  DistinctBindings (db.upsertBinding row)
  := by
  rw [DistinctBindings, OwnerDb.upsertBinding]
  split_ifs with hany
  · apply List.pairwise_map.mpr
    apply h.imp
    intro a b hab
    obtain ⟨ha, ha'⟩ := key_updated row a
    obtain ⟨hb, hb'⟩ := key_updated row b
    rw [OwnerDb.sameBinding] at hab ⊢
    rw [ha, ha', hb, hb', hab]
  · apply List.pairwise_append.mpr
    use h, List.pairwise_singleton _ _
    intro stored hstored row' hrow'
    obtain rfl := List.mem_singleton.mp hrow'
    rw [← Bool.not_eq_true]
    intro hsame
    apply hany
    obtain ⟨hsubject, hpolicy⟩ := OwnerDb.sameBinding_iff.mp hsame
    apply List.any_eq_true.mpr
    use stored, hstored
    apply OwnerDb.sameBinding_iff.mpr ⟨hsubject.symm, hpolicy.symm⟩

theorem DistinctBindings.step (hown : OwnPolicyIds ext db) (h : DistinctBindings db)
    (call : PolicyCall) :
  DistinctBindings (call.after ext parse faults db)
  := by
  cases call with
  | add policyName effect conditionJson createdBy nowMs =>
    rw [PolicyCall.after]
    obtain hsame | ⟨row, -, -, hafter⟩ := lineagePolicyAdd_cases hown
    · rw [hsame]
      apply h
    · rw [hafter]
      apply h
  | bind subjectId policyName boundBy nowMs =>
    rw [PolicyCall.after]
    obtain hsame | ⟨-, -, -, -, hafter⟩ := lineagePolicyBind_cases hown
    · rw [hsame]
      apply h
    · rw [hafter]
      apply h.upsertBinding

theorem Adds.of_add {policyName effect conditionJson createdBy : String} {nowMs : Int64}
    {row : LineagePolicyRow} :
  Adds parse [.add policyName effect conditionJson createdBy nowMs] row
    ↔ policyRow parse policyName effect conditionJson createdBy nowMs = .ok row
  := by
  constructor
  · rintro ⟨policyName', effect', conditionJson', createdBy', nowMs', hmem, hrow⟩
    cases List.mem_singleton.mp hmem
    exact hrow
  · intro hrow
    exact ⟨_, _, _, _, _, List.mem_singleton_self _, hrow⟩

theorem not_adds_bind {subjectId policyName boundBy : String} {nowMs : Int64}
    {row : LineagePolicyRow} :
  ¬ Adds parse [.bind subjectId policyName boundBy nowMs] row
  := by
  rintro ⟨_, _, _, _, _, hmem, -⟩
  cases List.mem_singleton.mp hmem

/-- A new policy is stored when it is valid. -/
theorem Holds.add {calls : List PolicyCall} {policyName effect conditionJson createdBy : String}
    {nowMs : Int64} (hown : OwnPolicyIds ext db) (h : Holds ext parse calls db)
    (hnew : ∀ name ∈ calls.filterMap PolicyCall.addedName,
      policyIdForName ext name ≠ policyIdForName ext policyName)
    (hunbound : ∀ call ∈ calls, call.boundName ≠ some policyName) :
  Holds ext parse (calls ++ [.add policyName effect conditionJson createdBy nowMs])
    (lineagePolicyAdd ext parse noStoreFaults policyName effect conditionJson createdBy nowMs db).2
  := by
  have hfresh : ∀ stored, db.lineagePolicies[policyIdForName ext policyName]? ≠ some stored := by
    intro stored hstored
    obtain ⟨hid, hadds⟩ := (h.policies _ _).mp hstored
    apply hnew stored.policyName hadds.mem_names hid.symm
  -- The binds so far are to other policies.
  have hbinds (subjectId name : String) :
      Binds parse (calls ++ [.add policyName effect conditionJson createdBy nowMs]) subjectId name
        ↔ Binds parse calls subjectId name := by
    constructor
    · rintro ⟨⟨boundBy, boundAtMs, hmem, hvalid⟩, row, hadds, hrow⟩
      obtain hmem | hmem := List.mem_append.mp hmem
      · use ⟨boundBy, boundAtMs, hmem, hvalid⟩, row
        obtain hadds | hadds := adds_concat.mp hadds
        · use hadds
        · rw [← hrow, policyName_of_policyRow (Adds.of_add.mp hadds)] at hmem
          have := hunbound _ hmem
          contradiction
      · cases List.mem_singleton.mp hmem
    · rintro ⟨⟨boundBy, boundAtMs, hmem, hvalid⟩, row, hadds, hrow⟩
      use ⟨boundBy, boundAtMs, List.mem_append_left _ hmem, hvalid⟩, row
      use adds_concat.mpr (Or.inl hadds)
  constructor
  · intro id row
    rw [adds_concat, Adds.of_add]
    cases hnewRow : policyRow parse policyName effect conditionJson createdBy nowMs with
    | error e =>
      have hsame : (lineagePolicyAdd ext parse noStoreFaults policyName effect conditionJson
          createdBy nowMs db).2 = db := by
        rw [lineagePolicyAdd, hnewRow]
      rw [hsame, h.policies]
      simp
    | ok newRow =>
      have hname := policyName_of_policyRow hnewRow
      rw [lineagePolicyAdd_noStoreFaults hown hnewRow
        (fun stored hstored => absurd hstored (hfresh stored))]
      simp only [OwnerDb.lineagePolicies_withPolicies, Std.ExtTreeMap.getElem?_insert,
        Std.LawfulEqCmp.compare_eq_iff_eq, Except.ok.injEq]
      by_cases hid : policyIdForName ext policyName = id
      · rw [if_pos hid, Option.some.injEq]
        constructor
        · rintro rfl
          rw [hname]
          exact ⟨hid.symm, Or.inr rfl⟩
        · rintro ⟨hid', hadds | hrow⟩
          · have := hnew _ hadds.mem_names (hid'.symm.trans hid.symm)
            contradiction
          · exact hrow
      · rw [if_neg hid, h.policies]
        constructor
        · rintro ⟨hid', hadds⟩
          exact ⟨hid', Or.inl hadds⟩
        · rintro ⟨hid', hadds | rfl⟩
          · exact ⟨hid', hadds⟩
          · rw [hname] at hid'
            have := hid hid'.symm
            contradiction
  · intro subjectId id
    simp only [hbinds]
    rw [← h.bindings]
    obtain hsame | ⟨row, -, -, hafter⟩ := lineagePolicyAdd_cases hown
    · rw [hsame]
    · rw [hafter]
      rfl

/-- A bind is valid and its policy is among those that are added. -/
def TakesEffect (parse : JsonParser) (calls : List PolicyCall)
    (subjectId policyName boundBy : String) : Prop :=
  isBlank subjectId = false ∧ isBlank policyName = false ∧ isBlank boundBy = false
    ∧ ∃ row, Adds parse calls row ∧ row.policyName = policyName

theorem binds_concat {calls : List PolicyCall} {subjectId policyName boundBy : String}
    {nowMs : Int64} {subjectId' policyName' : String} :
  Binds parse (calls ++ [.bind subjectId policyName boundBy nowMs]) subjectId' policyName'
    ↔ Binds parse calls subjectId' policyName'
      ∨ subjectId = subjectId' ∧ policyName = policyName'
        ∧ TakesEffect parse calls subjectId policyName boundBy
  := by
  have hadds (row : LineagePolicyRow) :
      Adds parse (calls ++ [.bind subjectId policyName boundBy nowMs]) row
        ↔ Adds parse calls row := by
    rw [adds_concat, or_iff_left not_adds_bind]
  simp only [Binds, hadds]
  constructor
  · rintro ⟨⟨boundBy', nowMs', hmem, hsubject, hname, hboundBy⟩, hpolicy⟩
    obtain hmem | hmem := List.mem_append.mp hmem
    · left
      exact ⟨⟨boundBy', nowMs', hmem, hsubject, hname, hboundBy⟩, hpolicy⟩
    · right
      cases List.mem_singleton.mp hmem
      exact ⟨rfl, rfl, hsubject, hname, hboundBy, hpolicy⟩
  · rintro (⟨⟨boundBy', nowMs', hmem, hvalid⟩, hpolicy⟩
      | ⟨rfl, rfl, hsubject, hname, hboundBy, hpolicy⟩)
    · exact ⟨⟨boundBy', nowMs', List.mem_append_left _ hmem, hvalid⟩, hpolicy⟩
    · exact ⟨⟨boundBy, nowMs, List.mem_append_right _ (List.mem_singleton_self _), hsubject, hname,
        hboundBy⟩, hpolicy⟩

/-- A bind takes effect when it is valid and its policy is there. -/
theorem Holds.bind {calls : List PolicyCall} {subjectId policyName boundBy : String}
    {nowMs : Int64} (hown : OwnPolicyIds ext db) (h : Holds ext parse calls db) :
  Holds ext parse (calls ++ [.bind subjectId policyName boundBy nowMs])
    (lineagePolicyBind noStoreFaults subjectId policyName boundBy nowMs db).2
  := by
  constructor
  · intro id row
    rw [adds_concat, or_iff_left not_adds_bind, ← h.policies]
    obtain hsame | ⟨-, -, -, -, hafter⟩ := lineagePolicyBind_cases hown
    · rw [hsame]
    · rw [hafter, OwnerDb.lineagePolicies_upsertBinding]
  · intro subjectId' id
    simp only [binds_concat, and_or_left, exists_or, ← h.bindings]
    by_cases heffect : TakesEffect parse calls subjectId policyName boundBy
    · obtain ⟨hsubject, hname, hboundBy, row, hadds, hrow⟩ := heffect
      have hstored := (h.policies _ row).mpr ⟨rfl, hadds⟩
      rw [hrow] at hstored
      rw [lineagePolicyBind_noStoreFaults hown hsubject hname hboundBy hstored hrow]
      rw [OwnerDb.isBound_upsertBinding, or_comm]
      apply or_congr_right
      constructor
      · rintro ⟨rfl, rfl⟩
        exact ⟨policyName, rfl, rfl, rfl, hsubject, hname, hboundBy, row, hadds, hrow⟩
      · rintro ⟨_, rfl, rfl, rfl, -⟩
        exact ⟨rfl, rfl⟩
    · obtain hsame | ⟨hsubject, hname, hboundBy, ⟨row, hstored, hrow⟩, -⟩ :=
        lineagePolicyBind_cases hown
      · rw [hsame, or_iff_left]
        rintro ⟨_, -, -, rfl, htakes⟩
        contradiction
      · have htakes : TakesEffect parse calls subjectId policyName boundBy :=
          ⟨hsubject, hname, hboundBy, row, ((h.policies _ row).mp hstored).2, hrow⟩
        contradiction

theorem NoPolicies.holds (h : NoPolicies db) :
  Holds ext parse [] db
  := by
  constructor
  · intro id row
    rw [h.policies]
    simp [Adds]
  · intro subjectId id
    rw [OwnerDb.IsBound, h.bindings]
    simp [Binds]

/-- After a history without faults the database holds what the history says. -/
theorem holds_faultless (parse : JsonParser) (hempty : NoPolicies db) {calls : List PolicyCall}
    (hnames : NamesDiffer calls) (hids : IdsTellNames ext calls) (hfollow : BindsFollow calls) :
  Holds ext parse calls (faultless ext parse calls db)
    ∧ OwnPolicyIds ext (faultless ext parse calls db)
    ∧ DistinctBindings (faultless ext parse calls db)
  := by
  induction calls using List.reverseRecOn with
  | nil =>
    use hempty.holds, hempty.ownPolicyIds
    rw [DistinctBindings, faultless, history, List.map_nil, List.foldl_nil, hempty.bindings]
    apply List.Pairwise.nil
  | append_singleton calls call ih =>
    obtain ⟨hfollow, -, hlast⟩ := List.pairwise_append.mp hfollow
    rw [NamesDiffer, List.filterMap_append, List.map_append] at hnames
    obtain ⟨hnames, -, hdiffers⟩ := List.nodup_append.mp hnames
    rw [IdsTellNames, List.filterMap_append] at hids
    have hids' : IdsTellNames ext calls :=
      fun a ha b hb => hids a (List.mem_append_left _ ha) b (List.mem_append_left _ hb)
    obtain ⟨hholds, hown, hdistinct⟩ := ih hnames hids' hfollow
    rw [faultless_concat]
    use ?_, hown.step call, hdistinct.step hown call
    cases call with
    | add policyName effect conditionJson createdBy nowMs =>
      apply hholds.add hown
      · intro name hname hid
        apply hdiffers (trim name) (List.mem_map_of_mem hname) (trim policyName)
          (List.mem_singleton_self _)
        apply hids name (List.mem_append_left _ hname) policyName
          (List.mem_append_right _ (List.mem_singleton_self _)) hid
      · intro call hcall
        apply hlast call hcall _ (List.mem_singleton_self _) policyName rfl
    | bind subjectId policyName boundBy nowMs =>
      apply hholds.bind hown

/-- The decisions after a history without faults do not depend on the order of its calls. -/
theorem lineagePolicyDecision_perm (hempty : NoPolicies db) {calls calls' : List PolicyCall}
    (hperm : calls.Perm calls') (hnames : NamesDiffer calls) (hids : IdsTellNames ext calls)
    (hfollow : BindsFollow calls) (hfollow' : BindsFollow calls') :
  lineagePolicyDecision parse noFaults (faultless ext parse calls db) subjectId action docId
    = lineagePolicyDecision parse noFaults (faultless ext parse calls' db) subjectId action docId
  := by
  have hadded := hperm.filterMap PolicyCall.addedName
  have hnames' : NamesDiffer calls' := (hadded.map trim).nodup hnames
  have hids' : IdsTellNames ext calls' :=
    fun a ha b hb => hids a (hadded.mem_iff.mpr ha) b (hadded.mem_iff.mpr hb)
  obtain ⟨hholds, -, hdistinct⟩ := holds_faultless parse hempty hnames hids hfollow
  obtain ⟨hholds', -, hdistinct'⟩ := holds_faultless parse hempty hnames' hids' hfollow'
  have hsame := hholds.perm hperm
  have hpolicies : (faultless ext parse calls db).lineagePolicies
      = (faultless ext parse calls' db).lineagePolicies := by
    apply Std.ExtTreeMap.ext_getElem?
    intro id
    apply Option.ext
    intro row
    rw [hsame.policies, hholds'.policies]
  have hbound := boundPolicies_congr hpolicies
    (fun id => (hsame.bindings subjectId id).trans (hholds'.bindings subjectId id).symm)
    hdistinct hdistinct'
  rw [lineagePolicyDecision, lineagePolicyDecision, hbound]

/-- A decision is made after every history, and it is to allow the action exactly when a matching
policy that is bound to the subject allows it and none denies it. For policies whose names differ,
it does not depend on the order of the calls. -/
theorem denyOverrides (hparse : ∀ text value, parse text = .ok value → ReadsBack parse value)
    (hempty : NoPolicies db) :
  (∀ (calls : List (PolicyCall × StoreFaults)) (subjectId action : String)
      (docId : Option String), isBlank subjectId = false → isBlank action = false →
    ∃ decision, lineagePolicyDecision parse noFaults (history ext parse calls db) subjectId action
        docId = .ok decision
      ∧ (decision.allowed = true
        ↔ HasMatch parse (history ext parse calls db) subjectId action docId "allow"
          ∧ ¬ HasMatch parse (history ext parse calls db) subjectId action docId "deny"))
    ∧ ∀ calls calls' : List PolicyCall, calls.Perm calls' → NamesDiffer calls →
      IdsTellNames ext calls → BindsFollow calls → BindsFollow calls' →
      ∀ (subjectId action : String) (docId : Option String),
        lineagePolicyDecision parse noFaults (faultless ext parse calls db) subjectId action docId
          = lineagePolicyDecision parse noFaults (faultless ext parse calls' db) subjectId action
            docId
  := by
  constructor
  · intro calls subjectId action docId hsubjectId haction
    have hstored : AllWellStored parse db := by
      intro id row hstored
      rw [hempty.policies] at hstored
      simp at hstored
    apply lineagePolicyDecision_allowed_iff _ hsubjectId haction
    apply hstored.history hparse hempty.ownPolicyIds
  · intro calls calls' hperm hnames hids hfollow hfollow' subjectId action docId
    apply lineagePolicyDecision_perm hempty hperm hnames hids hfollow hfollow'

/-- Two policies, of which one denies what the other allows, and their binds. -/
def Sample.policyCalls : List PolicyCall :=
  [.add "readers" "allow" "\x7b\x7d" "owner" 0, Sample.denyAll "guests",
    .bind "reader" "readers" "owner" 1, .bind "guest" "readers" "owner" 1,
    .bind "guest" "guests" "owner" 1]

/-- The same calls in another order. -/
def Sample.policyCalls' : List PolicyCall :=
  [Sample.denyAll "guests", .bind "guest" "guests" "owner" 1,
    .add "readers" "allow" "\x7b\x7d" "owner" 0, .bind "guest" "readers" "owner" 1,
    .bind "reader" "readers" "owner" 1]

/-- Decisions for a guest. -/
theorem denyOverrides_guest :
  let db := Sample.noPoliciesDb
  let guestDb := faultless Sample.ext JsonText.parse Sample.policyCalls db
  let guestDb' := faultless Sample.ext JsonText.parse Sample.policyCalls' db
  (∃ decision, lineagePolicyDecision JsonText.parse noFaults guestDb "guest" "read" none
      = .ok decision
    ∧ (decision.allowed = true
      ↔ HasMatch JsonText.parse guestDb "guest" "read" none "allow"
        ∧ ¬ HasMatch JsonText.parse guestDb "guest" "read" none "deny"))
    ∧ lineagePolicyDecision JsonText.parse noFaults guestDb "guest" "read" none
      = lineagePolicyDecision JsonText.parse noFaults guestDb' "guest" "read" none
  := by
  intro db guestDb guestDb'
  have hparse : ∀ text value, JsonText.parse text = .ok value → ReadsBack JsonText.parse value :=
    fun _ value _ => JsonText.readsBack_parse value
  constructor
  · apply (denyOverrides hparse Sample.noPolicies).1
    · decide
    · decide
  · apply (denyOverrides hparse Sample.noPolicies).2
    · decide
    · decide
    · decide +kernel
    · decide
    · decide

end LineagePolicy

end KnowledgeCore
