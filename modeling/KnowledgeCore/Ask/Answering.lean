import KnowledgeCore.Ask.Cited

/-!
# Answers from the text alone

The provider that comes with the program answers with the first line of the best context. In a
vault whose chunks are backed by text there is such a context for every question, whatever the
index makes of it, so that every question has an answer.
-/

namespace KnowledgeCore

namespace Ask

open Locator (resolveLocatorStrict resolveLocatorStrict_eq_ok slice)
open Retrieval

/-! ### Locators that are cut to the text -/

theorem clampInt_bounds (value : Int64) {low high : Int64} (h : low ≤ high) :
  low ≤ clampInt value low high ∧ clampInt value low high ≤ high
  := by
  rw [clampInt]
  split
  · exact ⟨Int64.le_refl low, h⟩
  · next hlow =>
    split
    · exact ⟨h, Int64.le_refl high⟩
    · next hhigh => exact ⟨Int64.not_lt.mp hlow, Int64.not_lt.mp hhigh⟩

/-- Wherever a chunk starts and ends, its locator is within the text. -/
theorem slice_chunkLocator (chunk : ChunkRow) (row : CanonicalTextRow) {text : String}
    (hlen : text.length < 2 ^ 63) :
  ∃ snippet, slice text (chunkLocator chunk row text).range = .ok snippet
  := by
  have htotal : 0 ≤ Int64.ofNat text.length := by
    rw [Int64.le_iff_toInt_le, Int64.toInt_ofNat_of_lt hlen]
    exact Int.natCast_nonneg text.length
  have hstart := clampInt_bounds chunk.startChar htotal
  have hend := clampInt_bounds chunk.endChar hstart.2
  rw [slice, if_neg]
  · exact ⟨_, rfl⟩
  · rintro (h | h | h)
    · exact Int64.not_lt.mpr hstart.1 h
    · exact Int64.not_lt.mpr hend.1 h
    · exact Int64.not_lt.mpr hend.2 h

variable {S F : Type} {env : AskEnv S F} {db : Db} {files : Files}

/-- The text of a document can be read, and is as long as texts are. -/
def HasText (env : AskEnv S F) (db : Db) (files : Files) (docId : String) : Prop :=
  ∃ row bytes text, db.canonicalText[docId]? = some row
    ∧ env.store.getBytes env.ext row.canonicalObjectHash files = .ok bytes
    ∧ String.fromUTF8? ⟨bytes.toArray⟩ = some text ∧ text.length < 2 ^ 63

/-- A vault whose chunks are backed: there are some, the document of each is in the database and has
its text, and the index names no others. -/
structure Backed (env : AskEnv S F) (db : Db) (files : Files) : Prop where
  nonempty : ∃ chunkId : String, chunkId ∈ env.index.chunks
  document : ∀ (chunkId : String) chunk, env.index.chunks[chunkId]? = some chunk →
    chunk.docId ∈ db.docs ∧ HasText env db files chunk.docId
  indexed : ∀ rows, env.index.chunksFts = some rows → ∀ question chunkId,
    some chunkId ∈ rows question → chunkId ∈ env.index.chunks

/-- What a chunk stands for can be read. -/
theorem Backed.loadContext (h : Backed env db files) {hit : MergedHit F}
    (hmem : hit.chunkId ∈ env.index.chunks) :
  ∃ context, Ask.loadContext env db files hit = .ok context
  := by
  obtain ⟨chunk, hchunk⟩ := Option.isSome_iff_exists.mp
    (Std.ExtTreeMap.mem_iff_isSome_getElem?.mp hmem)
  obtain ⟨-, row, bytes, text, hrow, hbytes, htext, hlen⟩ := h.document _ _ hchunk
  obtain ⟨snippet, hsnippet⟩ := slice_chunkLocator chunk row hlen
  use ⟨hit.chunkId, hit.ordinal, hit.finalScore, chunkLocator chunk row text, snippet⟩
  apply loadContext_eq_ok.mpr
  refine ⟨chunk, row, text, ?_, ?_, rfl, ?_, rfl, rfl, rfl⟩
  · simp [loadChunk, hchunk, hrow]
  · rw [readText, hbytes, AppResult.ok_bind, htext, okOrElse_some]
  · exact resolveLocatorStrict_eq_ok.mpr
      ⟨rfl, row, bytes, text, hrow, rfl, hbytes, htext, hsnippet⟩

/-! ### Candidates -/

theorem mem_numbered {rows : List (Option String)} {chunkId : String} :
  chunkId ∈ (numbered rows).map LexicalCandidate.chunkId ↔ some chunkId ∈ rows
  := by
  simp only [numbered, List.mem_map, List.mem_filterMap, Option.map_eq_some_iff, Prod.exists]
  constructor
  · rintro ⟨_, ⟨row, idx, hrow, _, rfl, rfl⟩, rfl⟩
    exact List.fst_mem_of_mem_zipIdx hrow
  · intro hrow
    obtain ⟨idx, hidx, hget⟩ := List.mem_iff_getElem.mp hrow
    refine ⟨⟨chunkId, Int64.ofNat idx + 1⟩, ⟨some chunkId, idx, ?_, chunkId, rfl, rfl⟩, rfl⟩
    rw [List.mk_mem_zipIdx_iff_getElem?, List.getElem?_eq_getElem hidx, hget]

theorem mem_recentChunks {index : ChunkIndex} {chunkId : String} :
  chunkId ∈ recentChunks index db
    ↔ ∃ chunk, index.chunks[chunkId]? = some chunk ∧ chunk.docId ∈ db.docs
  := by
  simp only [recentChunks, List.mem_map, List.mem_insertionSort, List.mem_filterMap, Prod.exists,
    Option.map_eq_some_iff, Std.ExtTreeMap.mem_toList_iff_getElem?_eq_some,
    Std.ExtTreeMap.mem_iff_isSome_getElem?, Option.isSome_iff_exists]
  constructor
  · rintro ⟨_, chunk, doc, ⟨_, _, hchunk, _, hdoc, hsame⟩, rfl⟩
    cases hsame
    exact ⟨chunk, hchunk, doc, hdoc⟩
  · rintro ⟨chunk, hchunk, doc, hdoc⟩
    exact ⟨chunkId, chunk, doc, ⟨chunkId, chunk, hchunk, doc, hdoc, rfl⟩, rfl⟩

/-- Whatever matches, there are candidates, and each is a chunk. -/
theorem Backed.lexicalCandidates (h : Backed env db files) (question : String) :
  Ask.lexicalCandidates env.index db question 32 ≠ []
    ∧ ∀ candidate ∈ Ask.lexicalCandidates env.index db question 32,
      candidate.chunkId ∈ env.index.chunks
  := by
  have hchunk {rows : List (Option String)}
      (hrows : ∀ chunkId, some chunkId ∈ rows → chunkId ∈ env.index.chunks)
      (candidate : LexicalCandidate) (hcandidate : candidate ∈ numbered rows) :
      candidate.chunkId ∈ env.index.chunks :=
    hrows _ (mem_numbered.mp (List.mem_map_of_mem hcandidate))
  rw [Ask.lexicalCandidates]
  split
  · constructor
    · obtain ⟨chunkId, hmem⟩ := h.nonempty
      obtain ⟨chunk, hchunk⟩ := Option.isSome_iff_exists.mp
        (Std.ExtTreeMap.mem_iff_isSome_getElem?.mp hmem)
      have hrecent : chunkId ∈ recentChunks env.index db :=
        mem_recentChunks.mpr ⟨chunk, hchunk, (h.document _ _ hchunk).1⟩
      cases hlist : recentChunks env.index db with
      | nil =>
        rw [hlist] at hrecent
        cases hrecent
      | cons first rest => simp [numbered, List.zipIdx_cons]
    · apply hchunk
      intro chunkId hmem
      simp only [List.mem_map, Option.some.injEq, exists_eq_right] at hmem
      obtain ⟨chunk, hrow, -⟩ := mem_recentChunks.mp (List.mem_of_mem_take hmem)
      exact Std.ExtTreeMap.mem_iff_isSome_getElem?.mpr (Option.isSome_iff_exists.mpr ⟨chunk, hrow⟩)
  · next hsome =>
    use hsome
    apply hchunk
    intro chunkId hmem
    rw [matchedRows] at hmem
    split at hmem
    · cases hmem
    · next rows hrows =>
      split at hmem
      · cases hmem
      · exact h.indexed rows hrows _ _ (List.mem_of_mem_take hmem)

theorem Backed.chunkMeta (h : Backed env db files) {chunkId : String}
    (hmem : chunkId ∈ env.index.chunks) :
  (Ask.chunkMeta env.index db chunkId).isOk = true
  := by
  obtain ⟨chunk, hchunk⟩ := Option.isSome_iff_exists.mp
    (Std.ExtTreeMap.mem_iff_isSome_getElem?.mp hmem)
  obtain ⟨doc, hdoc⟩ := Option.isSome_iff_exists.mp
    (Std.ExtTreeMap.mem_iff_isSome_getElem?.mp (h.document _ _ hchunk).1)
  simp [Ask.chunkMeta, hchunk, hdoc]
  rfl

/-! ### Contexts -/

theorem exists_mapM_ok {α β : Type} {f : α → AppResult β} {l : List α}
    (h : ∀ a ∈ l, ∃ b, f a = .ok b) :
  ∃ l', l.mapM f = .ok l' ∧ l'.length = l.length
  := by
  induction l with
  | nil => exact ⟨[], rfl, rfl⟩
  | cons a l ih =>
    obtain ⟨b, hb⟩ := h a List.mem_cons_self
    obtain ⟨l', hl', hlength⟩ := ih fun a' ha' => h a' (List.mem_cons_of_mem a ha')
    use b :: l'
    rw [List.mapM_cons, hb, AppResult.ok_bind, hl', AppResult.ok_bind]
    exact ⟨rfl, by rw [List.length_cons, List.length_cons, hlength]⟩

variable [Preorder F] [DecidableLE F] [DecidableLT F] [Std.Total ((· ≤ ·) : F → F → Prop)]

/-- There are contexts for every question. -/
theorem Backed.loadContexts (h : Backed env db files) (horder : ∀ l, (env.order l).Perm l)
    (req : AskRequest) (recencyEnabled : Bool) :
  ∃ context rest, Ask.loadContexts env db files req recencyEnabled = .ok (context :: rest)
  := by
  obtain ⟨hnonempty, hchunks⟩ := h.lexicalCandidates req.question
  obtain ⟨hits, hmerged⟩ := exists_mergeCandidates
    (env.scoring (retrievalCfg recencyEnabled) req.nowMs) (Ask.chunkMeta env.index db) env.order
    (Ask.lexicalCandidates env.index db req.question 32) [] (by
      intro e he
      obtain ⟨candidate, hcandidate, rfl⟩ := List.mem_map.mp (by simpa [shares] using he)
      exact h.chunkMeta (hchunks candidate hcandidate))
  have hranking := isRanking_of_ok horder hmerged
  have hknown (hit : MergedHit F) (hhit : hit ∈ hits) : hit.chunkId ∈ env.index.chunks := by
    obtain hlexical | hvector := (hranking.chunks hit.chunkId).mp (List.mem_map_of_mem hhit)
    · obtain ⟨candidate, hcandidate, hsame⟩ := List.mem_map.mp hlexical
      rw [← hsame]
      exact hchunks candidate hcandidate
    · cases hvector
  obtain ⟨contexts, hcontexts, hlength⟩ : ∃ contexts,
      (hits.take 5).mapM (Ask.loadContext env db files) = .ok contexts
      ∧ contexts.length = (hits.take 5).length := by
    apply exists_mapM_ok
    intro hit hhit
    exact h.loadContext (hknown hit (List.mem_of_mem_take hhit))
  have hload : Ask.loadContexts env db files req recencyEnabled = .ok contexts := by
    rw [Ask.loadContexts]
    split
    · next hnone => exact absurd hnone hnonempty
    · rw [hmerged, AppResult.ok_bind, hcontexts]
  cases contexts with
  | cons context rest => exact ⟨context, rest, hload⟩
  | nil =>
    -- The chunk of the first candidate is ranked.
    obtain ⟨candidate, hcandidate⟩ := List.exists_mem_of_ne_nil _ hnonempty
    have hranked : candidate.chunkId ∈ hits.map MergedHit.chunkId :=
      (hranking.chunks _).mpr (Or.inl (List.mem_map_of_mem hcandidate))
    have hnone : hits = [] := by simpa using hlength.symm
    rw [hnone] at hranked
    cases hranked

/-! ### Answers -/

/-- The answer of the provider that comes with the program: the first line of a context, which it
cites. -/
structure FirstLine (env : AskEnv S F) (traceDirName traceId : String) (req : AskRequest)
    (context : RetrievedContext F) (response : AskResponse) : Prop where
  text : response.answerText
    = "Q: " ++ trim req.question ++ "\nA: " ++ trim (firstLine context.snippet)
  citations : response.citations = [(0, [context.locator])]
  path : response.tracePath
    = PathBuf.join (PathBuf.join env.host.vaultPath traceDirName) (traceId ++ ".json")

omit [Preorder F] [DecidableLE F] [DecidableLT F] [Std.Total ((· ≤ ·) : F → F → Prop)] in
/-- A single citation of a locator of the first version passes the checks as it is. -/
theorem validateCitations_single {locator : CitedLocator} (hversion : locator.v = 1) :
  normalizeCitations [(0, [locator])] = [(0, [locator])]
    ∧ validateCitations [(0, [locator])] = .ok ()
  := by
  use rfl
  apply validateCitations_eq_ok.mpr
  simp [hversion]

omit [Preorder F] [DecidableLE F] [DecidableLT F] [Std.Total ((· ≤ ·) : F → F → Prop)] in
/-- The first line of a context, with a citation of the context, is finalized as it is. -/
theorem exists_finalizeAnswer {context : RetrievedContext F} {m : Machine} {vault : VaultJsonV3}
    (hvault : Vault.vaultOpen env.host m.vault = .ok vault) (hversion : context.locator.v = 1)
    (traceDirName traceId : String) (req : AskRequest) (retrieval : List (String × Json))
    (traces : Table Json) :
  ∃ response traces', finalizeAnswerWithRetrieval env ⟨traceDirName, DeterministicAskProvider⟩
      ⟨none, none⟩ traceId req
      ("Q: " ++ trim req.question ++ "\nA: " ++ trim (firstLine context.snippet))
      [(0, [context.locator])] retrieval m traces = .ok (response, traces')
    ∧ FirstLine env traceDirName traceId req context response
  := by
  obtain ⟨hnormal, hvalid⟩ := validateCitations_single hversion
  rw [finalizeAnswerWithRetrieval, hnormal, hvalid, AppResult.ok_bind, hvault, AppResult.ok_bind]
  exact ⟨_, _, rfl, rfl, rfl, rfl⟩

/-- In a vault whose chunks are backed, every question is answered, unless the trace file cannot be
written: the answer is the first line of the best context, which it cites. -/
theorem ask_answers_backed (env : AskEnv S F) (traceDirName : String) (faults : TraceFaults)
    (traceId : String) (req : AskRequest) (m : Machine) (traces : Table Json)
    (vault : VaultJsonV3) (file : SqliteFile) (horder : ∀ l, (env.order l).Perm l)
    (hopen : Ingest.openVault env.ext env.host m.vault = .ok (vault, file))
    (hbacked : Backed env file.db m.files)
    (hfaults : faults.createDir = none ∧ faults.write = none) :
  ∃ context rest response traces',
    Ask.loadContexts env file.db m.files req vault.defaults.recencyEnabled = .ok (context :: rest)
    ∧ ask env ⟨traceDirName, DeterministicAskProvider⟩ faults traceId req m traces
      = .ok (response, Ingest.opened m vault file, traces')
    ∧ FirstLine env traceDirName traceId req context response
  := by
  obtain ⟨context, rest, hload⟩ :=
    hbacked.loadContexts horder req vault.defaults.recencyEnabled
  have hread : env.Resolves file.db m.files context.locator context.snippet :=
    (offered_of_loadContexts horder hload).read context List.mem_cons_self
  have hversion : context.locator.v = 1 := (resolveLocatorStrict_eq_ok.mp hread).1
  have hresolve : resolveCitations env file.db m.files [(0, [context.locator])] = .ok () := by
    apply resolveCitations_eq_ok.mpr
    simp only [List.mem_singleton]
    rintro _ rfl _ hlocator
    rw [List.mem_singleton.mp hlocator]
    exact ⟨context.snippet, hread⟩
  have hvault : Vault.vaultOpen env.host (Ingest.opened m vault file).vault = .ok vault := by
    rw [Vault.vaultOpen_congr (Ingest.get_opened hopen)]
    simp only [Ingest.openVault, AppResult.bind_eq_ok] at hopen
    obtain ⟨_, hconfig, _, -, hsame⟩ := hopen
    cases hsame
    exact hconfig
  obtain ⟨createDir, write⟩ := faults
  obtain ⟨rfl, rfl⟩ := hfaults
  obtain ⟨response, traces', hfinal, hfirst⟩ := exists_finalizeAnswer hvault hversion traceDirName
    traceId req (retrievalJson env (context :: rest)) traces
  refine ⟨context, rest, response, traces', hload, ?_, hfirst⟩
  rw [ask, hopen, AppResult.ok_bind]
  show (Ask.loadContexts env file.db m.files req vault.defaults.recencyEnabled >>= _) = _
  rw [hload, AppResult.ok_bind]
  simp only [List.isEmpty_cons, Bool.false_eq_true, if_false, DeterministicAskProvider,
    List.head?_cons, okOrElse_some, AppResult.ok_bind]
  show (resolveCitations env file.db m.files _ >>= _) = _
  rw [hresolve, AppResult.ok_bind]
  show (finalizeAnswerWithRetrieval env ⟨traceDirName, DeterministicAskProvider⟩ _ _ _ _ _ _ _ _
    >>= _) = _
  rw [hfinal, AppResult.ok_bind]

theorem Sample.letter_backed :
  Backed Sample.askEnv Sample.letterDb Sample.letterMachine.files
  := by
  have hbytes : Sample.askEnv.store.getBytes Sample.ext Sample.objectHash
      Sample.letterMachine.files = .ok [65] := by
    apply ok_of_toOption
    decide +kernel
  constructor
  · use "chunk"
    decide +kernel
  · intro chunkId chunk hchunk
    simp only [Sample.askEnv, Std.ExtTreeMap.getElem?_insert] at hchunk
    split at hchunk
    · cases hchunk
      use by decide +kernel
      exact ⟨_, [65], "A", rfl, hbytes, rfl, by decide⟩
    · simp at hchunk
  · intro rows hrows
    cases hrows

theorem ask_answers_backed_letter :
  ∃ response m' traces' context,
    ask Sample.askEnv ⟨"trace", DeterministicAskProvider⟩ ⟨none, none⟩ "trace-1"
      ⟨"What?", 1000⟩ Sample.letterMachine ∅ = .ok (response, m', traces')
    ∧ FirstLine Sample.askEnv "trace" "trace-1" ⟨"What?", 1000⟩ context response
  := by
  obtain ⟨vault, hopen⟩ : ∃ vault,
      Ingest.openVault Sample.askEnv.ext Sample.askEnv.host Sample.letterMachine.vault
        = .ok (vault, { db := Sample.letterDb, key := none, layout := 0 }) := ⟨_, rfl⟩
  obtain ⟨context, _, response, traces', -, hok, hfirst⟩ := ask_answers_backed Sample.askEnv "trace"
    ⟨none, none⟩ "trace-1" ⟨"What?", 1000⟩ Sample.letterMachine ∅ vault _
    (fun l => List.Perm.refl l) hopen Sample.letter_backed ⟨rfl, rfl⟩
  exact ⟨response, _, traces', context, hok, hfirst⟩

end Ask

end KnowledgeCore
