import KnowledgeCore.Lineage.Drawn

/-!
# Lineages are well-formed

The nodes of a lineage have distinct ids, and every edge is between two of them. The second version
of the query keeps the lineage as it is, and adds to it the overlays of the document and the nodes
they are between. A query that goes deeper finds what one less deep does, and more.
-/

namespace KnowledgeCore

namespace Lineage

variable {faults : QueryFaults} {db : LineageSources} {seedDocId : String} {depth nowMs : Int64}

/-! ### Nodes under their ids -/

/-- Every node is under its own id. -/
def Keyed (nodesById : Table LineageNodeV1) : Prop :=
  ∀ (nodeId : String) node, nodesById[nodeId]? = some node → node.nodeId = nodeId

variable {nodesById : Table LineageNodeV1}

theorem Keyed.mem_sortNodes (h : Keyed nodesById) {node : LineageNodeV1} :
  node ∈ sortNodes nodesById ↔ nodesById[node.nodeId]? = some node
  := by
  rw [Lineage.mem_sortNodes]
  constructor
  · rintro ⟨nodeId, hnode⟩
    rwa [h nodeId node hnode]
  · intro hnode
    exact ⟨node.nodeId, hnode⟩

theorem Keyed.mem_ids (h : Keyed nodesById) {nodeId : String} :
  nodeId ∈ (sortNodes nodesById).map LineageNodeV1.nodeId ↔ nodeId ∈ nodesById
  := by
  rw [List.mem_map, Std.ExtTreeMap.mem_iff_isSome_getElem?, Option.isSome_iff_exists]
  constructor
  · rintro ⟨node, hmem, rfl⟩
    exact ⟨node, h.mem_sortNodes.mp hmem⟩
  · rintro ⟨node, hnode⟩
    obtain rfl := h nodeId node hnode
    exact ⟨node, h.mem_sortNodes.mpr hnode, rfl⟩

/-- What is listed under the ids has them each once. -/
theorem Keyed.nodup (h : Keyed nodesById) :
  ((sortNodes nodesById).map LineageNodeV1.nodeId).Nodup
  := by
  have hids : (nodesById.toList.map Prod.snd).map LineageNodeV1.nodeId
      = nodesById.toList.map Prod.fst := by
    rw [List.map_map]
    apply List.map_congr_left
    rintro ⟨nodeId, node⟩ hmem
    exact h nodeId node (Std.ExtTreeMap.mem_toList_iff_getElem?_eq_some.mp hmem)
  have hperm := (List.perm_insertionSort nodeOrder (nodesById.toList.map Prod.snd)).map
    LineageNodeV1.nodeId
  rw [sortNodes, hperm.nodup_iff, hids, List.Nodup, List.pairwise_map]
  apply Std.ExtTreeMap.distinct_keys_toList.imp
  rintro a b hne hsame
  rw [hsame] at hne
  exact hne Std.ReflCmp.compare_self

/-- The nodes are strictly ordered by their kinds and then by their ids. -/
theorem Keyed.ordered (h : Keyed nodesById) :
  (sortNodes nodesById).Pairwise fun a b => toLex (a.kind, a.nodeId) < toLex (b.kind, b.nodeId)
  := by
  have hsorted : (sortNodes nodesById).Pairwise nodeOrder := by
    have htotal : Std.Total nodeOrder :=
      Sorting.total_key fun node : LineageNodeV1 => toLex (node.kind, node.nodeId)
    have htrans : IsTrans LineageNodeV1 nodeOrder :=
      Sorting.isTrans_key fun node : LineageNodeV1 => toLex (node.kind, node.nodeId)
    exact List.pairwise_insertionSort nodeOrder _
  have hdistinct := List.pairwise_map.mp h.nodup
  apply (hsorted.and hdistinct).imp
  rintro a b ⟨hle, hne⟩
  apply lt_of_le_of_ne hle
  intro hsame
  exact hne (Prod.mk.inj (toLex.injective hsame)).2

/-- A graph as it is returned: the nodes have distinct ids and are ordered by their kinds and ids,
and the edges are between them. -/
structure WellFormed {E : Type} (ends : E → String × String) (nodes : List LineageNodeV1)
    (edges : List E) : Prop where
  ids : (nodes.map LineageNodeV1.nodeId).Nodup
  ordered : nodes.Pairwise fun a b => toLex (a.kind, a.nodeId) < toLex (b.kind, b.nodeId)
  closed : ∀ e ∈ edges, (ends e).1 ∈ nodes.map LineageNodeV1.nodeId
    ∧ (ends e).2 ∈ nodes.map LineageNodeV1.nodeId

/-- Nodes under their ids are well-formed with edges between them. -/
theorem Keyed.wellFormed {E : Type} {ends : E → String × String} {edges : List E}
    (h : Keyed nodesById)
    (hedges : ∀ e ∈ edges, (ends e).1 ∈ nodesById ∧ (ends e).2 ∈ nodesById) :
  WellFormed ends (sortNodes nodesById) edges
  := by
  use h.nodup, h.ordered
  intro e he
  exact (hedges e he).imp h.mem_ids.mpr h.mem_ids.mpr

/-! ### The first version -/

theorem keyed_of_drawn {Edge : EdgeKey → Prop} {g : LineageGraph}
    (h : Drawn db seedDocId Edge g) :
  Keyed g.nodes
  := by
  intro nodeId node hnode
  exact (h.labels nodeId node hnode).named.1

def LineageEdgeV1.ends (e : LineageEdgeV1) : String × String := (e.fromNodeId, e.toNodeId)
def LineageEdgeV2.ends (e : LineageEdgeV2) : String × String := (e.fromNodeId, e.toNodeId)

/-- What the first version returns: a well-formed graph whose edges are strictly ordered by their
fields. -/
structure WellFormedV1 (res : LineageQueryResV1) : Prop where
  graph : WellFormed LineageEdgeV1.ends res.nodes res.edges
  edges : res.edges.Pairwise fun a b => a.key < b.key

theorem wellFormedV1_of_drawn {Edge : EdgeKey → Prop} {g : LineageGraph}
    (h : Drawn db seedDocId Edge g) {res : LineageQueryResV1}
    (hnodes : res.nodes = sortNodes g.nodes)
    (hedges : res.edges = g.edges.toList.map EdgeKey.edge) :
  WellFormedV1 res
  := by
  constructor
  · rw [hnodes]
    apply (keyed_of_drawn h).wellFormed
    intro e he
    rw [hedges] at he
    obtain ⟨key, hkey, rfl⟩ := List.mem_map.mp he
    exact h.closed (Std.ExtTreeSet.mem_toList.mp hkey)
  · rw [hedges, List.pairwise_map]
    have hordered := Std.ExtTreeSet.ordered_toList (t := g.edges)
    exact hordered.imp compare_lt_iff_lt.mp

/-! ### The second version -/

/-- The overlays of a document. -/
def docOverlays (db : LineageSources) (docId : String) : List LineageOverlayEntryV1 :=
  (db.lineageOverlays.toList.filter fun overlay => overlay.2.docId = docId).map fun overlay =>
    LineageOverlayRow.entry overlay.1 overlay.2

theorem lineageOverlayList_eq_ok {docId : String} {overlays : List LineageOverlayEntryV1}
    (h : lineageOverlayList faults db docId = .ok overlays) :
  overlays.Perm (docOverlays db docId)
  := by
  obtain ⟨-, rfl⟩ := unlessFails_eq_ok.mp h
  apply (List.perm_insertionSort _ _).trans
  rw [docOverlays, ← List.filterMap_eq_map, List.filterMap_filter]
  apply List.Perm.of_eq
  apply List.filterMap_congr
  intro overlay _
  simp

/-- The ends of overlays. -/
def overlayEnds (overlays : List LineageOverlayEntryV1) : List String :=
  overlays.flatMap fun overlay => [overlay.fromNodeId, overlay.toNodeId]

theorem foldl_addOverlayNodes (overlays : List LineageOverlayEntryV1) :
  overlays.foldl addOverlayNodes nodesById = (overlayEnds overlays).foldl addOverlayNode nodesById
  := by
  rw [overlayEnds, List.foldl_flatMap]
  rfl

/-- After nodes are added for ids, an id has the node it had, or else one of its own. -/
theorem getElem?_addOverlayNodes {ids : List String} {nodeId : String} {node : LineageNodeV1} :
  (ids.foldl addOverlayNode nodesById)[nodeId]? = some node
    ↔ nodesById[nodeId]? = some node
      ∨ nodeId ∉ nodesById ∧ nodeId ∈ ids ∧ node = overlayNode nodeId
  := by
  induction ids generalizing nodesById with
  | nil => simp
  | cons id ids ih =>
    rw [List.foldl_cons, ih]
    simp only [addOverlayNode, Std.ExtTreeMap.getElem?_insertIfNew,
      Std.ExtTreeMap.mem_insertIfNew, Std.LawfulEqCmp.compare_eq_iff_eq, List.mem_cons]
    by_cases hmem : nodeId ∈ nodesById
    · have hold : ¬ (id = nodeId ∧ id ∉ nodesById) := fun h => h.2 (h.1 ▸ hmem)
      simp [hmem, hold]
    · by_cases hid : id = nodeId
      · subst hid
        simp [hmem, eq_comm]
      · simp [hmem, hid, Ne.symm hid]

/-- What the second version returns: a well-formed graph whose edges are ordered by their fields
and their origins. It has the nodes of the first version, and one for each end of an overlay that
is none of them; and the edges of the first version, and one for each overlay of the document. -/
structure Overlays (db : LineageSources) (seedDocId : String) (base : LineageQueryResV1)
    (res : LineageQueryResV2) : Prop where
  graph : WellFormed LineageEdgeV2.ends res.nodes res.edges
  ordered : res.edges.Pairwise fun a b => a.key ≤ b.key
  nodes : ∀ node, node ∈ res.nodes ↔ node ∈ base.nodes
    ∨ node.nodeId ∉ base.nodes.map LineageNodeV1.nodeId
      ∧ node.nodeId ∈ overlayEnds (docOverlays db seedDocId) ∧ node = overlayNode node.nodeId
  edges : res.edges.Perm (base.edges.map systemEdge ++ (docOverlays db seedDocId).map overlayEdge)

/-- The nodes that are returned, under their ids again. -/
theorem getElem?_insertNodes {nodes : List LineageNodeV1}
    (hids : (nodes.map LineageNodeV1.nodeId).Nodup)
    {nodeId : String} {node : LineageNodeV1} :
  (nodes.foldl (fun table n => table.insert n.nodeId n) nodesById)[nodeId]? = some node
    ↔ (node ∈ nodes ∧ node.nodeId = nodeId)
      ∨ nodeId ∉ nodes.map LineageNodeV1.nodeId ∧ nodesById[nodeId]? = some node
  := by
  induction nodes generalizing nodesById with
  | nil => simp
  | cons n nodes ih =>
    rw [List.map_cons, List.nodup_cons] at hids
    rw [List.foldl_cons, ih hids.2]
    simp only [Std.ExtTreeMap.getElem?_insert, Std.LawfulEqCmp.compare_eq_iff_eq, List.map_cons,
      List.mem_cons, not_or]
    by_cases hn : n.nodeId = nodeId
    · subst hn
      simp only [hids.1, if_true, Option.some.injEq, not_false_eq_true, true_and]
      constructor
      · rintro (⟨hmem, hsame⟩ | rfl)
        · exact Or.inl ⟨Or.inr hmem, hsame⟩
        · exact Or.inl ⟨Or.inl rfl, rfl⟩
      · rintro (⟨rfl | hmem, hsame⟩ | ⟨⟨hne, -⟩, -⟩)
        · exact Or.inr rfl
        · exact Or.inl ⟨hmem, hsame⟩
        · exact absurd trivial hne
    · simp only [if_neg hn, Ne.symm hn, not_false_eq_true, true_and]
      constructor
      · rintro (⟨hmem, hsame⟩ | hrest)
        · exact Or.inl ⟨Or.inr hmem, hsame⟩
        · exact Or.inr hrest
      · rintro (⟨rfl | hmem, hsame⟩ | hrest)
        · exact absurd hsame hn
        · exact Or.inl ⟨hmem, hsame⟩
        · exact Or.inr hrest

theorem overlayEdge_ends {overlays : List LineageOverlayEntryV1} {overlay : LineageOverlayEntryV1}
    (h : overlay ∈ overlays) :
  (overlayEdge overlay).ends.1 ∈ overlayEnds overlays
    ∧ (overlayEdge overlay).ends.2 ∈ overlayEnds overlays
  := by
  simp only [overlayEnds, List.mem_flatMap]
  exact ⟨⟨overlay, h, List.mem_cons_self⟩, ⟨overlay, h, by simp [LineageEdgeV2.ends, overlayEdge]⟩⟩

/-- The nodes of a graph under their ids. -/
def nodesUnderIds (nodes : List LineageNodeV1) : Table LineageNodeV1 :=
  nodes.foldl (fun table n => table.insert n.nodeId n) ∅

theorem getElem?_nodesUnderIds {nodes : List LineageNodeV1}
    (hids : (nodes.map LineageNodeV1.nodeId).Nodup) {nodeId : String} {node : LineageNodeV1} :
  (nodesUnderIds nodes)[nodeId]? = some node ↔ node ∈ nodes ∧ node.nodeId = nodeId
  := by
  rw [nodesUnderIds, getElem?_insertNodes hids]
  simp

theorem mem_nodesUnderIds {nodes : List LineageNodeV1}
    (hids : (nodes.map LineageNodeV1.nodeId).Nodup) {nodeId : String} :
  nodeId ∈ nodesUnderIds nodes ↔ nodeId ∈ nodes.map LineageNodeV1.nodeId
  := by
  rw [Std.ExtTreeMap.mem_iff_isSome_getElem?, Option.isSome_iff_exists, List.mem_map]
  simp only [getElem?_nodesUnderIds hids]

/-- Adding overlays to a well-formed graph. -/
theorem overlays_of_base {base : LineageQueryResV1} {res : LineageQueryResV2}
    {overlays : List LineageOverlayEntryV1} (hbase : WellFormedV1 base)
    (hoverlays : overlays.Perm (docOverlays db seedDocId))
    (hnodes : res.nodes = sortNodes (overlays.foldl addOverlayNodes (nodesUnderIds base.nodes)))
    (hedges : res.edges = (base.edges.map systemEdge ++ overlays.map overlayEdge).insertionSort
      fun a b => a.key ≤ b.key) :
  Overlays db seedDocId base res
  := by
  have hids := hbase.graph.ids
  have hsome (nodeId : String) (node : LineageNodeV1) :
      (overlays.foldl addOverlayNodes (nodesUnderIds base.nodes))[nodeId]? = some node
      ↔ (node ∈ base.nodes ∧ node.nodeId = nodeId)
        ∨ nodeId ∉ base.nodes.map LineageNodeV1.nodeId ∧ nodeId ∈ overlayEnds overlays
          ∧ node = overlayNode nodeId := by
    rw [foldl_addOverlayNodes, getElem?_addOverlayNodes, getElem?_nodesUnderIds hids,
      mem_nodesUnderIds hids]
  have hkeyed : Keyed (overlays.foldl addOverlayNodes (nodesUnderIds base.nodes)) := by
    intro nodeId node hnode
    obtain ⟨-, hsame⟩ | ⟨-, -, rfl⟩ := (hsome nodeId node).mp hnode
    · exact hsame
    · rfl
  have hmem (nodeId : String) (h : nodeId ∈ base.nodes.map LineageNodeV1.nodeId
      ∨ nodeId ∈ overlayEnds overlays) :
      nodeId ∈ overlays.foldl addOverlayNodes (nodesUnderIds base.nodes) := by
    rw [Std.ExtTreeMap.mem_iff_isSome_getElem?, Option.isSome_iff_exists]
    by_cases hthere : nodeId ∈ base.nodes.map LineageNodeV1.nodeId
    · obtain ⟨node, hnode, hsame⟩ := List.mem_map.mp hthere
      exact ⟨node, (hsome nodeId node).mpr (Or.inl ⟨hnode, hsame⟩)⟩
    · have hend := h.resolve_left hthere
      exact ⟨overlayNode nodeId, (hsome nodeId _).mpr (Or.inr ⟨hthere, hend, rfl⟩)⟩
  have hperm : res.edges.Perm (base.edges.map systemEdge ++ overlays.map overlayEdge) := by
    rw [hedges]
    exact List.perm_insertionSort _ _
  constructor
  · rw [hnodes]
    apply hkeyed.wellFormed
    intro e he
    obtain he | he := List.mem_append.mp (hperm.mem_iff.mp he)
    · obtain ⟨edge, hedge, rfl⟩ := List.mem_map.mp he
      have hclosed := hbase.graph.closed edge hedge
      exact ⟨hmem _ (Or.inl hclosed.1), hmem _ (Or.inl hclosed.2)⟩
    · obtain ⟨overlay, hoverlay, rfl⟩ := List.mem_map.mp he
      have hends := overlayEdge_ends hoverlay
      exact ⟨hmem _ (Or.inr hends.1), hmem _ (Or.inr hends.2)⟩
  · rw [hedges]
    have htotal : Std.Total fun a b : LineageEdgeV2 => a.key ≤ b.key := Sorting.total_key _
    have htrans : IsTrans LineageEdgeV2 fun a b => a.key ≤ b.key := Sorting.isTrans_key _
    exact List.pairwise_insertionSort _ _
  · intro node
    have hends : node.nodeId ∈ overlayEnds overlays
        ↔ node.nodeId ∈ overlayEnds (docOverlays db seedDocId) :=
      (hoverlays.flatMap_right _).mem_iff
    rw [hnodes, hkeyed.mem_sortNodes, hsome, hends, and_iff_left rfl]
  · exact hperm.trans ((hoverlays.map overlayEdge).append_left _)

/-! ### The queries -/

/-- What the second version has more than once it has among the overlays more than once. -/
theorem Overlays.nodup_iff {base : LineageQueryResV1} {res : LineageQueryResV2}
    (h : Overlays db seedDocId base res) (hbase : WellFormedV1 base) :
  res.edges.Nodup ↔ ((docOverlays db seedDocId).map overlayEdge).Nodup
  := by
  have hsystem : (base.edges.map systemEdge).Nodup := by
    apply List.Nodup.map
    · rintro ⟨⟩ ⟨⟩ hsame
      cases hsame
      rfl
    · apply hbase.edges.imp
      rintro a b hlt rfl
      exact lt_irrefl _ hlt
  rw [h.edges.nodup_iff, List.nodup_append, and_iff_right hsystem, and_iff_left]
  intro e he e' he'
  obtain ⟨edge, -, rfl⟩ := List.mem_map.mp he
  obtain ⟨overlay, -, rfl⟩ := List.mem_map.mp he'
  intro hsame
  have horigin : "system" = "overlay" := congrArg LineageEdgeV2.origin hsame
  exact absurd horigin (by decide)

theorem queryLineageV2_eq_ok {res : LineageQueryResV2}
    (h : queryLineageV2 faults db seedDocId depth nowMs = .ok res) :
  ∃ base overlays, queryLineage faults db seedDocId depth nowMs = .ok base
    ∧ lineageOverlayList faults db seedDocId = .ok overlays
    ∧ res.nodes = sortNodes (overlays.foldl addOverlayNodes (nodesUnderIds base.nodes))
    ∧ res.edges = (base.edges.map systemEdge ++ overlays.map overlayEdge).insertionSort
      fun a b => a.key ≤ b.key
  := by
  obtain ⟨base, hquery, h⟩ := AppResult.bind_eq_ok.mp h
  obtain ⟨overlays, hlist, h⟩ := AppResult.bind_eq_ok.mp h
  cases h
  exact ⟨base, overlays, hquery, hlist, rfl, rfl⟩

/-- Whatever the tables hold: where the second version returns so does the first, and both return
well-formed graphs. The second one has the nodes and edges of the first, one edge for each overlay
of the document, and the nodes these are between; and no edge twice unless overlays are alike. -/
theorem lineage_queries_wellFormed (faults : QueryFaults) (db : LineageSources)
    (seedDocId : String) (depth nowMs : Int64) (res : LineageQueryResV2)
    (h : queryLineageV2 faults db seedDocId depth nowMs = .ok res) :
  ∃ base, queryLineage faults db seedDocId depth nowMs = .ok base ∧ WellFormedV1 base
    ∧ Overlays db seedDocId base res
    ∧ (res.edges.Nodup ↔ ((docOverlays db seedDocId).map overlayEdge).Nodup)
  := by
  obtain ⟨base, overlays, hquery, hlist, hnodes₂, hedges₂⟩ := queryLineageV2_eq_ok h
  obtain ⟨-, g, hg, hnodes, hedges⟩ := queryLineage_eq_ok hquery
  have hbase := wellFormedV1_of_drawn (drawn_lineageGraph hg) hnodes hedges
  have hoverlays := overlays_of_base hbase (lineageOverlayList_eq_ok hlist) hnodes₂ hedges₂
  exact ⟨base, hquery, hbase, hoverlays, hoverlays.nodup_iff hbase⟩

theorem lineage_queries_wellFormed_document :
  ∃ res base, queryLineageV2 noQueryFaults Sample.lineageSources "document" 2 0 = .ok res
    ∧ queryLineage noQueryFaults Sample.lineageSources "document" 2 0 = .ok base
    ∧ WellFormedV1 base ∧ Overlays Sample.lineageSources "document" base res
  := by
  obtain ⟨res, hres⟩ := exists_of_isOk
    (show (queryLineageV2 noQueryFaults Sample.lineageSources "document" 2 0).isOk = true by
      decide +kernel)
  obtain ⟨base, hbase, hformed, hoverlays, -⟩ := lineage_queries_wellFormed noQueryFaults
    Sample.lineageSources "document" 2 0 res hres
  exact ⟨res, base, hres, hbase, hformed, hoverlays⟩

/-! ### Depths -/

variable {depth' : Int64}

/-- A chain that is followed to its end or to a number of events is followed to any lesser one. -/
theorem chainLoop_isOk {left left' : Nat} {event : EventRecord} {g g' x' : LineageGraph}
    (hle : left ≤ left') (h : chainLoop faults db left' event g' = .ok x') :
  ∃ x, chainLoop faults db left event g = .ok x
  := by
  induction left generalizing left' event g g' with
  | zero => exact ⟨g, rfl⟩
  | succ left ih =>
    cases left' with
    | zero => exact absurd hle (Nat.not_succ_le_zero left)
    | succ left' =>
      rw [chainLoop] at h ⊢
      cases hprev : event.prevEventHash with
      | none => exact ⟨g, rfl⟩
      | some prevHash =>
        rw [hprev] at h
        obtain ⟨found, hfound, h⟩ := AppResult.bind_eq_ok.mp h
        dsimp only
        rw [hfound, AppResult.ok_bind]
        cases found with
        | none => exact ⟨g, rfl⟩
        | some prev => exact ih (Nat.le_of_succ_le_succ hle) h

theorem appendEventChain_isOk {eventId : Int64} {g g' x' : LineageGraph} (hle : depth ≤ depth')
    (h : appendEventChain faults db eventId depth' g' = .ok x') :
  ∃ x, appendEventChain faults db eventId depth g = .ok x
  := by
  rw [appendEventChain] at h ⊢
  have hint := Int64.le_iff_toInt_le.mp hle
  split_ifs with hdepth
  · exact ⟨g, rfl⟩
  · have hdepth' : ¬ depth' ≤ 1 := by
      rw [Int64.le_iff_toInt_le] at hdepth ⊢
      omega
    rw [if_neg hdepth'] at h
    obtain ⟨found, hfound, h⟩ := AppResult.bind_eq_ok.mp h
    rw [hfound, AppResult.ok_bind]
    cases found with
    | none => exact ⟨g, rfl⟩
    | some event =>
      apply chainLoop_isOk _ h
      omega

theorem addRecordingEvent_isOk {nodeId relation evidence : String} {eventId : Int64}
    {g g' x' : LineageGraph} (hle : depth ≤ depth')
    (h : addRecordingEvent faults db nodeId relation evidence eventId depth' g' = .ok x') :
  ∃ x, addRecordingEvent faults db nodeId relation evidence eventId depth g = .ok x
  := by
  obtain ⟨found, hfound, h⟩ := AppResult.bind_eq_ok.mp h
  rw [addRecordingEvent, hfound, AppResult.ok_bind]
  cases found with
  | none => exact ⟨g, rfl⟩
  | some event => exact appendEventChain_isOk hle h

theorem addCanonical_isOk {g g' x' : LineageGraph} (hle : depth ≤ depth')
    (h : addCanonical faults db seedDocId depth' g' = .ok x') :
  ∃ x, addCanonical faults db seedDocId depth g = .ok x
  := by
  obtain ⟨row, hrow, h⟩ := AppResult.bind_eq_ok.mp h
  rw [addCanonical, hrow, AppResult.ok_bind]
  cases row with
  | none => exact ⟨g, rfl⟩
  | some text => exact addRecordingEvent_isOk hle h

theorem lineageGraph_isOk {g' : LineageGraph} (hle : depth ≤ depth')
    (h : lineageGraph faults db seedDocId depth' = .ok g') :
  ∃ g, lineageGraph faults db seedDocId depth = .ok g
  := by
  obtain ⟨row, hrow, h⟩ := AppResult.bind_eq_ok.mp h
  obtain ⟨doc, hdoc, h⟩ := AppResult.bind_eq_ok.mp h
  obtain ⟨sources, hsources, h⟩ := AppResult.bind_eq_ok.mp h
  obtain ⟨g₁, hcanonical, h⟩ := AppResult.bind_eq_ok.mp h
  obtain ⟨chunks, hchunks, h⟩ := AppResult.bind_eq_ok.mp h
  obtain ⟨g₂, hcanonical₂⟩ := addCanonical_isOk
    (g := sources.foldl (addSource seedDocId) (seedGraph seedDocId doc)) hle hcanonical
  rw [lineageGraph, hrow, AppResult.ok_bind, hdoc, AppResult.ok_bind, hsources, AppResult.ok_bind]
  dsimp only
  rw [hcanonical₂, AppResult.ok_bind, hchunks, AppResult.ok_bind]
  exact addRecordingEvent_isOk hle h

theorem ChainEdge.mono {event : EventRecord} {left left' : Nat} {e : EdgeKey}
    (h : ChainEdge db event left e) (hle : left ≤ left') :
  ChainEdge db event left' e
  := by
  obtain ⟨n, earlier, prevHash, prev, hn, hrest⟩ := h
  exact ⟨n, earlier, prevHash, prev, hn.trans_le hle, hrest⟩

theorem RecordingEdge.mono {nodeId relation evidence : String} {eventId : Int64} {e : EdgeKey}
    (h : RecordingEdge db nodeId relation evidence eventId depth e) (hle : depth ≤ depth') :
  RecordingEdge db nodeId relation evidence eventId depth' e
  := by
  obtain ⟨event, hevent, hedge⟩ := h
  use event, hevent
  apply hedge.imp_right
  intro hchain
  have hint := Int64.le_iff_toInt_le.mp hle
  exact hchain.mono (by omega)

/-- A lineage up to a depth is a part of one up to a greater depth. -/
theorem LineageEdge.mono {e : EdgeKey} (h : LineageEdge db seedDocId depth e)
    (hle : depth ≤ depth') :
  LineageEdge db seedDocId depth' e
  := by
  cases h with
  | original hdoc => exact .original hdoc
  | source hmem => exact .source hmem
  | canonical htext => exact .canonical htext
  | stored htext => exact .stored htext
  | created htext hcreated => exact .created htext (hcreated.mono hle)
  | chunk hchunk hsame => exact .chunk hchunk hsame
  | ingested hingested => exact .ingested (hingested.mono hle)

/-- What a result has, another one has unchanged. -/
structure PartOf (res res' : LineageQueryResV1) : Prop where
  nodes : ∀ node ∈ res.nodes, node ∈ res'.nodes
  edges : ∀ e ∈ res.edges, e ∈ res'.edges

/-- Where a query returns, one that goes less deep returns too, and finds nothing that the deeper
one does not find, with the same in every node. -/
theorem deeper_query_finds_more (faults : QueryFaults) (db : LineageSources) (seedDocId : String)
    (depth depth' nowMs : Int64) (res' : LineageQueryResV1) (hdepth : 0 < depth)
    (hle : depth ≤ depth') (h : queryLineage faults db seedDocId depth' nowMs = .ok res') :
  ∃ res, queryLineage faults db seedDocId depth nowMs = .ok res ∧ PartOf res res'
  := by
  obtain ⟨-, g', hg', -⟩ := queryLineage_eq_ok h
  obtain ⟨g, hg⟩ := lineageGraph_isOk hle hg'
  have hquery : ∃ res, queryLineage faults db seedDocId depth nowMs = .ok res := by
    rw [queryLineage, if_neg (Int64.not_le.mpr hdepth), hg]
    exact ⟨_, rfl⟩
  obtain ⟨res, hres⟩ := hquery
  have hshallow := isLineage_of_ok hres
  have hdeep := isLineage_of_ok h
  refine ⟨res, hres, ?_, ?_⟩
  · intro node hnode
    obtain ⟨hthere, hdescribes⟩ := (hshallow.nodes node).mp hnode
    apply (hdeep.nodes node).mpr
    refine ⟨hthere.imp_right ?_, hdescribes⟩
    rintro ⟨e, hedge, hends⟩
    exact ⟨e, hedge.mono hle, hends⟩
  · intro e he
    exact (hdeep.edges e).mpr (((hshallow.edges e).mp he).mono hle)

theorem deeper_query_finds_more_document :
  ∃ res res', queryLineage noQueryFaults Sample.lineageSources "document" 2 0 = .ok res'
    ∧ queryLineage noQueryFaults Sample.lineageSources "document" 1 0 = .ok res
    ∧ PartOf res res'
  := by
  obtain ⟨res', hres'⟩ := exists_of_isOk Sample.lineageSources_returns
  obtain ⟨res, hres, hpart⟩ := deeper_query_finds_more noQueryFaults Sample.lineageSources
    "document" 1 2 0 res' (by decide) (by decide) hres'
  exact ⟨res, res', hres', hres, hpart⟩

end Lineage

end KnowledgeCore
