import Automation.Proofs.Graph.Nodes

/-!
# An assembled workflow is one path

Connections are kept by the names of their sources, so two nodes with one name would share what they
lead to. As names are distinct, each edge of an assembled workflow has an entry to itself: a node
leads to the node of the next step and to no other one, and the last node leads nowhere. Following
the connections from the first node therefore meets every node once, in the order of the steps.

Main statement: `isPath_assemble`.
-/

namespace Automation

/-- The connections of a node that leads to one node only, through one lane of one channel. -/
def NodeConnections.single (channel : Channel) (target : Text) : NodeConnections :=
  match channel with
  | .main => { main := some [[{ node := target, type := "main", index := 0 }]], error := none }
  | .error => { main := none, error := some [[{ node := target, type := "main", index := 0 }]] }

@[simp] theorem NodeConnections.targets_single (channel : Channel) (target : Text) :
    (single channel target).targets = [target] := by
  cases channel <;> rfl

/-- A key that stands once in a table is looked up where it stands. -/
theorem lookup_eq_some_of_mem {α : Type} {table : List (Text × α)} {key : Text} {value : α}
    (hnodup : (table.map Prod.fst).Nodup) (h : (key, value) ∈ table) : table.lookup key = some value := by
  induction table with
  | nil => cases h
  | cons entry rest ih =>
    obtain ⟨k, v⟩ := entry
    rw [List.map_cons, List.nodup_cons] at hnodup
    rcases List.mem_cons.1 h with heq | hrest
    · obtain ⟨rfl, rfl⟩ := Prod.mk.inj heq
      simp
    · have hne : (key == k) = false :=
        beq_eq_false_iff_ne.2 fun e => hnodup.1 (List.mem_map.2 ⟨(key, value), hrest, e⟩)
      rw [List.lookup_cons, hne]
      exact ih hnodup.2 hrest

namespace Wiring

/-- The entry of an edge whose source has no other one. -/
def entry (edge : Edge) : Text × NodeConnections :=
  (edge.source, .single edge.channel edge.target)

theorem extend_empty (target : Text) (channel : Channel) :
    extend {} target channel = .single channel target := by
  cases channel <;> rfl

theorem link_of_not_mem {connections : Connections} {edge : Edge}
    (h : edge.source ∉ connections.map Prod.fst) : link connections edge = connections ++ [entry edge] := by
  induction connections with
  | nil => rw [link, extend_empty]; rfl
  | cons first rest ih =>
    obtain ⟨source, c⟩ := first
    rw [List.map_cons, List.mem_cons, not_or] at h
    rw [link, if_neg (Ne.symm h.1), ih h.2]
    rfl

theorem foldl_link {edges : List Edge} {connections : Connections}
    (h : (connections.map Prod.fst ++ edges.map Edge.source).Nodup) :
    edges.foldl link connections = connections ++ edges.map entry := by
  induction edges generalizing connections with
  | nil => simp
  | cons edge rest ih =>
    have hnew : edge.source ∉ connections.map Prod.fst := fun hmem =>
      (List.nodup_append.1 h).2.2 _ hmem _ (by simp) rfl
    rw [List.foldl_cons, link_of_not_mem hnew, ih (by simpa [entry] using h)]
    simp

/-- Edges with distinct sources have an entry each. -/
theorem ofEdges_of_nodup {edges : List Edge} (h : (edges.map Edge.source).Nodup) :
    ofEdges edges = edges.map entry := by
  rw [ofEdges, foldl_link (by simpa using h), List.nil_append]

variable {steps : List Step} {names : List Text}

/-- A name for each step, which a single step can do without. -/
def Named (steps : List Step) (names : List Text) : Prop :=
  steps.length ≤ names.length ∨ steps.length ≤ 1

theorem named_of_length_eq (h : names.length = steps.length) : Named steps names :=
  .inl (Nat.le_of_eq h.symm)

/-- With a name for each step there are names at both ends of an edge. -/
theorem lt_of_named {i : Nat} (h : Named steps names) (hi : i < steps.length - 1) : i + 1 < names.length := by
  rcases h with h | h <;> omega

theorem length_edges_of_named (h : Named steps names) : (edges steps names).length = steps.length - 1 := by
  simp only [edges, List.length_zipWith, List.length_zip, List.length_drop]
  rcases h with h | h <;> omega

theorem getElem_edges {i : Nat} (h : i < (edges steps names).length) (hn : i + 1 < names.length)
    (hs : i + 1 < steps.length) :
    (edges steps names)[i] = ⟨names[i], channelTo steps[i + 1], names[i + 1]⟩ := by
  simp [edges]

theorem map_source_edges_of_named (h : Named steps names) :
    (edges steps names).map Edge.source = names.take (steps.length - 1) := by
  have hlength := length_edges_of_named h
  refine List.ext_getElem ?_ fun i hi _ => ?_
  · rw [List.length_map, List.length_take, hlength]
    rcases h with h | h <;> omega
  · rw [List.length_map, hlength] at hi
    rw [List.getElem_map, getElem_edges _ (lt_of_named h hi) (by omega), List.getElem_take]

theorem map_target_edges_of_named (h : Named steps names) :
    (edges steps names).map Edge.target = (names.take steps.length).drop 1 := by
  have hlength := length_edges_of_named h
  refine List.ext_getElem ?_ fun i hi _ => ?_
  · rw [List.length_map, List.length_drop, List.length_take, hlength]
    rcases h with h | h <;> omega
  · rw [List.length_map, hlength] at hi
    rw [List.getElem_map, getElem_edges _ (lt_of_named h hi) (by omega), List.getElem_drop, List.getElem_take]
    simp only [Nat.add_comm]

theorem length_edges (h : names.length = steps.length) : (edges steps names).length = steps.length - 1 :=
  length_edges_of_named (named_of_length_eq h)

theorem map_source_edges (h : names.length = steps.length) :
    (edges steps names).map Edge.source = names.dropLast := by
  rw [map_source_edges_of_named (named_of_length_eq h), ← h, List.dropLast_eq_take]

theorem map_target_edges (h : names.length = steps.length) :
    (edges steps names).map Edge.target = names.tail := by
  rw [map_target_edges_of_named (named_of_length_eq h), ← h, List.take_length, List.drop_one]

theorem nodup_source_edges (h : names.length = steps.length) (hnodup : names.Nodup) :
    ((edges steps names).map Edge.source).Nodup := by
  rw [map_source_edges h]
  exact (List.dropLast_sublist names).nodup hnodup

end Wiring

namespace WorkflowGraph

/-- The names of the nodes that a node leads to. -/
def successors (g : WorkflowGraph) (name : Text) : List Text :=
  ((g.connections.lookup name).map NodeConnections.targets).getD []

/-- The names that are met from a given one on when all connections are followed, up to a number of
steps. -/
def follow (g : WorkflowGraph) : Nat → Text → List Text
  | 0, _ => []
  | bound + 1, name => name :: (g.successors name).flatMap (g.follow bound)

/-- Following a chain of names, each of which leads to the next one only, gives back the chain. -/
theorem follow_of_isChain {g : WorkflowGraph} {name : Text} {rest : List Text} {bound : Nat}
    (hchain : (name :: rest).IsChain fun a b => g.successors a = [b])
    (hlast : g.successors ((name :: rest).getLast (List.cons_ne_nil _ _)) = [])
    (hbound : rest.length < bound) : g.follow bound name = name :: rest := by
  induction rest generalizing name bound with
  | nil =>
    obtain ⟨bound, rfl⟩ := Nat.exists_eq_add_of_lt hbound
    rw [List.getLast_singleton] at hlast
    rw [follow, hlast]
    rfl
  | cons next rest ih =>
    obtain ⟨bound, rfl⟩ := Nat.exists_eq_add_of_lt hbound
    rw [List.isChain_cons_cons] at hchain
    rw [List.getLast_cons (List.cons_ne_nil _ _)] at hlast
    rw [follow, hchain.1, List.flatMap_singleton, ih hchain.2 hlast (by simp; omega)]

/-- A workflow whose nodes are those of some steps, and whose connections are one path through all
of them in the order of the steps. -/
structure IsPath (g : WorkflowGraph) (steps : List Step) : Prop where
  /-- There is one node per step. -/
  length_nodes : g.nodes.length = steps.length
  /-- No two nodes have one name. -/
  nodup_names : (g.nodes.map GraphNode.name).Nodup
  /-- A node leads to the next one only, through one lane: on the channel for errors if that is the
  node of an error handler, and on the main channel otherwise. -/
  link : ∀ i (hs : i + 1 < steps.length) (hg : i + 1 < g.nodes.length),
    g.connections.lookup g.nodes[i].name =
      some (.single (if steps[i + 1].isErrorHandler then .error else .main) g.nodes[i + 1].name)
  /-- The last node has no entry. -/
  last : ∀ i (hg : i < g.nodes.length), i + 1 = steps.length → g.connections.lookup g.nodes[i].name = none
  /-- There is one entry per node but the last. -/
  length_connections : g.connections.length = steps.length - 1
  /-- No two entries have one source. -/
  nodup_sources : (g.connections.map Prod.fst).Nodup
  /-- Following the connections from the first node meets every node once, in order, and then ends. -/
  follow : ∀ first ∈ g.nodes.head?, ∀ bound ≥ g.nodes.length,
    g.follow bound first.name = g.nodes.map GraphNode.name

end WorkflowGraph

namespace Assembler

variable (a : Assembler) (steps : List Step) (task : Text)

theorem connections_assemble :
    (a.assemble steps task).connections = (Wiring.edges steps (a.names steps)).map Wiring.entry :=
  Wiring.ofEdges_of_nodup (Wiring.nodup_source_edges (a.length_names steps) (a.nodup_names steps))

theorem map_fst_connections :
    (a.assemble steps task).connections.map Prod.fst = (a.names steps).dropLast := by
  rw [connections_assemble, List.map_map, ← Wiring.map_source_edges (a.length_names steps)]
  rfl

/-- What the node at a place leads to. -/
theorem lookup_connections {i : Nat} (hs : i + 1 < steps.length) (hn : i + 1 < (a.names steps).length) :
    (a.assemble steps task).connections.lookup (a.names steps)[i] =
      some (.single (Wiring.channelTo steps[i + 1]) (a.names steps)[i + 1]) := by
  have hlength := Wiring.length_edges (a.length_names steps)
  refine lookup_eq_some_of_mem ?_ ?_
  · rw [map_fst_connections]
    exact (List.dropLast_sublist _).nodup (a.nodup_names steps)
  · rw [connections_assemble, List.mem_map]
    have hi : i < (Wiring.edges steps (a.names steps)).length := by omega
    refine ⟨_, List.getElem_mem hi, ?_⟩
    rw [Wiring.getElem_edges hi hn hs, Wiring.entry]

/-- The last node leads nowhere. -/
theorem lookup_connections_last {i : Nat} (hs : i + 1 = steps.length) (hn : i < (a.names steps).length) :
    (a.assemble steps task).connections.lookup (a.names steps)[i] = none := by
  have hlast : (a.names steps)[i] ∉ (a.names steps).dropLast := by
    intro hmem
    obtain ⟨j, hj, heq⟩ := List.mem_iff_getElem.1 hmem
    rw [List.getElem_dropLast] at heq
    have hji : j = i := (List.Nodup.getElem_inj_iff (a.nodup_names steps)).1 heq
    rw [List.length_dropLast, a.length_names] at hj
    omega
  rw [List.lookup_eq_none_iff]
  intro entry hentry
  rw [← map_fst_connections a steps task] at hlast
  exact bne_iff_ne.2 fun e => hlast (e ▸ List.mem_map_of_mem hentry)

/-- The names of the nodes are a chain, in which each name leads to the next one only. -/
theorem isChain_names :
    (a.names steps).IsChain fun x y => (a.assemble steps task).successors x = [y] := by
  rw [List.isChain_iff_getElem]
  intro i hn
  have hs : i + 1 < steps.length := by simpa using hn
  rw [WorkflowGraph.successors, a.lookup_connections steps task hs hn, Option.map_some,
    NodeConnections.targets_single, Option.getD_some]

/-- Following the connections from the first node meets all nodes in order, and no node twice. -/
theorem follow_assemble {name : Text} {rest : List Text} {bound : Nat} (h : a.names steps = name :: rest)
    (hbound : rest.length < bound) : (a.assemble steps task).follow bound name = a.names steps := by
  have hlength : steps.length = rest.length + 1 := by rw [← a.length_names steps, h, List.length_cons]
  have hchain := a.isChain_names steps task
  have hlast : (a.assemble steps task).successors ((name :: rest).getLast (List.cons_ne_nil _ _)) = [] := by
    simp only [← h, List.getLast_eq_getElem]
    rw [WorkflowGraph.successors, a.lookup_connections_last steps task (by simp; omega) (by simp; omega),
      Option.map_none, Option.getD_none]
  rw [h] at hchain ⊢
  exact WorkflowGraph.follow_of_isChain hchain hlast hbound

/-- **Assembly gives one path**: the connections of an assembled workflow lead through all nodes in
the order of the steps, from each node to the next one only, and on the channel for errors exactly
to the error handlers. -/
theorem isPath_assemble : (a.assemble steps task).IsPath steps := by
  refine ⟨a.length_nodes steps task, ?_, ?_, ?_, ?_, ?_, ?_⟩
  · rw [a.map_name_nodes]
    exact a.nodup_names steps
  · intro i hs hg
    have hn : i + 1 < (a.names steps).length := by simpa using hs
    rw [a.name_getElem_nodes steps task (by omega) (by omega), a.name_getElem_nodes steps task hg hn,
      a.lookup_connections steps task hs hn, Wiring.channelTo]
  · intro i hg hi
    have hn : i < (a.names steps).length := by simpa using hg
    rw [a.name_getElem_nodes steps task hg hn, a.lookup_connections_last steps task hi hn]
  · rw [a.connections_assemble, List.length_map, Wiring.length_edges (a.length_names steps)]
  · rw [a.map_fst_connections]
    exact (List.dropLast_sublist _).nodup (a.nodup_names steps)
  · intro first hfirst bound hbound
    obtain ⟨rest, hnodes⟩ := List.head?_eq_some_iff.1 hfirst
    have hnames : a.names steps = first.name :: rest.map GraphNode.name := by
      rw [← a.map_name_nodes steps task, hnodes, List.map_cons]
    rw [a.map_name_nodes, a.follow_assemble steps task hnames]
    rw [hnodes, List.length_cons] at hbound
    rw [List.length_map]
    omega

end Assembler

end Automation
