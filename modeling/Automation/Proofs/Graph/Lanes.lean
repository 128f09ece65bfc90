import Automation.Proofs.Graph.Path
import Automation.Proofs.Sequence
import Mathlib.Data.List.Induction

/-!
# The edges of a wiring

The connections of some steps are kept by the names of their sources, and names need not be distinct: steps
with one name share an entry, and on each channel they share a lane. No edge gets lost by that. A lane lists
all steps that follow a step with its name on its channel, in their order, and there is nothing else.

The edges are added one by one, so everything is told of connections with one more edge (`ofEdges_concat`):
its target comes at the end of one lane, all other lanes stay (`lanes_link`), and its source is a new one or
not (`map_fst_link`).

Main statement: `keepsEdges_wire?`.
-/

namespace Automation

/-- The lanes of a node on a channel. -/
def NodeConnections.on (c : NodeConnections) : Channel → Option Lanes
  | .main => c.main
  | .error => c.error

namespace Connections

/-- The lanes that are kept for a name on a channel. -/
def lanes (connections : Connections) (source : Text) (channel : Channel) : Option Lanes :=
  (connections.lookup source).bind fun c => c.on channel

/-- The names of all nodes that are reached from any source. -/
def targets (connections : Connections) : List Text :=
  connections.flatMap fun entry => entry.2.targets

end Connections

namespace Wiring

variable {steps : List Step} {names : List Text} {source : Text} {channel : Channel} {i : Nat}

/-! ### Lanes -/

/-- The lanes of a channel that leads to some nodes: a single one, or none if there are no nodes. -/
def lanesTo : List Text → Option Lanes
  | [] => none
  | targets => some [targets.map fun target => { node := target }]

theorem addToLanes_lanesTo (target : Text) (targets : List Text) :
    some (addToLanes target (lanesTo targets)) = lanesTo (targets ++ [target]) := by
  cases targets with
  | nil => rfl
  | cons first rest => simp [lanesTo, addToLanes]

theorem lanesTo_eq_none_iff {targets : List Text} : lanesTo targets = none ↔ targets = [] := by
  cases targets <;> simp [lanesTo]

theorem on_extend (c : NodeConnections) (target : Text) (channel other : Channel) :
    (extend c target channel).on other = if channel = other then some (addToLanes target (c.on other)) else c.on other := by
  cases channel <;> cases other <;> rfl

/-- Adding a target to the lanes of a channel adds it to what they hold. -/
theorem perm_flatten_addToLanes (target : Text) (lanes : Option Lanes) :
    (addToLanes target lanes).flatten.Perm ({ node := target } :: (lanes.getD []).flatten) := by
  rcases lanes with _ | _ | ⟨lane, rest⟩
  · exact .refl _
  · exact .refl _
  · rw [addToLanes, List.flatten_cons, List.append_assoc]
    exact List.perm_middle

theorem perm_targets_extend (c : NodeConnections) (target : Text) (channel : Channel) :
    (extend c target channel).targets.Perm (target :: c.targets) := by
  have hadd : (extend c target channel).targets.Perm
      (({ node := target } :: (c.main.getD [] ++ c.error.getD []).flatten : List ConnectionTarget).map
        ConnectionTarget.node) := by
    refine List.Perm.map _ ?_
    cases channel with
    | main =>
      simp only [extend, List.flatten_append, Option.getD_some]
      exact (perm_flatten_addToLanes target c.main).append_right _
    | error =>
      simp only [extend, List.flatten_append, Option.getD_some]
      exact ((perm_flatten_addToLanes target c.error).append_left _).trans List.perm_middle
  exact hadd

/-! ### One more edge -/

theorem lookup_link (connections : Connections) (edge : Edge) (source : Text) :
    (link connections edge).lookup source =
      if source = edge.source then some (extend ((connections.lookup source).getD {}) edge.target edge.channel)
      else connections.lookup source := by
  induction connections with
  | nil =>
    rw [link, List.lookup_cons]
    by_cases h : source = edge.source
    · simp [h]
    · simp [h, beq_false_of_ne h]
  | cons entry rest ih =>
    obtain ⟨name, c⟩ := entry
    rw [link]
    by_cases hname : name = edge.source
    · rw [if_pos hname, List.lookup_cons, List.lookup_cons, hname]
      by_cases h : source = edge.source
      · simp [h]
      · simp [h, beq_false_of_ne h]
    · rw [if_neg hname, List.lookup_cons, List.lookup_cons, ih]
      by_cases h : source = name
      · simp [h, hname]
      · simp [beq_false_of_ne h]

/-- A source without an entry has no lanes. -/
theorem on_getD (c : Option NodeConnections) (channel : Channel) :
    (c.getD {}).on channel = c.bind fun c => c.on channel := by
  cases c with
  | none => cases channel <;> rfl
  | some c => rfl

/-- An edge adds its target to one lane and leaves all others. -/
theorem lanes_link (connections : Connections) (edge : Edge) (source : Text) (channel : Channel) :
    (link connections edge).lanes source channel =
      if source = edge.source ∧ edge.channel = channel then
        some (addToLanes edge.target (connections.lanes source channel))
      else connections.lanes source channel := by
  rw [Connections.lanes, Connections.lanes, lookup_link]
  by_cases hsource : source = edge.source
  · rw [if_pos hsource, Option.bind_some, on_extend, on_getD]
    simp only [hsource, true_and]
  · rw [if_neg hsource, if_neg fun h => hsource h.1]

/-- A source is listed when it gets its first edge. -/
theorem map_fst_link (connections : Connections) (edge : Edge) :
    (link connections edge).map Prod.fst =
      if edge.source ∈ connections.map Prod.fst then connections.map Prod.fst
      else connections.map Prod.fst ++ [edge.source] := by
  induction connections with
  | nil => rfl
  | cons entry rest ih =>
    obtain ⟨name, c⟩ := entry
    rw [link]
    by_cases hname : name = edge.source
    · simp [hname]
    · rw [if_neg hname, List.map_cons, ih]
      by_cases hmem : edge.source ∈ rest.map Prod.fst <;> simp [hmem, Ne.symm hname]

theorem perm_targets_link (connections : Connections) (edge : Edge) :
    (link connections edge).targets.Perm (edge.target :: connections.targets) := by
  induction connections with
  | nil =>
    exact (perm_targets_extend {} edge.target edge.channel).append_right []
  | cons entry rest ih =>
    obtain ⟨name, c⟩ := entry
    rw [link]
    split
    · exact (perm_targets_extend c edge.target edge.channel).append_right _
    · exact (ih.append_left c.targets).trans List.perm_middle

/-! ### All edges -/

theorem ofEdges_concat (edges : List Edge) (edge : Edge) : ofEdges (edges ++ [edge]) = link (ofEdges edges) edge :=
  List.foldl_concat ..

/-- The target of an edge, if it starts from a name on a channel. -/
def targetOn? (source : Text) (channel : Channel) (edge : Edge) : Option Text :=
  if source = edge.source ∧ edge.channel = channel then some edge.target else none

/-- The targets of the edges that start from a name on a channel. -/
def targetsOn (edges : List Edge) (source : Text) (channel : Channel) : List Text :=
  edges.filterMap (targetOn? source channel)

theorem targetsOn_concat (edges : List Edge) (edge : Edge) (source : Text) (channel : Channel) :
    targetsOn (edges ++ [edge]) source channel =
      if source = edge.source ∧ edge.channel = channel then targetsOn edges source channel ++ [edge.target]
      else targetsOn edges source channel := by
  rw [targetsOn, List.filterMap_append]
  by_cases h : source = edge.source ∧ edge.channel = channel <;> simp [targetsOn, targetOn?, h]

/-- A lane lists the targets of all edges that start from its source on its channel. -/
theorem lanes_ofEdges (edges : List Edge) (source : Text) (channel : Channel) :
    (ofEdges edges).lanes source channel = lanesTo (targetsOn edges source channel) := by
  induction edges using List.reverseRecOn with
  | nil => rfl
  | append_singleton edges edge ih =>
    rw [ofEdges_concat, lanes_link, targetsOn_concat, ih]
    split
    · exact addToLanes_lanesTo ..
    · rfl

/-- The sources are those of the edges, in the order of their first edges. -/
theorem map_fst_ofEdges (edges : List Edge) :
    (ofEdges edges).map Prod.fst = (edges.map Edge.source).eraseDups := by
  induction edges using List.reverseRecOn with
  | nil => rfl
  | append_singleton edges edge ih =>
    rw [ofEdges_concat, map_fst_link, ih, List.map_append, List.eraseDups_append]
    by_cases h : edge.source ∈ edges.map Edge.source
    · have hold : [edge.source].removeAll (edges.map Edge.source) = [] := by
        simpa [List.removeAll] using h
      rw [if_pos (List.mem_eraseDups.2 h), List.map_singleton, hold, List.eraseDups_nil, List.append_nil]
    · have hnew : [edge.source].removeAll (edges.map Edge.source) = [edge.source] := by
        simpa [List.removeAll] using h
      rw [if_neg fun hmem => h (List.mem_eraseDups.1 hmem), List.map_singleton, hnew]
      rfl

/-- A name has no entry exactly if no edge starts from it. -/
theorem lookup_ofEdges_eq_none_iff {edges : List Edge} :
    (ofEdges edges).lookup source = none ↔ ∀ channel, targetsOn edges source channel = [] := by
  constructor
  · intro h channel
    rw [← lanesTo_eq_none_iff, ← lanes_ofEdges, Connections.lanes, h, Option.bind_none]
  · intro h
    rw [List.lookup_eq_none_iff]
    intro entry hentry
    have hsource : entry.1 ∈ edges.map Edge.source := by
      rw [← List.mem_eraseDups, ← map_fst_ofEdges]
      exact List.mem_map_of_mem hentry
    obtain ⟨edge, hedge, hstart⟩ := List.mem_map.1 hsource
    refine bne_iff_ne.2 fun heq => ?_
    have hmem : edge.target ∈ targetsOn edges source edge.channel :=
      List.mem_filterMap.2 ⟨edge, hedge, if_pos ⟨heq.trans hstart.symm, rfl⟩⟩
    rw [h] at hmem
    cases hmem

/-- No edge is lost and none is added. -/
theorem perm_targets_ofEdges (edges : List Edge) : (ofEdges edges).targets.Perm (edges.map Edge.target) := by
  induction edges using List.reverseRecOn with
  | nil => exact .refl _
  | append_singleton edges edge ih =>
    rw [ofEdges_concat, List.map_append]
    exact ((perm_targets_link _ edge).trans (ih.cons _)).trans (List.perm_append_singleton ..).symm

/-! ### From step to step -/

/-- The edge from a step to the next one; nothing if one of them has no name. -/
def edge? (steps : List Step) (names : List Text) (i : Nat) : Option Edge := do
  let next ← steps[i + 1]?
  let source ← names[i]?
  let target ← names[i + 1]?
  return ⟨source, channelTo next, target⟩

/-- The walk over some steps that adds the edge from each step to the next one. -/
def walk? (steps : List Step) (names : List Text) : Option Connections :=
  (List.range (steps.length - 1)).foldlM (fun connections i => (edge? steps names i).map (link connections)) []

/-- A step with a name leads to the next one through a channel: the one for errors exactly if that is an
error handler. -/
def Leads (steps : List Step) (names : List Text) (source : Text) (channel : Channel) (i : Nat) : Prop :=
  names[i]? = some source ∧ ∃ next ∈ steps[i + 1]?, (channel = .error ↔ next.isErrorHandler)

instance : Decidable (Leads steps names source channel i) :=
  inferInstanceAs (Decidable (_ ∧ _))

/-- The names of the steps that follow a step with a name through a channel, in their order. -/
def followers (steps : List Step) (names : List Text) (source : Text) (channel : Channel) : List Text :=
  ((List.range (steps.length - 1)).filter fun i => Leads steps names source channel i).filterMap fun i => names[i + 1]?

theorem channelTo_eq_iff {step : Step} : channelTo step = channel ↔ (channel = .error ↔ step.isErrorHandler) := by
  rw [channelTo]
  cases channel <;> cases step.isErrorHandler <;> decide

/-- There is an edge for each step but the last one. -/
theorem map_some_edges (h : Named steps names) :
    (edges steps names).map some = (List.range (steps.length - 1)).map (edge? steps names) := by
  have hlength := length_edges_of_named h
  refine List.ext_getElem (by simp [hlength]) fun i hi _ => ?_
  rw [List.length_map, hlength] at hi
  have hs : i + 1 < steps.length := by omega
  have hn : i + 1 < names.length := lt_of_named h hi
  rw [List.getElem_map, getElem_edges _ hn hs, List.getElem_map, List.getElem_range, edge?,
    List.getElem?_eq_getElem hs, List.getElem?_eq_getElem (by omega), List.getElem?_eq_getElem hn]
  rfl

/-- What is known of the edge from a step to the next one is known of the steps. -/
theorem bind_targetOn?_edge? (steps : List Step) (names : List Text) (source : Text) (channel : Channel) (i : Nat) :
    (edge? steps names i).bind (targetOn? source channel) =
      if Leads steps names source channel i then names[i + 1]? else none := by
  rw [edge?]
  cases hnext : steps[i + 1]? with
  | none => simp [Leads, hnext]
  | some next =>
    cases hname : names[i]? with
    | none => simp [Leads, hname]
    | some name =>
      cases names[i + 1]? with
      | none => simp
      | some target =>
        have hcomm : source = name ↔ name = source := eq_comm
        simp [targetOn?, Leads, hnext, hname, hcomm, channelTo_eq_iff]

theorem targetsOn_edges (h : Named steps names) (source : Text) (channel : Channel) :
    targetsOn (edges steps names) source channel = followers steps names source channel := by
  have hplaces : targetsOn (edges steps names) source channel =
      ((List.range (steps.length - 1)).map (edge? steps names)).filterMap fun e => e.bind (targetOn? source channel) := by
    rw [← map_some_edges h, List.filterMap_map]
    rfl
  rw [hplaces, List.filterMap_map, followers, List.filterMap_filter]
  refine List.filterMap_congr fun i _ => ?_
  simpa using bind_targetOn?_edge? steps names source channel i

/-! ### The walk -/

/-- The walk adds the edges that it meets. -/
theorem foldlM_link {places : List Nat} {edges : List Edge} (h : edges.map some = places.map (edge? steps names))
    (connections : Connections) :
    places.foldlM (fun connections i => (edge? steps names i).map (link connections)) connections =
      some (edges.foldl link connections) := by
  induction places generalizing edges connections with
  | nil =>
    obtain rfl : edges = [] := by simpa using h
    rfl
  | cons i places ih =>
    obtain ⟨edge, edges, rfl⟩ : ∃ edge rest, edges = edge :: rest := List.exists_cons_of_ne_nil (by rintro rfl; cases h)
    rw [List.map_cons, List.map_cons, List.cons.injEq] at h
    rw [List.foldlM_cons, ← h.1]
    exact ih h.2 (link connections edge)

/-- The walk ends at a step without a name. -/
theorem foldlM_link_eq_none {places : List Nat} (hi : i ∈ places) (h : edge? steps names i = none)
    (connections : Connections) :
    places.foldlM (fun connections i => (edge? steps names i).map (link connections)) connections = none := by
  induction places generalizing connections with
  | nil => cases hi
  | cons j places ih =>
    rw [List.foldlM_cons]
    rcases List.mem_cons.1 hi with rfl | hi
    · rw [h]
      rfl
    · cases edge? steps names j with
      | none => rfl
      | some edge => exact ih hi (link connections edge)

theorem named_iff : Named steps names ↔ ¬(names.length < steps.length ∧ 1 < steps.length) := by
  rw [Named]
  omega

theorem walk?_eq_wire? (steps : List Step) (names : List Text) : walk? steps names = wire? steps names := by
  rw [wire?]
  split
  · next h =>
    -- the last step has no name
    refine foldlM_link_eq_none (i := steps.length - 2) (List.mem_range.2 (by omega)) ?_ []
    have hn : names[steps.length - 2 + 1]? = none := List.getElem?_eq_none (by omega)
    have hs : steps.length - 2 + 1 < steps.length := by omega
    rw [edge?, hn, List.getElem?_eq_getElem hs]
    cases names[steps.length - 2]? <;> rfl
  · next h => exact foldlM_link (map_some_edges (named_iff.2 h)) []

/-! ### What is kept -/

/-- The connections of some steps with some names hold all edges, and nothing else. -/
structure KeepsEdges (steps : List Step) (names : List Text) (connections : Connections) : Prop where
  /-- On a channel, a name has a single lane, which lists the names of the steps that follow a step with this name
  through the channel, in their order. If there are none the channel is absent. -/
  lanes : ∀ source channel, connections.lanes source channel = lanesTo (followers steps names source channel)
  /-- A name has no entry exactly if nothing follows a step with this name. -/
  absent : ∀ source, connections.lookup source = none ↔ ∀ channel, followers steps names source channel = []
  /-- The sources are the names of all steps but the last one, each listed once, at its first place. -/
  sources : connections.map Prod.fst = (names.take (steps.length - 1)).eraseDups
  /-- What is reached are the names of all steps but the first one, each as often as there are steps with it. -/
  targets : connections.targets.Perm ((names.take steps.length).drop 1)
  /-- There is one target for each step but the first one. -/
  count : connections.targets.length = steps.length - 1

/-- What comes of wiring some steps with some names. -/
inductive Wires (steps : List Step) (names : List Text) : Option Connections → Prop where
  /-- If each step has a name, or there is no more than one step, all edges are kept. -/
  | wired {connections : Connections} :
    Named steps names → KeepsEdges steps names connections → Wires steps names (some connections)
  /-- Otherwise a name is missing. -/
  | missing : ¬Named steps names → Wires steps names none

theorem keepsEdges_ofEdges (h : Named steps names) : KeepsEdges steps names (ofEdges (edges steps names)) where
  lanes source channel := by rw [lanes_ofEdges, targetsOn_edges h]
  absent source := by
    simp only [← targetsOn_edges h]
    exact lookup_ofEdges_eq_none_iff
  sources := by rw [map_fst_ofEdges, map_source_edges_of_named h]
  targets := by
    rw [← map_target_edges_of_named h]
    exact perm_targets_ofEdges _
  count := by
    rw [(perm_targets_ofEdges _).length_eq, List.length_map, length_edges_of_named h]

/-- **Wiring keeps all edges**, whether names are distinct or not. -/
theorem keepsEdges_wire? (steps : List Step) (names : List Text) :
    walk? steps names = wire? steps names ∧ Wires steps names (wire? steps names) := by
  refine ⟨walk?_eq_wire? steps names, ?_⟩
  rw [wire?]
  split
  · next h => exact .missing fun hnamed => named_iff.1 hnamed h
  · next h => exact .wired (named_iff.2 h) (keepsEdges_ofEdges (named_iff.2 h))

end Wiring

end Automation
