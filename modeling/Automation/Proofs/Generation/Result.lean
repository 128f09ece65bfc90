import Automation.Generation
import Automation.Proofs.Graph.Path
import Automation.Proofs.Sequence
import Automation.Proofs.Stage.Outcome
import Automation.Proofs.Step.Order

/-!
# What holds of every generated workflow

The replies of the service are arbitrary, and each stage may accept what it finds or fall back. The
steps that come out are put in order at the end in any case, and the nodes and connections are made
of these steps alone, so most of what holds of a result is due to the last two phases. The record of
stages that fell back goes through all four stages: each adds at most its own name.

Main statement: `sound_generate`.
-/

namespace Automation

/-! ### What a result has to be -/

/-- The names of the four stages in their order. -/
def stageNames : List Text := ["decomposition", "mapping", "architecture", "optimization"]

/-- A generated workflow as it should be, generated with a catalog. -/
structure GenerationResult.Sound (catalog : Catalog) (result : GenerationResult) : Prop where
  /-- There is a step. -/
  steps_ne_nil : result.steps ≠ []
  /-- The steps are numbered from one in their order. -/
  indices : result.steps.map Step.index = List.range' 1 result.steps.length
  /-- The first step is a trigger. -/
  leading : ∀ first ∈ result.steps.head?, first.kind = .trigger
  /-- There are as many nodes as steps. -/
  length_nodes : result.workflow.nodes.length = result.steps.length
  /-- Nodes are identified by their places, and are of the types of their steps. -/
  nodes : ∀ i (hn : i < result.workflow.nodes.length) (hs : i < result.steps.length),
    result.workflow.nodes[i].id = "node-" ++ toString i ∧
      result.workflow.nodes[i].type = result.steps[i].nodeType
  /-- Connections start from nodes of the workflow and lead to nodes of the workflow. -/
  connections : ∀ entry ∈ result.workflow.connections, ∀ name ∈ entry.1 :: entry.2.targets,
    ∃ node ∈ result.workflow.nodes, node.name = name
  /-- The types listed as unknown are those of the steps that are not in the catalog. -/
  mem_unknown : ∀ type, type ∈ result.unknownNodeTypes ↔
    (∃ step ∈ result.steps, step.nodeType = type) ∧ type ∉ catalog.typeIds
  /-- No type is listed twice as unknown. -/
  nodup_unknown : result.unknownNodeTypes.Nodup
  /-- They are listed in the order of their first use. -/
  order_unknown : result.unknownNodeTypes.Pairwise fun a b =>
    (result.steps.map Step.nodeType).idxOf a < (result.steps.map Step.nodeType).idxOf b
  /-- The stages listed as fallen back are some of the four, each at most once and in their order. -/
  fallbacks : result.fallbackStages.Sublist stageNames

namespace Generator

variable {g : Generator} {listener : Option Listener} {store store' : Store} {r r' : Run}

/-! ### The stages -/

theorem runStages_ok_iff [Limits] : g.runStages listener store r = (.ok store', r') ↔
    ∃ s₁ r₁ s₂ r₂ s₃ r₃, Stage.decomposition.run g.options listener store r = (.ok s₁, r₁) ∧
      (Stage.mapping g.catalog g.options.offered).run g.options listener s₁ r₁ = (.ok s₂, r₂) ∧
      Stage.architecture.run g.options listener s₂ r₂ = (.ok s₃, r₃) ∧
      Stage.optimization.run g.options listener s₃ r₃ = (.ok store', r') := by
  refine ⟨fun h => ?_, fun ⟨s₁, r₁, s₂, r₂, s₃, r₃, h₁, h₂, h₃, h₄⟩ => by
    simp only [runStages, h₁, h₂, h₃, h₄]⟩
  unfold runStages at h
  split at h
  · cases h
  · next s₁ r₁ h₁ =>
    split at h
    · cases h
    · next s₂ r₂ h₂ =>
      split at h
      · cases h
      · next s₃ r₃ h₃ => exact ⟨s₁, r₁, s₂, r₂, s₃, r₃, h₁, h₂, h₃, h⟩

/-- The record after the four stages holds some of their names, in their order, behind what it held
before. -/
theorem records_runStages [Limits] {names : List Text} (hstore : store.Records names)
    (h : g.runStages listener store r = (.ok store', r')) :
    ∃ added, added.Sublist stageNames ∧ store'.Records (names ++ added) := by
  obtain ⟨s₁, r₁, s₂, r₂, s₃, r₃, h₁, h₂, h₃, h₄⟩ := runStages_ok_iff.1 h
  obtain ⟨a₁, ha₁, hs₁⟩ := Stage.records_run Stage.keepsRecord_decomposition hstore h₁
  obtain ⟨a₂, ha₂, hs₂⟩ := Stage.records_run (Stage.keepsRecord_mapping _ _) hs₁ h₂
  obtain ⟨a₃, ha₃, hs₃⟩ := Stage.records_run Stage.keepsRecord_architecture hs₂ h₃
  obtain ⟨a₄, ha₄, hs₄⟩ := Stage.records_run Stage.keepsRecord_optimization hs₃ h₄
  refine ⟨a₁ ++ (a₂ ++ (a₃ ++ a₄)), ?_, by simpa [List.append_assoc] using hs₄⟩
  exact ha₁.append (ha₂.append (ha₃.append ha₄))

theorem recordedNames_of_records {names : List Text} (h : store.Records names) :
    recordedNames store.fallbackStages = names := by
  rw [h, Json.ofTexts, recordedNames, List.filterMap_map]
  exact List.filterMap_some

/-! ### The result -/

/-- The final steps are the repaired ones if these start with a trigger, or else a start by hand. -/
theorem finalSteps_cases (steps : List Step) :
    Step.hasLeadingTrigger (Step.repair steps) = true ∧ finalSteps steps = Step.repair steps ∨
      Step.hasLeadingTrigger (Step.repair steps) = false ∧ finalSteps steps = [.manualTrigger] := by
  cases h : Step.hasLeadingTrigger (Step.repair steps) <;> simp [finalSteps, h]

theorem finalSteps_ne_nil (steps : List Step) : finalSteps steps ≠ [] := by
  rcases finalSteps_cases steps with ⟨hlead, heq⟩ | ⟨-, heq⟩ <;> rw [heq]
  · intro hnil
    rw [hnil] at hlead
    cases hlead
  · exact List.cons_ne_nil _ _

theorem map_index_finalSteps (steps : List Step) :
    (finalSteps steps).map Step.index = List.range' 1 (finalSteps steps).length := by
  rcases finalSteps_cases steps with ⟨-, heq⟩ | ⟨-, heq⟩ <;> rw [heq]
  · exact Step.map_index_repair steps
  · rfl

theorem kind_of_mem_head?_finalSteps {steps : List Step} {first : Step}
    (h : first ∈ (finalSteps steps).head?) : first.kind = .trigger := by
  rcases finalSteps_cases steps with ⟨hlead, heq⟩ | ⟨-, heq⟩ <;> rw [heq] at h
  · obtain ⟨rest, hrest⟩ := List.head?_eq_some_iff.1 h
    rw [hrest] at hlead
    exact eq_of_beq hlead
  · obtain rfl := Option.some.inj h
    rfl

theorem mem_unknownNodeTypes {steps : List Step} {type : Text} : type ∈ g.unknownNodeTypes steps ↔
    (∃ step ∈ steps, step.nodeType = type) ∧ type ∉ g.catalog.typeIds := by
  rw [unknownNodeTypes, List.mem_eraseDups, List.mem_filter, List.mem_map, Bool.not_eq_true', ← Bool.not_eq_true,
    Catalog.contains_eq_true]

/-- Every connection of an assembled workflow starts and ends at one of its nodes. -/
theorem exists_node_of_mem_connections (a : Assembler) (steps : List Step) (task : Text)
    {entry : Text × NodeConnections} (hentry : entry ∈ (a.assemble steps task).connections) {name : Text}
    (hname : name ∈ entry.1 :: entry.2.targets) : ∃ node ∈ (a.assemble steps task).nodes, node.name = name := by
  have hlength := a.length_names steps
  rw [a.connections_assemble steps task] at hentry
  obtain ⟨edge, hedge, rfl⟩ := List.mem_map.1 hentry
  rw [← List.mem_map, a.map_name_nodes]
  simp only [Wiring.entry, NodeConnections.targets_single, List.mem_cons, List.not_mem_nil, or_false] at hname
  rcases hname with rfl | rfl
  · have hsource := List.mem_map_of_mem (f := Edge.source) hedge
    rw [Wiring.map_source_edges hlength] at hsource
    exact (List.dropLast_sublist _).subset hsource
  · have htarget := List.mem_map_of_mem (f := Edge.target) hedge
    rw [Wiring.map_target_edges hlength] at htarget
    exact List.mem_of_mem_tail htarget

theorem generate_ok_iff [Limits] {task : Text} {result : GenerationResult} :
    (g.generate listener task r).1 = .ok result ↔ task.trim ≠ [] ∧
      ∃ store r', g.runStages listener (initialStore task.trim) r = (.ok store, r') ∧
        g.result task.trim store = result := by
  by_cases htask : task.trim = []
  · simp [generate, htask]
  simp only [generate, List.isEmpty_iff, htask, if_false, ne_eq, not_false_eq_true, true_and]
  rcases g.runStages listener (initialStore task.trim) r with ⟨failure | store, r'⟩ <;> simp

/-- A result is made of the store that the stages left. -/
theorem exists_store_of_generate_ok [Limits] {task : Text} {result : GenerationResult}
    (h : (g.generate listener task r).1 = .ok result) :
    ∃ store r', g.runStages listener (initialStore task.trim) r = (.ok store, r') ∧
      g.result task.trim store = result :=
  (generate_ok_iff.1 h).2

/-- **Every generated workflow is sound**, whatever the service replied: its steps are numbered and
start with a trigger, its nodes are those of the steps, its connections stay among its nodes, and it
tells the unknown types of nodes and the stages that fell back. -/
theorem sound_generate [Limits] {task : Text} {result : GenerationResult}
    (h : (g.generate listener task r).1 = .ok result) : result.Sound g.catalog := by
  obtain ⟨store, r', hrun, rfl⟩ := exists_store_of_generate_ok h
  have hstart : (initialStore task.trim).Records [] := rfl
  obtain ⟨added, hadded, hrecord⟩ := records_runStages hstart hrun
  have horder := pairwise_idxOf_eraseDups ((g.result task.trim store).steps.map Step.nodeType)
    fun t => !g.catalog.contains t
  refine
    { steps_ne_nil := finalSteps_ne_nil _
      indices := map_index_finalSteps _
      leading := fun first hfirst => kind_of_mem_head?_finalSteps hfirst
      length_nodes := g.assembler.length_nodes _ _
      nodes := fun i hn hs => ?_
      connections := fun entry hentry name hname =>
        exists_node_of_mem_connections g.assembler _ _ hentry hname
      mem_unknown := fun type => mem_unknownNodeTypes
      nodup_unknown := horder.imp fun hlt heq => by simp [heq] at hlt
      order_unknown := horder
      fallbacks := ?_ }
  · have hn' : i < (g.assembler.names (g.result task.trim store).steps).length := by simpa using hs
    have hp : i < (Layout.places (g.result task.trim store).steps).length := by simpa using hs
    have hnode := g.assembler.getElem_nodes _ task.trim hn hs hn' hp
    exact ⟨congrArg GraphNode.id hnode, congrArg GraphNode.type hnode⟩
  · have hnames : (g.result task.trim store).fallbackStages = added := recordedNames_of_records hrecord
    rw [hnames]
    exact hadded

open scoped Limits in
/-- If the service never says anything, all four stages fall back and there is a result. -/
theorem sound_generate_silent :
    ∃ result, ((Generator.new (.ofList [{ typeId := "clock", displayName := "Clock" }])).generate none "water"
        { replies := List.replicate 4 (.text " ") }).1 = .ok result ∧
      result.fallbackStages = stageNames ∧ result.unknownNodeTypes = [Step.manualTrigger.nodeType] ∧
      result.Sound (.ofList [{ typeId := "clock", displayName := "Clock" }]) := by
  have h : ((Generator.new (.ofList [{ typeId := "clock", displayName := "Clock" }])).generate none "water"
      { replies := List.replicate 4 (.text " ") }).1 = .ok _ := rfl
  exact ⟨_, h, rfl, rfl, sound_generate h⟩

end Generator

end Automation
