import Automation.Proofs.Catalog.Excerpt
import Automation.Proofs.Generation.Visits
import Automation.Proofs.Graph.Nodes
import Automation.Proofs.Json.Exchange
import Automation.Proofs.Json.Parts

/-!
# Which catalog is used

What is set up with a catalog looks everything up there: the nodes it fills in are of types of the
catalog, the types it offers and marks as known are in it, and those that are not in it are listed.
That goes for every catalog but the empty one, in whose place the built-in one is used throughout.

Main statement: `confined_new`.
-/

namespace Automation

/-! ### Catalogs -/

namespace Catalog

variable {c : Catalog} {type : Text} {d : NodeDefinition}

theorem mem_typeIds_of_lookup (h : c.lookup type = some d) : type ∈ c.typeIds := by
  rw [lookup] at h
  have hmem := List.mem_of_find?_eq_some h
  have htype := List.find?_some h
  rw [← eq_of_beq htype]
  exact List.mem_map_of_mem hmem

theorem orBuiltin_of_ne_nil (h : c.definitions ≠ []) : c.orBuiltin = c := by
  simp [orBuiltin, h]

theorem orBuiltin_of_nil (h : c.definitions = []) : c.orBuiltin = builtin := by
  simp [orBuiltin, h]

theorem orBuiltin_builtin : builtin.orBuiltin = builtin := by
  rw [orBuiltin, ite_self]

theorem orBuiltin_orBuiltin (c : Catalog) : c.orBuiltin.orBuiltin = c.orBuiltin := by
  by_cases h : c.definitions = []
  · rw [orBuiltin_of_nil h, orBuiltin_builtin]
  · rw [orBuiltin_of_ne_nil h, orBuiltin_of_ne_nil h]

theorem not_mem_typeIds_of_nil (h : c.definitions = []) : type ∉ c.typeIds := by
  simp [typeIds, h]

end Catalog

/-! ### Nodes -/

/-- Something of a node is filled in that a type of node decides. -/
def GraphNode.FilledIn (node : GraphNode) : Prop :=
  node.parameters ≠ [] ∨ node.credentials ≠ none ∨ node.typeVersion ≠ 1

/-- The nodes of a workflow that are filled in are of types of a catalog. -/
def WorkflowGraph.ConfinedTo (graph : WorkflowGraph) (c : Catalog) : Prop :=
  ∀ node ∈ graph.nodes, node.FilledIn → node.type ∈ c.typeIds

/-- Whatever is assembled, its nodes that are filled in are of types of a catalog. -/
def Assembler.ConfinedTo (a : Assembler) (c : Catalog) : Prop :=
  ∀ steps task, (a.assemble steps task).ConfinedTo c

namespace Assembler

variable {a : Assembler} {steps : List Step} {task : Text} {node : GraphNode}

theorem exists_step_of_mem_nodes (h : node ∈ (a.assemble steps task).nodes) :
    ∃ i, ∃ step ∈ steps, ∃ name position, node = a.node i step name position := by
  obtain ⟨i, hi, rfl⟩ := List.getElem_of_mem h
  have hs : i < steps.length := by simpa using hi
  rw [a.getElem_nodes steps task hi hs (by simpa using hs) (by simpa using hs)]
  exact ⟨i, steps[i], List.getElem_mem hs, _, _, rfl⟩

/-- A node of a type that is not in the catalog is left empty. -/
theorem confinedTo_catalog (a : Assembler) : a.ConfinedTo a.catalog := by
  intro steps task node hnode hfilled
  obtain ⟨i, step, -, name, position, rfl⟩ := exists_step_of_mem_nodes hnode
  show step.nodeType ∈ a.catalog.typeIds
  cases hlookup : a.catalog.lookup step.nodeType with
  | some d => exact Catalog.mem_typeIds_of_lookup hlookup
  | none => simp [GraphNode.FilledIn, Assembler.node, parameters, credentials, hlookup] at hfilled

end Assembler

/-! ### Requests -/

/-- A request to map pieces to types of nodes of which all that are offered are in a catalog. -/
def CompletionRequest.OffersFrom (request : CompletionRequest) (c : Catalog) : Prop :=
  ∃ offered : List NodeDefinition, offered.Sublist c.definitions ∧
    request.systemPrompt = Stage.mappingPrompt (offered.map Catalog.entry)

namespace Stage

variable {ι ο : Type} {s : Stage ι ο} {o : StageOptions} {listener : Option Listener} {store : Store}
  {request : CompletionRequest} {r : Run} [Limits]

/-- An attempt asks once, or not at all with a time limit below zero. -/
theorem requests_attempt (s : Stage ι ο) (o : StageOptions) (request : CompletionRequest) (r : Run) :
    ∃ n, (s.attempt o 0 request r).2.requests = r.requests ++ List.replicate n request := by
  cases hlimit : o.timeLimit.isNegative with
  | true => exact ⟨0, by simp [attempt_zero, Run.call, hlimit]⟩
  | false => exact ⟨1, by rw [attempt_eq hlimit, Run.requests_afterCalls]⟩

theorem requests_attempts (s : Stage ι ο) (o : StageOptions) (request : CompletionRequest) (retries : Nat)
    (r : Run) : ∃ n, (s.attempts o request retries r).2.requests = r.requests ++ List.replicate n request := by
  refine rel_attempts
    (R := fun before after => ∃ n, after.requests = before.requests ++ List.replicate n request) ?_ ?_ retries r
  · rintro r₁ r₂ r₃ ⟨n, hn⟩ ⟨k, hk⟩
    refine ⟨n + k, ?_⟩
    rw [hk, hn, List.append_assoc, List.replicate_append_replicate]
  · exact requests_attempt s o request

/-- A stage asks what it has prepared, and nothing else. -/
theorem exists_requests_run (s : Stage ι ο) (o : StageOptions) (listener : Option Listener) (store : Store)
    (r : Run) :
    ∃ asked, (s.run o listener store r).2.requests = r.requests ++ asked ∧
      ∀ request ∈ asked, ∃ input, s.prepare store = .ok (input, request) := by
  cases hprepare : s.prepare store with
  | error failure =>
    rw [run_of_unprepared hprepare]
    exact ⟨[], by simp, nofun⟩
  | ok prepared =>
    obtain ⟨input, request⟩ := prepared
    obtain ⟨n, hn⟩ := requests_attempts s o request o.retries (r.tell listener s.event)
    refine ⟨List.replicate n request, ?_, ?_⟩
    · rw [snd_run_of_prepared hprepare, hn, Run.requests_tell]
    · intro other hother
      rw [List.eq_of_mem_replicate hother]
      exact ⟨input, rfl⟩

theorem prepare_of_mem_requests (h : request ∈ (AnyStage.visit ⟨s⟩ o listener store r).requests) :
    ∃ input, s.prepare store = .ok (input, request) := by
  obtain ⟨asked, hrequests, hasked⟩ := exists_requests_run s o listener store r
  have hvisit : (AnyStage.visit ⟨s⟩ o listener store r).requests = asked := by
    show (s.run o listener store r).2.requests.drop r.requests.length = asked
    rw [hrequests, List.drop_left]
  rw [hvisit] at h
  exact hasked request h

end Stage

/-! ### Mappings -/

/-- The mapped steps that are marked as known are of types of a catalog. -/
def TechnicalMapping.KnownFrom (m : TechnicalMapping) (c : Catalog) : Prop :=
  ∀ step ∈ m.mappedSteps, step.known = true → step.nodeType ∈ c.typeIds

/-- A visit of the stage that maps pieces to types of nodes has used the types of a catalog. -/
structure Visit.ConfinedTo (v : Visit) (c : Catalog) : Prop where
  /-- All types that were offered are in the catalog. -/
  offered : ∀ request ∈ v.requests, request.OffersFrom c
  /-- All types that are marked as known in what comes of it are in the catalog. -/
  known : ∀ store, v.outcome = .ok store → ∃ m, store.mapping = some m ∧ m.KnownFrom c

/-- Whatever a stage that maps pieces to types of nodes is run on, it uses the types of a catalog. -/
def Stage.ConfinedTo [Limits] {ι ο : Type} (s : Stage ι ο) (o : StageOptions) (c : Catalog) : Prop :=
  ∀ listener store r, (AnyStage.visit ⟨s⟩ o listener store r).ConfinedTo c

namespace Stage

variable {c : Catalog} {limit : Int} {store : Store}

theorem exists_excerpt_of_mappingInput [Limits] {input : MappingInput}
    (h : mappingInput c limit store = .ok input) :
    ∃ shown, input.offer = c.excerpt shown (some limit) := by
  unfold mappingInput at h
  split at h
  · cases h
  · split at h
    · cases h
    · next shown _ =>
      rw [← Except.ok.inj h]
      exact ⟨shown, rfl⟩

theorem offersFrom_of_prepare [Limits] {input : MappingInput} {request : CompletionRequest}
    (h : (mapping c limit).prepare store = .ok (input, request)) : request.OffersFrom c := by
  rw [prepare] at h
  cases hinput : (mapping c limit).input store with
  | error failure =>
    rw [hinput] at h
    cases h
  | ok found =>
    rw [hinput] at h
    obtain ⟨rfl, rfl⟩ := Prod.mk.inj (Except.ok.inj h)
    obtain ⟨shown, hoffer⟩ := exists_excerpt_of_mappingInput hinput
    refine ⟨c.excerptDefinitions shown (some limit), Catalog.excerptDefinitions_sublist, ?_⟩
    show mappingPrompt found.offer = _
    rw [hoffer, Catalog.excerpt]

theorem knownFrom_readMapping {v : Json} {m : TechnicalMapping} (h : readMapping c v = .accepted m) :
    m.KnownFrom c := by
  unfold readMapping at h
  split at h
  · split at h
    · next entries _ =>
      obtain rfl := Verdict.accepted.inj h
      intro step hstep hknown
      obtain ⟨entry, -, hentry⟩ := List.mem_filterMap.1 hstep
      obtain ⟨read, -, rfl⟩ := Option.map_eq_some_iff.1 hentry
      exact Catalog.contains_eq_true.1 hknown
    · cases h
  · cases h

/-- A mapping offers a part of its catalog, and looks up there what is known. -/
theorem confinedTo_mapping [Limits] (c : Catalog) (limit : Int) (o : StageOptions) :
    (mapping c limit).ConfinedTo o c := by
  intro listener store r
  constructor
  · intro request hrequest
    obtain ⟨input, hprepare⟩ := prepare_of_mem_requests hrequest
    exact offersFrom_of_prepare hprepare
  · intro store' hok
    have hrun : (mapping c limit).run o listener store r = (.ok store', ((mapping c limit).run o listener store r).2) :=
      Prod.ext hok rfl
    obtain ⟨input, request, finding, -, -, hfinish⟩ := run_ok_iff.1 hrun
    rcases finish_ok_iff.1 hfinish with ⟨v, m, -, haccepted, rfl⟩ | ⟨-, hfall⟩
    · exact ⟨m, rfl, knownFrom_readMapping haccepted⟩
    · obtain ⟨record, -, rfl⟩ := fallBack_ok_iff.1 hfall
      exact ⟨.empty, rfl, nofun⟩

end Stage

/-! ### Generators -/

/-- Whatever a workflow is generated for, and whatever the service replies, the types of a catalog are
used. -/
structure Generator.ConfinedTo [Limits] (g : Generator) (c : Catalog) : Prop where
  /-- The types that are offered and marked as known are in the catalog. -/
  mapped : ∀ listener task r, ∀ v ∈ g.visits listener task r, v.stage = "mapping" → v.ConfinedTo c
  /-- The nodes of the workflow that are filled in are of types of the catalog. -/
  assembled : ∀ listener task r result, (g.generate listener task r).1 = .ok result →
    result.workflow.ConfinedTo c
  /-- The types of steps that are not in the catalog are listed as unknown. -/
  listed : ∀ listener task r result, (g.generate listener task r).1 = .ok result →
    ∀ step ∈ result.steps, step.nodeType ∉ c.typeIds → step.nodeType ∈ result.unknownNodeTypes

namespace Generator

variable {g : Generator}

/-- A generator that assembles with its own catalog uses no other. -/
theorem confinedTo_catalog [Limits] (h : g.assembler.catalog = g.catalog) : g.ConfinedTo g.catalog := by
  refine ⟨?_, ?_, ?_⟩
  · intro listener task r
    refine forall_mem_visits_stages ?_
    intro s hs store r hname
    simp only [stages, List.mem_cons, List.not_mem_nil, or_false] at hs
    rcases hs with rfl | rfl | rfl | rfl
    · cases hname
    · exact Stage.confinedTo_mapping g.catalog g.options.offered g.options listener store r
    · cases hname
    · cases hname
  · intro listener task r result hresult
    obtain ⟨store, r', -, rfl⟩ := exists_store_of_generate_ok hresult
    rw [← h]
    exact g.assembler.confinedTo_catalog _ _
  · intro listener task r result hresult step hstep hunknown
    obtain ⟨store, r', -, rfl⟩ := exists_store_of_generate_ok hresult
    exact mem_unknownNodeTypes.2 ⟨⟨step, hstep, rfl⟩, hunknown⟩

end Generator

/-! ### The empty catalog -/

/-- A step that is done by a built-in type of node with credentials. -/
def slackStep : Step where
  index := 1
  kind := .trigger
  description := "Start"
  service := "Slack"
  nodeType := "n8n-nodes-base.slack"
  rationale := none
  parallelizable := false
  errorHandling := none

/-- A piece of a task that is mapped to that type of node. -/
def slackMapped : MappedStep where
  step := none
  originalAction := []
  nodeType := slackStep.nodeType
  nodeName := []
  parameters := []
  credentials := []
  dataTransformation := .null
  known := true
  others := []

/-- A document that maps a piece of a task to that type of node. -/
def slackDocument : Json :=
  .ofFields [("mappedSteps", .array [.ofFields [("nodeType", "n8n-nodes-base.slack")]])]

/-- A service that answers with that document. -/
def slackReplies : Run where
  replies := [.text (slackDocument.write .plain)]

theorem credentials_slackStep :
    Assembler.credentials slackStep (Catalog.builtin.lookup slackStep.nodeType) ≠ none := by
  decide +kernel

/-- The document has no more levels than are read everywhere. -/
theorem read_slackDocument [Limits] :
    Completion.read (slackDocument.write .plain) = .ok (.value slackDocument) := by
  have hexchangeable : slackDocument.Exchangeable := by
    have hentry : (Json.ofFields [("nodeType", "n8n-nodes-base.slack")]).Exchangeable :=
      .object (by decide) (by decide) (List.forall_mem_singleton.2 (.text (by decide)))
    have hentries : (Json.array [.ofFields [("nodeType", "n8n-nodes-base.slack")]]).Exchangeable :=
      .array (List.forall_mem_singleton.2 hentry)
    exact .object (by decide) (by decide) (List.forall_mem_singleton.2 hentries)
  have hread : Json.read (slackDocument.write .plain) = .ok slackDocument :=
    Json.read_write_of_exchangeable (by rintro _ ⟨⟩) ⟨rfl, rfl⟩ hexchangeable
      (Nat.le_trans (by decide : slackDocument.levels ≤ 4) Limits.four_le_nesting)
  have hcandidates : Completion.candidates (slackDocument.write .plain) = [slackDocument.write .plain] := by
    decide +kernel
  have hblank : (slackDocument.write .plain).isBlank = false := by decide +kernel
  rw [Completion.read, hblank, hcandidates, Completion.firstDocument, hread]
  rfl

/-- The decomposition that says nothing has no more levels than are written out everywhere. -/
theorem exists_shown?_empty [limits : Limits] : ∃ shown, Decomposition.empty.shown? = some shown := by
  -- Once the depth is four and more, the walk through the values can be computed.
  obtain ⟨_, depth, _, _, hdepth⟩ := limits
  obtain ⟨depth, rfl⟩ := Nat.exists_eq_add_of_le' hdepth
  exact ⟨_, rfl⟩

/-- The stage that maps pieces to types of nodes marks the piece as known. -/
theorem exists_run_slackReplies [Limits] :
    ∃ left, (Stage.newMapping .builtin {}).run {} none { decomposition := some .empty } slackReplies =
      (.ok { decomposition := some .empty, mapping := some ⟨[slackMapped], []⟩ }, left) := by
  obtain ⟨shown, hshown⟩ := exists_shown?_empty
  have hinput : (Stage.newMapping .builtin {}).input { decomposition := some .empty } =
      .ok ⟨shown, Catalog.builtin.orBuiltin.excerpt shown (some 40)⟩ := by
    simp only [Stage.newMapping, Stage.mapping, Stage.mappingInput, hshown]
    rfl
  obtain ⟨request, hprepare⟩ : ∃ request,
      (Stage.newMapping .builtin {}).prepare { decomposition := some .empty } =
        .ok (⟨shown, Catalog.builtin.orBuiltin.excerpt shown (some 40)⟩, request) := by
    rw [Stage.prepare, hinput]
    exact ⟨_, rfl⟩
  have hanswer : Run.answer (Stage.newMapping .builtin {}).name ({} : StageOptions).timeLimit
      slackReplies.replies[0]? = .ok (.value slackDocument) := by
    show (Completion.read (slackDocument.write .plain)).mapError Failure.beyond = _
    rw [read_slackDocument]
    rfl
  have hattempts := Stage.attempts_of_success (s := Stage.newMapping .builtin {}) request rfl
    (Nat.le_refl 0) nofun hanswer
  refine ⟨_, Stage.run_ok_iff.2 ⟨_, _, _, hprepare, hattempts, Stage.finish_ok_iff.2 (.inl ?_)⟩⟩
  refine ⟨_, _, rfl, ?_, rfl⟩
  have hmapping : TechnicalMapping.mk ([.ofFields [("nodeType", "n8n-nodes-base.slack")]].filterMap
      (Stage.readEntry Catalog.builtin.orBuiltin)) (itemized "purpose" .null) = ⟨[slackMapped], []⟩ := by
    decide +kernel
  exact congrArg Verdict.accepted hmapping

/-- If the service says nothing, the steps are a start by hand. -/
theorem finalSteps_silent [limits : Limits] :
    (AnyStage.runAll {} none (Generator.new .builtin).stages (Generator.initialStore "water")
        { replies := List.replicate 4 (.text " ") }).1.toOption.map
      (fun store => Generator.finalSteps (store.optimizedSteps.getD [])) = some [.manualTrigger] := by
  obtain ⟨_, depth, _, _, hdepth⟩ := limits
  obtain ⟨depth, rfl⟩ := Nat.exists_eq_add_of_le' hdepth
  rfl

section Empty

variable {c : Catalog}

/-- With the empty catalog a step of a built-in type is filled in. -/
theorem exists_filledIn_of_nil (h : c.definitions = []) (rules : List Rule) (task : Text) :
    ∃ node ∈ ((Assembler.new c rules).assemble [slackStep] task).nodes, node.FilledIn ∧
      node.type ∉ c.typeIds := by
  have hlength : 0 < ((Assembler.new c rules).assemble [slackStep] task).nodes.length := by simp
  have hnode := (Assembler.new c rules).getElem_nodes [slackStep] task hlength (by simp) (by simp) (by simp)
  refine ⟨_, List.getElem_mem hlength, ?_, Catalog.not_mem_typeIds_of_nil h⟩
  rw [hnode]
  right
  left
  show Assembler.credentials slackStep (c.orBuiltin.lookup slackStep.nodeType) ≠ none
  rw [Catalog.orBuiltin_of_nil h]
  exact credentials_slackStep

/-- With the empty catalog a mapped step of a built-in type is marked as known. -/
theorem exists_known_of_nil [Limits] (h : c.definitions = []) :
    ∃ store r left m, ((Stage.newMapping c {}).run {} none store r).1 = .ok left ∧ left.mapping = some m ∧
      ∃ step ∈ m.mappedSteps, step.known = true ∧ step.nodeType ∉ c.typeIds := by
  have hstage : Stage.newMapping c {} = Stage.newMapping .builtin {} := by
    rw [Stage.newMapping, Stage.newMapping, Catalog.orBuiltin_of_nil h, Catalog.orBuiltin_builtin]
  rw [hstage]
  obtain ⟨left, hrun⟩ := exists_run_slackReplies
  refine ⟨{ decomposition := some .empty }, slackReplies, _, ⟨[slackMapped], []⟩, congrArg Prod.fst hrun, rfl,
    slackMapped, List.mem_cons_self, rfl, ?_⟩
  exact Catalog.not_mem_typeIds_of_nil h

/-- With the empty catalog a start by hand is not listed as unknown. -/
theorem exists_unlisted_of_nil [Limits] (h : c.definitions = []) (rules : List Rule) :
    ∃ task r result, ((Generator.new c rules).generate none task r).1 = .ok result ∧
      ∃ step ∈ result.steps, step.nodeType ∉ c.typeIds ∧ step.nodeType ∉ result.unknownNodeTypes := by
  have hstages : (Generator.new c rules).stages = (Generator.new .builtin).stages := by
    simp only [Generator.stages, Generator.new, Catalog.orBuiltin_of_nil h, Catalog.orBuiltin_builtin]
  have hsilent := finalSteps_silent
  rw [← hstages] at hsilent
  obtain ⟨store, hstore, hsteps⟩ := Option.map_eq_some_iff.1 hsilent
  have hresult : ((Generator.new c rules).generate none "water" { replies := List.replicate 4 (.text " ") }).1 =
      .ok ((Generator.new c rules).result "water" store) := by
    have hrun := Json.toOption_eq_some.1 hstore
    rw [Generator.fst_generate rfl]
    show Except.map _
      (AnyStage.runAll {} none (Generator.new c rules).stages (Generator.initialStore "water") _).1 = _
    rw [hrun]
    rfl
  refine ⟨_, _, _, hresult, .manualTrigger, ?_, Catalog.not_mem_typeIds_of_nil h, ?_⟩
  · show Step.manualTrigger ∈ Generator.finalSteps (store.optimizedSteps.getD [])
    rw [hsteps]
    exact List.mem_singleton_self _
  · intro hunknown
    apply (Generator.mem_unknownNodeTypes.1 hunknown).2
    show Step.manualTrigger.nodeType ∈ c.orBuiltin.typeIds
    rw [Catalog.orBuiltin_of_nil h]
    decide +kernel

end Empty

namespace Catalog

/-- **What is set up with a catalog uses the types of that catalog only, unless it is empty**: then it uses
those of the built-in one, whether it assembles, maps or generates. -/
theorem confined_new [Limits] (c : Catalog) (rules : List Rule) :
    ((Assembler.new c rules).ConfinedTo c.orBuiltin ∧
      (∀ o, (Stage.newMapping c o).ConfinedTo o c.orBuiltin) ∧
      ∀ o, (Generator.new c rules o).ConfinedTo c.orBuiltin) ∧
    ((Assembler.new c rules).ConfinedTo c ↔ c.definitions ≠ []) ∧
    ((∀ o, (Stage.newMapping c o).ConfinedTo o c) ↔ c.definitions ≠ []) ∧
    ((∀ o, (Generator.new c rules o).ConfinedTo c) ↔ c.definitions ≠ []) := by
  have hassembler : (Assembler.new c rules).ConfinedTo c.orBuiltin := (Assembler.new c rules).confinedTo_catalog
  have hstage : ∀ o, (Stage.newMapping c o).ConfinedTo o c.orBuiltin := fun o =>
    Stage.confinedTo_mapping c.orBuiltin o.offered o
  have hgenerator : ∀ o, (Generator.new c rules o).ConfinedTo c.orBuiltin := fun o =>
    Generator.confinedTo_catalog c.orBuiltin_orBuiltin
  refine ⟨⟨hassembler, hstage, hgenerator⟩, ⟨?_, ?_⟩, ⟨?_, ?_⟩, ⟨?_, ?_⟩⟩
  · intro hconfined hnil
    obtain ⟨node, hnode, hfilled, hout⟩ := exists_filledIn_of_nil hnil rules []
    exact hout (hconfined _ _ node hnode hfilled)
  · intro hne
    rwa [orBuiltin_of_ne_nil hne] at hassembler
  · intro hconfined hnil
    obtain ⟨store, r, left, m, hok, hm, step, hstep, hknown, hout⟩ := exists_known_of_nil hnil
    obtain ⟨m', hm', hfrom⟩ := (hconfined {} none store r).known left hok
    obtain rfl : m' = m := Option.some.inj (hm'.symm.trans hm)
    exact hout (hfrom step hstep hknown)
  · intro hne
    rwa [orBuiltin_of_ne_nil hne] at hstage
  · intro hconfined hnil
    obtain ⟨task, r, result, hresult, step, hstep, hout, hunlisted⟩ := exists_unlisted_of_nil hnil rules
    exact hunlisted ((hconfined {}).listed none task r result hresult step hstep hout)
  · intro hne
    rwa [orBuiltin_of_ne_nil hne] at hgenerator

/-- A step of a built-in type is assembled with credentials, though the catalog is empty. -/
theorem not_confined_new_empty :
    ∃ node ∈ ((Assembler.new (.ofList [])).assemble [slackStep] "t").nodes, node.FilledIn ∧
      node.type ∉ (ofList []).typeIds :=
  exists_filledIn_of_nil rfl Rule.standard "t"

end Catalog

end Automation
