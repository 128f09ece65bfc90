import Automation.Graph.Export
import Automation.Proofs.Json.Exchange
import Automation.Proofs.Record

/-!
# Exported workflows are imported again

A workflow is exported as a document and imported by reading the document. What comes back is the
workflow with null in the place of each number of its parameters and settings that is not finite
(`WorkflowGraph.portable`), and that is exported as the same text. Absent credentials and channels come
back as absent, empty ones as empty.

The workflow has to be one that documents can hold (`WorkflowGraph.Exchangeable`): its texts are
strings, its integers have no more digits than are read, and its floating-point numbers are read back
from their texts. Then it is exported unless it has too many levels (`exportText_eq`). An infinity is
read back from its text, and yet it is not what comes back of it.
-/

namespace Automation

/-! ### Objects and tables -/

/-- An object is exchangeable if the values of its fields are. -/
theorem Json.exchangeable_ofFields {fields : List (String × Json)} (hnames : (fields.map Prod.fst).Nodup)
    (h : ∀ field ∈ fields, field.2.Exchangeable) : (Json.ofFields fields).Exchangeable :=
  .object (Members.nodup_keys_membersOf hnames)
    (List.forall_mem_map.2 fun field _ => Text.isString_ofString field.1) (List.forall_mem_map.2 h)

/-- An object is portable if the values of its fields are. -/
theorem Json.portable_ofFields {fields : List (String × Json)} (h : ∀ field ∈ fields, field.2.portable = field.2) :
    (Json.ofFields fields).portable = .ofFields fields := by
  rw [ofFields, portable, portableMembers_eq, membersOf, List.map_map]
  exact congrArg object (List.map_congr_left fun field hfield => congrArg _ (h field hfield))

section Tables

variable {α : Type} {encode : α → Json} {entries : List (Text × α)}

/-- A table whose keys are strings, all of them different. -/
structure Keyed (entries : List (Text × α)) : Prop where
  /-- No key stands in it twice. -/
  nodup : (entries.map Prod.fst).Nodup
  /-- The keys are strings. -/
  strings : ∀ entry ∈ entries, entry.1.isString

theorem tableToJson_eq (h : Keyed entries) (encode : α → Json) :
    tableToJson encode entries = .object (entries.map fun entry => (entry.1, (encode entry.2).portable)) := by
  have hkeys : Members.keys (entries.map fun entry => (entry.1, encode entry.2)) = entries.map Prod.fst := by
    rw [Members.keys, List.map_map]
    rfl
  rw [tableToJson, Members.portable_eq (hkeys ▸ h.nodup) (List.forall_mem_map.2 h.strings),
    Json.portableMembers_eq, List.map_map]
  rfl

theorem exchangeable_tableToJson (h : Keyed entries) (hvalues : ∀ entry ∈ entries, (encode entry.2).Exchangeable) :
    (tableToJson encode entries).Exchangeable := by
  rw [tableToJson_eq h]
  refine .object ?_ (List.forall_mem_map.2 h.strings) (List.forall_mem_map.2 fun entry hentry => ?_)
  · rw [Members.keys, List.map_map]
    exact h.nodup
  · exact (hvalues entry hentry).portable

/-- A table is read from what it is handed out as. -/
theorem table_tableToJson {read : Json → Checked α} (h : Keyed entries)
    (hread : ∀ entry ∈ entries, read (encode entry.2).portable = .valid entry.2) :
    Json.table read (tableToJson encode entries) = .valid entries := by
  rw [tableToJson_eq h]
  exact @Checked.table_map _ read (fun a => (encode a).portable) entries hread

end Tables

namespace Members

variable [Limits] {members : Members}

/-- Nothing but too many levels keeps the values of an exchangeable object from being written out. -/
theorem eq_depth_of_dumpFault? (h : (Json.object members).Exchangeable) {fault : DumpFault}
    (hfault : members.dumpFault? = some fault) : fault = .depth := by
  cases h with
  | object _ _ hvalues =>
    obtain ⟨member, hmember, hfault⟩ := List.exists_of_findSome?_eq_some hfault
    exact (hvalues member hmember).eq_depth_of_dumpFault? hfault

theorem dumpFault?_portableMembers (members : Members) :
    dumpFault? (Json.portableMembers members) = members.dumpFault? := by
  rw [dumpFault?, dumpFault?, Json.portableMembers_eq, List.findSome?_map]
  exact congrArg (List.findSome? · members) (funext fun member => member.2.dumpFault?_portable _)

end Members

/-! ### Nodes -/

namespace CredentialRef

/-- A reference whose texts are strings. -/
structure Exchangeable (c : CredentialRef) : Prop where
  /-- The identity is one. -/
  id : c.id.isString
  /-- The name is one. -/
  name : c.name.isString

theorem exchangeable_toJson {c : CredentialRef} (h : c.Exchangeable) : c.toJson.Exchangeable := by
  refine Json.exchangeable_ofFields (by simp) ?_
  simp only [List.forall_mem_cons]
  exact ⟨.text h.id, .text h.name, nofun⟩

theorem ofMembers_toJson (c : CredentialRef) : Json.record ofMembers c.toJson.portable = .valid c :=
  rfl

end CredentialRef

namespace GraphNode

variable {n : GraphNode}

/-- A node that documents can hold. -/
structure Exchangeable (n : GraphNode) : Prop where
  /-- Its parameters are an object that is read back. -/
  parameters : (Json.object n.parameters).Exchangeable
  /-- Its texts are strings. -/
  texts : ∀ t ∈ [n.name, n.type, n.id], t.isString
  /-- Its integers have no more digits than are read. -/
  integers : ∀ k ∈ [n.typeVersion, n.position.x, n.position.y], k.natAbs < Nat.pow 10 Numeral.digitLimit
  /-- Its credentials, if it has any, have strings for keys, all of them different. -/
  keyed : ∀ table ∈ n.credentials, Keyed table
  /-- What its credentials refer to has strings for texts. -/
  credentials : ∀ table ∈ n.credentials, ∀ entry ∈ table, entry.2.Exchangeable

/-- A node with null in the place of each number of its parameters that is not finite. -/
def portable (n : GraphNode) : GraphNode :=
  { n with parameters := Json.portableMembers n.parameters }

/-- It is written as the same document. -/
theorem toJson_portable (n : GraphNode) : n.portable.toJson = n.toJson := by
  rw [toJson, toJson, portable, Members.portable_portableMembers]

/-- It is written out as before. -/
theorem dumpFault?_portable [Limits] (n : GraphNode) : n.portable.dumpFault? = n.dumpFault? := by
  rw [dumpFault?, dumpFault?, n.toJson_portable, portable, Members.dumpFault?_portableMembers]

theorem exchangeable_toJson (h : n.Exchangeable) : n.toJson.Exchangeable := by
  have htexts := h.texts
  have hintegers := h.integers
  simp only [List.forall_mem_cons] at htexts hintegers
  have hparameters := Json.exchangeable_portable h.parameters
  have hposition : n.position.toJson.Exchangeable := by
    refine .array ?_
    simp only [List.forall_mem_cons]
    exact ⟨.int hintegers.2.1, .int hintegers.2.2.1, nofun⟩
  unfold toJson
  cases hcredentials : n.credentials with
  | none =>
    refine Json.exchangeable_ofFields (by simp) ?_
    simp only [List.append_nil, List.forall_mem_cons]
    exact ⟨hparameters, .text htexts.1, .text htexts.2.1, .int hintegers.1, hposition, .text htexts.2.2.1, nofun⟩
  | some table =>
    have htable : (tableToJson CredentialRef.toJson table).Exchangeable :=
      exchangeable_tableToJson (h.keyed table hcredentials) fun entry hentry =>
        CredentialRef.exchangeable_toJson (h.credentials table hcredentials entry hentry)
    refine Json.exchangeable_ofFields (by simp) ?_
    simp only [List.cons_append, List.nil_append, List.forall_mem_cons]
    exact ⟨hparameters, .text htexts.1, .text htexts.2.1, .int hintegers.1, hposition, .text htexts.2.2.1, htable,
      nofun⟩

/-- A node is read if each of its fields is. -/
theorem ofMembers_of_fields {members : Members}
    (hparameters : members.optional ["parameters"] [] (.leaf Json.members?) = .valid n.parameters)
    (hname : members.required ["name"] (.leaf Json.text?) = .valid n.name)
    (htype : members.required ["type"] (.leaf Json.text?) = .valid n.type)
    (hversion : members.optional ["typeVersion"] 1 (.leaf Json.int?) = .valid n.typeVersion)
    (hposition : members.required ["position"] Position.check = .valid n.position)
    (hid : members.required ["id"] (.leaf Json.text?) = .valid n.id)
    (hcredentials : members.optional ["credentials"] none
      (Json.nullable (Json.table (Json.record CredentialRef.ofMembers))) = .valid n.credentials) :
    ofMembers members = .valid n := by
  rw [ofMembers, hparameters, hname, htype, hversion, hposition, hid, hcredentials]
  rfl

/-- A node is read from the document that it is written as. -/
theorem ofMembers_toJson (h : n.Exchangeable) : Json.record ofMembers n.toJson = .valid n.portable := by
  unfold toJson
  rw [Json.portable_of_exchangeable h.parameters]
  refine ofMembers_of_fields (Members.optional_of_lookup rfl rfl) (Members.required_of_lookup rfl rfl)
    (Members.required_of_lookup rfl rfl) (Members.optional_of_lookup rfl rfl) (Members.required_of_lookup rfl rfl)
    (Members.required_of_lookup rfl rfl) ?_
  change Members.optional _ _ _ _ = .valid n.credentials
  cases hcredentials : n.credentials with
  | none => exact Members.optional_of_lookup_eq_none rfl
  | some table =>
    have hread := table_tableToJson (h.keyed table hcredentials) fun entry _ => entry.2.ofMembers_toJson
    exact Members.optional_of_lookup rfl (congrArg (some <$> ·) hread)

end GraphNode

/-! ### Connections -/

namespace ConnectionTarget

/-- A target that documents can hold. -/
structure Exchangeable (t : ConnectionTarget) : Prop where
  /-- The name of the node is a string. -/
  node : t.node.isString
  /-- The kind of input is a string. -/
  type : t.type.isString
  /-- The number of the input has no more digits than are read. -/
  index : t.index.natAbs < Nat.pow 10 Numeral.digitLimit

theorem exchangeable_toJson {t : ConnectionTarget} (h : t.Exchangeable) : t.toJson.Exchangeable := by
  refine Json.exchangeable_ofFields (by simp) ?_
  simp only [List.forall_mem_cons]
  exact ⟨.text h.node, .text h.type, .int h.index, nofun⟩

theorem ofMembers_toJson (t : ConnectionTarget) : Json.record ofMembers t.toJson = .valid t :=
  rfl

end ConnectionTarget

namespace NodeConnections

variable {c : NodeConnections} {lanes : Lanes}

/-- Connections that documents can hold. -/
structure Exchangeable (c : NodeConnections) : Prop where
  /-- The targets of the main channel can be held. -/
  main : ∀ lanes ∈ c.main, ∀ lane ∈ lanes, ∀ t ∈ lane, t.Exchangeable
  /-- The targets of the channel for errors can be held. -/
  error : ∀ lanes ∈ c.error, ∀ lane ∈ lanes, ∀ t ∈ lane, t.Exchangeable

theorem exchangeable_lanesToJson (h : ∀ lane ∈ lanes, ∀ t ∈ lane, t.Exchangeable) :
    (lanesToJson lanes).Exchangeable :=
  .array (List.forall_mem_map.2 fun lane hlane =>
    .array (List.forall_mem_map.2 fun t ht => t.exchangeable_toJson (h lane hlane t ht)))

theorem portable_lanesToJson (lanes : Lanes) : (lanesToJson lanes).portable = lanesToJson lanes := by
  have hlane : ∀ lane : List ConnectionTarget,
      (Json.array (lane.map ConnectionTarget.toJson)).portable = .array (lane.map ConnectionTarget.toJson) := by
    intro lane
    rw [Json.portable, Json.portableItems_eq, List.map_map]
    rfl
  rw [lanesToJson, Json.portable, Json.portableItems_eq, List.map_map]
  exact congrArg Json.array (List.map_congr_left fun lane _ => hlane lane)

theorem readLanes_lanesToJson (lanes : Lanes) : readLanes (lanesToJson lanes) = .valid lanes := by
  have hlane : ∀ lane : List ConnectionTarget,
      Json.list (Json.record ConnectionTarget.ofMembers) (.array (lane.map ConnectionTarget.toJson)) = .valid lane := by
    intro lane
    have hitems := Checked.items_map (f := id) fun t (_ : t ∈ lane) => t.ofMembers_toJson
    rwa [List.map_id] at hitems
  have hitems := Checked.items_map (f := id) fun lane (_ : lane ∈ lanes) => hlane lane
  rwa [List.map_id] at hitems

theorem exchangeable_toJson (h : c.Exchangeable) : c.toJson.Exchangeable := by
  obtain ⟨main, error⟩ := c
  have hmain : ∀ lanes ∈ main, (lanesToJson lanes).Exchangeable := fun lanes hlanes =>
    exchangeable_lanesToJson (h.main lanes hlanes)
  have herror : ∀ lanes ∈ error, (lanesToJson lanes).Exchangeable := fun lanes hlanes =>
    exchangeable_lanesToJson (h.error lanes hlanes)
  refine Json.exchangeable_ofFields ?_ ?_
  · cases main <;> cases error <;> simp
  · simp only [List.forall_mem_append, List.forall_mem_map, Option.mem_toList]
    exact ⟨hmain, herror⟩

theorem portable_toJson (c : NodeConnections) : c.toJson.portable = c.toJson := by
  refine Json.portable_ofFields ?_
  simp only [List.forall_mem_append, List.forall_mem_map]
  exact ⟨fun lanes _ => portable_lanesToJson lanes, fun lanes _ => portable_lanesToJson lanes⟩

/-- Absent channels are read as absent, and empty ones as empty. -/
theorem ofMembers_toJson (c : NodeConnections) : Json.record ofMembers c.toJson = .valid c := by
  obtain ⟨main, error⟩ := c
  have hchannel (lanes : Lanes) : Json.nullable readLanes (lanesToJson lanes) = .valid (some lanes) :=
    congrArg (some <$> ·) (readLanes_lanesToJson lanes)
  have hread {members : Members} (hmain : members.optional ["main"] none (Json.nullable readLanes) = .valid main)
      (herror : members.optional ["error"] none (Json.nullable readLanes) = .valid error) :
      ofMembers members = .valid ⟨main, error⟩ := by
    rw [ofMembers, hmain, herror]
    rfl
  refine hread ?_ ?_
  · cases main with
    | none => cases error <;> exact Members.optional_of_lookup_eq_none rfl
    | some lanes => exact Members.optional_of_lookup rfl (hchannel lanes)
  · cases error with
    | none => cases main <;> exact Members.optional_of_lookup_eq_none rfl
    | some lanes => cases main <;> exact Members.optional_of_lookup rfl (hchannel lanes)

end NodeConnections

/-! ### Workflows -/

namespace WorkflowGraph

variable {g : WorkflowGraph}

/-- A workflow that documents can hold. -/
structure Exchangeable (g : WorkflowGraph) : Prop where
  /-- Its name and its tags are strings. -/
  texts : ∀ t ∈ g.name :: g.tags, t.isString
  /-- Its nodes can be held. -/
  nodes : ∀ n ∈ g.nodes, n.Exchangeable
  /-- The sources of its connections are strings, all of them different. -/
  keyed : Keyed g.connections
  /-- Its connections can be held. -/
  connections : ∀ entry ∈ g.connections, entry.2.Exchangeable
  /-- Its settings are an object that is read back. -/
  settings : (Json.object g.settings).Exchangeable

/-- A workflow with null in the place of each number of its parameters and settings that is not
finite. -/
def portable (g : WorkflowGraph) : WorkflowGraph :=
  { g with nodes := g.nodes.map GraphNode.portable, settings := Json.portableMembers g.settings }

/-- The floating-point numbers of a workflow. -/
def floats (g : WorkflowGraph) : List Binary64 :=
  g.nodes.flatMap (fun n => Json.membersFloats n.parameters) ++ Json.membersFloats g.settings

/-- A workflow stays as it is if and only if all of its numbers are finite. -/
theorem portable_eq_self_iff (g : WorkflowGraph) : g.portable = g ↔ ∀ x ∈ g.floats, x.isFinite := by
  have hnode (n : GraphNode) : n.portable = n ↔ ∀ x ∈ Json.membersFloats n.parameters, x.isFinite := by
    rw [← Json.portableMembers_eq_self_iff]
    obtain ⟨parameters, _, _, _, _, _, _⟩ := n
    simp [GraphNode.portable]
  have hnodes : g.nodes.map GraphNode.portable = g.nodes ↔
      ∀ x ∈ g.nodes.flatMap fun n => Json.membersFloats n.parameters, x.isFinite := by
    have hmap : g.nodes.map GraphNode.portable = g.nodes ↔ ∀ n ∈ g.nodes, n.portable = n := by
      simpa using List.map_inj_left (l := g.nodes) (f := GraphNode.portable) (g := id)
    rw [hmap]
    simp only [hnode, List.mem_flatMap]
    exact ⟨fun h x ⟨n, hn, hx⟩ => h n hn x hx, fun h n hn x hx => h x ⟨n, hn, hx⟩⟩
  rw [floats, List.forall_mem_append, ← hnodes, ← Json.portableMembers_eq_self_iff]
  obtain ⟨name, nodes, connections, active, settings, tags⟩ := g
  simp [portable]

theorem exchangeable_toJson (h : g.Exchangeable) : g.toJson.Exchangeable := by
  obtain ⟨hname, htags⟩ := List.forall_mem_cons.1 h.texts
  have hnodes : (Json.array (g.nodes.map GraphNode.toJson)).Exchangeable :=
    .array (List.forall_mem_map.2 fun n hn => n.exchangeable_toJson (h.nodes n hn))
  have hconnections : (tableToJson NodeConnections.toJson g.connections).Exchangeable :=
    exchangeable_tableToJson h.keyed fun entry hentry =>
      entry.2.exchangeable_toJson (h.connections entry hentry)
  have hsettings := Json.exchangeable_portable h.settings
  have htexts : (Json.ofTexts g.tags).Exchangeable := .array (List.forall_mem_map.2 fun t ht => .text (htags t ht))
  refine Json.exchangeable_ofFields (by simp) ?_
  simp only [List.forall_mem_cons]
  exact ⟨.text hname, hnodes, hconnections, .bool _, hsettings, htexts, nofun⟩

/-- A workflow is written as the same document after it was made portable. -/
theorem toJson_portable (g : WorkflowGraph) : g.portable.toJson = g.toJson := by
  have hnodes : (g.nodes.map GraphNode.portable).map GraphNode.toJson = g.nodes.map GraphNode.toJson := by
    rw [List.map_map]
    exact List.map_congr_left fun n _ => n.toJson_portable
  rw [toJson, toJson, portable, hnodes, Members.portable_portableMembers]

/-- A workflow is read if each of its fields is. -/
theorem ofMembers_of_fields {members : Members}
    (hname : members.required ["name"] (.leaf Json.text?) = .valid g.name)
    (hnodes : members.optional ["nodes"] [] (Json.list (Json.record GraphNode.ofMembers)) = .valid g.nodes)
    (hconnections : members.optional ["connections"] [] (Json.table (Json.record NodeConnections.ofMembers)) =
      .valid g.connections)
    (hactive : members.optional ["active"] false (.leaf Json.flag?) = .valid g.active)
    (hsettings : members.optional ["settings"] [] (.leaf Json.members?) = .valid g.settings)
    (htags : members.optional ["tags"] [] (Json.list (.leaf Json.text?)) = .valid g.tags) :
    ofMembers members = .valid g := by
  rw [ofMembers, hname, hnodes, hconnections, hactive, hsettings, htags]
  rfl

/-- What is read from the document that a workflow is written as. -/
theorem check_toJson (h : g.Exchangeable) : check g.toJson = .valid g.portable := by
  have hnodes : Json.list (Json.record GraphNode.ofMembers) (.array (g.nodes.map GraphNode.toJson)) =
      .valid (g.nodes.map GraphNode.portable) :=
    Checked.items_map fun n hn => n.ofMembers_toJson (h.nodes n hn)
  have hconnections : Json.table (Json.record NodeConnections.ofMembers)
      (tableToJson NodeConnections.toJson g.connections) = .valid g.connections :=
    table_tableToJson h.keyed fun entry _ => by rw [entry.2.portable_toJson, entry.2.ofMembers_toJson]
  have htags : Json.list (.leaf Json.text?) (.ofTexts g.tags) = .valid g.tags := by
    have hitems := Checked.items_map (f := id) fun t (_ : t ∈ g.tags) =>
      show Checked.leaf Json.text? (.text t) = .valid t from rfl
    rwa [List.map_id] at hitems
  unfold toJson portable
  rw [Json.portable_of_exchangeable h.settings]
  exact ofMembers_of_fields (Members.required_of_lookup rfl rfl) (Members.optional_of_lookup rfl hnodes)
    (Members.optional_of_lookup rfl hconnections) (Members.optional_of_lookup rfl rfl)
    (Members.optional_of_lookup rfl rfl) (Members.optional_of_lookup rfl htags)

/-- An indentation by a number of spaces, or a document on one line. -/
def indentation (spaces : Option Nat) : Option Text :=
  spaces.map fun n => List.replicate n (.ofChar ' ')

/-- Nothing but too many levels keeps a workflow that documents can hold from being written out. -/
theorem eq_depth_of_dumpFault? [Limits] (h : g.Exchangeable) {fault : DumpFault}
    (hfault : g.dumpFault? = some fault) : fault = .depth := by
  rcases Option.or_eq_some_iff.1 hfault with hfault | ⟨-, hfault⟩
  · obtain ⟨n, hn, hfault⟩ := List.exists_of_findSome?_eq_some hfault
    rcases Option.or_eq_some_iff.1 hfault with hfault | ⟨-, hfault⟩
    · exact Members.eq_depth_of_dumpFault? (h.nodes n hn).parameters hfault
    · exact (n.exchangeable_toJson (h.nodes n hn)).eq_depth_of_dumpFault? hfault
  rcases Option.or_eq_some_iff.1 hfault with hfault | ⟨-, hfault⟩
  · obtain ⟨entry, hentry, hfault⟩ := List.exists_of_findSome?_eq_some hfault
    exact (entry.2.exchangeable_toJson (h.connections entry hentry)).eq_depth_of_dumpFault? hfault
  · exact Members.eq_depth_of_dumpFault? h.settings hfault

/-- A workflow that documents can hold is exported, unless it has too many levels. -/
theorem exportText_eq [Limits] (h : g.Exchangeable) (hdepth : g.dumpFault? ≠ some .depth) (indent : Option Text) :
    g.exportText indent = .ok (Json.write (.indented indent) g.toJson) := by
  have hnone : g.dumpFault? = none := by
    by_contra hsome
    obtain ⟨fault, hfault⟩ := Option.ne_none_iff_exists'.1 hsome
    exact hdepth (eq_depth_of_dumpFault? h hfault ▸ hfault)
  rw [exportText, hnone]
  exact if_pos (exchangeable_toJson h).hasShortIntegers

/-- It is exported as the same text after it was made portable. -/
theorem exportText_portable [Limits] (g : WorkflowGraph) (indent : Option Text) :
    g.portable.exportText indent = g.exportText indent := by
  have hnodes : (g.nodes.map GraphNode.portable).findSome? GraphNode.dumpFault? =
      g.nodes.findSome? GraphNode.dumpFault? := by
    rw [List.findSome?_map]
    exact congrArg (List.findSome? · g.nodes) (funext GraphNode.dumpFault?_portable)
  have hfault : g.portable.dumpFault? = g.dumpFault? := by
    rw [dumpFault?, dumpFault?, portable, hnodes, Members.dumpFault?_portableMembers]
  rw [exportText, exportText, hfault, g.toJson_portable]

/-- The text of a workflow is read as the document that it was written of. -/
theorem read_write_toJson [Limits] (h : g.Exchangeable) (hlevels : g.toJson.levels ≤ Limits.nesting)
    (spaces : Option Nat) : Json.read (Json.write (.indented (indentation spaces)) g.toJson) = .ok g.toJson := by
  refine Json.read_write_of_exchangeable ?_ ⟨rfl, rfl⟩ (exchangeable_toJson h) hlevels
  intro unit hunit c hc
  obtain ⟨n, -, rfl⟩ := Option.map_eq_some_iff.1 hunit
  exact List.eq_of_mem_replicate hc ▸ rfl

/-- **Exporting and importing.** Whatever the indentation, a workflow that has not too many levels is exported,
its text is a document, and the workflow is read from it with null in the place of each number that is not
finite. So it comes back as it was if and only if all of its numbers are finite; in any case what comes back is
exported as the same text. -/
theorem import_exportText [Limits] (h : g.Exchangeable) (hlevels : g.toJson.levels ≤ Limits.nesting)
    (hdepth : g.dumpFault? ≠ some .depth) (spaces : Option Nat) :
    ∃ text document imported, g.exportText (indentation spaces) = .ok text ∧ Json.read text = .ok document ∧
      check document = .valid imported ∧ imported = g.portable ∧
      (imported = g ↔ ∀ x ∈ g.floats, x.isFinite) ∧
      imported.exportText (indentation spaces) = .ok text := by
  have htext := exportText_eq h hdepth (indentation spaces)
  exact ⟨_, g.toJson, g.portable, htext, read_write_toJson h hlevels spaces, check_toJson h, rfl,
    g.portable_eq_self_iff, (g.exportText_portable _).trans htext⟩

/-- A workflow with a fraction among its parameters, empty credentials, an empty channel and an absent
one. -/
def withFraction : WorkflowGraph where
  name := "Grüße"
  nodes := [{
    parameters := [("rate", .float (.finite false 6755399441055744 (-52))), ("rows", .array [.int 3, .null])]
    name := "Sheets", type := "sheets", typeVersion := 4, position := ⟨250, -300⟩, id := "node-0"
    credentials := some [] }]
  connections := [("Sheets", { main := some [[{ node := "Sheets" }], []] }), ("Other", { error := some [] })]
  settings := [("executionOrder", .text "v1")]
  tags := ["a \"b\""]

theorem exchangeable_withFraction : withFraction.Exchangeable where
  texts := by decide
  nodes := by
    have hrows : (Json.array [.int 3, .null]).Exchangeable :=
      .array (List.forall_mem_cons.2 ⟨.int (by decide +kernel), List.forall_mem_singleton.2 .null⟩)
    refine List.forall_mem_singleton.2 ⟨.object (by decide) (by decide) ?_, by decide, by decide +kernel, ?_, ?_⟩
    · exact List.forall_mem_cons.2 ⟨.float rfl, List.forall_mem_singleton.2 hrows⟩
    · rintro _ ⟨⟩
      exact ⟨by decide, nofun⟩
    · rintro _ ⟨⟩
      nofun
  keyed := ⟨by decide, by decide⟩
  connections := by
    have htarget : ∀ t ∈ [{ node := "Sheets" : ConnectionTarget }], t.Exchangeable :=
      List.forall_mem_singleton.2 ⟨by decide, by decide, by decide +kernel⟩
    refine List.forall_mem_cons.2 ⟨⟨?_, nofun⟩, List.forall_mem_singleton.2 ⟨nofun, ?_⟩⟩
    · rintro _ ⟨⟩
      exact List.forall_mem_cons.2 ⟨htarget, List.forall_mem_singleton.2 nofun⟩
    · rintro _ ⟨⟩
      nofun
  settings := .object (by decide) (by decide) (List.forall_mem_singleton.2 (.text (by decide)))

open scoped Limits in
theorem import_exportText_withFraction :
    withFraction.Exchangeable ∧ withFraction.toJson.levels ≤ Limits.nesting ∧
      withFraction.dumpFault? ≠ some .depth ∧
      ∃ text document, withFraction.exportText (indentation (some 2)) = .ok text ∧
        Json.read text = .ok document ∧ check document = .valid withFraction := by
  have hlevels : withFraction.toJson.levels ≤ Limits.nesting := by decide +kernel
  have hdepth : withFraction.dumpFault? ≠ some .depth := by decide +kernel
  obtain ⟨text, document, imported, htext, hread, hcheck, -, hsame, -⟩ :=
    import_exportText exchangeable_withFraction hlevels hdepth (some 2)
  have hfinite : ∀ x ∈ withFraction.floats, x.isFinite := by decide +kernel
  exact ⟨exchangeable_withFraction, hlevels, hdepth, text, document, htext, hread, hsame.2 hfinite ▸ hcheck⟩

/-- A workflow with an infinity among its settings. -/
def withInfinity : WorkflowGraph :=
  { name := "w", settings := [("x", .float (.infinite false))] }

open scoped Limits in
/-- An infinity is read back from its text, but a workflow that has one does not come back. -/
theorem not_imported_withInfinity :
    withInfinity.Exchangeable ∧ withInfinity.toJson.levels ≤ Limits.nesting ∧
      withInfinity.dumpFault? ≠ some .depth ∧
      ¬∃ text document, withInfinity.exportText (indentation (some 2)) = .ok text ∧
        Json.read text = .ok document ∧ check document = .valid withInfinity := by
  have hexchangeable : withInfinity.Exchangeable := by
    refine ⟨by decide, nofun, ⟨by decide, nofun⟩, nofun, .object (by decide) (by decide) ?_⟩
    exact List.forall_mem_singleton.2 (.float rfl)
  have hlevels : withInfinity.toJson.levels ≤ Limits.nesting := by decide +kernel
  have hdepth : withInfinity.dumpFault? ≠ some .depth := by decide +kernel
  refine ⟨hexchangeable, hlevels, hdepth, ?_⟩
  rintro ⟨text, document, htext, hread, hcheck⟩
  obtain rfl := Except.ok.inj ((exportText_eq hexchangeable hdepth _).symm.trans htext)
  obtain rfl := Except.ok.inj ((read_write_toJson hexchangeable hlevels (some 2)).symm.trans hread)
  have hsame := Checked.valid.inj ((check_toJson hexchangeable).symm.trans hcheck)
  have hfinite := (portable_eq_self_iff _).1 hsame (.infinite false) (by decide)
  cases hfinite

end WorkflowGraph

end Automation
