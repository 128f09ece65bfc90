import Automation.Catalog
import Automation.Stage.Basic
import Automation.Stage.Prompt

/-!
# The stage that maps pieces to types of nodes

The service is shown the decomposed task and a part of the catalog. An object is accepted if its
mapped steps are a list, or are not there; entries that cannot be read are left out. Whether a type
of node is known is looked up in the catalog, whatever the entry says itself.
-/

namespace Automation.Stage

variable [Limits]

/-- A decomposed task as it is shown, and the part of the catalog that is offered. -/
structure MappingInput where
  /-- The decomposed task. -/
  decomposition : Text
  /-- The types of nodes that are offered. -/
  offer : List Json
  deriving DecidableEq, Repr

/-- The input of a mapping, taken from a store. -/
def mappingInput (catalog : Catalog) (limit : Int) (store : Store) : Except Failure MappingInput :=
  match store.decomposition with
  | none => .error (.missing "decomposition")
  | some d =>
    match d.shown? with
    | none => .error .unwritable
    | some shown => .ok ⟨shown, catalog.excerpt shown (some limit)⟩

/-- The mapped step that an entry describes, with a look at the catalog. -/
def readEntry (catalog : Catalog) (entry : Json) : Option MappedStep :=
  (MappedStep.check entry).toOption.map fun m =>
    { m with known := catalog.contains m.nodeType }

/-- The entries of a document; nothing if they are no list. -/
def entriesOf (members : Members) : Option (List Json) :=
  match members.get? "mappedSteps" with
  | none => some []
  | some .null => some []
  | some (.array entries) => some entries
  | some _ => none

/-- The mapping that a document describes. -/
def readMapping (catalog : Catalog) : Json → Verdict TechnicalMapping
  | .object members =>
    match entriesOf members with
    | some entries =>
      .accepted {
        mappedSteps := entries.filterMap (readEntry catalog)
        additionalNodes :=
          itemized "purpose" ((Members.get? members "additionalNodes").getD .null) }
    | none => .rejected
  | _ => .rejected

/-- The instructions of a mapping, with the types of nodes that are offered. -/
def mappingPrompt (offer : List Json) : Text :=
  Prompt.mappingBefore ++ "\n" ++ (Json.array offer).write .asciiLines ++ "\n" ++ Prompt.mappingAfter

/-- Maps the pieces of a task to types of nodes, with a catalog of which at most a given number of
types are offered. -/
def mapping (catalog : Catalog) (limit : Int) : Stage MappingInput TechnicalMapping where
  name := "mapping"
  announcement := "Mapping steps to n8n nodes..."
  progress := 30
  input := mappingInput catalog limit
  userMessage input :=
    .ok ("Process decomposition:\n" ++ input.decomposition ++ "\n\nMap it to n8n nodes.")
  systemPrompt input := mappingPrompt input.offer
  validate _ := readMapping catalog
  fallback _ := .empty
  put m store := { store with mapping := some m }

/-- The stage as it is set up with a catalog, or with the built-in one in the place of an empty one. -/
def newMapping (catalog : Catalog) (o : StageOptions) : Stage MappingInput TechnicalMapping :=
  mapping catalog.orBuiltin o.offered

end Automation.Stage
