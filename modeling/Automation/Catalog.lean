import Automation.Chars.Case
import Automation.Leading
import Automation.Node.Builtin
import Automation.Node.Model

/-!
# Catalogs

A catalog lists definitions of node types, each identity once: of several definitions with one
identity the first is kept. All views go through the list, so they agree on what is there and keep
its order.

## Search

`search` looks for a text in the descriptions and the usage hints without regard to case. `excerpt`
shortens a catalog to a number of definitions: it keeps those that share the most words with a
query, the earlier ones where they share equally many, and lists them in the order of the catalog. A
word is a run of the letters a to z and the digits in a text in lower case.
-/

namespace Automation

/-- Definitions, of which each keeps its place unless an earlier one has its identity. -/
def firstOfEach : List NodeDefinition → List NodeDefinition
  | [] => []
  | d :: rest => d :: (firstOfEach rest).filter fun e => e.typeId != d.typeId

theorem nodup_firstOfEach (ds : List NodeDefinition) :
    ((firstOfEach ds).map NodeDefinition.typeId).Nodup := by
  induction ds with
  | nil => simp [firstOfEach]
  | cons d rest ih =>
    simp only [firstOfEach, List.map_cons, List.nodup_cons, List.mem_map, List.mem_filter,
      bne_iff_ne, ne_eq, not_exists, not_and, and_imp]
    exact ⟨fun e _ hne he => hne he, (List.filter_sublist.map _).nodup ih⟩

/-- A catalog of node types. -/
structure Catalog where
  /-- The definitions in their order. -/
  definitions : List NodeDefinition
  /-- No two definitions have one identity. -/
  nodup : (definitions.map NodeDefinition.typeId).Nodup

namespace Catalog

/-- The catalog of some definitions, of which the first with an identity counts. -/
def ofList (ds : List NodeDefinition) : Catalog :=
  ⟨firstOfEach ds, nodup_firstOfEach ds⟩

/-- The catalog of some definitions, of which the first with an identity counts; nothing if the
parameters of one that counts cannot be checked. -/
def ofList? (ds : List NodeDefinition) : Except ModelFault Catalog :=
  match (firstOfEach ds).findSome? NodeDefinition.modelFault? with
  | some fault => .error fault
  | none => .ok (ofList ds)

/-- The catalog of the built-in types of nodes. -/
def builtin : Catalog :=
  ofList NodeDefinition.builtin

/-- The number of definitions. -/
def size (c : Catalog) : Nat :=
  c.definitions.length

/-- A catalog, or the built-in one in the place of an empty one. -/
def orBuiltin (c : Catalog) : Catalog :=
  if c.definitions.isEmpty then builtin else c

/-- The definition with an identity. -/
def lookup (c : Catalog) (typeId : Text) : Option NodeDefinition :=
  c.definitions.find? fun d => d.typeId == typeId

/-- Whether there is a definition with an identity. -/
def contains (c : Catalog) (typeId : Text) : Bool :=
  c.definitions.any fun d => d.typeId == typeId

/-- The identities in the order of the catalog. -/
def typeIds (c : Catalog) : List Text :=
  c.definitions.map NodeDefinition.typeId

theorem contains_eq_true {c : Catalog} {typeId : Text} : c.contains typeId = true ↔ typeId ∈ c.typeIds := by
  simp [contains, typeIds]

/-- How the parameters of a type of node are checked. -/
def parameterModel (c : Catalog) (typeId : Text) : Option ParameterModel :=
  (c.lookup typeId).map .ofDefinition

/-- The definitions of a group. -/
def byCategory (c : Catalog) (category : Text) : List NodeDefinition :=
  c.definitions.filter fun d => d.categories.contains category

/-- Whether a word occurs in a text as it stands. -/
def occursIn (word : Text) : Text → Bool
  | [] => word.isEmpty
  | c :: rest => word.isPrefixOf (c :: rest) || occursIn word rest

/-- Whether a text occurs in another one without regard to case. -/
def occurs (keyword text : Text) : Bool :=
  occursIn keyword.lower text.lower

/-- The definitions with a text in the description or in a usage hint. -/
def search (c : Catalog) (keyword : Text) : List NodeDefinition :=
  c.definitions.filter fun d =>
    occurs keyword d.description || d.usageHints.any (occurs keyword)

/-- The definitions of a group that are found by a text; an empty group and an empty text exclude
nothing. -/
def listing (c : Catalog) (category keyword : Text) : List NodeDefinition :=
  let listed := if category.isEmpty then c.definitions else c.byCategory category
  if keyword.isEmpty then listed
  else
    let found := (c.search keyword).map NodeDefinition.typeId
    listed.filter fun d => found.contains d.typeId

/-! ### Excerpts -/

/-- Whether a code point belongs to the words that are compared. -/
def isTermPoint (c : CodePoint) : Bool :=
  c.isLower || c.isDigit

/-- The runs of word characters of a text; `current` is the run that has begun, backwards. -/
def termRuns (current : Text) : Text → List Text
  | [] => if current.isEmpty then [] else [current.reverse]
  | c :: rest =>
    if isTermPoint c then termRuns (c :: current) rest
    else if current.isEmpty then termRuns [] rest
    else current.reverse :: termRuns [] rest

/-- The words of a text, each once. -/
def terms (text : Text) : List Text :=
  (termRuns [] text.lower).eraseDups

/-- The text of a definition that is compared with a query. -/
def searchText (d : NodeDefinition) : Text :=
  Text.join " " (d.displayName :: d.description :: d.usageHints)

/-- The number of words that a definition shares with some words. -/
def overlap (words : List Text) (d : NodeDefinition) : Nat :=
  ((terms (searchText d)).filter fun term => words.contains term).length

/-- The definitions to which a catalog is shortened for a query. -/
def excerptDefinitions (c : Catalog) (query : Text) (limit : Option Int) :
    List NodeDefinition :=
  match limit with
  | none => c.definitions
  | some limit =>
    if (c.size : Int) ≤ limit then c.definitions
    else
      let words := terms query
      let scored := c.definitions.map fun d => (overlap words d, d)
      let ranked := (scored.mergeSort fun a b => decide (b.1 ≤ a.1)).map fun (_, d) => d.typeId
      let kept := leading limit ranked
      c.definitions.filter fun d => kept.contains d.typeId

/-- A definition as an entry of an excerpt. -/
def entry (d : NodeDefinition) : Json :=
  .ofFields [
    ("type", d.typeId), ("name", d.displayName), ("description", d.description),
    ("uses", .ofTexts d.usageHints)]

/-- The entries of a catalog that is shortened for a query. -/
def excerpt (c : Catalog) (query : Text) (limit : Option Int) : List Json :=
  (c.excerptDefinitions query limit).map entry

end Catalog

end Automation
