import Automation.Catalog
import Mathlib.Data.List.Infix
import Mathlib.Data.List.Nodup

/-!
# The views of a catalog

A catalog is filled by one walk over some definitions, which puts each into two tables unless there is one with
its identity: the definition itself, and how its parameters are checked. The tables stay in step, so that all
views can be told from the list of the definitions alone (`foldlM_add`, `lookup_tables`).

A definition is found by its identity, and no other has the same one. So a part of a catalog can be cut down to
another part by the identities of that part, and what remains is what belongs to both.

Main statement: `views_ofList?`.
-/

namespace Automation.Catalog

variable {c : Catalog} {d e : NodeDefinition} {ds kept : List NodeDefinition} {typeId category keyword t w : Text}
  {p q : NodeDefinition → Bool}

/-! ### The first definition with each identity -/

/-- A definition is the first one of some definitions with its identity. -/
def IsFirst (ds : List NodeDefinition) (d : NodeDefinition) : Prop :=
  ds.find? (fun e => e.typeId == d.typeId) = some d

theorem find?_firstOfEach (ds : List NodeDefinition) (typeId : Text) :
    (firstOfEach ds).find? (fun d => d.typeId == typeId) = ds.find? fun d => d.typeId == typeId := by
  induction ds with
  | nil => rfl
  | cons d rest ih =>
    rw [firstOfEach, List.find?_cons, List.find?_cons]
    cases hd : d.typeId == typeId with
    | true => rfl
    | false =>
      -- what is left out has another identity than the one that is looked for
      have hsame : ∀ e : NodeDefinition,
          (e.typeId != d.typeId) = true ∧ (e.typeId == typeId) = true ↔ (e.typeId == typeId) = true := by
        refine fun e => and_iff_right_of_imp fun he => bne_iff_ne.2 fun heq => ?_
        rw [← heq, he] at hd
        cases hd
      simp only [List.find?_filter, hsame, Bool.decide_eq_true]
      exact ih

theorem map_typeId_filter_firstOfEach (ds : List NodeDefinition) (q : Text → Bool) :
    ((firstOfEach ds).filter fun d => q d.typeId).map NodeDefinition.typeId =
      ((ds.map NodeDefinition.typeId).filter q).eraseDups := by
  induction ds generalizing q with
  | nil => rfl
  | cons d rest ih =>
    rw [firstOfEach, List.map_cons]
    cases hq : q d.typeId with
    | true =>
      have hrest := ih fun t => q t && t != d.typeId
      simp only [List.filter_cons, hq, if_true, List.map_cons, List.eraseDups_cons, List.filter_filter]
      rw [hrest]
      simp only [Bool.and_comm, bne]
    | false =>
      -- what is left out does not pass the test either
      have hsame : ∀ t, (q t && t != d.typeId) = q t := by
        intro t
        cases ht : q t with
        | false => rfl
        | true =>
          have hne : t ≠ d.typeId := fun heq => by simp [heq, hq] at ht
          simpa using hne
      simp only [List.filter_cons, hq, Bool.false_eq_true, if_false, List.filter_filter, hsame]
      exact ih q

/-- The identities are the different ones, in the order of their first places. -/
theorem typeIds_ofList (ds : List NodeDefinition) :
    (ofList ds).typeIds = (ds.map NodeDefinition.typeId).eraseDups := by
  have h := map_typeId_filter_firstOfEach ds fun _ => true
  rwa [List.filter_true, List.filter_true] at h

theorem lookup_ofList (ds : List NodeDefinition) (typeId : Text) :
    (ofList ds).lookup typeId = ds.find? fun d => d.typeId == typeId :=
  find?_firstOfEach ds typeId

/-- No other definition has the identity of a definition. -/
theorem eq_of_typeId_eq (hd : d ∈ c.definitions) (he : e ∈ c.definitions) (h : d.typeId = e.typeId) : d = e :=
  List.inj_on_of_nodup_map c.nodup hd he h

theorem typeId_of_find? (h : ds.find? (fun e => e.typeId == typeId) = some d) : d.typeId = typeId := by
  simpa using List.find?_some h

theorem lookup_eq_some_iff : c.lookup typeId = some d ↔ d ∈ c.definitions ∧ d.typeId = typeId := by
  constructor
  · exact fun h => ⟨List.mem_of_find?_eq_some h, typeId_of_find? h⟩
  · rintro ⟨hd, rfl⟩
    have hsome : (c.definitions.find? fun e => e.typeId == d.typeId).isSome :=
      List.find?_isSome.2 ⟨d, hd, beq_self_eq_true _⟩
    obtain ⟨e, he⟩ := Option.isSome_iff_exists.1 hsome
    have hsame : e = d := eq_of_typeId_eq (List.mem_of_find?_eq_some he) hd (typeId_of_find? he)
    rw [lookup, he, hsame]

/-- The definitions are the first ones with their identities, in the order of the identities. -/
theorem map_some_ofList (ds : List NodeDefinition) : (ofList ds).definitions.map some =
    (ofList ds).typeIds.map fun typeId => ds.find? fun d => d.typeId == typeId := by
  rw [typeIds, List.map_map]
  refine List.map_congr_left fun d hd => ?_
  rw [Function.comp_apply, ← lookup_ofList]
  exact (lookup_eq_some_iff.2 ⟨hd, rfl⟩).symm

theorem mem_ofList_iff : d ∈ (ofList ds).definitions ↔ IsFirst ds d := by
  rw [IsFirst, ← lookup_ofList, lookup_eq_some_iff, and_iff_left rfl]

/-- The first ones of some definitions whose identities are new beside others. -/
def newBeside (kept ds : List NodeDefinition) : List NodeDefinition :=
  (firstOfEach ds).filter fun d => d.typeId ∉ kept.map NodeDefinition.typeId

theorem newBeside_nil (ds : List NodeDefinition) : newBeside [] ds = firstOfEach ds :=
  List.filter_eq_self.2 fun _ _ => decide_eq_true List.not_mem_nil

theorem newBeside_cons_of_mem (h : d.typeId ∈ kept.map NodeDefinition.typeId) (rest : List NodeDefinition) :
    newBeside kept (d :: rest) = newBeside kept rest := by
  rw [newBeside, firstOfEach, List.filter_cons_of_neg (by simpa using h), List.filter_filter, newBeside]
  refine List.filter_congr fun e _ => ?_
  have hne : e.typeId ∉ kept.map NodeDefinition.typeId → e.typeId ≠ d.typeId := fun hnot heq => hnot (heq ▸ h)
  rw [Bool.eq_iff_iff, Bool.and_eq_true, decide_eq_true_eq, bne_iff_ne]
  exact and_iff_left_of_imp hne

theorem newBeside_cons_of_not_mem (h : d.typeId ∉ kept.map NodeDefinition.typeId) (rest : List NodeDefinition) :
    newBeside kept (d :: rest) = d :: newBeside (kept ++ [d]) rest := by
  rw [newBeside, firstOfEach, List.filter_cons_of_pos (by simpa using h), List.filter_filter, newBeside]
  congr 1
  refine List.filter_congr fun e _ => ?_
  rw [Bool.eq_iff_iff, Bool.and_eq_true, decide_eq_true_eq, bne_iff_ne, decide_eq_true_eq, List.map_append,
    List.mem_append, not_or, List.map_singleton, List.mem_singleton]

/-! ### Filling the tables -/

/-- What a catalog is filled into: the definitions, and how the parameters of each are checked, under the
identities. -/
structure Tables where
  /-- The definitions. -/
  definitions : List (Text × NodeDefinition) := []
  /-- How their parameters are checked. -/
  models : List (Text × ParameterModel) := []

namespace Tables

/-- The tables of some definitions. -/
def ofDefinitions (ds : List NodeDefinition) : Tables where
  definitions := ds.map fun d => (d.typeId, d)
  models := ds.map fun d => (d.typeId, .ofDefinition d)

/-- A definition is put into the tables, unless there is one with its identity. If its parameters cannot be checked
there will be no catalog. -/
def add (tables : Tables) (d : NodeDefinition) : Except ModelFault Tables :=
  if d.typeId ∈ tables.definitions.map Prod.fst then .ok tables
  else
    match d.modelFault? with
    | some fault => .error fault
    | none => .ok
        { definitions := tables.definitions ++ [(d.typeId, d)]
          models := tables.models ++ [(d.typeId, .ofDefinition d)] }

theorem add_ofDefinitions (kept : List NodeDefinition) (d : NodeDefinition) : (ofDefinitions kept).add d =
    if d.typeId ∈ kept.map NodeDefinition.typeId then .ok (ofDefinitions kept)
    else
      match d.modelFault? with
      | some fault => .error fault
      | none => .ok (ofDefinitions (kept ++ [d])) := by
  have hkeys : (ofDefinitions kept).definitions.map Prod.fst = kept.map NodeDefinition.typeId := by
    rw [ofDefinitions, List.map_map]
    rfl
  rw [add, hkeys]
  simp only [ofDefinitions, List.map_append, List.map_cons, List.map_nil]

/-- What the walk over more definitions puts into the tables are the first ones whose identities are new. -/
theorem foldlM_add_ofDefinitions (kept ds : List NodeDefinition) :
    ds.foldlM add (ofDefinitions kept) =
      match (newBeside kept ds).findSome? NodeDefinition.modelFault? with
      | some fault => .error fault
      | none => .ok (ofDefinitions (kept ++ newBeside kept ds)) := by
  induction ds generalizing kept with
  | nil =>
    show Except.ok (ofDefinitions kept) = .ok (ofDefinitions (kept ++ []))
    rw [List.append_nil]
  | cons d rest ih =>
    rw [List.foldlM_cons, add_ofDefinitions]
    by_cases h : d.typeId ∈ kept.map NodeDefinition.typeId
    · rw [if_pos h, newBeside_cons_of_mem h]
      exact ih kept
    · rw [if_neg h, newBeside_cons_of_not_mem h, List.findSome?_cons]
      cases d.modelFault? with
      | some fault => rfl
      | none =>
        have hrest := ih (kept ++ [d])
        rw [List.append_assoc, List.singleton_append] at hrest
        exact hrest

end Tables

/-- The tables of a catalog. -/
def tables (c : Catalog) : Tables :=
  .ofDefinitions c.definitions

/-- The walk over some definitions fills the tables of their catalog, or ends at the first fault. -/
theorem foldlM_add (ds : List NodeDefinition) : ds.foldlM Tables.add {} = (ofList? ds).map tables := by
  have hwalk := Tables.foldlM_add_ofDefinitions [] ds
  rw [newBeside_nil] at hwalk
  refine hwalk.trans ?_
  rw [ofList?]
  cases (firstOfEach ds).findSome? NodeDefinition.modelFault? <;> rfl

theorem lookup_map_typeId {α : Type} (f : NodeDefinition → α) (ds : List NodeDefinition) (typeId : Text) :
    (ds.map fun d => (d.typeId, f d)).lookup typeId = (ds.find? fun d => d.typeId == typeId).map f := by
  induction ds with
  | nil => rfl
  | cons d rest ih =>
    rw [List.map_cons, List.lookup_cons, List.find?_cons, ih, Bool.beq_comm]
    cases d.typeId == typeId <;> rfl

theorem lookup_tables : c.tables.definitions.lookup typeId = c.lookup typeId :=
  (lookup_map_typeId id c.definitions typeId).trans Option.map_id'

theorem lookup_models : c.tables.models.lookup typeId = c.parameterModel typeId :=
  lookup_map_typeId _ c.definitions typeId

/-! ### Parts of a catalog -/

/-- Some definitions are those of a catalog with a property, in the order of the catalog. -/
def IsPart (c : Catalog) (P : NodeDefinition → Prop) (part : List NodeDefinition) : Prop :=
  part.Sublist c.definitions ∧ ∀ d, d ∈ part ↔ d ∈ c.definitions ∧ P d

theorem isPart_filter {P : NodeDefinition → Prop} (h : ∀ d, p d = true ↔ P d) : IsPart c P (c.definitions.filter p) :=
  ⟨List.filter_sublist, fun d => by rw [List.mem_filter, h]⟩

/-- A part that is cut down by the identities of another one is what belongs to both. -/
theorem IsPart.cut {P Q : NodeDefinition → Prop} {part other : List NodeDefinition} (h : IsPart c P part)
    (h' : IsPart c Q other) : IsPart c (fun d => P d ∧ Q d)
      (part.filter fun d => (other.map NodeDefinition.typeId).contains d.typeId) := by
  refine ⟨List.filter_sublist.trans h.1, fun d => ?_⟩
  rw [List.mem_filter, List.contains_iff_mem, List.mem_map, h.2, and_assoc]
  refine and_congr_right fun hd => and_congr_right fun _ => ⟨?_, fun hQ => ⟨d, (h'.2 d).2 ⟨hd, hQ⟩, rfl⟩⟩
  rintro ⟨e, he, heq⟩
  obtain ⟨hmem, hQ⟩ := (h'.2 e).1 he
  exact eq_of_typeId_eq hmem hd heq ▸ hQ

theorem occursIn_iff : occursIn w t = true ↔ w <:+: t := by
  induction t with
  | nil => rw [occursIn, List.isEmpty_iff, List.infix_nil]
  | cons c rest ih => rw [occursIn, Bool.or_eq_true, List.isPrefixOf_iff_prefix, ih, List.infix_cons_iff]

/-- A text occurs in the description or in a usage hint of a definition, all in lower case. -/
def Mentions (d : NodeDefinition) (keyword : Text) : Prop :=
  keyword.lower <:+: d.description.lower ∨ ∃ hint ∈ d.usageHints, keyword.lower <:+: hint.lower

theorem isPart_byCategory (c : Catalog) (category : Text) :
    IsPart c (fun d => category ∈ d.categories) (c.byCategory category) :=
  isPart_filter fun _ => List.contains_iff_mem

theorem isPart_search (c : Catalog) (keyword : Text) : IsPart c (fun d => Mentions d keyword) (c.search keyword) := by
  refine isPart_filter fun d => ?_
  simp only [occurs, Bool.or_eq_true, List.any_eq_true, occursIn_iff, Mentions]

/-- What is listed belongs to the group, if one is named, and mentions the text. An empty text is mentioned by every
definition. -/
theorem isPart_listing (c : Catalog) (category keyword : Text) :
    IsPart c (fun d => (category = [] ∨ category ∈ d.categories) ∧ Mentions d keyword)
      (c.listing category keyword) := by
  have hlisted : IsPart c (fun d => category = [] ∨ category ∈ d.categories)
      (if category.isEmpty then c.definitions else c.byCategory category) := by
    cases category with
    | nil => exact ⟨List.Sublist.refl _, fun d => (and_iff_left (.inl rfl)).symm⟩
    | cons a rest => simpa using isPart_byCategory c (a :: rest)
  cases keyword with
  | nil =>
    have hall : ∀ d, Mentions d [] := fun d => .inl List.nil_infix
    simp only [hall, and_true]
    exact hlisted
  | cons a rest => exact hlisted.cut (isPart_search c (a :: rest))

/-! ### All views -/

/-- What the views of a catalog of some definitions tell. -/
structure Views (ds : List NodeDefinition) (c : Catalog) : Prop where
  /-- The walk over the definitions ends, with the tables of the catalog. -/
  filled : ds.foldlM Tables.add {} = .ok c.tables
  /-- The identities are the different ones, in the order of their first places. -/
  typeIds_eq : c.typeIds = (ds.map NodeDefinition.typeId).eraseDups
  /-- The definitions are the first ones with these identities, in this order. -/
  firsts : c.definitions.map some = c.typeIds.map fun typeId => ds.find? fun d => d.typeId == typeId
  /-- Both tables have an entry for each definition. -/
  sizes : c.size = c.definitions.length ∧ c.tables.definitions.length = c.size ∧ c.tables.models.length = c.size
  /-- A definition is found under its identity, and under no other text. -/
  found : ∀ typeId d, c.tables.definitions.lookup typeId = some d ↔ d ∈ c.definitions ∧ d.typeId = typeId
  /-- So is how its parameters are checked. -/
  checked : ∀ typeId model, c.tables.models.lookup typeId = some model ↔
    ∃ d ∈ c.definitions, d.typeId = typeId ∧ .ofDefinition d = model
  /-- What is found in the tables is what the views show. -/
  shown : ∀ typeId, c.lookup typeId = c.tables.definitions.lookup typeId ∧
    c.parameterModel typeId = c.tables.models.lookup typeId
  /-- There is an identity if some definition has it. -/
  known : ∀ typeId, c.contains typeId = true ↔ ∃ d ∈ c.definitions, d.typeId = typeId
  /-- A group is a part of the catalog. -/
  grouped : ∀ category, IsPart c (fun d => category ∈ d.categories) (c.byCategory category)
  /-- So is what a text is found in. -/
  searched : ∀ keyword, IsPart c (fun d => Mentions d keyword) (c.search keyword)
  /-- A group that is cut down by the identities of what a text is found in. -/
  cut : ∀ category keyword, IsPart c (fun d => category ∈ d.categories ∧ Mentions d keyword)
    ((c.byCategory category).filter fun d => ((c.search keyword).map NodeDefinition.typeId).contains d.typeId)
  /-- What is listed for a group and a text. -/
  listed : ∀ category keyword, IsPart c (fun d => (category = [] ∨ category ∈ d.categories) ∧ Mentions d keyword)
    (c.listing category keyword)

theorem ofList?_eq_ok (h : ∀ d, IsFirst ds d → d.modelFault? = none) : ofList? ds = .ok (ofList ds) := by
  have hnone : (firstOfEach ds).findSome? NodeDefinition.modelFault? = none :=
    List.findSome?_eq_none_iff.2 fun d hd => h d (mem_ofList_iff.1 hd)
  rw [ofList?, hnone]

theorem contains_iff : c.contains typeId = true ↔ ∃ d ∈ c.definitions, d.typeId = typeId := by
  rw [contains_eq_true, typeIds, List.mem_map]

/-- **The views of a catalog agree.** Some definitions, of which the first one with each identity counts, make a catalog
if the parameters of those that count can be checked. All its views tell of these definitions, in their order, and what
a group and a text leave of them is what belongs to the group and mentions the text. -/
theorem views_ofList? (ds : List NodeDefinition) (h : ∀ d, IsFirst ds d → d.modelFault? = none) :
    ∃ c, ofList? ds = .ok c ∧ Views ds c := by
  refine ⟨ofList ds, ofList?_eq_ok h, ?_⟩
  exact {
    filled := by
      rw [foldlM_add, ofList?_eq_ok h]
      rfl
    typeIds_eq := typeIds_ofList ds
    firsts := map_some_ofList ds
    sizes := ⟨rfl, List.length_map _, List.length_map _⟩
    found := fun typeId d => by rw [lookup_tables, lookup_eq_some_iff]
    checked := fun typeId model => by
      rw [lookup_models, parameterModel, Option.map_eq_some_iff]
      simp only [lookup_eq_some_iff, and_assoc]
    shown := fun typeId => ⟨lookup_tables.symm, lookup_models.symm⟩
    known := fun typeId => contains_iff
    grouped := isPart_byCategory _
    searched := isPart_search _
    cut := fun category keyword => (isPart_byCategory _ category).cut (isPart_search _ keyword)
    listed := isPart_listing _ }

open NodeDefinition.Builtin in
/-- Two types of nodes, of which the first is defined twice. -/
def slackTwice : List NodeDefinition :=
  [slack, gmail, { slack with displayName := "Other Slack" }]

theorem views_ofList?_slackTwice : (∀ d, IsFirst slackTwice d → d.modelFault? = none) ∧
    ∃ c, ofList? slackTwice = .ok c ∧ Views slackTwice c := by
  have hall : ∀ d ∈ slackTwice, d.modelFault? = none := by decide +kernel
  have hfirst : ∀ d, IsFirst slackTwice d → d.modelFault? = none := fun d hd =>
    hall d (List.mem_of_find?_eq_some hd)
  exact ⟨hfirst, views_ofList? slackTwice hfirst⟩

end Automation.Catalog
