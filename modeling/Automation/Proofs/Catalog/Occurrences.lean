import Automation.Proofs.Catalog.Views
import Automation.Proofs.Chars.Lower

/-!
# Texts that are searched as they stand

`Catalog.search` writes what is looked for and what is looked at in lower case, each by itself. So a text that occurs
as it stands is found wherever its own lower-case form and its lower-case form at that place are the same. They differ
in their final sigmas alone: a place is missed only where a sigma of the text is final in one and not in the other.

This concerns the texts with a sigma at an end. All others are found wherever they occur, also in other cases of the
letters from A to Z. Each with a sigma at an end is missed in some catalog.

Main statement: `found_search`.
-/

namespace Automation.Catalog

open Chars

variable {c : Catalog} {d : NodeDefinition} {keyword other p q t : Text}

/-- A text occurs as it stands in the description or in a usage hint of a definition. -/
def Contains (d : NodeDefinition) (keyword : Text) : Prop :=
  ∃ t ∈ d.description :: d.usageHints, keyword <:+: t

/-- In whatever catalog a text occurs as it stands, it is found, and so is any other one that differs in the case of
letters from A to Z alone. -/
def AlwaysFound (keyword : Text) : Prop :=
  ∀ ds c, ofList? ds = .ok c → ∀ d ∈ c.definitions, Contains d keyword →
    ∀ other : Text, other.toLower = keyword.toLower → d ∈ c.search other

theorem mem_search_iff : d ∈ c.search keyword ↔
    d ∈ c.definitions ∧ ∃ t ∈ d.description :: d.usageHints, keyword.lower <:+: t.lower := by
  have hsearch : d ∈ c.search keyword ↔ d ∈ c.definitions ∧ Mentions d keyword := (isPart_search c keyword).2 d
  rw [hsearch, Mentions, List.exists_mem_cons_iff]

theorem search_congr (c : Catalog) (h : other.toLower = keyword.toLower) : c.search other = c.search keyword := by
  have hlower : other.lower = keyword.lower := by rw [← lower_toLower other, h, lower_toLower]
  have hoccurs : occurs other = occurs keyword := funext fun t => by rw [occurs, occurs, hlower]
  simp only [search, hoccurs]

/-- A place is found if the sigmas there keep their form. -/
theorem mem_search_of_keepsSigmas (hd : d ∈ c.definitions) (ht : p ++ (keyword ++ q) ∈ d.description :: d.usageHints)
    (hkept : KeepsSigmas p keyword q) : d ∈ c.search keyword := by
  refine mem_search_iff.2 ⟨hd, _, ht, ?_⟩
  rw [← lowerWithin_eq_lower_iff.2 hkept]
  exact lowerWithin_infix p keyword q

theorem alwaysFound_of_not_exposed (h : ¬Exposed keyword) : AlwaysFound keyword := by
  rintro ds c - d hd ⟨t, ht, p, q, rfl⟩ other hother
  rw [search_congr c hother]
  rw [List.append_assoc] at ht
  exact mem_search_of_keepsSigmas hd ht (keepsSigmas_of_not_exposed h p q)

/-- A type of node with a description and nothing else. -/
def described (t : Text) : NodeDefinition where
  typeId := "note"
  displayName := "Note"
  description := t

/-- If the lower-case form of a text does not occur in that of a text around it, it is missed there. -/
theorem not_alwaysFound (h : keyword <:+: t) (hlower : ¬keyword.lower <:+: t.lower) : ¬AlwaysFound keyword := by
  intro hfound
  have hmem : described t ∈ (ofList [described t]).definitions := List.mem_singleton_self _
  have hmentioned := hfound [described t] _ rfl _ hmem ⟨t, List.mem_cons_self, h⟩ keyword rfl
  obtain ⟨-, u, hu, hinfix⟩ := mem_search_iff.1 hmentioned
  rw [List.mem_singleton.1 hu] at hinfix
  exact hlower hinfix

/-- How a text is found that occurs as it stands. -/
structure Found (keyword : Text) : Prop where
  /-- It is found in all catalogs if no sigma stands at an end of it, and only then. -/
  always : AlwaysFound keyword ↔ ¬Exposed keyword
  /-- It is found wherever each of its sigmas is final exactly if it is in the text by itself. -/
  kept : ∀ (c : Catalog) (d : NodeDefinition) (p q : Text), d ∈ c.definitions →
    p ++ (keyword ++ q) ∈ d.description :: d.usageHints → KeepsSigmas p keyword q →
      ∀ other : Text, other.toLower = keyword.toLower → d ∈ c.search other

/-- **What occurs as it stands is found, but for final sigmas.** -/
theorem found_search (keyword : Text) : Found keyword where
  always := by
    refine ⟨fun hfound hexposed => ?_, alwaysFound_of_not_exposed⟩
    obtain ⟨t, ht, hlower⟩ := exists_not_infix_of_exposed hexposed
    exact not_alwaysFound ht hlower hfound
  kept c d p q hd ht hkept other hother := by
    rw [search_congr c hother]
    exact mem_search_of_keepsSigmas hd ht hkept

/-- The last letter of a word is written in another way within a longer one. -/
theorem not_alwaysFound_theses : ¬AlwaysFound "ΘΕΣ" := by
  intro hfound
  have hmissed : (ofList [described "ΘΕΣΕΙΣ"]).search "ΘΕΣ" = [] := by decide +kernel
  have hmem := hfound [described "ΘΕΣΕΙΣ"] _ rfl _ (List.mem_singleton_self _)
    ⟨_, List.mem_cons_self, [], "ΕΙΣ", rfl⟩ "ΘΕΣ" rfl
  rw [hmissed] at hmem
  cases hmem

end Automation.Catalog
