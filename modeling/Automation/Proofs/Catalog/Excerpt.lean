import Automation.Catalog
import Automation.Proofs.Sequence
import Mathlib.Data.Set.Card

/-!
# What an excerpt keeps

An excerpt of a catalog is ranked by the number of different words that a definition shares with a query,
cut off at the limit, and listed in the order of the catalog again. So it holds as many definitions as the
limit allows, and each of them has a claim to its place that no definition left out has: it shares more words
with the query, or as many and comes first in the catalog.

Words are compared in lower case, and are looked for in the name, the description and the usage hints of a
definition, which are put together with blanks between them. No word runs across a blank
(`isWord_searchText`).

Main statement: `excerpt_best`.
-/

namespace Automation.Catalog

variable {c : Catalog} {d e : NodeDefinition} {t query w : Text} {limit : Nat}

/-! ### Words -/

/-- A run of word characters in a text with no word character before or behind it. -/
def IsTermRun (t w : Text) : Prop :=
  w ≠ [] ∧ (∀ c ∈ w, isTermPoint c) ∧ ∃ front back, t = front ++ (w ++ back) ∧
    (∀ c ∈ front.getLast?, ¬isTermPoint c) ∧ ∀ c ∈ back.head?, ¬isTermPoint c

/-- A word of a text: a longest run of letters and digits of the text in lower case. -/
def IsWord (t w : Text) : Prop :=
  IsTermRun t.lower w

theorem not_isTermRun_nil : ¬IsTermRun [] w := by
  rintro ⟨hne, -, front, back, h, -⟩
  simp_all

/-- Runs do not go across what is no word character. -/
theorem isTermRun_append_cons {p : CodePoint} (hp : ¬isTermPoint p) (s t : Text) :
    IsTermRun (s ++ p :: t) w ↔ IsTermRun s w ∨ IsTermRun t w := by
  constructor
  · rintro ⟨hne, hw, front, back, h, hfront, hback⟩
    have hnot : p ∉ w := fun hmem => hp (hw p hmem)
    rcases List.append_eq_append_iff.1 h with ⟨between, rfl, hrest⟩ | ⟨between, rfl, hrest⟩
    · -- the run begins behind `s`, and not with `p`
      cases between with
      | nil =>
        obtain ⟨a, w, rfl⟩ := List.exists_cons_of_ne_nil hne
        obtain ⟨rfl, -⟩ := List.cons.inj hrest
        exact absurd List.mem_cons_self hnot
      | cons a between =>
        obtain ⟨rfl, rfl⟩ := List.cons.inj hrest
        refine .inr ⟨hne, hw, between, back, rfl, fun a ha => hfront a ?_, hback⟩
        rw [List.append_cons, List.getLast?_append, ha]
        rfl
    · -- the run begins in `s`, and ends there
      rcases List.append_eq_append_iff.1 hrest with ⟨beyond, rfl, hback'⟩ | ⟨inside, rfl, htail⟩
      · refine .inl ⟨hne, hw, front, beyond, rfl, hfront, fun a ha => hback a ?_⟩
        rw [hback', List.head?_append, ha]
        rfl
      · cases inside with
        | nil => exact .inl ⟨hne, hw, front, [], by simp, hfront, nofun⟩
        | cons a inside =>
          obtain ⟨rfl, -⟩ := List.cons.inj htail
          simp at hnot
  · rintro (⟨hne, hw, front, back, rfl, hfront, hback⟩ | ⟨hne, hw, front, back, rfl, hfront, hback⟩)
    · refine ⟨hne, hw, front, back ++ p :: t, by simp, hfront, ?_⟩
      cases back with
      | nil => simpa using hp
      | cons a back => exact hback
    · refine ⟨hne, hw, s ++ p :: front, back, by simp, fun a ha => ?_, hback⟩
      rw [List.getLast?_append, List.getLast?_cons] at ha
      cases hlast : front.getLast? with
      | none => simp_all
      | some b => simp_all

/-- A text of word characters is one run. -/
theorem isTermRun_iff_of_forall (ht : ∀ c ∈ t, isTermPoint c) : IsTermRun t w ↔ t ≠ [] ∧ w = t := by
  constructor
  · rintro ⟨hne, -, front, back, rfl, hfront, hback⟩
    have hfrontNil : front = [] := by
      refine List.getLast?_eq_none_iff.1 (Option.eq_none_iff_forall_not_mem.2 fun a ha => hfront a ha (ht a ?_))
      exact List.mem_append_left _ (List.mem_of_mem_getLast? ha)
    have hbackNil : back = [] := by
      refine List.head?_eq_none_iff.1 (Option.eq_none_iff_forall_not_mem.2 fun a ha => hback a ha (ht a ?_))
      exact List.mem_append_right _ (List.mem_append_right _ (List.mem_of_mem_head? ha))
    simp [hfrontNil, hbackNil, hne]
  · rintro ⟨hne, rfl⟩
    exact ⟨hne, ht, [], [], by simp, nofun, nofun⟩

/-- The walk over a text finds its runs, where `current` is the one that has begun. -/
theorem mem_termRuns {current : Text} (hcurrent : ∀ c ∈ current, isTermPoint c) :
    w ∈ termRuns current t ↔ IsTermRun (current.reverse ++ t) w := by
  induction t generalizing current with
  | nil =>
    rw [List.append_nil, isTermRun_iff_of_forall (by simpa using hcurrent), termRuns]
    cases current <;> simp
  | cons p t ih =>
    rw [termRuns]
    by_cases hp : isTermPoint p
    · have hmore : ∀ c ∈ p :: current, isTermPoint c := List.forall_mem_cons.2 ⟨hp, hcurrent⟩
      rw [if_pos hp, ih hmore, List.reverse_cons, List.append_assoc, List.singleton_append]
    · rw [if_neg hp, isTermRun_append_cons hp, isTermRun_iff_of_forall (by simpa using hcurrent)]
      have hrest : w ∈ termRuns [] t ↔ IsTermRun t w := ih nofun
      cases current with
      | nil => simpa using hrest
      | cons a current => simpa using or_congr_right hrest

theorem mem_terms : w ∈ terms t ↔ IsWord t w := by
  have hruns : w ∈ termRuns [] t.lower ↔ IsTermRun t.lower w := mem_termRuns nofun
  rw [terms, List.mem_eraseDups, hruns, IsWord]

/-- The texts of a definition that are compared with a query. -/
def comparedTexts (d : NodeDefinition) : List Text :=
  d.displayName :: d.description :: d.usageHints

theorem isWord_join_blank (texts : List Text) : IsWord (Text.join " " texts) w ↔ ∃ t ∈ texts, IsWord t w := by
  induction texts with
  | nil =>
    have hnil : ¬IsWord (Text.join " " []) w := not_isTermRun_nil
    simpa using hnil
  | cons t texts ih =>
    cases texts with
    | nil => simp [Text.join]
    | cons s texts =>
      have hblank : ¬isTermPoint ' ' := by decide
      rw [Text.join_cons_cons, List.exists_mem_cons_iff, ← ih, IsWord, Text.lower_append_blank]
      exact isTermRun_append_cons hblank t.lower _

/-- The words of a definition are those of its texts. -/
theorem isWord_searchText : IsWord (searchText d) w ↔ ∃ t ∈ comparedTexts d, IsWord t w := by
  rw [searchText, isWord_join_blank, comparedTexts]

/-- The words that a definition shares with a query. -/
def sharedWords (query : Text) (d : NodeDefinition) : Set Text :=
  {w | IsWord query w ∧ ∃ t ∈ comparedTexts d, IsWord t w}

theorem overlap_terms (query : Text) (d : NodeDefinition) :
    overlap (terms query) d = (sharedWords query d).ncard := by
  have hnodup : ((terms (searchText d)).filter fun term => (terms query).contains term).Nodup :=
    (nodup_eraseDups _).filter _
  have hshared : sharedWords query d =
      ((terms (searchText d)).filter fun term => (terms query).contains term).toFinset := by
    ext w
    simp only [sharedWords, Set.mem_ofPred_eq, List.coe_toFinset, List.mem_filter, List.contains_iff_mem, mem_terms,
      isWord_searchText]
    exact and_comm
  rw [overlap, hshared, Set.ncard_coe_finset, List.toFinset_card_of_nodup hnodup]

/-! ### Ranks -/

/-- The definitions of a catalog, those that share the most words with a query first. -/
def ranked (c : Catalog) (query : Text) : List NodeDefinition :=
  c.definitions.mergeSort fun d e => decide (overlap (terms query) e ≤ overlap (terms query) d)

/-- A definition comes before another one in the ranking of a catalog: it shares more words with the query,
or as many and comes first in the catalog. -/
def Outranks (c : Catalog) (query : Text) (d e : NodeDefinition) : Prop :=
  (sharedWords query e).ncard < (sharedWords query d).ncard ∨
    (sharedWords query e).ncard = (sharedWords query d).ncard ∧ [d, e].Sublist c.definitions

theorem perm_ranked (c : Catalog) (query : Text) : (ranked c query).Perm c.definitions :=
  List.mergeSort_perm _ _

theorem pairwise_ranked (c : Catalog) (query : Text) : (ranked c query).Pairwise (Outranks c query) := by
  have horder : c.definitions.Pairwise fun d e => [d, e].Sublist c.definitions :=
    List.pairwise_iff_forall_sublist.2 fun h => h
  -- the ranking is by falling numbers of words
  have hsorted := pairwise_mergeSort_by (fun d => OrderDual.toDual (overlap (terms query) d)) horder
  refine hsorted.imp fun {d e} hde => ?_
  rw [OrderDual.toDual_lt_toDual, OrderDual.toDual_inj, overlap_terms, overlap_terms] at hde
  exact hde.imp_right fun htied => ⟨htied.1.symm, htied.2⟩

/-! ### The cut -/

/-- An excerpt keeps some definitions, in their order. -/
theorem excerptDefinitions_sublist {limit : Option Int} : (c.excerptDefinitions query limit).Sublist c.definitions := by
  cases limit with
  | none => exact List.Sublist.refl _
  | some limit =>
    rw [excerptDefinitions]
    split
    · exact List.Sublist.refl _
    · exact List.filter_sublist

/-- What is kept of a list by the keys of the first items in another order are those items. -/
theorem perm_filter_contains {α : Type} {key : α → Text} {l front back : List α} (hperm : (front ++ back).Perm l)
    (hnodup : (l.map key).Nodup) : (l.filter fun a => (front.map key).contains (key a)).Perm front := by
  have hdisjoint : ((front ++ back).map key).Nodup := (hperm.map key).nodup_iff.2 hnodup
  rw [List.map_append, List.nodup_append] at hdisjoint
  have hfront : front.filter (fun a => (front.map key).contains (key a)) = front := by
    refine List.filter_eq_self.2 fun a ha => ?_
    exact List.contains_iff_mem.2 (List.mem_map_of_mem ha)
  have hback : back.filter (fun a => (front.map key).contains (key a)) = [] := by
    refine List.filter_eq_nil_iff.2 fun a ha hmem => ?_
    exact hdisjoint.2.2 _ (List.contains_iff_mem.1 hmem) _ (List.mem_map_of_mem ha) rfl
  have hkept := (hperm.filter fun a => (front.map key).contains (key a)).symm
  rwa [List.filter_append, hfront, hback, List.append_nil] at hkept

/-- Above the limit an excerpt consists of the definitions that are ranked first. -/
theorem perm_excerptDefinitions (h : limit < c.size) :
    (c.excerptDefinitions query (some (limit : Int))).Perm ((ranked c query).take limit) := by
  have hranked : (((c.definitions.map fun d => (overlap (terms query) d, d)).mergeSort
      fun a b => decide (b.1 ≤ a.1)).map fun p => p.2.typeId) = (ranked c query).map NodeDefinition.typeId := by
    rw [ranked, ← List.map_mergeSort
      (r := fun d e => decide (overlap (terms query) e ≤ overlap (terms query) d)) fun _ _ _ _ => rfl, List.map_map]
    rfl
  have hkept : c.excerptDefinitions query (some (limit : Int)) =
      c.definitions.filter fun d => (((ranked c query).take limit).map NodeDefinition.typeId).contains d.typeId := by
    rw [excerptDefinitions, if_neg (by omega), List.map_take, ← hranked]
    simp only [leading, if_pos (Int.natCast_nonneg limit), Int.toNat_natCast]
  have hperm : ((ranked c query).take limit ++ (ranked c query).drop limit).Perm c.definitions := by
    rw [List.take_append_drop]
    exact perm_ranked c query
  rw [hkept]
  exact perm_filter_contains hperm c.nodup

/-- **An excerpt keeps the best.** For every number `limit`, the excerpt consists of the entries of as many
definitions as the limit allows, in the order of the catalog, and every definition that is kept comes before
every one that is left out in the ranking for the query; no query is an empty one. With no limit, or one that
is not below the size of the catalog, all definitions are listed. -/
theorem excerpt_best (c : Catalog) (query : Option Text) :
    (∀ limit : Nat, ∃ kept : List NodeDefinition,
      c.excerpt (query.getD "") (some (limit : Int)) = kept.map entry ∧
      kept.length = min limit c.size ∧ kept.Sublist c.definitions ∧
      ∀ d ∈ kept, ∀ e ∈ c.definitions, e ∉ kept → Outranks c (query.getD "") d e) ∧
    ∀ limit : Option Int, (∀ n ∈ limit, (c.size : Int) ≤ n) →
      c.excerpt (query.getD "") limit = c.definitions.map entry := by
  have hall : ∀ limit : Option Int, (∀ n ∈ limit, (c.size : Int) ≤ n) →
      c.excerptDefinitions (query.getD "") limit = c.definitions := by
    intro limit hlimit
    cases limit with
    | none => rfl
    | some n => rw [excerptDefinitions, if_pos (hlimit n rfl)]
  refine ⟨fun limit => ⟨c.excerptDefinitions (query.getD "") (some limit), rfl, ?_⟩, fun limit hlimit => ?_⟩
  · rcases Nat.lt_or_ge limit c.size with hlt | hge
    · have hkept : (c.excerptDefinitions (query.getD "") (some (limit : Int))).Perm
          ((ranked c (query.getD "")).take limit) := perm_excerptDefinitions hlt
      have hranked := perm_ranked c (query.getD "")
      refine ⟨?_, excerptDefinitions_sublist, fun d hd e he hdropped => ?_⟩
      · rw [hkept.length_eq, List.length_take, hranked.length_eq, size]
      · -- what is left out is ranked behind the cut
        have hbehind : e ∈ (ranked c (query.getD "")).drop limit := by
          have hmem : e ∈ (ranked c (query.getD "")).take limit ++ (ranked c (query.getD "")).drop limit := by
            rw [List.take_append_drop]
            exact hranked.mem_iff.2 he
          exact (List.mem_append.1 hmem).resolve_left fun htake => hdropped (hkept.mem_iff.2 htake)
        have hpairs := pairwise_ranked c (query.getD "")
        rw [← List.take_append_drop limit (ranked c (query.getD "")), List.pairwise_append] at hpairs
        exact hpairs.2.2 d (hkept.mem_iff.1 hd) e hbehind
    · rw [hall (some limit) (by simpa using hge)]
      exact ⟨(Nat.min_eq_right hge).symm, List.Sublist.refl _, fun d _ e he hdropped => absurd he hdropped⟩
  · rw [excerpt, hall limit hlimit]

end Automation.Catalog
