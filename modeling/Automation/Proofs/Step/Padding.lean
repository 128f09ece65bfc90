import Automation.Proofs.Step.Listing
import Mathlib

/-!
# Items that are passed over

An item that is read as no step is left out of a list, but it counts as a place. An entry that declares no
number goes by its place, so items that are put in before it may move it behind an entry that declares
one. Apart from that they have no influence: the steps of the list are the same, and entries that both
declare a number, or both declare none, keep their order.

Main statement: `readList_padded`.
-/

namespace Automation

/-- Lists with equal images are equal if no two of their elements have one image. -/
theorem eq_of_map_eq {α β : Type} {f : α → β} {l l' : List α} (hinj : ∀ a ∈ l, ∀ b ∈ l', f a = f b → a = b)
    (h : l.map f = l'.map f) : l = l' := by
  induction l generalizing l' with
  | nil => exact (List.map_eq_nil_iff.1 h.symm).symm
  | cons a l ih =>
    obtain ⟨b, rest, rfl, hhead, hrest⟩ := List.map_eq_cons_iff.1 h.symm
    obtain rfl := hinj a List.mem_cons_self b List.mem_cons_self hhead.symm
    rw [ih (fun c hc d hd => hinj c (List.mem_cons_of_mem _ hc) d (List.mem_cons_of_mem _ hd)) hrest.symm]

namespace Step

variable {p q : Nat} {item : Json} {xs ys : List Json} {a b : Entry}

/-- An item that is read as no step, wherever it stands. -/
def IsSkipped (item : Json) : Prop :=
  ∀ place, entryAt? place item = none

/-- A list, and the list with items put in anywhere that are read as no steps. -/
inductive Padded : List Json → List Json → Prop where
  /-- Nothing is put into a list without items. -/
  | nil : Padded [] []
  /-- An item stays. -/
  | keep (item : Json) {xs ys : List Json} : Padded xs ys → Padded (item :: xs) (item :: ys)
  /-- An item is put in. -/
  | skip {item : Json} {xs ys : List Json} : IsSkipped item → Padded xs ys → Padded xs (item :: ys)

/-! ### Entries that move -/

namespace Entry

/-- An entry and the same one at a place that is perhaps a later one. -/
structure Moved (a b : Entry) : Prop where
  /-- It declares the same. -/
  declared : b.declared = a.declared
  /-- It is the same step. -/
  step : b.step = a.step
  /-- It has not come forward. -/
  place : a.place ≤ b.place

/-- An entry declares a number. -/
def declares (e : Entry) : Bool :=
  e.declared.isSome

theorem declares_eq_false_iff {e : Entry} : e.declares = false ↔ e.declared = none := by
  rw [declares, Option.isSome_eq_false_iff, Option.isNone_iff_eq_none]

theorem Before.asymm (h : a.Before b) : ¬b.Before a := by
  unfold Before at *
  omega

/-- Entries at different places are in order, one way or the other. -/
theorem before_or_before (h : a.place < b.place) : a.Before b ∨ b.Before a := by
  unfold Before
  omega

end Entry

theorem entryAt?_of_entryAt? {e : Entry} (h : entryAt? p item = some e) (q : Nat) :
    entryAt? q item = some { e with place := q } := by
  cases item with
  | object members =>
    obtain ⟨s, hs, rfl⟩ := Option.map_eq_some_iff.1 h
    simp [entryAt?, hs]
  | _ => cases h

theorem isSkipped_of_entryAt? (h : entryAt? p item = none) : IsSkipped item := by
  intro q
  cases hq : entryAt? q item with
  | none => rfl
  | some e =>
    rw [entryAt?_of_entryAt? hq p] at h
    cases h

/-- Putting items in moves the entries, and does nothing else to them. -/
theorem forall₂_entries (h : Padded xs ys) (hpq : p ≤ q) : List.Forall₂ Entry.Moved (entries p xs) (entries q ys) := by
  induction h generalizing p q with
  | nil => exact .nil
  | keep item _ ih =>
    have hrest := ih (Nat.succ_le_succ hpq)
    rw [entries_cons, entries_cons]
    cases hitem : entryAt? p item with
    | none =>
      rw [isSkipped_of_entryAt? hitem q]
      exact hrest
    | some e =>
      rw [entryAt?_of_entryAt? hitem q]
      exact .cons ⟨rfl, rfl, (place_of_entryAt? hitem).trans_le hpq⟩ hrest
  | skip hskipped _ ih =>
    rw [entries_cons, hskipped q]
    exact ih (Nat.le_succ_of_le hpq)

/-! ### Pairs of entries -/

/-- Each entry of a list with the same one of a padded list. -/
abbrev EntryPairs := List (Entry × Entry)

namespace EntryPairs

variable {pairs : EntryPairs} {u v : Entry × Entry}

/-- Entries were moved without passing one another. -/
structure Shifted (pairs : EntryPairs) : Prop where
  /-- Each entry was moved. -/
  moved : ∀ u ∈ pairs, u.1.Moved u.2
  /-- The entries are listed by their places. -/
  first : (pairs.map Prod.fst).Pairwise fun a b => a.place < b.place
  /-- They are so after they were moved. -/
  second : (pairs.map Prod.snd).Pairwise fun a b => a.place < b.place

/-- An entry that declares no number comes behind one that declares a number, and did not before. -/
def Crossing (pairs : EntryPairs) : Prop :=
  ∃ u ∈ pairs, ∃ v ∈ pairs, u.1.declared = none ∧ v.1.declared ≠ none ∧ u.1.Before v.1 ∧ v.2.Before u.2

theorem Shifted.pairwise (h : Shifted pairs) :
    List.Pairwise (fun u v => u.1.place < v.1.place ∧ u.2.place < v.2.place) pairs :=
  have hfirst := List.pairwise_map.1 h.first
  have hsecond := List.pairwise_map.1 h.second
  hfirst.and hsecond

/-- Of two pairs one is listed before the other, unless they are the same. -/
theorem Shifted.trichotomy (h : Shifted pairs) (hu : u ∈ pairs) (hv : v ∈ pairs) :
    u = v ∨ u.1.place < v.1.place ∧ u.2.place < v.2.place ∨ v.1.place < u.1.place ∧ v.2.place < u.2.place := by
  have hsymm : Std.Symm fun u v : Entry × Entry =>
      u.1.place < v.1.place ∧ u.2.place < v.2.place ∨ v.1.place < u.1.place ∧ v.2.place < u.2.place :=
    ⟨fun _ _ => Or.symm⟩
  have heither : List.Pairwise (fun u v : Entry × Entry =>
      u.1.place < v.1.place ∧ u.2.place < v.2.place ∨ v.1.place < u.1.place ∧ v.2.place < u.2.place) pairs :=
    h.pairwise.imp Or.inl
  rcases eq_or_ne u v with heq | hne
  · exact .inl heq
  · exact .inr (heither.forall hu hv hne)

theorem Shifted.eq_of_fst_eq (h : Shifted pairs) (hu : u ∈ pairs) (hv : v ∈ pairs) (heq : u.1 = v.1) : u = v := by
  rcases h.trichotomy hu hv with hsame | ⟨hlt, -⟩ | ⟨hlt, -⟩
  · exact hsame
  · exact absurd (heq ▸ hlt) (Nat.lt_irrefl _)
  · exact absurd (heq ▸ hlt) (Nat.lt_irrefl _)

theorem Shifted.before_trichotomy (h : Shifted pairs) (hu : u ∈ pairs) (hv : v ∈ pairs) :
    u = v ∨ u.1.Before v.1 ∨ v.1.Before u.1 := by
  rcases h.trichotomy hu hv with heq | ⟨hlt, -⟩ | ⟨hlt, -⟩
  · exact .inl heq
  · exact .inr (Entry.before_or_before hlt)
  · exact .inr (Entry.before_or_before hlt).symm

/-- Entries that both declare a number, or both declare none, keep their order. -/
theorem Shifted.before_iff (h : Shifted pairs) (hu : u ∈ pairs) (hv : v ∈ pairs)
    (halike : u.1.declared = none ↔ v.1.declared = none) : u.1.Before v.1 ↔ u.2.Before v.2 := by
  have hplaces := h.trichotomy hu hv
  rw [Entry.Before, Entry.Before, Entry.number, Entry.number, Entry.number, Entry.number,
    (h.moved u hu).declared, (h.moved v hv).declared]
  cases hud : u.1.declared <;> cases hvd : v.1.declared <;> simp [hud, hvd] at halike ⊢
  · rcases hplaces with rfl | hlt | hlt <;> omega
  · rcases hplaces with rfl | hlt | hlt <;> omega

/-- An entry that declares no number does not come in front of one that declares a number. -/
theorem Shifted.before_of_undeclared (h : Shifted pairs) (hu : u ∈ pairs) (hv : v ∈ pairs)
    (hnone : u.1.declared = none) (hsome : v.1.declared ≠ none) (hbefore : u.2.Before v.2) : u.1.Before v.1 := by
  obtain ⟨n, hn⟩ := Option.ne_none_iff_exists'.1 hsome
  have hplaces := h.trichotomy hu hv
  have hplace := (h.moved u hu).place
  unfold Entry.Before Entry.number at hbefore ⊢
  rw [(h.moved u hu).declared, (h.moved v hv).declared] at hbefore
  simp only [hnone, hn, Option.getD_none, Option.getD_some] at hbefore ⊢
  rcases hplaces with rfl | hlt | hlt <;> omega

/-- What is in order after the entries were moved was so before, if none that declares no number comes behind
one that declares a number. -/
theorem Shifted.before_of_before (h : Shifted pairs) (hcross : ¬Crossing pairs) (hu : u ∈ pairs) (hv : v ∈ pairs)
    (hbefore : u.2.Before v.2) : u.1.Before v.1 := by
  by_cases hun : u.1.declared = none <;> by_cases hvn : v.1.declared = none
  · exact (h.before_iff hu hv (iff_of_true hun hvn)).2 hbefore
  · exact h.before_of_undeclared hu hv hun hvn hbefore
  · rcases h.before_trichotomy hu hv with rfl | hfirst | hsecond
    · exact absurd hvn hun
    · exact hfirst
    · exact absurd ⟨v, hv, u, hu, hvn, hun, hsecond, hbefore⟩ hcross
  · exact (h.before_iff hu hv (iff_of_false hun hvn)).2 hbefore

/-- The pairs sorted by one of their entries. -/
def sortedBy (f : Entry × Entry → Entry) (pairs : EntryPairs) : EntryPairs :=
  pairs.mergeSort fun u v => decide ((f u).number ≤ (f v).number)

theorem map_sortedBy (f : Entry × Entry → Entry) (pairs : EntryPairs) :
    (pairs.sortedBy f).map f = arranged (pairs.map f) :=
  List.map_mergeSort fun _ _ _ _ => rfl

theorem mem_sortedBy {f : Entry × Entry → Entry} : u ∈ pairs.sortedBy f ↔ u ∈ pairs :=
  List.mem_mergeSort

theorem perm_sortedBy (f g : Entry × Entry → Entry) (pairs : EntryPairs) :
    (pairs.sortedBy f).Perm (pairs.sortedBy g) :=
  (List.mergeSort_perm pairs _).trans (List.mergeSort_perm pairs _).symm

theorem pairwise_sortedBy {f : Entry × Entry → Entry} (h : (pairs.map f).Pairwise fun a b => a.place < b.place) :
    List.Pairwise (fun u v => (f u).Before (f v)) (pairs.sortedBy f) := by
  have hsorted := pairwise_before_arranged h
  rwa [← map_sortedBy, List.pairwise_map] at hsorted

/-- Entries in order can be listed in one way only. -/
theorem eq_of_pairwise_before {others : EntryPairs} (h : List.Pairwise (fun u v => u.1.Before v.1) pairs)
    (h' : List.Pairwise (fun u v => u.1.Before v.1) others) (hperm : pairs.Perm others) : pairs = others :=
  hperm.eq_of_pairwise (fun _ _ _ _ huv hvu => absurd hvu huv.asymm) h h'

/-- The entries are in one order before and after they were moved if and only if none that declares no number
comes behind one that declares a number. -/
theorem Shifted.sortedBy_eq_iff (h : Shifted pairs) :
    pairs.sortedBy Prod.fst = pairs.sortedBy Prod.snd ↔ ¬Crossing pairs := by
  have hfirst := pairwise_sortedBy h.first
  have hsecond := pairwise_sortedBy h.second
  constructor
  · rintro heq ⟨u, hu, v, hv, -, -, huv, hvu⟩
    rw [← heq] at hsecond
    have hsymm : Std.Symm fun u v : Entry × Entry =>
        ¬(u.1.Before v.1 ∧ v.2.Before u.2) ∧ ¬(v.1.Before u.1 ∧ u.2.Before v.2) :=
      ⟨fun _ _ => And.symm⟩
    have hagree : List.Pairwise (fun u v : Entry × Entry =>
        ¬(u.1.Before v.1 ∧ v.2.Before u.2) ∧ ¬(v.1.Before u.1 ∧ u.2.Before v.2)) (pairs.sortedBy Prod.fst) :=
      (hfirst.and hsecond).imp fun huv => ⟨fun h => huv.2.asymm h.2, fun h => huv.1.asymm h.1⟩
    have hself : ∀ u ∈ pairs.sortedBy Prod.fst,
        ¬(u.1.Before u.1 ∧ u.2.Before u.2) ∧ ¬(u.1.Before u.1 ∧ u.2.Before u.2) :=
      fun u _ => ⟨fun h => h.1.asymm h.1, fun h => h.1.asymm h.1⟩
    exact (hagree.forall_of_forall hself (mem_sortedBy.2 hu) (mem_sortedBy.2 hv)).1 ⟨huv, hvu⟩
  · intro hcross
    refine eq_of_pairwise_before hfirst ?_ (perm_sortedBy _ _ pairs)
    exact hsecond.imp_of_mem fun hu hv => h.before_of_before hcross (mem_sortedBy.1 hu) (mem_sortedBy.1 hv)

/-- The entries that declare a number are in one order before and after they were moved, and so are those that
declare none. -/
theorem Shifted.filter_sortedBy (h : Shifted pairs) (b : Bool) :
    (pairs.sortedBy Prod.snd).filter (fun u => u.1.declares == b) =
      (pairs.sortedBy Prod.fst).filter fun u => u.1.declares == b := by
  refine eq_of_pairwise_before ?_ ?_ ((perm_sortedBy _ _ pairs).filter _)
  · refine ((pairwise_sortedBy h.second).sublist List.filter_sublist).imp_of_mem fun {u v} hu hv hbefore => ?_
    obtain ⟨hu, hub⟩ := List.mem_filter.1 hu
    obtain ⟨hv, hvb⟩ := List.mem_filter.1 hv
    have hsame : u.1.declares = v.1.declares := (eq_of_beq hub).trans (eq_of_beq hvb).symm
    have halike : u.1.declared = none ↔ v.1.declared = none := by
      rw [← Entry.declares_eq_false_iff, ← Entry.declares_eq_false_iff, hsame]
    exact (h.before_iff (mem_sortedBy.1 hu) (mem_sortedBy.1 hv) halike).2 hbefore
  · exact (pairwise_sortedBy h.first).sublist List.filter_sublist

end EntryPairs

/-! ### Padded lists -/

/-- The entries of a list, each with itself in a padded list. -/
def entryPairs (xs ys : List Json) : EntryPairs :=
  (entries 1 xs).zip (entries 1 ys)

theorem map_fst_entryPairs (h : Padded xs ys) : (entryPairs xs ys).map Prod.fst = entries 1 xs :=
  List.map_fst_zip (forall₂_entries h (Nat.le_refl 1)).length_eq.le

theorem map_snd_entryPairs (h : Padded xs ys) : (entryPairs xs ys).map Prod.snd = entries 1 ys :=
  List.map_snd_zip (forall₂_entries h (Nat.le_refl 1)).length_eq.ge

theorem shifted_entryPairs (h : Padded xs ys) : (entryPairs xs ys).Shifted where
  moved _ hu := (List.forall₂_iff_zip.1 (forall₂_entries h (Nat.le_refl 1))).2 hu
  first := map_fst_entryPairs h ▸ pairwise_place_entries 1 xs
  second := map_snd_entryPairs h ▸ pairwise_place_entries 1 ys

theorem Padded.subset (h : Padded xs ys) : xs ⊆ ys := by
  induction h with
  | nil => exact List.Subset.refl []
  | keep item _ ih => exact List.cons_subset_cons item ih
  | skip _ _ ih => exact List.subset_cons_of_subset _ ih

theorem step_of_mem_entryPairs (h : Padded xs ys) {u : Entry × Entry} (hu : u ∈ entryPairs xs ys) :
    u.2.step = u.1.step :=
  ((shifted_entryPairs h).moved u hu).step

/-- A list without infinities is read as the steps of its pairs, sorted by the entries of the list. -/
theorem readList_of_pairs {answer : Json} {pairs : EntryPairs} {f : Entry × Entry → Entry}
    (hbounded : ¬DeclaresInfinity answer) (hpairs : pairs.map f = entries 1 (listOf answer))
    (hstep : ∀ u ∈ pairs, (f u).step = u.1.step) :
    readList answer = some (reindex ((pairs.sortedBy f).map fun u => u.1.step)) := by
  rw [readList_of_bounded hbounded, ← hpairs, ← EntryPairs.map_sortedBy, List.map_map]
  refine congrArg (some ∘ reindex) (List.map_congr_left fun u hu => ?_)
  exact hstep u (EntryPairs.mem_sortedBy.1 hu)

theorem unnumbered_of_mem_entryPairs {u : Entry × Entry} (hu : u ∈ entryPairs xs ys) :
    u.1.step.unnumbered = u.1.step :=
  unnumbered_of_mem_entries (List.of_mem_zip hu).1

theorem not_isUnbounded_of_readList {steps : List Step} (h : readList (.array xs) = some steps) :
    ∀ item ∈ xs, ¬IsUnbounded item := by
  intro item hitem hunbounded
  have hnone : readList (.array xs) = none := readList_eq_none.2 ⟨item, hitem, hunbounded⟩
  rw [h] at hnone
  cases hnone

/-- **Items that are passed over count as places only.** If they are put into a list, it is read as the entries
of the original in some order. Those that declare a number are in the order in which the original is read, and
so are those that declare none. All of them are, unless one that declares no number comes behind one that
declares a number and did not in the original; so the steps are the same then, and if no two of them are alike,
in no other case. -/
theorem readList_padded (h : Padded xs ys) (hbounded : ∀ item ∈ ys, ¬IsUnbounded item) :
    ∃ order : List Entry, order.Perm (arranged (entries 1 xs)) ∧
      readList (.array xs) = some (reindex ((arranged (entries 1 xs)).map Entry.step)) ∧
      readList (.array ys) = some (reindex (order.map Entry.step)) ∧
      (∀ b, order.filter (fun e => e.declares == b) = (arranged (entries 1 xs)).filter fun e => e.declares == b) ∧
      (order = arranged (entries 1 xs) ↔ ¬(entryPairs xs ys).Crossing) ∧
      (((entries 1 xs).map Entry.step).Nodup →
        (readList (.array ys) = readList (.array xs) ↔ ¬(entryPairs xs ys).Crossing)) := by
  have hshifted := shifted_entryPairs h
  have hys : ¬DeclaresInfinity (.array ys) := fun ⟨item, hitem, hunbounded⟩ => hbounded item hitem hunbounded
  have hxs : ¬DeclaresInfinity (.array xs) := fun ⟨item, hitem, hunbounded⟩ =>
    hbounded item (h.subset hitem) hunbounded
  have hfirst : ((entryPairs xs ys).sortedBy Prod.fst).map Prod.fst = arranged (entries 1 xs) := by
    rw [EntryPairs.map_sortedBy, map_fst_entryPairs h]
  have hreadXs : readList (.array xs) =
      some (reindex (((entryPairs xs ys).sortedBy Prod.fst).map fun u => u.1.step)) :=
    readList_of_pairs hxs (map_fst_entryPairs h) fun _ _ => rfl
  have hreadYs : readList (.array ys) =
      some (reindex (((entryPairs xs ys).sortedBy Prod.snd).map fun u => u.1.step)) :=
    readList_of_pairs hys (map_snd_entryPairs h) fun _ hu => step_of_mem_entryPairs h hu
  refine ⟨((entryPairs xs ys).sortedBy Prod.snd).map Prod.fst, ?_, ?_, ?_, fun b => ?_, ?_, fun hnodup => ?_⟩
  · rw [← hfirst]
    exact (EntryPairs.perm_sortedBy _ _ _).map _
  · rw [hreadXs, ← hfirst, List.map_map]
    rfl
  · rw [hreadYs, List.map_map]
    rfl
  · rw [← hfirst, List.filter_map, List.filter_map]
    exact congrArg (List.map Prod.fst) (hshifted.filter_sortedBy b)
  · rw [← hfirst, ← hshifted.sortedBy_eq_iff]
    refine ⟨fun heq => (eq_of_map_eq (fun u hu v hv huv => ?_) heq).symm, fun heq => by rw [heq]⟩
    exact hshifted.eq_of_fst_eq (EntryPairs.mem_sortedBy.1 hu) (EntryPairs.mem_sortedBy.1 hv) huv
  · rw [hreadXs, hreadYs, ← hshifted.sortedBy_eq_iff, Option.some_inj, reindex_inj, List.map_map, List.map_map]
    refine ⟨fun heq => (eq_of_map_eq (fun u hu v hv huv => ?_) heq).symm, fun heq => by rw [heq]⟩
    have hu := EntryPairs.mem_sortedBy.1 hu
    have hv := EntryPairs.mem_sortedBy.1 hv
    rw [← map_fst_entryPairs h, List.map_map] at hnodup
    refine List.inj_on_of_nodup_map hnodup hu hv ?_
    simpa [unnumbered_of_mem_entryPairs hu, unnumbered_of_mem_entryPairs hv] using huv

/-- An entry that declares no number, in front of one that declares a number. -/
def waitThenSend : List Json :=
  [.ofFields [("description", "wait")], .ofFields [("description", "send"), ("step", .int 1)]]

/-- The same with a text before them. -/
def titledWaitThenSend : List Json :=
  .text "Steps:" :: waitThenSend

/-- They change places. -/
theorem readList_titled_ne :
    Padded waitThenSend titledWaitThenSend ∧ (∀ item ∈ titledWaitThenSend, ¬IsUnbounded item) ∧
      readList (.array titledWaitThenSend) ≠ readList (.array waitThenSend) := by
  have htitled : readList (.array titledWaitThenSend) =
      some [⟨1, .process, "send", [], [], none, false, none⟩, ⟨2, .process, "wait", [], [], none, false, none⟩] := by
    cbv
  have horiginal : readList (.array waitThenSend) =
      some [⟨1, .process, "wait", [], [], none, false, none⟩, ⟨2, .process, "send", [], [], none, false, none⟩] := by
    cbv
  refine ⟨.skip (isSkipped_of_entryAt? (p := 1) rfl) (.keep _ (.keep _ .nil)), not_isUnbounded_of_readList htitled, ?_⟩
  rw [htitled, horiginal]
  decide +kernel

/-- A list of two entries, of which the first one declares a number. -/
def sendThenWait : List Json :=
  [.ofFields [("description", "send"), ("step", .int 2)], .ofFields [("description", "wait")]]

/-- The same with an object between them that is no step. -/
def sendThenWaitPadded : List Json :=
  [.ofFields [("description", "send"), ("step", .int 2)], .ofFields [("parallelizable", .int 7), ("step", .int 1)],
    .ofFields [("description", "wait")]]

/-- They do not change places. -/
theorem readList_padded_sendThenWait :
    Padded sendThenWait sendThenWaitPadded ∧ (∀ item ∈ sendThenWaitPadded, ¬IsUnbounded item) ∧
      ∃ order : List Entry, order.Perm (arranged (entries 1 sendThenWait)) ∧
        readList (.array sendThenWait) = some (reindex ((arranged (entries 1 sendThenWait)).map Entry.step)) ∧
        readList (.array sendThenWaitPadded) = some (reindex (order.map Entry.step)) ∧
        (∀ b, order.filter (fun e => e.declares == b) =
          (arranged (entries 1 sendThenWait)).filter fun e => e.declares == b) ∧
        (order = arranged (entries 1 sendThenWait) ↔ ¬(entryPairs sendThenWait sendThenWaitPadded).Crossing) ∧
        (((entries 1 sendThenWait).map Entry.step).Nodup →
          (readList (.array sendThenWaitPadded) = readList (.array sendThenWait) ↔
            ¬(entryPairs sendThenWait sendThenWaitPadded).Crossing)) := by
  have hskipped : IsSkipped (.ofFields [("parallelizable", .int 7), ("step", .int 1)]) :=
    isSkipped_of_entryAt? (p := 1) (by cbv)
  have hpadded : Padded sendThenWait sendThenWaitPadded := .keep _ (.skip hskipped (.keep _ .nil))
  have hread : readList (.array sendThenWaitPadded) =
      some [⟨1, .process, "send", [], [], none, false, none⟩, ⟨2, .process, "wait", [], [], none, false, none⟩] := by
    cbv
  have hbounded := not_isUnbounded_of_readList hread
  exact ⟨hpadded, hbounded, readList_padded hpadded hbounded⟩

end Step

end Automation
