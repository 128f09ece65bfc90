import Automation.Proofs.Json.Parts
import Automation.Storage.Basic

/-!
# The contents of files

What is put at a place changes nothing at other places. Folders are only made where nothing is, so that
making them leaves the contents of all files as they are, also if it fails on the way. A file that is put
where no folder stands leaves all folders as they are, so that all paths go on leading to where they led.

Main statements: `content?_makeFolders`, `find_put_file`.
-/

namespace Automation.Storage

open Json (bind_eq_ok)

variable {s s' : Storage} {place other here start : Place} {entry : StorageEntry} {names : List Text} {text : String}

/-! ### Putting -/

theorem lookup_map_replace (entries : List (Place × StorageEntry)) (place : Place) (entry : StorageEntry)
    (other : Place) :
    (entries.map fun (p, e) => if p = place then (p, entry) else (p, e)).lookup other =
      (entries.lookup other).map fun e => if other = place then entry else e := by
  induction entries with
  | nil => rfl
  | cons first rest ih =>
    obtain ⟨p, e⟩ := first
    by_cases hother : other = p
    · subst hother
      by_cases hplace : other = place <;> simp [hplace]
    · have hne : (other == p) = false := beq_eq_false_iff_ne.2 hother
      have hskip (e' : StorageEntry) (rest' : List (Place × StorageEntry)) :
          ((p, e') :: rest').lookup other = rest'.lookup other := by
        rw [List.lookup_cons, hne]
      simp only [List.map_cons]
      split
      · rw [hskip, hskip, ih]
      · rw [hskip, hskip, ih]

theorem lookup_put (s : Storage) (place : Place) (entry : StorageEntry) (other : Place) :
    (s.put place entry).entries.lookup other = if other = place then some entry else s.entries.lookup other := by
  unfold put
  split
  · next hfound =>
    obtain ⟨e, he⟩ := Option.isSome_iff_exists.1 hfound
    rw [lookup_map_replace]
    split
    · next heq => simp [heq, he]
    · simp
  · next hmissing =>
    rw [Option.not_isSome_iff_eq_none] at hmissing
    by_cases heq : other = place
    · simp [heq, hmissing, List.lookup_append]
    · simp [heq, List.lookup_append, List.lookup_cons, beq_eq_false_iff_ne.2 heq]

@[simp] theorem start_put (s : Storage) (place : Place) (entry : StorageEntry) (p : StoragePath) :
    (s.put place entry).start p = s.start p := by
  have hworking : (s.put place entry).working = s.working := by
    unfold put
    split <;> rfl
  simp only [Storage.start, hworking]

@[simp] theorem at?_nil (s : Storage) : s.at? [] = some .folder := rfl

theorem at?_put (hplace : place ≠ []) (other : Place) :
    (s.put place entry).at? other = if other = place then some entry else s.at? other := by
  cases other with
  | nil => simp [Ne.symm hplace]
  | cons name above => exact lookup_put s place entry _

/-- What is put at the topmost place changes nothing: there is always a folder. -/
theorem at?_put_nil (s : Storage) (entry : StorageEntry) (other : Place) :
    (s.put [] entry).at? other = s.at? other := by
  cases other with
  | nil => rfl
  | cons name above => exact lookup_put s [] entry _

theorem hasFolder_iff : s.hasFolder place ↔ s.at? place = some .folder := by
  simp [hasFolder]

theorem ne_nil_of_not_hasFolder (h : ¬s.hasFolder place) : place ≠ [] := by
  rintro rfl
  exact h rfl

/-- A file at a place where no folder stands leaves the folders as they are. -/
theorem hasFolder_put_file (h : ¬s.hasFolder place) (other : Place) :
    (s.put place (.file text)).hasFolder other = s.hasFolder other := by
  rw [Bool.eq_iff_iff, hasFolder_iff, hasFolder_iff, at?_put (ne_nil_of_not_hasFolder h)]
  split
  · next heq => simpa [heq, hasFolder_iff] using h
  · rfl

/-! ### Contents -/

theorem content?_put_file (hplace : place ≠ []) (other : Place) :
    (s.put place (.file text)).content? other = if other = place then some text else s.content? other := by
  unfold content?
  rw [at?_put hplace]
  by_cases heq : other = place <;> simp [heq]

/-- A folder where no file stands leaves the contents of all files as they are. -/
theorem content?_put_folder (h : s.content? place = none) : (s.put place .folder).content? = s.content? := by
  funext other
  by_cases hplace : place = []
  · simp [content?, hplace, at?_put_nil]
  · by_cases heq : other = place
    · subst heq
      rw [h]
      simp [content?, at?_put hplace]
    · simp [content?, at?_put hplace, heq]

/-- A storage that has nothing but a working folder has no files. -/
theorem content?_empty (working place : Place) : (empty working).content? place = none := by
  have hfolders (places : List Place) (s : Storage) (h : ∀ p, s.content? p = none) :
      ∀ p, (places.foldl (fun s p => s.put p .folder) s).content? p = none := by
    induction places generalizing s with
    | nil => exact h
    | cons first rest ih =>
      refine ih _ fun p => ?_
      rw [content?_put_folder (h first)]
      exact h p
  refine hfolders _ _ (fun p => ?_) place
  cases p <;> rfl

/-! ### Making folders -/

theorem content?_makeFolder (h : s.makeFolder start names = .ok s') : s'.content? = s.content? := by
  cases names with
  | nil => simp [makeFolder] at h
  | cons name above =>
    simp only [makeFolder, bind_eq_ok] at h
    obtain ⟨here, -, place, -, h⟩ := h
    split at h
    · cases h
    · next hfree =>
      obtain rfl := Except.ok.inj h
      rw [Option.not_isSome_iff_eq_none] at hfree
      exact content?_put_folder (by simp [content?, hfree])

theorem content?_ensureFolder (s : Storage) (start : Place) (names : List Text) :
    (s.ensureFolder start names).2.content? = s.content? := by
  unfold ensureFolder
  split
  · next hmade => exact content?_makeFolder hmade
  · rfl
  · split <;> rfl

theorem content?_ensureFolders (s : Storage) (start : Place) (allowed : Nat) (names : List Text) :
    (s.ensureFolders start allowed names).2.content? = s.content? := by
  have hensured {s s' : Storage} {names : List Text} {result : Except StorageFault Unit}
      (h : s.ensureFolder start names = (result, s')) : s'.content? = s.content? := by
    rw [← content?_ensureFolder s start names, h]
  fun_induction ensureFolders with
  | case1 => exact content?_ensureFolder ..
  | case2 _ _ _ s' hmissing => exact hensured hmissing
  | case3 s name above s' allowed hmissing s'' hmade ih =>
    rw [hmade] at ih
    rw [content?_ensureFolder, ih, hensured hmissing]
  | case4 s name above s' allowed hmissing _ ih => rw [ih, hensured hmissing]
  | case5 => exact content?_ensureFolder ..

/-- Making folders leaves the contents of all files as they are, whether it succeeds or not. -/
theorem content?_makeFolders [Limits] (s : Storage) (p : StoragePath) :
    (s.makeFolders p).2.content? = s.content? := by
  unfold makeFolders
  split
  · rfl
  · exact content?_ensureFolders ..

/-! ### Following paths -/

theorem find_cons_eq_ok_iff {name : Text} {above : List Text} :
    s.find start (name :: above) = .ok place ↔
      ∃ here, s.find start above = .ok here ∧ s.follow here name = .ok place ∧ (s.at? place).isSome := by
  simp only [find, bind_eq_ok]
  constructor
  · rintro ⟨here, habove, next, hnext, h⟩
    split at h
    · next hfound =>
      obtain rfl := Except.ok.inj h
      exact ⟨here, habove, hnext, hfound⟩
    · cases h
  · rintro ⟨here, habove, hnext, hfound⟩
    exact ⟨here, habove, place, hnext, if_pos hfound⟩

theorem filePlace_cons_eq_ok_iff {name : Text} {above : List Text} :
    s.filePlace start (name :: above) = .ok place ↔
      ∃ here, s.find start above = .ok here ∧ s.follow here name = .ok place ∧ ¬s.hasFolder place := by
  simp only [filePlace, bind_eq_ok]
  constructor
  · rintro ⟨here, habove, next, hnext, h⟩
    split at h
    · cases h
    · next hfree =>
      obtain rfl := Except.ok.inj h
      exact ⟨here, habove, hnext, hfree⟩
  · rintro ⟨here, habove, hnext, hfree⟩
    exact ⟨here, habove, place, hnext, if_neg hfree⟩

theorem not_hasFolder_of_filePlace (h : s.filePlace start names = .ok place) : ¬s.hasFolder place := by
  cases names with
  | nil => cases h
  | cons name above =>
    obtain ⟨here, -, -, hfree⟩ := filePlace_cons_eq_ok_iff.1 h
    exact hfree

theorem follow_put_file (h : ¬s.hasFolder place) (here : Place) (name : Text) :
    (s.put place (.file text)).follow here name = s.follow here name := by
  simp only [follow, hasFolder_put_file h]

/-- A path leads to where it led when a file is put where no folder stands. -/
theorem find_put_file (h : ¬s.hasFolder place) (hfind : s.find start names = .ok here) :
    (s.put place (.file text)).find start names = .ok here := by
  induction names generalizing here with
  | nil => exact hfind
  | cons name above ih =>
    obtain ⟨there, habove, hnext, hfound⟩ := find_cons_eq_ok_iff.1 hfind
    refine find_cons_eq_ok_iff.2 ⟨there, ih habove, by rw [follow_put_file h, hnext], ?_⟩
    rw [at?_put (ne_nil_of_not_hasFolder h)]
    split
    · rfl
    · exact hfound

/-- A file that is put at the place to which a path leads is found there. -/
theorem find_put_filePlace (h : s.filePlace start names = .ok place) :
    (s.put place (.file text)).find start names = .ok place := by
  cases names with
  | nil => cases h
  | cons name above =>
    obtain ⟨here, habove, hnext, hfree⟩ := filePlace_cons_eq_ok_iff.1 h
    refine find_cons_eq_ok_iff.2 ⟨here, find_put_file hfree habove, by rw [follow_put_file hfree, hnext], ?_⟩
    rw [at?_put (ne_nil_of_not_hasFolder hfree), if_pos rfl]
    rfl

end Automation.Storage
