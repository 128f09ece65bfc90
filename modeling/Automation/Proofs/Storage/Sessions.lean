import Automation.Proofs.Json.ReadBack
import Automation.Proofs.Storage.Files
import Automation.Storage.Export
import Mathlib.Data.List.Induction

/-!
# Workflows that are saved one after the other

Folders are made and workflows are written in some order, at any paths. A write goes one of three ways
(`outcome_writeWorkflow`). If no file is opened for it, it is refused and nothing happens to any file. If
one is and the workflow can be stored, its text is what the file holds afterwards, and nothing happens to the
others. That a workflow cannot be stored is found out only when its file has been emptied: the write is
refused all the same, but what the file held is lost. A workflow can be stored if it can be written out and
its text is a string, without a half of a surrogate pair.

So writing is all or nothing exactly as long as no file is opened for a workflow that cannot be stored, and
then each file holds what was saved in it last.

Main statement: `allOrNothing_iff`.
-/

namespace Automation

namespace WorkflowGraph

variable [Limits]

/-- The content of a file with a workflow, or why it cannot be stored. -/
def fileContent (g : WorkflowGraph) : Except StorageFault String :=
  Storage.encoded g.exportText

/-- A workflow can be stored: it can be written out, and its text is a string. -/
def Storable (g : WorkflowGraph) : Prop :=
  ∃ text content, g.exportText = .ok text ∧ text.toString? = some content

theorem fileContent_eq_ok_iff {g : WorkflowGraph} {content : String} : g.fileContent = .ok content ↔
    ∃ text, g.exportText = .ok text ∧ text.toString? = some content := by
  unfold fileContent Storage.encoded
  cases g.exportText with
  | error fault => simp
  | ok text => cases htext : text.toString? <;> simp [htext]

/-- A workflow can be stored unless there is something the matter with it. -/
theorem not_storable_iff {g : WorkflowGraph} : ¬g.Storable ↔ ∃ fault, g.fileContent = .error fault := by
  have hstorable : g.Storable ↔ ∃ content, g.fileContent = .ok content := by
    simp only [fileContent_eq_ok_iff, Storable]
    exact exists_comm
  rw [hstorable]
  cases g.fileContent <;> simp

/-- No workflow is stored as nothing. -/
theorem fileContent_ne (g : WorkflowGraph) : g.fileContent ≠ .ok "" := by
  intro h
  obtain ⟨text, htext, hnothing⟩ := fileContent_eq_ok_iff.1 h
  unfold exportText at htext
  split at htext
  · cases htext
  split at htext
  · obtain ⟨t, ht⟩ : ∃ t, text = .ofChar '\x7b' :: (t ++ [.ofChar '\x7d']) :=
      Except.ok.inj htext ▸ Json.exists_write_object_eq _ _
    rw [Text.eq_nil_of_toString? hnothing] at ht
    cases ht
  · cases htext

end WorkflowGraph

namespace Storage

open Json (map_eq_ok toOption_eq_some)

variable {s : Storage} {g : WorkflowGraph} {p target : StoragePath} {place : Place}

/-! ### One write -/

/-- The place to which a path leads. -/
def placeOf? (s : Storage) (p : StoragePath) : Option Place :=
  match flaw? p with
  | some _ => none
  | none => (s.find (s.start p) p.inward).toOption

/-- Whether a path leads to a folder. -/
def leadsToFolder (s : Storage) (p : StoragePath) : Bool :=
  (s.placeOf? p).any s.hasFolder

/-- Where a workflow belongs that is written at a path: there, or under its own file name in the folder that
is there. -/
def destination (s : Storage) (g : WorkflowGraph) (p : StoragePath) : StoragePath :=
  if s.leadsToFolder p then p.enter g.exportFilename else p

/-- The place of the file that is opened at a path, if one can be. -/
def openedAt? (s : Storage) (p : StoragePath) : Option Place :=
  match flaw? p with
  | some _ => none
  | none => (s.filePlace (s.start p) p.inward).toOption

/-- The place of the file that is opened to write a workflow, if it comes to that. -/
def opened? [Limits] (s : Storage) (g : WorkflowGraph) (p : StoragePath) : Option Place :=
  match s.exportPath g p with
  | .error _ => none
  | .ok target =>
    match s.makeFolders target.parent with
    | (.error _, _) => none
    | (.ok (), s) => s.openedAt? target

theorem openedAt?_eq_some_iff :
    s.openedAt? p = some place ↔ flaw? p = none ∧ s.filePlace (s.start p) p.inward = .ok place := by
  unfold openedAt?
  split
  · next hflaw => simp [hflaw]
  · next hflaw => simp [hflaw, toOption_eq_some]

/-- What is put at the place of the file that is opened at a path is found at that path, and nothing happens
to other files. -/
theorem put_openedAt? (h : s.openedAt? p = some place) (text : String) :
    (s.put place (.file text)).placeOf? p = some place ∧
      ∀ other, (s.put place (.file text)).content? other = if other = place then some text else s.content? other := by
  obtain ⟨hflaw, hplace⟩ := openedAt?_eq_some_iff.1 h
  refine ⟨?_, content?_put_file (ne_nil_of_not_hasFolder (not_hasFolder_of_filePlace hplace))⟩
  simp only [placeOf?, hflaw, start_put, find_put_filePlace hplace]
  rfl

theorem writeText_of_openedAt?_eq_none (h : s.openedAt? p = none) (text : Except DumpFault Text) :
    ∃ fault, s.writeText p text = (.error fault, s) := by
  unfold writeText
  unfold openedAt? at h
  cases hflaw : flaw? p with
  | some fault => exact ⟨fault, rfl⟩
  | none =>
    cases hplace : s.filePlace (s.start p) p.inward with
    | error fault => exact ⟨fault, rfl⟩
    | ok place => simp [hflaw, hplace, Except.toOption] at h

theorem writeText_of_encoded_ok (h : s.openedAt? p = some place) {text : Except DumpFault Text} {content : String}
    (htext : encoded text = .ok content) : s.writeText p text = (.ok (), s.put place (.file content)) := by
  obtain ⟨hflaw, hplace⟩ := openedAt?_eq_some_iff.1 h
  simp only [writeText, hflaw, hplace, htext]

/-- The file is emptied before it turns out that its text cannot be written. -/
theorem writeText_of_encoded_error (h : s.openedAt? p = some place) {text : Except DumpFault Text}
    {fault : StorageFault} (htext : encoded text = .error fault) :
    s.writeText p text = (.error fault, s.put place (.file "")) := by
  obtain ⟨hflaw, hplace⟩ := openedAt?_eq_some_iff.1 h
  simp only [writeText, hflaw, hplace, htext]

theorem leadsToFolder_of_isFolder {b : Bool} (hflaw : flaw? p = none)
    (h : s.isFolder (s.start p) p.inward = .ok b) : s.leadsToFolder p = b := by
  unfold isFolder at h
  simp only [leadsToFolder, placeOf?, hflaw]
  cases hfind : s.find (s.start p) p.inward with
  | ok place =>
    simp only [hfind, Except.ok.injEq] at h
    exact h
  | error fault =>
    cases fault <;> simp_all [Except.toOption]

theorem exportPath_eq (h : s.exportPath g p = .ok target) : target = s.destination g p := by
  unfold exportPath at h
  unfold destination
  split at h
  · cases h
  · next flaw _ hflaw =>
    obtain rfl := Except.ok.inj h
    simp [leadsToFolder, placeOf?, hflaw]
  · next hflaw =>
    obtain ⟨b, hb, rfl⟩ := map_eq_ok.1 h
    rw [leadsToFolder_of_isFolder hflaw hb]

variable [Limits]

/-- How a write can go: what it answers and what is stored afterwards. -/
inductive Outcome (s : Storage) (g : WorkflowGraph) (p : StoragePath) :
    Except StorageFault StoragePath × Storage → Prop
  /-- The workflow is in its file, and nothing happened to the others. -/
  | saved {after : Storage} {place : Place} {content : String} : s.opened? g p = some place →
    g.fileContent = .ok content → after.placeOf? (s.destination g p) = some place →
    (∀ other, after.content? other = if other = place then some content else s.content? other) →
    Outcome s g p (.ok (s.destination g p), after)
  /-- No file was opened, and nothing happened to any. -/
  | refused {after : Storage} {fault : StorageFault} : s.opened? g p = none → after.content? = s.content? →
    Outcome s g p (.error fault, after)
  /-- The workflow cannot be stored, and its file is empty. -/
  | emptied {after : Storage} {place : Place} {fault : StorageFault} : s.opened? g p = some place →
    g.fileContent = .error fault →
    (∀ other, after.content? other = if other = place then some "" else s.content? other) →
    Outcome s g p (.error fault, after)

/-- A write goes one of three ways. -/
theorem outcome_writeWorkflow (s : Storage) (g : WorkflowGraph) (p : StoragePath) :
    s.Outcome g p (s.writeWorkflow g p) := by
  unfold writeWorkflow
  cases hpath : s.exportPath g p with
  | error fault => exact .refused (by simp only [opened?, hpath]) rfl
  | ok target =>
    obtain rfl := exportPath_eq hpath
    rcases hmade : s.makeFolders (s.destination g p).parent with ⟨made, s'⟩
    have hfolders : s'.content? = s.content? := by rw [← content?_makeFolders s (s.destination g p).parent, hmade]
    cases made with
    | error fault =>
      simp only [hmade]
      exact .refused (by simp only [opened?, hpath, hmade]) hfolders
    | ok =>
      have hopened : s.opened? g p = s'.openedAt? (s.destination g p) := by simp only [opened?, hpath, hmade]
      simp only [hmade]
      cases hplace : s'.openedAt? (s.destination g p) with
      | none =>
        obtain ⟨fault, hwrite⟩ := writeText_of_openedAt?_eq_none hplace g.exportText
        simp only [hwrite]
        exact .refused (hopened.trans hplace) hfolders
      | some place =>
        have hput := put_openedAt? hplace
        rw [hfolders] at hput
        cases hcontent : g.fileContent with
        | error fault =>
          rw [writeText_of_encoded_error hplace hcontent]
          exact .emptied (hopened.trans hplace) hcontent (hput "").2
        | ok content =>
          rw [writeText_of_encoded_ok hplace hcontent]
          exact .saved (hopened.trans hplace) hcontent (hput content).1 (hput content).2

theorem emptied_writeWorkflow {fault : StorageFault} (hopened : s.opened? g p = some place)
    (hfault : g.fileContent = .error fault) : ∃ after, s.writeWorkflow g p = (.error fault, after) ∧
      ∀ other, after.content? other = if other = place then some "" else s.content? other := by
  have houtcome := s.outcome_writeWorkflow g p
  generalize s.writeWorkflow g p = result at houtcome
  cases houtcome with
  | saved _ hcontent => cases hfault.symm.trans hcontent
  | refused hnone => simp [hnone] at hopened
  | @emptied after place' fault' hopened' hfault' hfiles =>
    obtain rfl := Option.some.inj (hopened.symm.trans hopened')
    obtain rfl := Except.error.inj (hfault.symm.trans hfault')
    exact ⟨after, rfl, hfiles⟩

end Storage

/-! ### Sessions -/

/-- What is asked of a storage. -/
inductive StorageRequest where
  /-- A folder, with all folders on the way to it. -/
  | folders (p : StoragePath)
  /-- A file with a workflow. -/
  | write (g : WorkflowGraph) (p : StoragePath)

/-- A storage with the workflows that were saved in it, the last one first, each with the place to which its
path led. -/
structure StorageSession where
  /-- The storage. -/
  storage : Storage
  /-- What was saved. -/
  saved : List (Option Place × WorkflowGraph) := []

namespace StorageSession

variable {s : StorageSession} {working : Place} {requests : List StorageRequest} {g : WorkflowGraph}
  {p : StoragePath} {result : Except StorageFault StoragePath × Storage}

/-- The session after a workflow was written, or not. -/
def record (s : StorageSession) (g : WorkflowGraph) : Except StorageFault StoragePath × Storage → StorageSession
  | (.ok target, storage) => ⟨storage, (storage.placeOf? target, g) :: s.saved⟩
  | (.error _, storage) => { s with storage }

section AllOrNothing

variable [Limits]

/-- The session after one more request. -/
def answer (s : StorageSession) : StorageRequest → StorageSession
  | .folders p => { s with storage := (s.storage.makeFolders p).2 }
  | .write g p => s.record g (s.storage.writeWorkflow g p)

/-- The session after some requests, at first with nothing but a working folder. -/
def run (working : Place) (requests : List StorageRequest) : StorageSession :=
  requests.foldl answer { storage := .empty working }

/-- Each file holds the workflow that was saved in it last, and there are no other files. -/
def Settled (s : StorageSession) : Prop :=
  ∀ place, s.storage.content? place = (s.saved.lookup (some place)).bind fun g => g.fileContent.toOption

/-- Writing is all or nothing throughout a session. -/
structure AllOrNothing (working : Place) (requests : List StorageRequest) : Prop where
  /-- A write that answers with a path leaves the workflow there and nothing else changed. -/
  saved : ∀ begun g p target after, begun ++ [.write g p] <+: requests →
    (run working begun).storage.writeWorkflow g p = (.ok target, after) →
    target = (run working begun).storage.destination g p ∧
      ∃ place text content, after.placeOf? target = some place ∧ g.exportText = .ok text ∧
        text.toString? = some content ∧ ∀ other, after.content? other =
          if other = place then some content else (run working begun).storage.content? other
  /-- A write that fails leaves every file as it was. -/
  refused : ∀ begun g p fault after, begun ++ [.write g p] <+: requests →
    (run working begun).storage.writeWorkflow g p = (.error fault, after) →
    ∀ place content, (run working begun).storage.content? place = some content →
      after.content? place = some content
  /-- At every moment each file holds what was saved in it last. -/
  settled : ∀ begun, begun <+: requests → (run working begun).Settled

theorem run_concat (working : Place) (requests : List StorageRequest) (r : StorageRequest) :
    run working (requests ++ [r]) = (run working requests).answer r := by
  simp [run]

theorem settled_answer_folders (h : s.Settled) (p : StoragePath) : (s.answer (.folders p)).Settled := fun place =>
  (congrFun (s.storage.content?_makeFolders p) place).trans (h place)

theorem settled_record (h : s.Settled) (houtcome : s.storage.Outcome g p result)
    (hstorable : (s.storage.opened? g p).isSome → g.Storable) : (s.record g result).Settled := by
  intro place
  cases houtcome with
  | @saved after opened content _ hcontent hleads hfiles =>
    simp only [record, hfiles, hleads, List.lookup_cons]
    by_cases heq : place = opened
    · simp [heq, hcontent, Except.toOption]
    · have hne : (some place == some opened) = false := by simpa using heq
      rw [hne, if_neg heq]
      exact h place
  | refused _ hfiles => exact (congrFun hfiles place).trans (h place)
  | emptied hopened hfault =>
    exact absurd (hstorable (by rw [hopened]; rfl)) (WorkflowGraph.not_storable_iff.2 ⟨_, hfault⟩)

/-- If a file is opened for a workflow that cannot be stored, that file is empty afterwards, which no workflow
ever was. -/
theorem not_settled_answer_write (hopened : (s.storage.opened? g p).isSome) (hstorable : ¬g.Storable) :
    ¬(s.answer (.write g p)).Settled := by
  obtain ⟨place, hplace⟩ := Option.isSome_iff_exists.1 hopened
  obtain ⟨fault, hfault⟩ := WorkflowGraph.not_storable_iff.1 hstorable
  obtain ⟨after, hwrite, hfiles⟩ := Storage.emptied_writeWorkflow hplace hfault
  intro hsettled
  have hempty := hsettled place
  simp only [answer, hwrite, record, hfiles, if_true] at hempty
  obtain ⟨last, -, hlast⟩ := Option.bind_eq_some_iff.1 hempty.symm
  exact last.fileContent_ne (Json.toOption_eq_some.1 hlast)

/-- As long as no file is opened for a workflow that cannot be stored, each file holds what was saved in it
last. -/
theorem settled_run (h : ∀ begun g p, begun ++ [.write g p] <+: requests →
    ((run working begun).storage.opened? g p).isSome → g.Storable) : (run working requests).Settled := by
  induction requests using List.reverseRecOn with
  | nil => exact fun place => Storage.content?_empty working place
  | append_singleton requests r ih =>
    have hbefore := ih fun begun g p hbegun => h begun g p (hbegun.trans (List.prefix_append _ _))
    rw [run_concat]
    cases r with
    | folders p => exact settled_answer_folders hbefore p
    | write g p => exact settled_record hbefore (Storage.outcome_writeWorkflow ..) (h requests g p List.prefix_rfl)

/-- **Writing is all or nothing as long as no file is opened for a workflow that cannot be stored**, and no
longer. -/
theorem allOrNothing_iff (working : Place) (requests : List StorageRequest) :
    AllOrNothing working requests ↔ ∀ begun g p, begun ++ [.write g p] <+: requests →
      ((run working begun).storage.opened? g p).isSome → g.Storable := by
  constructor
  · intro h begun g p hbegun hopened
    by_contra hstorable
    have hsettled := h.settled _ hbegun
    rw [run_concat] at hsettled
    exact not_settled_answer_write hopened hstorable hsettled
  · intro h
    refine ⟨?_, ?_, ?_⟩
    · intro begun g p target after hbegun hwrite
      have houtcome := (run working begun).storage.outcome_writeWorkflow g p
      rw [hwrite] at houtcome
      cases houtcome with
      | saved _ hcontent hleads hfiles =>
        obtain ⟨text, htext, hcontent⟩ := WorkflowGraph.fileContent_eq_ok_iff.1 hcontent
        exact ⟨rfl, _, text, _, hleads, htext, hcontent, hfiles⟩
    · intro begun g p fault after hbegun hwrite place content hcontent
      have houtcome := (run working begun).storage.outcome_writeWorkflow g p
      rw [hwrite] at houtcome
      cases houtcome with
      | refused _ hfiles => rw [hfiles, hcontent]
      | emptied hopened hfault =>
        exact absurd (h begun g p hbegun (by rw [hopened]; rfl)) (WorkflowGraph.not_storable_iff.2 ⟨_, hfault⟩)
    · intro begun hbegun
      exact settled_run fun earlier g p hearlier => h earlier g p (hearlier.trans hbegun)

end AllOrNothing

/-- A workflow that can be stored. -/
def plainNamed : WorkflowGraph where
  name := "a"

/-- A workflow that cannot be stored: its name is one half of a surrogate pair. -/
def halfNamed : WorkflowGraph where
  name := [⟨0xd800, by decide⟩]

open scoped Limits in
/-- What a file holds is lost by a write that fails. -/
theorem lost_to_halfNamed :
    ∃ before content after, before = (run ["home"] [.write plainNamed ⟨"", ["x.json"]⟩]).storage ∧
      before.content? ["home", "x.json"] = some content ∧ plainNamed.fileContent = .ok content ∧
      before.writeWorkflow halfNamed ⟨"", ["x.json"]⟩ = (.error .unencodable, after) ∧
      after.content? ["home", "x.json"] = some "" ∧
      ¬AllOrNothing ["home"] [.write plainNamed ⟨"", ["x.json"]⟩, .write halfNamed ⟨"", ["x.json"]⟩] := by
  obtain ⟨content, hcontent⟩ : ∃ content, plainNamed.fileContent.toOption = some content :=
    Option.isSome_iff_exists.1 (by decide +kernel)
  have hkept : (run ["home"] [.write plainNamed ⟨"", ["x.json"]⟩]).storage.content? ["home", "x.json"] =
      some content := by
    rw [← hcontent]
    decide +kernel
  have hopened : (run ["home"] [.write plainNamed ⟨"", ["x.json"]⟩]).storage.opened? halfNamed ⟨"", ["x.json"]⟩ =
      some (["home", "x.json"] : Place) := by
    decide +kernel
  have hhalf : halfNamed.fileContent = .error .unencodable := by decide +kernel
  obtain ⟨after, hwrite, hfiles⟩ := Storage.emptied_writeWorkflow hopened hhalf
  have hempty : after.content? ["home", "x.json"] = some "" := by rw [hfiles, if_pos rfl]
  refine ⟨_, content, after, rfl, hkept, Json.toOption_eq_some.1 hcontent, hwrite, hempty, fun h => ?_⟩
  have hsame := h.refused [.write plainNamed ⟨"", ["x.json"]⟩] _ _ _ _ List.prefix_rfl hwrite _ content hkept
  rw [hempty] at hsame
  exact plainNamed.fileContent_ne (Json.toOption_eq_some.1 (hcontent.trans hsame.symm))

end StorageSession

end Automation
