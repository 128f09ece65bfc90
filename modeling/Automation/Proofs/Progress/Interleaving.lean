import Automation.Progress.Traffic
import Mathlib.Data.List.Basic
import Mathlib.Data.List.Count

/-!
# Who is sent a broadcast

A broadcast walks along the connections by their number while clients come and go and other broadcasts
take their turns. What is removed in front of it moves all that follow one place forward. Those that
have had their turn are not sent the message again, but the one whose turn is next moves to a place that
is behind the broadcast, and is passed over.

`Effect` lists what a move can do and `Turn` what it can be to a broadcast that is under way, and the rest goes
by induction over the moves of a run. Main statement: `sent_in_broadcast`.
-/

namespace Automation

variable {κ : Type} [DecidableEq κ]

/-! ### Removing connections -/

namespace Hub

variable {h : Hub κ} {client c : κ} {clients : List κ} {n : Nat}

theorem disconnectAll_cons (h : Hub κ) (client : κ) (clients : List κ) :
    h.disconnectAll (client :: clients) = (h.disconnect client).disconnectAll clients := rfl

theorem count_disconnectAll (h : Hub κ) (clients : List κ) (c : κ) :
    (h.disconnectAll clients).active.count c = h.active.count c - clients.count c := by
  induction clients generalizing h with
  | nil => rfl
  | cons client rest ih =>
    rw [disconnectAll_cons, ih]
    by_cases heq : client = c
    · subst heq
      simp only [disconnect, List.count_erase_self, List.count_cons_self]
      omega
    · simp only [disconnect, List.count_cons_of_ne heq, List.count_erase_of_ne (Ne.symm heq)]

/-- A connection moves one place forward if one in front of it is removed, and stays where it is if one
behind it is. -/
theorem idxOf_disconnect (h : Hub κ) (hne : client ≠ c) :
    (h.disconnect client).active.idxOf c =
      if client ∈ h.active.take (h.active.idxOf c) then h.active.idxOf c - 1 else h.active.idxOf c := by
  obtain ⟨active⟩ := h
  show (active.erase client).idxOf c = _
  induction active with
  | nil => rfl
  | cons first rest ih =>
    by_cases hfirst : first = client
    · subst hfirst
      rw [List.erase_cons_head, List.idxOf_cons_ne _ hne]
      simp
    · rw [List.erase_cons_tail (by simpa using hfirst)]
      by_cases hc : first = c
      · subst hc
        simp
      · rw [List.idxOf_cons_ne _ hc, List.idxOf_cons_ne _ hc, ih]
        have hmem : client ∈ (first :: rest).take (rest.idxOf c).succ ↔ client ∈ rest.take (rest.idxOf c) := by
          simp [Ne.symm hfirst]
        simp only [hmem]
        split
        · next hfront =>
          have hpos : 0 < rest.idxOf c := by
            rw [Nat.pos_iff_ne_zero]
            intro hzero
            simp [hzero] at hfront
          omega
        · rfl

/-- Connections move forward only. -/
theorem idxOf_disconnectAll_le (h : Hub κ) (hc : c ∉ clients) :
    (h.disconnectAll clients).active.idxOf c ≤ h.active.idxOf c := by
  induction clients generalizing h with
  | nil => exact Nat.le_refl _
  | cons client rest ih =>
    rw [List.mem_cons, not_or] at hc
    have hfirst := h.idxOf_disconnect (Ne.symm hc.1)
    rw [disconnectAll_cons]
    refine Nat.le_trans (ih (h.disconnect client) hc.2) ?_
    rw [hfirst]
    split
    · exact Nat.sub_le _ _
    · exact Nat.le_refl _

/-- A client that is connected once is at one place. -/
theorem getElem?_eq_some_iff_idxOf {active : List κ} (hcount : active.count c = 1) :
    active[n]? = some c ↔ active.idxOf c = n := by
  induction active generalizing n with
  | nil => simp at hcount
  | cons first rest ih =>
    by_cases hfirst : first = c
    · subst hfirst
      rw [List.count_cons_self, Nat.add_eq_right, List.count_eq_zero] at hcount
      cases n with
      | zero => simp
      | succ n => simpa using fun hrest => hcount (List.mem_of_getElem? hrest)
    · rw [List.count_cons_of_ne hfirst] at hcount
      rw [List.idxOf_cons_ne _ hfirst]
      cases n with
      | zero => simpa using hfirst
      | succ n => simpa using ih hcount

/-- When some clients are disconnected one after the other, the one at a place is passed by: while it stands
there, one in front of it is removed. -/
def Passes (h : Hub κ) (n : Nat) (c : κ) (clients : List κ) : Prop :=
  ∃ before client after, clients = before ++ client :: after ∧
    (h.disconnectAll before).active[n]? = some c ∧ client ∈ (h.disconnectAll before).active.take n

theorem not_passes_nil : ¬h.Passes n c [] := by
  rintro ⟨before, client, after, heq, -⟩
  simp at heq

theorem passes_cons : h.Passes n c (client :: clients) ↔
    h.active[n]? = some c ∧ client ∈ h.active.take n ∨ (h.disconnect client).Passes n c clients := by
  constructor
  · rintro ⟨before, removed, after, heq, hplace, hfront⟩
    cases before with
    | nil =>
      obtain ⟨rfl, -⟩ := List.cons.inj heq
      exact .inl ⟨hplace, hfront⟩
    | cons first before =>
      obtain ⟨rfl, rfl⟩ := List.cons.inj heq
      exact .inr ⟨before, removed, after, rfl, hplace, hfront⟩
  · rintro (⟨hplace, hfront⟩ | ⟨before, removed, after, rfl, hplace, hfront⟩)
    · exact ⟨[], client, clients, rfl, hplace, hfront⟩
    · exact ⟨client :: before, removed, after, rfl, hplace, hfront⟩

/-- A client that stands in front of a place is not passed by there. -/
theorem not_passes_of_lt (hcount : h.active.count c = 1) (hc : c ∉ clients) (hplace : h.active.idxOf c < n) :
    ¬h.Passes n c clients := by
  rintro ⟨before, client, after, rfl, hget, -⟩
  have hbefore : c ∉ before := fun hmem => hc (List.mem_append_left _ hmem)
  have hone : (h.disconnectAll before).active.count c = 1 := by
    rw [count_disconnectAll, List.count_eq_zero.2 hbefore, hcount]
  rw [getElem?_eq_some_iff_idxOf hone] at hget
  have hle := h.idxOf_disconnectAll_le hbefore
  omega

/-- A client that stands at a place or behind it gets in front of it only if it is passed by. -/
theorem idxOf_disconnectAll_lt_iff (hcount : h.active.count c = 1) (hc : c ∉ clients)
    (hplace : n ≤ h.active.idxOf c) :
    (h.disconnectAll clients).active.idxOf c < n ↔ h.Passes n c clients := by
  induction clients generalizing h with
  | nil => exact iff_of_false (Nat.not_lt.2 hplace) not_passes_nil
  | cons client rest ih =>
    rw [List.mem_cons, not_or] at hc
    have hfirst := h.idxOf_disconnect (Ne.symm hc.1)
    have hcount' : (h.disconnect client).active.count c = 1 := by
      rw [← hcount]
      exact List.count_erase_of_ne hc.1
    rw [disconnectAll_cons, passes_cons, getElem?_eq_some_iff_idxOf hcount]
    by_cases hstill : n ≤ (h.disconnect client).active.idxOf c
    · rw [ih hcount' hc.2 hstill]
      refine ⟨.inr, ?_⟩
      rintro (⟨heq, hfront⟩ | hpasses)
      · rw [hfirst, heq, if_pos hfront] at hstill
        have hpos : 0 < n := by
          rw [Nat.pos_iff_ne_zero]
          rintro rfl
          simp at hfront
        omega
      · exact hpasses
    · have hall := (h.disconnect client).idxOf_disconnectAll_le hc.2
      refine iff_of_true (by omega) (.inl ?_)
      rw [hfirst] at hstill
      split at hstill
      · next hfront =>
        have heq : h.active.idxOf c = n := by omega
        rw [heq] at hfront
        exact ⟨heq, hfront⟩
      · omega

end Hub

/-! ### Moves -/

namespace Traffic

variable {t t' : Traffic κ} {i : Nat} {b : Broadcast κ} {c : κ} {m : Move κ} {moves : List (Move κ)}

/-- The clients to whom a broadcast was sent, in order. -/
def recipients (t : Traffic κ) (i : Nat) : List κ :=
  (t.sent.filter fun d => d.broadcast = i).map Dispatch.client

/-- A broadcast has begun and is not at its end. -/
structure UnderWay (t : Traffic κ) (i : Nat) (b : Broadcast κ) : Prop where
  /-- It has begun. -/
  found : t.broadcasts[i]? = some b
  /-- It is not at its end. -/
  going : b.ended = false

/-- A broadcast is at its end. -/
def Ended (t : Traffic κ) (i : Nat) : Prop :=
  ∃ b, t.broadcasts[i]? = some b ∧ b.ended = true

/-- The clients that are disconnected in a move, other than by a broadcast itself. -/
def removedBeside (t : Traffic κ) (i : Nat) : Move κ → List κ
  | .disconnect client => [client]
  | .proceed j _ =>
    match t.broadcasts[j]? with
    | some b => if j = i ∨ b.ended ∨ b.next < t.hub.active.length then [] else b.lost
    | none => []
  | _ => []

/-- What a move can be to a broadcast that is under way. -/
inductive Turn (t : Traffic κ) (i : Nat) (b : Broadcast κ) (m : Move κ) (t' : Traffic κ) : Prop where
  /-- It is sent to the client whose turn it is. -/
  | sends {client : κ} {lost : List κ} : t.hub.active[b.next]? = some client → t'.hub = t.hub →
    t'.broadcasts[i]? = some { b with next := b.next + 1, lost } →
    t'.recipients i = t.recipients i ++ [client] → t.removedBeside i m = [] → Turn t i b m t'
  /-- It comes to its end, as all have had their turn. -/
  | ends : t.hub.active.length ≤ b.next → t'.Ended i → t'.recipients i = t.recipients i →
    t.removedBeside i m = [] → Turn t i b m t'
  /-- A client is connected meanwhile. -/
  | joins {client : κ} : t'.hub = t.hub.connect client → t'.broadcasts[i]? = some b →
    t'.recipients i = t.recipients i → t.removedBeside i m = [] → Turn t i b m t'
  /-- Clients are disconnected meanwhile, or none. -/
  | leaves : t'.hub = t.hub.disconnectAll (t.removedBeside i m) → t'.broadcasts[i]? = some b →
    t'.recipients i = t.recipients i → Turn t i b m t'

omit [DecidableEq κ] in
theorem recipients_send (t : Traffic κ) (hub : Hub κ) (broadcasts : List (Broadcast κ)) (j : Nat) (client : κ)
    (arrives : Bool) (i : Nat) :
    recipients { hub, broadcasts, sent := t.sent ++ [⟨j, client, arrives⟩] } i =
      t.recipients i ++ if j = i then [client] else [] := by
  unfold recipients
  by_cases h : j = i <;> simp [h]

/-- A broadcast that goes on sends to the client whose turn it is, or comes to its end. -/
theorem turn_proceed (h : t.UnderWay i b) (arrives : Bool) :
    t.Turn i b (.proceed i arrives) (t.proceed i b arrives) := by
  obtain ⟨hfound, hgoing⟩ := h
  have hlt := (List.getElem?_eq_some_iff.1 hfound).1
  have hbeside : t.removedBeside i (.proceed i arrives) = [] := by simp [removedBeside, hfound]
  unfold proceed
  cases hnext : t.hub.active[b.next]? with
  | some client =>
    have hset : (t.broadcasts.set i { b with
        next := b.next + 1, lost := if arrives then b.lost else b.lost ++ [client] })[i]? = _ :=
      List.getElem?_set_self hlt
    refine .sends hnext rfl hset ?_ hbeside
    rw [recipients_send, if_pos rfl]
  | none =>
    refine .ends (List.getElem?_eq_none_iff.1 hnext) ⟨_, List.getElem?_set_self hlt, rfl⟩ rfl hbeside

/-- Another broadcast that goes on disconnects those that it lost if it comes to its end. -/
theorem turn_proceed_other {j : Nat} {b' : Broadcast κ} (h : t.UnderWay i b) (h' : t.UnderWay j b')
    (hne : j ≠ i) (arrives : Bool) : t.Turn i b (.proceed j arrives) (t.proceed j b' arrives) := by
  obtain ⟨hfound, hgoing⟩ := h
  obtain ⟨hfound', hgoing'⟩ := h'
  unfold proceed
  cases hnext : t.hub.active[b'.next]? with
  | some client =>
    have hlt := (List.getElem?_eq_some_iff.1 hnext).1
    have hbeside : t.removedBeside i (.proceed j arrives) = [] := by simp [removedBeside, hfound', hlt]
    refine .leaves (by rw [hbeside]; rfl) ?_ ?_
    · rw [← hfound]
      exact List.getElem?_set_ne hne
    · rw [recipients_send, if_neg hne, List.append_nil]
  | none =>
    have hle := Nat.not_lt.2 (List.getElem?_eq_none_iff.1 hnext)
    have hbeside : t.removedBeside i (.proceed j arrives) = b'.lost := by
      simp [removedBeside, hfound', hgoing', hne, hle]
    refine .leaves (by rw [hbeside]) ?_ rfl
    rw [← hfound]
    exact List.getElem?_set_ne hne

theorem move_proceed (h : t.UnderWay i b) (arrives : Bool) :
    t.move (.proceed i arrives) = t.proceed i b arrives := by
  simp [move, h.found, h.going]

/-- A broadcast that has not begun or is at its end does not go on. -/
theorem move_proceed_idle {j : Nat} (h : ∀ b, ¬t.UnderWay j b) (arrives : Bool) :
    t.move (.proceed j arrives) = t ∧ t.removedBeside i (.proceed j arrives) = [] := by
  cases hj : t.broadcasts[j]? with
  | none => simp [move, removedBeside, hj]
  | some b' =>
    cases hended : b'.ended with
    | true => simp [move, removedBeside, hj, hended]
    | false => exact absurd ⟨hj, hended⟩ (h b')

/-- What a move can do. -/
inductive Effect (t : Traffic κ) : Move κ → Traffic κ → Prop
  /-- A client is connected. -/
  | joins (client : κ) : Effect t (.connect client) { t with hub := t.hub.connect client }
  /-- A client is disconnected. -/
  | leaves (client : κ) : Effect t (.disconnect client) { t with hub := t.hub.disconnectAll [client] }
  /-- A broadcast begins. -/
  | begins (message : Text) : Effect t (.begin message) { t with broadcasts := t.broadcasts ++ [{ message }] }
  /-- A broadcast is sent to the client whose turn it is. -/
  | sends {i : Nat} {b : Broadcast κ} {client : κ} (arrives : Bool) : t.UnderWay i b →
    t.hub.active[b.next]? = some client → Effect t (.proceed i arrives)
      { t with
        broadcasts := t.broadcasts.set i
          { b with next := b.next + 1, lost := if arrives then b.lost else b.lost ++ [client] }
        sent := t.sent ++ [⟨i, client, arrives⟩] }
  /-- A broadcast comes to its end, as all have had their turn. -/
  | ends {i : Nat} {b : Broadcast κ} (arrives : Bool) : t.UnderWay i b →
    t.hub.active.length ≤ b.next → Effect t (.proceed i arrives)
      { t with
        hub := t.hub.disconnectAll b.lost
        broadcasts := t.broadcasts.set i { b with ended := true } }
  /-- A broadcast that has not begun or is at its end does not go on. -/
  | idles {i : Nat} (arrives : Bool) : (∀ b, ¬t.UnderWay i b) → Effect t (.proceed i arrives) t

theorem effect_move (t : Traffic κ) (m : Move κ) : t.Effect m (t.move m) := by
  cases m with
  | connect client => exact .joins client
  | disconnect client => exact .leaves client
  | begin message => exact .begins message
  | proceed i arrives =>
    by_cases hunder : ∃ b, t.UnderWay i b
    · obtain ⟨b, h⟩ := hunder
      rw [move_proceed h, proceed]
      split
      · next client hclient => exact .sends arrives h hclient
      · next hnone => exact .ends arrives h (List.getElem?_eq_none_iff.1 hnone)
    · rw [(move_proceed_idle (i := i) (not_exists.1 hunder) arrives).1]
      exact .idles arrives (not_exists.1 hunder)

theorem turn_move (h : t.UnderWay i b) (m : Move κ) : t.Turn i b m (t.move m) := by
  cases m with
  | connect client => exact .joins rfl h.found rfl rfl
  | disconnect client => exact .leaves rfl h.found rfl
  | begin message =>
    have hlt := (List.getElem?_eq_some_iff.1 h.found).1
    exact .leaves rfl (by simp [move, List.getElem?_append_left hlt, h.found]) rfl
  | proceed j arrives =>
    by_cases hunder : ∃ b', t.UnderWay j b'
    · obtain ⟨b', h'⟩ := hunder
      rw [move_proceed h']
      by_cases hne : j = i
      · subst hne
        obtain rfl : b' = b := Option.some.inj (h'.found.symm.trans h.found)
        exact turn_proceed h arrives
      · exact turn_proceed_other h h' hne arrives
    · obtain ⟨hmove, hbeside⟩ := move_proceed_idle (i := i) (not_exists.1 hunder) arrives
      rw [hmove]
      exact .leaves (by rw [hbeside]; rfl) h.found rfl

/-- A broadcast at its end is not sent any more. -/
theorem ended_move (h : t.Ended i) (m : Move κ) : (t.move m).Ended i ∧ (t.move m).recipients i = t.recipients i := by
  obtain ⟨b, hfound, hended⟩ := h
  have hlt := (List.getElem?_eq_some_iff.1 hfound).1
  have hother {j : Nat} {b' : Broadcast κ} (hway : t.UnderWay j b') : j ≠ i := by
    rintro rfl
    obtain rfl : b' = b := Option.some.inj (hway.found.symm.trans hfound)
    exact Bool.false_ne_true (hway.going.symm.trans hended)
  have heffect := effect_move t m
  generalize t.move m = t' at heffect ⊢
  cases heffect with
  | joins | leaves | idles => exact ⟨⟨b, hfound, hended⟩, rfl⟩
  | begins => exact ⟨⟨b, by rw [← hfound]; exact List.getElem?_append_left hlt, hended⟩, rfl⟩
  | sends arrives hway =>
    refine ⟨⟨b, by rw [← hfound]; exact List.getElem?_set_ne (hother hway), hended⟩, ?_⟩
    rw [recipients_send, if_neg (hother hway), List.append_nil]
  | ends arrives hway => exact ⟨⟨b, by rw [← hfound]; exact List.getElem?_set_ne (hother hway), hended⟩, rfl⟩

theorem ended_run (h : t.Ended i) (moves : List (Move κ)) :
    (t.run moves).Ended i ∧ (t.run moves).recipients i = t.recipients i := by
  induction moves generalizing t with
  | nil => exact ⟨h, rfl⟩
  | cons m rest ih =>
    obtain ⟨hended, hsame⟩ := ended_move h m
    exact ⟨(ih hended).1, (ih hended).2.trans hsame⟩

/-! ### Runs -/

/-- Something holds at every move of a run. -/
def Along (P : Traffic κ → Move κ → Prop) : Traffic κ → List (Move κ) → Prop
  | _, [] => True
  | t, m :: rest => P t m ∧ Along P (t.move m) rest

/-- What holds at the first move holds along a run if it does along the rest. -/
theorem along_cons_iff {P : Traffic κ → Move κ → Prop} (h : P t m) :
    Along P t (m :: moves) ↔ Along P (t.move m) moves :=
  ⟨And.right, fun hrest => ⟨h, hrest⟩⟩

/-- A client is passed over in a move: its turn would be next, and someone who had one is disconnected. -/
def PassesOver (t : Traffic κ) (i : Nat) (c : κ) (m : Move κ) : Prop :=
  ∃ b, t.UnderWay i b ∧ t.hub.Passes b.next c (t.removedBeside i m)

/-- A client is connected once. -/
def Once (t : Traffic κ) (c : κ) : Prop :=
  t.hub.active.count c = 1

omit [DecidableEq κ] in
theorem UnderWay.not_ended (h : t.UnderWay i b) : ¬t.Ended i := by
  rintro ⟨b', hfound, hended⟩
  obtain rfl : b = b' := Option.some.inj (h.found.symm.trans hfound)
  exact Bool.false_ne_true (h.going.symm.trans hended)

theorem UnderWay.passesOver_iff (h : t.UnderWay i b) :
    t.PassesOver i c m ↔ t.hub.Passes b.next c (t.removedBeside i m) := by
  constructor
  · rintro ⟨b', h', hpasses⟩
    obtain rfl : b = b' := Option.some.inj (h.found.symm.trans h'.found)
    exact hpasses
  · exact fun hpasses => ⟨b, h, hpasses⟩

theorem not_passesOver_of_removedBeside (h : t.removedBeside i m = []) : ¬t.PassesOver i c m := by
  rintro ⟨b, -, hpasses⟩
  rw [h] at hpasses
  exact Hub.not_passes_nil hpasses

/-- Nobody is passed over by a broadcast that is at its end. -/
theorem along_of_ended (h : t.Ended i) (c : κ) (moves : List (Move κ)) :
    Along (fun s m => ¬s.PassesOver i c m) t moves := by
  induction moves generalizing t with
  | nil => trivial
  | cons m rest ih =>
    refine ⟨?_, ih (ended_move h m).1⟩
    rintro ⟨b, hway, -⟩
    exact hway.not_ended h

/-- A broadcast that is under way has a move before it to come to its end. -/
theorem once_of_along (h : t.UnderWay i b) (hended : (t.run moves).Ended i)
    (hone : Along (fun s _ => s.Once c) t moves) : t.Once c := by
  cases moves with
  | nil => exact absurd hended h.not_ended
  | cons m rest => exact hone.1

/-- A client that stays connected until a broadcast ends is none of those that are disconnected beside it. -/
theorem not_mem_removedBeside (h : (t.move m).UnderWay i b) (hended : ((t.move m).run moves).Ended i)
    (hnow : t.Once c) (hone : Along (fun s _ => s.Once c) (t.move m) moves)
    (hhub : (t.move m).hub = t.hub.disconnectAll (t.removedBeside i m)) : c ∉ t.removedBeside i m := by
  intro hmem
  have hpos := List.count_pos_iff.2 hmem
  have hafter := once_of_along h hended hone
  rw [Once, hhub, Hub.count_disconnectAll, hnow] at hafter
  omega

/-- A client that has had its turn is not sent the broadcast again, and is not passed over. -/
theorem count_recipients_of_behind (h : t.UnderWay i b) (hended : (t.run moves).Ended i)
    (hone : Along (fun s _ => s.Once c) t moves) (hplace : t.hub.active.idxOf c < b.next) :
    ((t.run moves).recipients i).count c = (t.recipients i).count c ∧
      Along (fun s m => ¬s.PassesOver i c m) t moves := by
  induction moves generalizing t b with
  | nil => exact ⟨rfl, trivial⟩
  | cons m rest ih =>
    obtain ⟨hnow, hrest⟩ := hone
    have hrun : (t.run (m :: rest)) = (t.move m).run rest := rfl
    rw [hrun] at hended ⊢
    cases turn_move h m with
    | @sends client lost hclient hhub hfound hsent hbeside =>
      have hne : client ≠ c := by
        rintro rfl
        rw [Hub.getElem?_eq_some_iff_idxOf hnow] at hclient
        omega
      obtain ⟨hcount, hnone⟩ := ih (b := { b with next := b.next + 1, lost }) ⟨hfound, h.going⟩ hended hrest
        (by rw [hhub]; exact Nat.lt_succ_of_lt hplace)
      refine ⟨?_, not_passesOver_of_removedBeside hbeside, hnone⟩
      rw [hcount, hsent, List.count_append, List.count_singleton, if_neg (by simpa using hne), Nat.add_zero]
    | ends _ hend hsame hbeside =>
      rw [(ended_run hend rest).2, hsame]
      exact ⟨rfl, not_passesOver_of_removedBeside hbeside, along_of_ended hend c rest⟩
    | joins hhub hfound hsame hbeside =>
      have hmem : c ∈ t.hub.active := List.count_pos_iff.1 (by rw [hnow]; exact Nat.one_pos)
      obtain ⟨hcount, hnone⟩ := ih ⟨hfound, h.going⟩ hended hrest
        (by rw [hhub, Hub.connect, List.idxOf_append_of_mem hmem]; exact hplace)
      rw [hcount, hsame]
      exact ⟨rfl, not_passesOver_of_removedBeside hbeside, hnone⟩
    | leaves hhub hfound hsame =>
      have hway : (t.move m).UnderWay i b := ⟨hfound, h.going⟩
      have hc := not_mem_removedBeside hway hended hnow hrest hhub
      obtain ⟨hcount, hnone⟩ := ih hway hended hrest
        (by rw [hhub]; exact Nat.lt_of_le_of_lt (t.hub.idxOf_disconnectAll_le hc) hplace)
      rw [hcount, hsame]
      exact ⟨rfl, fun hover => Hub.not_passes_of_lt hnow hc hplace (h.passesOver_iff.1 hover), hnone⟩

/-- A client that still has its turn before it is sent the broadcast once, unless it is passed over. -/
theorem count_recipients_of_waiting (h : t.UnderWay i b) (hended : (t.run moves).Ended i)
    (hone : Along (fun s _ => s.Once c) t moves) (hplace : b.next ≤ t.hub.active.idxOf c) :
    ((t.run moves).recipients i).count c ≤ (t.recipients i).count c + 1 ∧
      (((t.run moves).recipients i).count c = (t.recipients i).count c + 1 ↔
        Along (fun s m => ¬s.PassesOver i c m) t moves) := by
  induction moves generalizing t b with
  | nil => exact absurd hended h.not_ended
  | cons m rest ih =>
    obtain ⟨hnow, hrest⟩ := hone
    have hmem : c ∈ t.hub.active := List.count_pos_iff.1 (by rw [hnow]; exact Nat.one_pos)
    have hrun : (t.run (m :: rest)) = (t.move m).run rest := rfl
    rw [hrun] at hended ⊢
    cases turn_move h m with
    | @sends client lost hclient hhub hfound hsent hbeside =>
      have hway : (t.move m).UnderWay i { b with next := b.next + 1, lost } := ⟨hfound, h.going⟩
      have hnone : ¬t.PassesOver i c m := not_passesOver_of_removedBeside hbeside
      by_cases hturn : client = c
      · subst hturn
        rw [Hub.getElem?_eq_some_iff_idxOf hnow] at hclient
        obtain ⟨hcount, hall⟩ := count_recipients_of_behind hway hended hrest
          (by rw [hhub, hclient]; exact Nat.lt_succ_self _)
        rw [hsent, List.count_append, List.count_singleton_self] at hcount
        exact ⟨Nat.le_of_eq hcount, iff_of_true hcount ⟨hnone, hall⟩⟩
      · have hlater : b.next ≠ t.hub.active.idxOf c := by
          intro heq
          rw [(Hub.getElem?_eq_some_iff_idxOf hnow).2 heq.symm] at hclient
          exact hturn (Option.some.inj hclient).symm
        have hrest' := ih hway hended hrest (by rw [hhub]; show b.next + 1 ≤ _; omega)
        rw [hsent, List.count_append, List.count_singleton, if_neg (by simpa using hturn), Nat.add_zero] at hrest'
        exact ⟨hrest'.1, hrest'.2.trans (along_cons_iff hnone).symm⟩
    | ends hlength =>
      have hlt := List.idxOf_lt_length_of_mem hmem
      omega
    | joins hhub hfound hsame hbeside =>
      have hrest' := ih ⟨hfound, h.going⟩ hended hrest
        (by rw [hhub, Hub.connect, List.idxOf_append_of_mem hmem]; exact hplace)
      rw [hsame] at hrest'
      exact ⟨hrest'.1, hrest'.2.trans (along_cons_iff (not_passesOver_of_removedBeside hbeside)).symm⟩
    | leaves hhub hfound hsame =>
      have hway : (t.move m).UnderWay i b := ⟨hfound, h.going⟩
      have hc := not_mem_removedBeside hway hended hnow hrest hhub
      have hpasses := Hub.idxOf_disconnectAll_lt_iff hnow hc hplace
      rw [← hhub, ← h.passesOver_iff] at hpasses
      by_cases hover : t.PassesOver i c m
      · obtain ⟨hcount, -⟩ := count_recipients_of_behind hway hended hrest (hpasses.2 hover)
        rw [hcount, hsame]
        exact ⟨Nat.le_succ _, iff_of_false (Nat.ne_of_lt (Nat.lt_succ_self _)) fun hall => hall.1 hover⟩
      · have hrest' := ih hway hended hrest (Nat.le_of_not_lt fun hlt => hover (hpasses.1 hlt))
        rw [hsame] at hrest'
        exact ⟨hrest'.1, hrest'.2.trans (along_cons_iff hover).symm⟩

/-- As long as nobody is disconnected meanwhile, a broadcast has been sent to the first of all that are
connected, and those that were connected are still there. -/
theorem recipients_of_undisturbed (h : t.UnderWay i b) (hlength : b.next ≤ t.hub.active.length)
    (hsent : t.recipients i = t.hub.active.take b.next)
    (hnone : Along (fun s m => s.removedBeside i m = []) t moves) {b' : Broadcast κ}
    (h' : (t.run moves).UnderWay i b') :
    (t.run moves).recipients i = (t.run moves).hub.active.take b'.next ∧ t.hub.active <+: (t.run moves).hub.active := by
  induction moves generalizing t b with
  | nil =>
    obtain rfl : b = b' := Option.some.inj (h.found.symm.trans h'.found)
    exact ⟨hsent, List.prefix_rfl⟩
  | cons m rest ih =>
    obtain ⟨hnow, hrest⟩ := hnone
    have hrun : t.run (m :: rest) = (t.move m).run rest := rfl
    rw [hrun] at h' ⊢
    cases turn_move h m with
    | @sends client lost hclient hhub hfound hmore hbeside =>
      obtain ⟨hlt, hget⟩ := List.getElem?_eq_some_iff.1 hclient
      have hstep := ih (b := { b with next := b.next + 1, lost }) ⟨hfound, h.going⟩ (by rw [hhub]; exact hlt)
        (by rw [hmore, hsent, hhub, ← hget, List.take_append_getElem hlt]) hrest h'
      rwa [hhub] at hstep
    | ends _ hend => exact absurd (ended_run hend rest).1 h'.not_ended
    | joins hhub hfound hsame =>
      have hactive : (t.move m).hub.active = t.hub.active ++ [_] := congrArg Hub.active hhub
      have hstep := ih ⟨hfound, h.going⟩ (by rw [hactive, List.length_append]; omega)
        (by rw [hsame, hsent, hactive, List.take_append_of_le_length hlength]) hrest h'
      rw [hactive] at hstep
      exact ⟨hstep.1, (List.prefix_append _ _).trans hstep.2⟩
    | leaves hhub hfound hsame =>
      rw [hnow] at hhub
      have hhub' : (t.move m).hub = t.hub := hhub
      have hstep := ih ⟨hfound, h.going⟩ (by rw [hhub']; exact hlength) (by rw [hsame, hsent, hhub']) hrest h'
      rwa [hhub'] at hstep

/-! ### From the beginning -/

/-- What was sent belongs to broadcasts that have begun. -/
def Orderly (t : Traffic κ) : Prop :=
  ∀ d ∈ t.sent, d.broadcast < t.broadcasts.length

theorem orderly_move (h : t.Orderly) (m : Move κ) : (t.move m).Orderly := by
  have heffect := effect_move t m
  generalize t.move m = t' at heffect ⊢
  cases heffect with
  | joins | leaves | idles => exact h
  | begins =>
    intro d hd
    rw [List.length_append]
    exact Nat.lt_add_right _ (h d hd)
  | @sends i b client arrives hway =>
    intro d hd
    rw [List.length_set]
    rcases List.mem_append.1 hd with hd | hd
    · exact h d hd
    · rw [List.mem_singleton.1 hd]
      exact (List.getElem?_eq_some_iff.1 hway.found).1
  | ends =>
    intro d hd
    rw [List.length_set]
    exact h d hd

theorem orderly_run (h : t.Orderly) (moves : List (Move κ)) : (t.run moves).Orderly := by
  induction moves generalizing t with
  | nil => exact h
  | cons m rest ih => exact ih (orderly_move h m)

omit [DecidableEq κ] in
theorem recipients_eq_nil (h : t.Orderly) (hi : t.broadcasts.length ≤ i) : t.recipients i = [] := by
  unfold recipients
  rw [List.map_eq_nil_iff, List.filter_eq_nil_iff]
  intro d hd
  have hlt := h d hd
  simp only [decide_eq_true_eq]
  omega

/-- A broadcast keeps its message. -/
theorem message_move (h : t.broadcasts[i]? = some b) (m : Move κ) :
    ∃ b', (t.move m).broadcasts[i]? = some b' ∧ b'.message = b.message := by
  have hlt := (List.getElem?_eq_some_iff.1 h).1
  have hset {j : Nat} {old new : Broadcast κ} (hway : t.UnderWay j old) (hnew : new.message = old.message) :
      ∃ b', (t.broadcasts.set j new)[i]? = some b' ∧ b'.message = b.message := by
    by_cases hne : j = i
    · subst hne
      obtain rfl : old = b := Option.some.inj (hway.found.symm.trans h)
      exact ⟨new, List.getElem?_set_self hlt, hnew⟩
    · exact ⟨b, by rw [← h]; exact List.getElem?_set_ne hne, rfl⟩
  have heffect := effect_move t m
  generalize t.move m = t' at heffect ⊢
  cases heffect with
  | joins | leaves | idles => exact ⟨b, h, rfl⟩
  | begins => exact ⟨b, by rw [← h]; exact List.getElem?_append_left hlt, rfl⟩
  | sends _ hway => exact hset hway rfl
  | ends _ hway => exact hset hway rfl

theorem message_run (h : t.broadcasts[i]? = some b) (moves : List (Move κ)) :
    ∃ b', (t.run moves).broadcasts[i]? = some b' ∧ b'.message = b.message := by
  induction moves generalizing t b with
  | nil => exact ⟨b, h, rfl⟩
  | cons m rest ih =>
    obtain ⟨next, hnext, hsame⟩ := message_move h m
    obtain ⟨last, hlast, hsame'⟩ := ih hnext
    exact ⟨last, hlast, hsame'.trans hsame⟩

/-- How a broadcast of a message that has just begun goes, whatever happens meanwhile. -/
structure Goes (t : Traffic κ) (i : Nat) (message : Text) (moves : List (Move κ)) : Prop where
  /-- It stays a broadcast of the message. -/
  same : ∃ b, (t.run moves).broadcasts[i]? = some b ∧ b.message = message
  /-- A client that is connected once until the end is sent it at most once, and is sent it if and only if it
  is not passed over. -/
  once : ∀ c, (t.run moves).Ended i → Along (fun s _ => s.Once c) t moves →
    ((t.run moves).recipients i).count c ≤ 1 ∧
      (((t.run moves).recipients i).count c = 1 ↔ Along (fun s m => ¬s.PassesOver i c m) t moves)
  /-- If nobody is disconnected meanwhile, it is sent to all connections in their order, so that a client that
  is connected twice is sent it twice. -/
  undisturbed : ∀ b, (t.run moves).UnderWay i b → Along (fun s m => s.removedBeside i m = []) t moves →
    (t.run moves).recipients i = (t.run moves).hub.active.take b.next ∧ t.hub.active <+: (t.run moves).hub.active

/-- **A client that stays connected is sent a broadcast once, unless it is passed over**, in whatever order
clients come and go and other broadcasts go on. -/
theorem sent_in_broadcast (h : Hub κ) (earlier : List (Move κ)) (message : Text) (moves : List (Move κ)) :
    ((({ hub := h } : Traffic κ).run earlier).move (.begin message)).Goes
      (({ hub := h } : Traffic κ).run earlier).broadcasts.length message moves := by
  have horderly : (({ hub := h } : Traffic κ).run earlier).Orderly :=
    orderly_run (t := { hub := h }) (fun d hd => absurd hd List.not_mem_nil) earlier
  generalize ({ hub := h } : Traffic κ).run earlier = t at horderly
  have hfound : (t.move (.begin message)).broadcasts[t.broadcasts.length]? = some { message } := by
    simp [move]
  have hway : (t.move (.begin message)).UnderWay t.broadcasts.length { message } := ⟨hfound, rfl⟩
  have hsent : (t.move (.begin message)).recipients t.broadcasts.length = [] :=
    recipients_eq_nil (t := t) horderly (Nat.le_refl _)
  refine ⟨message_run hfound moves, ?_, ?_⟩
  · intro c hended hone
    have hcount := count_recipients_of_waiting hway hended hone (Nat.zero_le _)
    rwa [hsent, List.count_nil, Nat.zero_add] at hcount
  · intro b hb hnone
    exact recipients_of_undisturbed hway (Nat.zero_le _) hsent hnone hb

/-- A client that leaves behind its turn makes the broadcast miss its neighbour, who stays, and a client that
is connected twice is sent it twice. -/
theorem missed_neighbour :
    (Along (fun s _ => s.Once 1) (({ hub := ⟨[0, 1]⟩ } : Traffic Nat).move (.begin "water"))
        [.proceed 0 true, .disconnect 0, .proceed 0 true] ∧
      ((({ hub := ⟨[0, 1]⟩ } : Traffic Nat).move (.begin "water")).run
        [.proceed 0 true, .disconnect 0, .proceed 0 true]).Ended 0 ∧
      ((({ hub := ⟨[0, 1]⟩ } : Traffic Nat).move (.begin "water")).run
        [.proceed 0 true, .disconnect 0, .proceed 0 true]).recipients 0 = [0]) ∧
    ((({ hub := ⟨[0, 0]⟩ } : Traffic Nat).move (.begin "water")).run
        [.proceed 0 true, .proceed 0 true, .proceed 0 true]).recipients 0 = [0, 0] :=
  ⟨⟨⟨rfl, rfl, rfl, trivial⟩, ⟨_, rfl, rfl⟩, rfl⟩, rfl⟩

/-! ### Broadcasts with nothing beside them -/

/-- A broadcast that goes on alone for a while is sent to its next connections. -/
theorem run_proceeds (works : κ → Bool) {done left rest : List κ} (h : t.UnderWay i b)
    (hactive : t.hub.active = done ++ left ++ rest) (hnext : b.next = done.length) :
    t.run (left.map fun client => .proceed i (works client)) =
      { t with
        broadcasts := t.broadcasts.set i
          { b with next := (done ++ left).length, lost := b.lost ++ left.filter fun client => !works client }
        sent := t.sent ++ left.map fun client => ⟨i, client, works client⟩ } := by
  induction left generalizing t b done with
  | nil =>
    have hset : t.broadcasts.set i b = t.broadcasts := by
      obtain ⟨hlt, hget⟩ := List.getElem?_eq_some_iff.1 h.found
      rw [← hget, List.set_getElem_self]
    simp [run, ← hnext, hset]
  | cons client left ih =>
    have hclient : t.hub.active[b.next]? = some client := by simp [hactive, hnext]
    have hlt := (List.getElem?_eq_some_iff.1 h.found).1
    have hmove : t.move (.proceed i (works client)) =
        { t with
          broadcasts := t.broadcasts.set i
            { b with next := b.next + 1, lost := if works client then b.lost else b.lost ++ [client] }
          sent := t.sent ++ [⟨i, client, works client⟩] } := by
      rw [move_proceed h, proceed, hclient]
    have hway : (t.move (.proceed i (works client))).UnderWay i
        { b with next := b.next + 1, lost := if works client then b.lost else b.lost ++ [client] } := by
      rw [hmove]
      exact ⟨List.getElem?_set_self hlt, h.going⟩
    have hactive' : (t.move (.proceed i (works client))).hub.active = done ++ [client] ++ left ++ rest := by
      simp [hmove, hactive]
    have hrest := ih hway hactive' (by simp [hnext])
    rw [List.map_cons]
    show (t.move _).run _ = _
    rw [hrest, hmove]
    cases hworks : works client <;> simp [List.set_set, hworks]

end Traffic

end Automation
