import BrokerRpc.Proofs.Tracker.Attempts
import Mathlib.Data.List.Forall2
import Mathlib.Data.List.Perm.Basic

/-! # The order of the table

The calls in flight are visited in the order of the table, and each visit removes calls, resolves
them or sends requests while others still wait for their turn. Visits to two different calls
commute, so that the order shows nowhere: two trackers that differ in the order of their tables
alone go on to do so, and tell the owner of each call the same.
-/
namespace BrokerRpc

namespace Assoc
variable {κ α : Type} [DecidableEq κ]

instance : RightCommutative (erase (κ := κ) (α := α)) where
  right_comm t a b := by simp only [erase, List.filter_filter, Bool.and_comm]

theorem foldl_erase_comm (t : Assoc κ α) (first rest : List κ) :
    rest.foldl erase (first.foldl erase t) = first.foldl erase (rest.foldl erase t) := by
  rw [← List.foldl_append, ← List.foldl_append]
  exact List.perm_append_comm.foldl_eq t

theorem put_comm {t : Assoc κ α} {a b : κ} (hne : a ≠ b) (ha : a ∈ t.keys) (hb : b ∈ t.keys)
    (x y : α) : (t.put a x).put b y = (t.put b y).put a x := by
  induction t with
  | nil => exact absurd ha List.not_mem_nil
  | cons entry rest ih =>
    obtain ⟨first, old⟩ := entry
    simp only [keys, List.map_cons, List.mem_cons] at ha hb
    by_cases hfa : first = a
    · subst hfa
      simp [put, hne]
    by_cases hfb : first = b
    · subst hfb
      simp [put, hfa]
    · have ha' := ha.resolve_left fun he => hfa he.symm
      have hb' := hb.resolve_left fun he => hfb he.symm
      simp [put, hfa, hfb, ih ha' hb']

end Assoc

namespace Tracker

/-! ## Trackers up to the order of their tables -/

/-- Trackers that differ in the order of their tables alone. -/
inductive Reordered (t : Tracker) : Tracker → Prop where
  | intro {table : Assoc Nat Tracking} (h : table.Perm t.table) : Reordered t { t with table }

namespace Reordered
variable {t t' : Tracker}

theorem perm (h : Reordered t t') : t'.table.Perm t.table := by
  obtain ⟨hp⟩ := h
  exact hp

theorem keys_perm (h : Reordered t t') : t'.table.keys.Perm t.table.keys := h.perm.map Prod.fst

theorem calls_eq (h : Reordered t t') : t'.calls = t.calls := by
  obtain ⟨hp⟩ := h
  rfl

theorem policy_eq (h : Reordered t t') : t'.policy = t.policy := by
  obtain ⟨hp⟩ := h
  rfl

theorem index_eq (h : Reordered t t') : t'.index = t.index := by
  obtain ⟨hp⟩ := h
  rfl

theorem contains_eq (h : Reordered t t') (key : Nat) :
    t'.table.contains key = t.table.contains key := by
  rw [Bool.eq_iff_iff, Assoc.contains_iff_mem_keys, Assoc.contains_iff_mem_keys,
    h.keys_perm.mem_iff]

theorem remove (h : Reordered t t') (key : Nat) : Reordered (t.remove key) (t'.remove key) := by
  by_cases hmem : key ∈ t.table.keys
  · rw [remove_of_mem hmem, remove_of_mem (h.keys_perm.mem_iff.mpr hmem)]
    obtain ⟨hp⟩ := h
    exact .intro (hp.filter _)
  · rw [remove_of_not_mem hmem, remove_of_not_mem fun hm => hmem (h.keys_perm.mem_iff.mp hm)]
    exact h

theorem change (h : Reordered t t') (key : Nat) (f : Call → Call × List CallEvent) :
    Reordered (t.change key f).1 (t'.change key f).1 ∧ (t'.change key f).2 = (t.change key f).2 := by
  obtain ⟨hp⟩ := h
  unfold Tracker.change
  dsimp only
  split
  · exact ⟨.intro hp, rfl⟩
  · exact ⟨.intro hp, rfl⟩

end Reordered

/-! ## Steps that commute -/

theorem remove_comm (t : Tracker) (a b : Nat) :
    (t.remove a).remove b = (t.remove b).remove a := by
  by_cases hab : a = b
  · rw [hab]
  have hb : b ∈ (t.remove a).table.keys ↔ b ∈ t.table.keys := by
    simp [mem_keys_remove_iff, Ne.symm hab]
  have ha : a ∈ (t.remove b).table.keys ↔ a ∈ t.table.keys := by
    simp [mem_keys_remove_iff, hab]
  by_cases hma : a ∈ t.table.keys
  · by_cases hmb : b ∈ t.table.keys
    · rw [remove_of_mem (hb.mpr hmb), remove_of_mem (ha.mpr hma), idsOf_remove, idsOf_remove,
        remove_of_mem hma, remove_of_mem hmb]
      simp only [Assoc.foldl_erase_comm, RightCommutative.right_comm t.table a b]
    · rw [remove_of_not_mem hmb, remove_of_not_mem fun h => hmb (hb.mp h)]
  · rw [remove_of_not_mem hma, remove_of_not_mem fun h => hma (ha.mp h)]

/-- Calls that change do not change what other calls are removed with. -/
theorem remove_change (t : Tracker) {a b : Nat} (hab : a ≠ b) (f : Call → Call × List CallEvent) :
    (t.remove a).change b f = ((t.change b f).1.remove a, (t.change b f).2) := by
  have hids : (t.change b f).1.idsOf a = t.idsOf a := by
    rw [idsOf, get?_calls_change, if_neg hab, idsOf]
  have htable : (t.change b f).1.table = t.table := by rw [change_eq]
  by_cases hm : a ∈ t.table.keys
  · rw [remove_of_mem hm, remove_of_mem (htable ▸ hm), hids]
    unfold change
    dsimp only
    split <;> rfl
  · rw [remove_of_not_mem hm, remove_of_not_mem (htable ▸ hm)]

theorem change_comm (t : Tracker) {a b : Nat} (hab : a ≠ b)
    (f g : Call → Call × List CallEvent) :
    ((t.change a f).1.change b g).1 = ((t.change b g).1.change a f).1 ∧
      ((t.change a f).1.change b g).2 = (t.change b g).2 := by
  have hcb : (t.change a f).1.calls.get? b = t.calls.get? b := by
    rw [get?_calls_change, if_neg (Ne.symm hab)]
  have hca : (t.change b g).1.calls.get? a = t.calls.get? a := by
    rw [get?_calls_change, if_neg hab]
  cases hb : t.calls.get? b with
  | none =>
    rw [hb] at hcb
    have hidle : t.change b g = (t, []) := by rw [change, hb]
    rw [hidle]
    constructor <;> rw [change.eq_def _ b, hcb]
  | some second =>
    rw [hb] at hcb
    cases ha : t.calls.get? a with
    | none =>
      rw [ha] at hca
      have hidle : t.change a f = (t, []) := by rw [change, ha]
      rw [hidle]
      refine ⟨?_, rfl⟩
      rw [change.eq_def _ a, hca]
    | some first =>
      rw [ha] at hca
      rw [change_of_get? hcb, change_of_get? hca, change_of_get? ha, change_of_get? hb]
      refine ⟨?_, rfl⟩
      have hput := Assoc.put_comm hab (Assoc.mem_keys_of_get? ha) (Assoc.mem_keys_of_get? hb)
        (f first).1 (g second).1
      simp only [hput]

instance : RightCommutative remove where
  right_comm := remove_comm

theorem Reordered.foldl_remove {t t' : Tracker} (h : Reordered t t') {keys keys' : List Nat}
    (hp : keys'.Perm keys) :
    Reordered (keys.foldl Tracker.remove t) (keys'.foldl Tracker.remove t') := by
  rw [hp.foldl_eq t']
  clear hp
  induction keys generalizing t t' with
  | nil => exact h
  | cons key keys ih => exact ih (h.remove key)

/-! ## Visits -/

/-- What a loop does to one call: it may take the call off the table, tells its owner something, and
changes the call. -/
structure Visit where
  key : Nat
  leaves : Bool := false
  told : List CallEvent := []
  act : Call → Call × List CallEvent := fun call => (call, [])

def takeOff (t : Tracker) (v : Visit) : Tracker := if v.leaves then t.remove v.key else t

def visit (t : Tracker) (v : Visit) : Tracker × List CallNotice :=
  let changed := (t.takeOff v).change v.key v.act
  (changed.1, (v.told.map fun event => (v.key, event)) ++ changed.2)

def visitAll (t : Tracker) : List Visit → Tracker × List CallNotice
  | [] => (t, [])
  | v :: vs =>
    let first := t.visit v
    let later := visitAll first.1 vs
    (later.1, first.2 ++ later.2)

theorem takeOff_comm (t : Tracker) (v w : Visit) :
    (t.takeOff v).takeOff w = (t.takeOff w).takeOff v := by
  unfold takeOff
  cases v.leaves <;> cases w.leaves <;> simp [remove_comm t v.key w.key]

theorem takeOff_change (t : Tracker) {v : Visit} {key : Nat} (hne : v.key ≠ key)
    (f : Call → Call × List CallEvent) :
    (t.takeOff v).change key f = ((t.change key f).1.takeOff v, (t.change key f).2) := by
  unfold takeOff
  cases v.leaves with
  | true => exact remove_change t hne f
  | false => rfl

/-- Visits to two calls commute, and what the second owner is told does not depend on the first
visit. -/
theorem visit_comm (t : Tracker) {v w : Visit} (hne : v.key ≠ w.key) :
    ((t.visit v).1.visit w).1 = ((t.visit w).1.visit v).1 ∧
      ((t.visit v).1.visit w).2 = (t.visit w).2 := by
  have htake {a b : Visit} (hab : a.key ≠ b.key) : ((t.takeOff a).change a.key a.act).1.takeOff b =
      (((t.takeOff a).takeOff b).change a.key a.act).1 := by
    rw [takeOff_change _ (Ne.symm hab)]
  obtain ⟨hstate, htold⟩ := change_comm ((t.takeOff v).takeOff w) hne v.act w.act
  simp only [visit, htake hne, htake (Ne.symm hne)]
  constructor
  · rw [hstate, takeOff_comm]
  · rw [htold, takeOff_comm, takeOff_change _ hne]

theorem policy_visit (t : Tracker) (v : Visit) : (t.visit v).1.policy = t.policy := by
  have htake : (t.takeOff v).policy = t.policy := by
    unfold takeOff
    split
    · exact policy_remove t v.key
    · rfl
  rw [visit, change_eq]
  exact htake

theorem eventsOf_visit_of_ne (t : Tracker) {v : Visit} {key : Nat} (hne : v.key ≠ key) :
    eventsOf key (t.visit v).2 = [] := by
  rw [visit, eventsOf_append, eventsOf_map, if_neg hne, eventsOf_change_of_ne _ hne]
  rfl

/-! ## Loops in any order -/

/-- Two results of a loop that no owner can tell apart. -/
structure Alike (r r' : Tracker × List CallNotice) : Prop where
  left : Reordered r.1 r'.1
  told : ∀ key, eventsOf key r'.2 = eventsOf key r.2

theorem Reordered.visit {t t' : Tracker} (h : Reordered t t') (v : Visit) :
    Reordered (t.visit v).1 (t'.visit v).1 ∧ (t'.visit v).2 = (t.visit v).2 := by
  have htake : Reordered (t.takeOff v) (t'.takeOff v) := by
    unfold takeOff
    split
    · exact h.remove v.key
    · exact h
  obtain ⟨hleft, htold⟩ := htake.change v.key v.act
  exact ⟨hleft, by rw [Tracker.visit, htold]; rfl⟩

theorem Reordered.visitAll {t t' : Tracker} (h : Reordered t t') (vs : List Visit) :
    Alike (t.visitAll vs) (t'.visitAll vs) := by
  induction vs generalizing t t' with
  | nil => exact ⟨h, fun _ => rfl⟩
  | cons v vs ih =>
    obtain ⟨hleft, htold⟩ := h.visit v
    obtain ⟨hlater, hmore⟩ := ih hleft
    refine ⟨hlater, fun key => ?_⟩
    simp only [Tracker.visitAll, eventsOf_append, htold, hmore]

/-- Visits to different calls come to the same in every order. -/
theorem visitAll_perm {vs ws : List Visit} (hp : ws.Perm vs)
    (hd : (vs.map Visit.key).Nodup) (t : Tracker) : (t.visitAll ws).1 = (t.visitAll vs).1 ∧
      ∀ key, eventsOf key (t.visitAll ws).2 = eventsOf key (t.visitAll vs).2 := by
  induction hp generalizing t with
  | nil => exact ⟨rfl, fun _ => rfl⟩
  | cons v _ ih =>
    obtain ⟨hstate, htold⟩ := ih (List.nodup_cons.mp hd).2 (t.visit v).1
    exact ⟨hstate, fun key => by simp only [visitAll, eventsOf_append, htold]⟩
  | swap v w rest =>
    have hne : v.key ≠ w.key := fun he =>
      (List.nodup_cons.mp hd).1 (List.mem_cons.mpr (Or.inl he))
    obtain ⟨hstate, hw⟩ := visit_comm t hne
    obtain ⟨_, hv⟩ := visit_comm t (Ne.symm hne)
    refine ⟨by simp only [visitAll, hstate], fun key => ?_⟩
    simp only [visitAll, eventsOf_append, hstate, hv, hw]
    -- an owner hears of one of the two visits only
    by_cases hk : v.key = key
    · rw [eventsOf_visit_of_ne t (fun he => hne (hk.trans he.symm))]
      rfl
    · rw [eventsOf_visit_of_ne t hk]
      rfl
  | trans _ hlast ih₁ ih₂ =>
    obtain ⟨hstate, htold⟩ := ih₁ ((hlast.map Visit.key).nodup_iff.mpr hd) t
    obtain ⟨hstate', htold'⟩ := ih₂ hd t
    exact ⟨hstate.trans hstate', fun key => (htold key).trans (htold' key)⟩

theorem Reordered.visitAll_perm {t t' : Tracker} (h : Reordered t t') {vs ws : List Visit}
    (hp : ws.Perm vs) (hd : (vs.map Visit.key).Nodup) :
    Alike (t.visitAll vs) (t'.visitAll ws) := by
  obtain ⟨hstate, htold⟩ := Tracker.visitAll_perm hp hd t'
  obtain ⟨hleft, hsame⟩ := h.visitAll vs
  exact ⟨hstate ▸ hleft, fun key => (htold key).trans (hsame key)⟩

/-! ## The loops of a tracker -/

theorem change_idle (t : Tracker) (key : Nat) : t.change key (fun call => (call, [])) = (t, []) := by
  cases hc : t.calls.get? key with
  | none => rw [change, hc]
  | some call =>
    rw [change_of_get? hc, Assoc.put_of_get? hc]
    rfl

theorem forEach_eq_visitAll {step : Tracker → Nat → Tracker × List CallNotice} {v : Nat → Visit}
    (hs : ∀ t key, step t key = t.visit (v key)) (t : Tracker) (keys : List Nat) :
    forEach step t keys = t.visitAll (keys.map v) := by
  induction keys generalizing t with
  | nil => rfl
  | cons key keys ih => simp only [forEach, visitAll, List.map_cons, hs, ih]

/-- A loop over calls comes to the same in every order. -/
theorem Reordered.forEach {t t' : Tracker} (h : Reordered t t')
    {step : Tracker → Nat → Tracker × List CallNotice} {v : Nat → Visit}
    (hs : ∀ t key, step t key = t.visit (v key)) (hv : ∀ key, (v key).key = key)
    {keys keys' : List Nat} (hp : keys'.Perm keys) (hd : keys.Nodup) :
    Alike (Tracker.forEach step t keys) (Tracker.forEach step t' keys') := by
  rw [forEach_eq_visitAll hs, forEach_eq_visitAll hs]
  refine h.visitAll_perm (hp.map v) ?_
  have hkeys : (keys.map v).map Visit.key = keys := by
    rw [List.map_map]
    exact List.map_id'' hv keys
  rw [hkeys]
  exact hd

def resolution (make : Json → Response) (key : Nat) : Visit :=
  { key, act := fun call => call.failMissing make }

theorem resolve_eq_visit (make : Json → Response) (t : Tracker) (key : Nat) :
    t.resolve make key = t.visit (resolution make key) := rfl

def loss (failure : Failure) (final : Bool) (key : Nat) : Visit :=
  { key, told := [.linkLost failure.message]
    act := fun call => if final then call.failMissing (failureResponse failure) else (call, []) }

theorem lose_eq_visit (failure : Failure) (final : Bool) (t : Tracker) (key : Nat) :
    lose failure final t key = t.visit (loss failure final key) := by
  cases final with
  | true => rfl
  | false => simp [lose, visit, loss, takeOff, change_idle]

/-- One more attempt of a call under a policy, if its request is answered like that. -/
def attempt (policy : Policy) (answer : Bytes → Except Failure Unit) (entry : Nat × Tracking) :
    Visit :=
  let retrying := [CallEvent.retrying entry.2.attempt]
  match answer entry.2.payload with
  | .ok () => { key := entry.1, told := retrying }
  | .error failure =>
    if policy.isRetryable failure then { key := entry.1, told := retrying }
    else
      { key := entry.1, leaves := true, told := retrying
        act := fun call => call.failMissing (failureResponse failure) }

theorem key_attempt (policy : Policy) (answer : Bytes → Except Failure Unit)
    (entry : Nat × Tracking) : (attempt policy answer entry).key = entry.1 := by
  unfold attempt
  dsimp only
  split
  · rfl
  · split <;> rfl

section Sending
variable {σ : Type} {send : Bytes → σ → Except Failure Unit × σ}
  {answer : Bytes → Except Failure Unit} (hsend : ∀ payload s, (send payload s).1 = answer payload)
include hsend

theorem resend_eq_visit (t : Tracker) (s : σ) (key : Nat) (tracking : Tracking) :
    ((resend send t s key tracking).1, (resend send t s key tracking).2.2) =
      t.visit (attempt t.policy answer (key, tracking)) := by
  have hanswer := hsend tracking.payload s
  cases ha : answer tracking.payload with
  | ok _ =>
    rw [ha] at hanswer
    simp only [resend, hanswer, attempt, ha]
    simp [visit, takeOff, change_idle]
  | error failure =>
    rw [ha] at hanswer
    cases hp : t.policy.isRetryable failure with
    | true =>
      simp only [resend, hanswer, attempt, ha, hp, if_true]
      simp [visit, takeOff, change_idle]
    | false =>
      simp only [resend, hanswer, attempt, ha, hp, Bool.false_eq_true, if_false]
      rfl

theorem resendAll_eq_visitAll (t : Tracker) (s : σ) (due : Assoc Nat Tracking) :
    ((resendAll send t s due).1, (resendAll send t s due).2.2) =
      t.visitAll (due.map (attempt t.policy answer)) := by
  induction due generalizing t s with
  | nil => rfl
  | cons entry rest ih =>
    obtain ⟨key, tracking⟩ := entry
    have hfirst := resend_eq_visit hsend t s key tracking
    have hpolicy := policy_visit t (attempt t.policy answer (key, tracking))
    rw [← hfirst] at hpolicy
    have hlater := ih (resend send t s key tracking).1 (resend send t s key tracking).2.1
    rw [hpolicy] at hlater
    rw [resendAll_cons, List.map_cons, visitAll, ← hfirst, ← hlater]

end Sending

/-! ## Operations -/

namespace Reordered
variable {t t' : Tracker}

theorem due_perm (h : Reordered t t') (now : Instant) : (t'.due now).Perm (t.due now) :=
  h.perm.filter _

theorem renewDue (h : Reordered t t') (now : Instant) :
    Reordered (t.renewDue now) (t'.renewDue now) := by
  obtain ⟨hp⟩ := h
  exact .intro (hp.map _)

theorem linkLost (h : Reordered t t') (ht : t.table.Distinct) (failure : Failure) :
    Alike (t.linkLost failure) (t'.linkLost failure) := by
  unfold Tracker.linkLost
  dsimp only
  rw [h.policy_eq]
  split
  · exact h.forEach (lose_eq_visit failure false) (fun _ => rfl) h.keys_perm ht
  · exact (h.foldl_remove h.keys_perm).forEach (lose_eq_visit failure true) (fun _ => rfl)
      h.keys_perm ht

theorem failAll (h : Reordered t t') (ht : t.table.Distinct) : Alike t.failAll t'.failAll :=
  (h.foldl_remove h.keys_perm).forEach (resolve_eq_visit _) (fun _ => rfl) h.keys_perm ht

theorem expiredAt_perm (h : Reordered t t') (now : Instant) :
    (t'.expiredAt now).Perm (t.expiredAt now) := ((h.due_perm now).filter _).map _

theorem renewedAt_perm (h : Reordered t t') (now : Instant) :
    (t'.renewedAt now).Perm (t.renewedAt now) := ((h.due_perm now).filter _).map _

theorem settled (h : Reordered t t') (ht : t.table.Distinct) (now : Instant) :
    Alike (t.settled now) (t'.settled now) :=
  ((h.renewDue now).foldl_remove (h.expiredAt_perm now)).forEach (resolve_eq_visit _)
    (fun _ => rfl) (h.expiredAt_perm now) (nodup_expiredAt ht now)

theorem processResponse (h : Reordered t t') (r : Response) :
    Reordered (t.processResponse r).1 (t'.processResponse r).1 ∧
      (t'.processResponse r).2 = (t.processResponse r).2 := by
  unfold Tracker.processResponse
  rw [h.index_eq]
  split
  · exact ⟨h, rfl⟩
  split
  · exact ⟨h, rfl⟩
  rename_i key _
  rw [h.contains_eq key]
  split
  · obtain ⟨hleft, htold⟩ := h.change key (·.answer r)
    have hdone : (t'.change key (·.answer r)).1.isDone key =
        (t.change key (·.answer r)).1.isDone key := by rw [isDone, isDone, hleft.calls_eq]
    refine ⟨?_, htold⟩
    dsimp only
    rw [hdone]
    split
    · exact hleft.remove key
    · exact hleft
  · exact ⟨h, rfl⟩

theorem registered (h : Reordered t t') (now : Instant) (call : Call) (payload : Bytes)
    (policy : Policy) : Reordered (t.registered now call payload policy)
      (t'.registered now call payload policy) := by
  unfold Tracker.registered register
  rw [refusal?_congr h.index_eq]
  cases t.refusal? call.ids with
  | some cause => exact h
  | none =>
    obtain ⟨hp⟩ := h
    exact .intro (hp.append_right _)

theorem cancel (h : Reordered t t') (key : Nat) :
    Reordered (t.cancel key).1 (t'.cancel key).1 := by
  obtain ⟨hp⟩ := h
  exact Reordered.remove (t := { t with calls := t.calls.modify key Call.cancel }) (.intro hp) key

section Sending
variable {σ : Type} {send : Bytes → σ → Except Failure Unit × σ}
  {answer : Bytes → Except Failure Unit} (hsend : ∀ payload s, (send payload s).1 = answer payload)
include hsend

theorem sweep (h : Reordered t t') (ht : t.table.Distinct) (now : Instant) (s s' : σ) :
    Alike ((t.sweep send now s).1, (t.sweep send now s).2.2)
      ((t'.sweep send now s').1, (t'.sweep send now s').2.2) := by
  obtain ⟨hsettled, hgone⟩ := h.settled ht now
  have hdistinct : (((t.renewedAt now).map
      (attempt (t.settled now).1.policy answer)).map Visit.key).Nodup := by
    rw [List.map_map]
    exact (List.map_congr_left fun entry _ => key_attempt _ answer entry) ▸
      distinct_renewedAt ht now
  have hlater := hsettled.visitAll_perm ((h.renewedAt_perm now).map _) hdistinct
  rw [← resendAll_eq_visitAll hsend _ s, ← hsettled.policy_eq,
    ← resendAll_eq_visitAll hsend _ s'] at hlater
  rw [sweep_eq, sweep_eq]
  refine ⟨hlater.left, fun key => ?_⟩
  simp only [eventsOf_append, hgone key]
  exact congrArg _ (hlater.told key)

end Sending
end Reordered

/-- Every order of the due calls comes from an order of the table. -/
theorem exists_reordered_due (t : Tracker) (now : Instant) {due : Assoc Nat Tracking}
    (hp : due.Perm (t.due now)) : ∃ t', Reordered t t' ∧ t'.due now = due := by
  let early := t.table.filter fun entry => !decide (entry.2.deadline ≤ now)
  have hdue : ∀ entry ∈ due, decide (entry.2.deadline ≤ now) = true := fun entry hentry =>
    (List.mem_filter.mp (hp.mem_iff.mp hentry)).2
  have hearly : ∀ entry ∈ early, ¬ decide (entry.2.deadline ≤ now) = true := fun entry hentry => by
    have hlate := (List.mem_filter.mp hentry).2
    simpa using hlate
  refine ⟨{ t with table := due ++ early }, .intro ?_, ?_⟩
  · exact (hp.append_right early).trans (List.filter_append_perm _ _)
  · simp only [Tracker.due, List.filter_append, List.filter_eq_self.mpr hdue,
      List.filter_eq_nil_iff.mpr hearly, List.append_nil]

/-! ## Moments and runs -/

structure Moment.Alike (m m' : Moment) : Prop where
  after : Reordered m.after m'.after
  told : ∀ key, eventsOf key m'.notices = eventsOf key m.notices
  sent : m'.sent.Perm m.sent

section Run
variable {σ : Type} {send : Bytes → σ → Except Failure Unit × σ}
  {answer : Bytes → Except Failure Unit} (hsend : ∀ payload s, (send payload s).1 = answer payload)
  {t t' : Tracker}
include hsend

theorem Reordered.perform (h : Reordered t t') (ht : t.table.Distinct) (s s' : σ)
    (operation : Operation) : (Tracker.perform send t s operation).1.Alike
      (Tracker.perform send t' s' operation).1 := by
  cases operation with
  | register now call payload policy =>
    exact ⟨h.registered now call payload policy, fun _ => rfl, List.Perm.refl _⟩
  | respond r =>
    obtain ⟨hafter, htold⟩ := h.processResponse r
    exact ⟨hafter, fun key => congrArg (eventsOf key) htold, List.Perm.refl _⟩
  | sweep now =>
    have hrecording : ∀ payload (s : σ × List Bytes), (recording send payload s).1 = answer payload :=
      fun payload s => hsend payload s.1
    obtain ⟨hafter, htold⟩ := h.sweep hrecording ht now (s, []) (s', [])
    refine ⟨hafter, htold, ?_⟩
    rw [(sweep_traffic send t s now).2, (sweep_traffic send t' s' now).2]
    exact (h.renewedAt_perm now).map _
  | linkLost failure =>
    obtain ⟨hafter, htold⟩ := h.linkLost ht failure
    exact ⟨hafter, htold, List.Perm.refl _⟩
  | failAll =>
    obtain ⟨hafter, htold⟩ := h.failAll ht
    exact ⟨hafter, htold, List.Perm.refl _⟩
  | setPolicy policy =>
    obtain ⟨hp⟩ := h
    exact ⟨.intro hp, fun _ => rfl, List.Perm.refl _⟩
  | remove key => exact ⟨h.remove key, fun _ => rfl, List.Perm.refl _⟩
  | cancel key => exact ⟨h.cancel key, fun _ => rfl, List.Perm.refl _⟩

theorem Reordered.history (h : Reordered t t') (ht : Correlated t) (s s' : σ)
    (operations : List Operation) : List.Forall₂ Moment.Alike
      (Tracker.history send t s operations) (Tracker.history send t' s' operations) := by
  induction operations generalizing t t' s s' with
  | nil => exact .nil
  | cons operation rest ih =>
    have hfirst := h.perform hsend ht.table_distinct s s' operation
    exact .cons hfirst (ih hfirst.after (ht.perform send s operation) _ _)

end Run

/-- The order of the table shows nowhere. Whatever is done with a tracker, sweeping and losing or
closing the connection among it, and in whatever order the calls in flight are visited meanwhile:
the same calls are in flight with the same deadlines and attempts, every call has the same status
and responses, the owner of each call is told the same in the same order, and the same requests are
sent again, each as often. The answer to a request may depend on the request alone. Every order of
the due calls comes from an order of the table. -/
theorem order_shows_nowhere {σ : Type} {send : Bytes → σ → Except Failure Unit × σ}
    {answer : Bytes → Except Failure Unit} (t : Tracker) (ht : t.table.Distinct)
    (hsend : ∀ payload s, (send payload s).1 = answer payload) (s s' : σ) :
    (∀ table, table.Perm t.table → ∀ operation,
      let m := (Tracker.perform send t s operation).1
      let m' := (Tracker.perform send { t with table } s' operation).1
      m'.after.table.Perm m.after.table ∧ m'.after = { m.after with table := m'.after.table } ∧
        (∀ key, eventsOf key m'.notices = eventsOf key m.notices) ∧ m'.sent.Perm m.sent) ∧
    ∀ now due, due.Perm (t.due now) →
      ∃ table, table.Perm t.table ∧ due = ({ t with table } : Tracker).due now := by
  refine ⟨fun table hp operation => ?_, fun now due hp => ?_⟩
  · obtain ⟨hafter, htold, hsent⟩ := (Reordered.intro hp).perform hsend ht s s' operation
    refine ⟨hafter.perm, ?_, htold, hsent⟩
    generalize (Tracker.perform send { t with table } s' operation).1.after = left at hafter
    obtain ⟨_⟩ := hafter
    rfl
  · obtain ⟨_, ⟨hperm⟩, hdue⟩ := exists_reordered_due t now hp
    exact ⟨_, hperm, hdue.symm⟩

/-- Three calls are due: the request of the first cannot be sent again, the second is resent and
the third has no attempt left. Both orders of the table send and tell in their own order. -/
theorem order_shows_nowhere_reversed :
    let answer : Bytes → Except Failure Unit := fun payload =>
      if payload = [65] then .error .closed else .ok ()
    let send : Bytes → Unit → Except Failure Unit × Unit := fun payload s => (answer payload, s)
    let t := (((new .standard).registered 0 (.new [.int 1]) [65] .standard).registered 0
      (.new [.int 2]) [66] .standard).registered 0 (.new [.int 3]) [67]
      (.withRetry (.ofSeconds 1) 1 ⟨0⟩)
    let m := (perform send t () (.sweep 10000000000)).1
    let m' := (perform send { t with table := t.table.reverse } () (.sweep 10000000000)).1
    t.table.Distinct ∧ (∀ payload s, (send payload s).1 = answer payload) ∧
      m.sent = [[65], [66]] ∧ m'.sent = [[66], [65]] ∧ m'.notices ≠ m.notices ∧
      (∀ key, eventsOf key m'.notices = eventsOf key m.notices) ∧
      m'.after = { m.after with table := m'.after.table } := by
  intro answer send t m m'
  have ht : t.table.Distinct := by decide
  have hsend : ∀ payload s, (send payload s).1 = answer payload := fun _ _ => rfl
  obtain ⟨horder, _⟩ := order_shows_nowhere t ht hsend () ()
  obtain ⟨_, hafter, htold, _⟩ := horder t.table.reverse (List.reverse_perm _) (.sweep 10000000000)
  exact ⟨ht, hsend, by decide, by decide, by decide, htold, hafter⟩

end Tracker
end BrokerRpc
