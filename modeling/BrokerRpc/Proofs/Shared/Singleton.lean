import BrokerRpc.Shared.Instances

/-! # One shared instance

Whoever holds an instance may close it behind the back of its slot, and what is to take its place may
fail to be built. The numbers that a slot has handed out are kept beside it, so that of all of them
it can be said that one at most is alive, and that this one is in the slot.
-/
namespace BrokerRpc

namespace Slot

variable {α : Type}

theorem shared?_eq_some_iff {s : Slot α} {number : Nat} :
    s.shared? = some number ↔ s.current = some number ∧ s.isAlive number = true :=
  Option.filter_eq_some_iff

theorem getOrMake_of_shared {s : Slot α} {number : Nat} (h : s.shared? = some number)
    (build : Unit → Except Failure α) : s.getOrMake build = .ok (number, s) := by
  simp only [getOrMake, h]

theorem getOrMake_of_none {s : Slot α} (h : s.shared? = none) (build : Unit → Except Failure α) :
    s.getOrMake build = (build ()).map s.make := by
  simp only [getOrMake, h]
  cases build () <;> rfl

theorem isAlive_make_iff {s : Slot α} {x : α} {number : Nat} :
    (s.make x).2.isAlive number = true ↔ s.isAlive number = true ∨ number = s.made.length := by
  simp [make, isAlive]

theorem isAlive_close_iff {s : Slot α} {closed number : Nat} :
    (s.close closed).isAlive number = true ↔ s.isAlive number = true ∧ number ≠ closed := by
  simp [close, isAlive]

theorem isAlive_release_iff {s : Slot α} {number : Nat} :
    s.release.isAlive number = true ↔ s.isAlive number = true ∧ s.current ≠ some number := by
  cases h : s.current with
  | none => simp [release, h]
  | some inSlot =>
    simp only [release, h, ne_eq, Option.some.injEq, eq_comm (a := inSlot)]
    exact isAlive_close_iff

theorem current_release (s : Slot α) : s.release.current = none := by
  cases h : s.current <;> simp [release, h]

theorem made_release (s : Slot α) : s.release.made = s.made := by
  cases h : s.current <;> simp [release, close, h]

/-! ## What a slot hands out -/

/-- What is done with a slot: somebody asks for its instance, where building one would go as it is
told; somebody who holds an instance closes it; the slot is emptied. -/
inductive Use (α : Type) where
  | ask (build : Except Failure α)
  | close (number : Nat)
  | release

/-- A slot with the numbers of the instances that it has handed out. -/
structure Shared (α : Type) where
  slot : Slot α := {}
  handed : List Nat := []

namespace Shared

def use (s : Shared α) : Use α → Shared α
  | .ask build =>
    match s.slot.getOrMake fun _ => build with
    | .ok (number, slot) => { slot, handed := s.handed ++ [number] }
    | .error _ => s
  | .close number => { s with slot := s.slot.close number }
  | .release => { s with slot := s.slot.release }

def useAll (s : Shared α) (uses : List (Use α)) : Shared α := uses.foldl use s

/-- Asking gives the instance that is shared, or fails with what was to be built, or makes it. -/
theorem ask_cases (s : Shared α) (build : Except Failure α) :
    (∃ number, s.slot.shared? = some number ∧
      s.use (.ask build) = { s with handed := s.handed ++ [number] }) ∨
    (s.slot.shared? = none ∧ (∃ failure, build = .error failure) ∧ s.use (.ask build) = s) ∨
    ∃ x, s.slot.shared? = none ∧ build = .ok x ∧ s.use (.ask build) =
      { slot := (s.slot.make x).2, handed := s.handed ++ [s.slot.made.length] } := by
  cases hshared : s.slot.shared? with
  | some number =>
    refine Or.inl ⟨number, rfl, ?_⟩
    rw [use, getOrMake_of_shared hshared]
  | none =>
    rw [use, getOrMake_of_none hshared]
    cases build with
    | error failure => exact Or.inr (Or.inl ⟨rfl, ⟨failure, rfl⟩, rfl⟩)
    | ok x => exact Or.inr (Or.inr ⟨x, rfl, rfl, rfl⟩)

/-- The instances that were handed out are among those that were made, and what is alive is in the
slot. -/
structure Sound (s : Shared α) : Prop where
  numbered : s.slot.made.keys = List.range s.slot.made.length
  handed_made : ∀ number ∈ s.handed, number < s.slot.made.length
  current_handed : ∀ number, s.slot.current = some number → number ∈ s.handed
  alive_current : ∀ number, s.slot.isAlive number = true → s.slot.current = some number

namespace Sound

variable {s : Shared α}

theorem shared?_of_isAlive (h : Sound s) {number : Nat} (halive : s.slot.isAlive number = true) :
    s.slot.shared? = some number :=
  shared?_eq_some_iff.mpr ⟨h.alive_current number halive, halive⟩

theorem not_isAlive (h : Sound s) (hnone : s.slot.shared? = none) (number : Nat) :
    ¬ s.slot.isAlive number = true := by
  intro halive
  rw [h.shared?_of_isAlive halive] at hnone
  cases hnone

theorem get?_next (h : Sound s) : s.slot.made.get? s.slot.made.length = none := by
  rw [Assoc.get?_eq_none_iff, h.numbered]
  simp

theorem next_not_handed (h : Sound s) : s.slot.made.length ∉ s.handed :=
  fun hmem => Nat.lt_irrefl _ (h.handed_made _ hmem)

theorem make (h : Sound s) (hnone : s.slot.shared? = none) (x : α) :
    Sound { slot := (s.slot.make x).2, handed := s.handed ++ [s.slot.made.length] } where
  numbered := by
    simp only [Slot.make, Assoc.keys, List.map_append, List.length_append, List.length_singleton,
      List.range_succ]
    exact congrArg (· ++ [s.slot.made.length]) h.numbered
  handed_made := by
    intro number hmem
    simp only [Slot.make, List.length_append, List.length_singleton]
    rcases List.mem_append.mp hmem with hold | hnew
    · exact Nat.lt_succ_of_lt (h.handed_made number hold)
    · rw [List.mem_singleton.mp hnew]
      exact Nat.lt_succ_self _
  current_handed := by
    intro number hcurrent
    cases hcurrent
    exact List.mem_append_right _ (List.mem_singleton_self _)
  alive_current := by
    intro number halive
    rcases isAlive_make_iff.mp halive with hold | rfl
    · exact absurd hold (h.not_isAlive hnone number)
    · rfl

theorem again (h : Sound s) {number : Nat} (hmem : number ∈ s.handed) :
    Sound { s with handed := s.handed ++ [number] } where
  numbered := h.numbered
  handed_made := by
    intro other hother
    rcases List.mem_append.mp hother with hold | hnew
    · exact h.handed_made other hold
    · rw [List.mem_singleton.mp hnew]
      exact h.handed_made number hmem
  current_handed := fun other hcurrent => List.mem_append_left _ (h.current_handed other hcurrent)
  alive_current := h.alive_current

theorem release (h : Sound s) : Sound { s with slot := s.slot.release } where
  numbered := by
    rw [made_release]
    exact h.numbered
  handed_made := by
    rw [made_release]
    exact h.handed_made
  current_handed := by
    intro number hcurrent
    rw [current_release] at hcurrent
    cases hcurrent
  alive_current := by
    -- only the instance in the slot was alive, and that one is closed
    intro number halive
    obtain ⟨hbefore, hother⟩ := isAlive_release_iff.mp halive
    exact absurd (h.alive_current number hbefore) hother

theorem use (h : Sound s) (u : Use α) : Sound (s.use u) := by
  cases u with
  | ask build =>
    rcases ask_cases s build with ⟨number, hshared, hs⟩ | ⟨_, _, hs⟩ | ⟨x, hnone, _, hs⟩
    all_goals rw [hs]
    · exact h.again (h.current_handed number (shared?_eq_some_iff.mp hshared).1)
    · exact h
    · exact h.make hnone x
  | close number =>
    exact ⟨h.numbered, h.handed_made, h.current_handed,
      fun other halive => h.alive_current other (isAlive_close_iff.mp halive).1⟩
  | release => exact h.release

theorem useAll (h : Sound s) (uses : List (Use α)) : Sound (s.useAll uses) := by
  induction uses generalizing s with
  | nil => exact h
  | cons first rest ih => exact ih (h.use first)

end Sound

namespace Sound

variable {s : Shared α}

theorem built (h : Sound s) (hnone : s.slot.shared? = none) {build : Unit → Except Failure α}
    {x : α} (hbuild : build () = .ok x) :
    ∃ number slot, s.slot.getOrMake build = .ok (number, slot) ∧
      number ∉ s.handed ∧ slot.current = some number ∧ slot.made.get? number = some x ∧
      ∀ other, slot.isAlive other = true ↔ other = number := by
  refine ⟨s.slot.made.length, (s.slot.make x).2, ?_, h.next_not_handed, rfl, ?_, fun other => ?_⟩
  · rw [getOrMake_of_none hnone, hbuild]
    rfl
  · rw [Slot.make, Assoc.get?_append, h.get?_next]
    simp [Assoc.get?]
  · rw [isAlive_make_iff]
    exact or_iff_right (h.not_isAlive hnone other)

end Sound

/-- A holder closes the first instance, and the next one can be built at the second attempt only. -/
example :
    let s := ({} : Shared Nat).useAll
      [.ask (.ok 4), .close 0, .ask (.error .closed), .ask (.ok 5), .ask (.ok 6)]
    s.handed = [0, 1, 1] ∧ s.slot.current = some 1 ∧ s.slot.alive = [1] ∧
      s.slot.made = [(0, 4), (1, 5)] := by decide

end Shared
end Slot

/-! ## The instances of a process -/

namespace Instances

inductive Use where
  | plainLoop (built : Except Failure Unit)
  | encryptedLoop (built : Except Failure Unit)
  | responseWorker (setup : WorkerSetup) (built : Except Failure Unit)
  | closePlain (number : Nat)
  | closeEncrypted (number : Nat)
  | closeWorker (number : Nat)
  | shutdown

def asked (s : Instances) : Except Failure (Nat × Instances) → Instances
  | .ok (_, after) => after
  | .error _ => s

def use (s : Instances) : Use → Instances
  | .plainLoop built => s.asked (s.plainLoop built)
  | .encryptedLoop built => s.asked (s.encryptedLoop built)
  | .responseWorker setup built => s.asked (s.responseWorker setup built)
  | .closePlain number => { s with plain := s.plain.close number }
  | .closeEncrypted number => { s with encrypted := s.encrypted.close number }
  | .closeWorker number => { s with worker := s.worker.close number }
  | .shutdown => s.shutdown

def useAll (s : Instances) (uses : List Use) : Instances := uses.foldl use s

def Use.onPlain : Use → List (Slot.Use LinkLoop)
  | .plainLoop built => [.ask (built.map fun _ => .plain)]
  | .closePlain number => [.close number]
  | .shutdown => [.release]
  | _ => []

def Use.onEncrypted : Use → List (Slot.Use LinkLoop)
  | .encryptedLoop built => [.ask (built.map fun _ => .encrypted)]
  | .closeEncrypted number => [.close number]
  | .shutdown => [.release]
  | _ => []

def Use.onWorker : Use → List (Slot.Use WorkerSetup)
  | .responseWorker setup built => [.ask (built.map fun _ => setup)]
  | .closeWorker number => [.close number]
  | .shutdown => [.release]
  | _ => []

/-- A getter asks one slot and puts it back. -/
theorem asked_map {α : Type} (s : Instances) {slot : Slot.Shared α} (build : Except Failure α)
    (put : Slot α → Instances) (hput : put slot.slot = s) :
    s.asked ((slot.slot.getOrMake fun _ => build).map fun (n, slot) => (n, put slot)) =
      put (slot.use (.ask build)).slot := by
  rw [Slot.Shared.use]
  cases slot.slot.getOrMake fun _ => build with
  | error failure => exact hput.symm
  | ok answer => rfl

structure Beside (s : Instances) (plain encrypted : Slot.Shared LinkLoop)
    (worker : Slot.Shared WorkerSetup) : Prop where
  plain_eq : s.plain = plain.slot
  encrypted_eq : s.encrypted = encrypted.slot
  worker_eq : s.worker = worker.slot

namespace Beside

variable {s : Instances} {plain encrypted : Slot.Shared LinkLoop} {worker : Slot.Shared WorkerSetup}

theorem use (h : Beside s plain encrypted worker) (u : Use) :
    Beside (s.use u) (plain.useAll u.onPlain) (encrypted.useAll u.onEncrypted)
      (worker.useAll u.onWorker) := by
  obtain ⟨hplain, hencrypted, hworker⟩ := h
  cases u with
  | plainLoop built =>
    have hasked := asked_map s (built.map fun _ => .plain) (fun plain => { s with plain })
      (by rw [← hplain])
    rw [Instances.use, plainLoop, hplain, hasked]
    exact ⟨rfl, hencrypted, hworker⟩
  | encryptedLoop built =>
    have hasked := asked_map s (built.map fun _ => .encrypted)
      (fun encrypted => { s with encrypted }) (by rw [← hencrypted])
    rw [Instances.use, encryptedLoop, hencrypted, hasked]
    exact ⟨hplain, rfl, hworker⟩
  | responseWorker setup built =>
    have hasked := asked_map s (built.map fun _ => setup) (fun worker => { s with worker })
      (by rw [← hworker])
    rw [Instances.use, responseWorker, hworker, hasked]
    exact ⟨hplain, hencrypted, rfl⟩
  | closePlain number => exact ⟨congrArg (·.close number) hplain, hencrypted, hworker⟩
  | closeEncrypted number => exact ⟨hplain, congrArg (·.close number) hencrypted, hworker⟩
  | closeWorker number => exact ⟨hplain, hencrypted, congrArg (·.close number) hworker⟩
  | shutdown =>
    exact ⟨congrArg Slot.release hplain, congrArg Slot.release hencrypted,
      congrArg Slot.release hworker⟩

theorem useAll (h : Beside s plain encrypted worker) (uses : List Use) :
    Beside (s.useAll uses) (plain.useAll (uses.flatMap Use.onPlain))
      (encrypted.useAll (uses.flatMap Use.onEncrypted))
      (worker.useAll (uses.flatMap Use.onWorker)) := by
  induction uses generalizing s plain encrypted worker with
  | nil => exact h
  | cons first rest ih =>
    simp only [List.flatMap_cons, Slot.Shared.useAll, List.foldl_append]
    exact ih (h.use first)

end Beside

end Instances
end BrokerRpc
