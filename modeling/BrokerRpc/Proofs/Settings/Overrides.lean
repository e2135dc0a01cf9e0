import BrokerRpc.Proofs.Text.Numeral
import BrokerRpc.Settings.Sources
import Mathlib.Data.List.Nodup

/-! # Settings under an environment

The variables of an environment are applied in the order of the settings. A variable that is there
replaces its setting and no other. A number whose text shows none of its range ends the work, and what
was applied before it stays. Applying an environment a second time changes nothing, whether or not it
was applied to its end.
-/
namespace BrokerRpc

namespace Setting

def Content.Stands : (c : Content) → String → c.Value → Prop
  | .text, s, x => x = s
  | .number bound, s, n => n < bound ∧ Text.Shows s n
  | .path, s, x => x = some s

theorem Content.read?_eq_some_iff {c : Content} {s : String} {x : c.Value} :
    c.read? s = some x ↔ c.Stands s x := by
  cases c with
  | text => exact Option.some_inj.trans eq_comm
  | number bound => exact Text.below?_trim_iff
  | path => exact Option.some_inj.trans eq_comm

theorem Content.read?_eq_none_iff {c : Content} {s : String} :
    c.read? s = none ↔ ∀ x, ¬ c.Stands s x := by
  rw [Option.eq_none_iff_forall_ne_some]
  exact forall_congr' fun x => not_congr c.read?_eq_some_iff

/-- The variable of the setting is absent, or its text stands for a value. -/
def Sound (env : Settings.Environment) (k : Setting) : Prop :=
  ∀ value, env k.variableName = some value → ∃ x, k.content.Stands value x

/-- Only a number can have a text that stands for nothing. -/
theorem Content.exists_bound {c : Content} {s : String} (h : ∀ x, ¬ c.Stands s x) :
    ∃ bound, c = .number bound ∧ ∀ n, Text.Shows s n → bound ≤ n := by
  cases c with
  | text => exact absurd rfl (h s)
  | number bound => exact ⟨bound, rfl, fun n hn => Nat.le_of_not_lt fun hlt => h n ⟨hlt, hn⟩⟩
  | path => exact absurd rfl (h (some s))

theorem sound_iff {env : Settings.Environment} {k : Setting} : Sound env k ↔
    ∀ bound value, k.content = .number bound → env k.variableName = some value →
      ∃ n < bound, Text.Shows value n := by
  constructor
  · intro h bound value hc hv
    obtain ⟨x, hx⟩ := h value hv
    generalize k.content = c at hc x hx
    subst hc
    exact ⟨x, hx.1, hx.2⟩
  · intro h value hv
    by_contra hnone
    obtain ⟨bound, hc, hlarge⟩ := Content.exists_bound (not_exists.mp hnone)
    obtain ⟨n, hn, hshows⟩ := h bound value hc hv
    exact absurd hn (Nat.not_lt.mpr (hlarge n hshows))

/-! ## Names of variables -/

theorem variableName_eq (k : Setting) :
    k.variableName = "STOMP_JSONRPC_" ++ String.ofList (k.name.toList.map Char.toUpper) := by
  cases k <;> decide

theorem variableName_injective : Function.Injective variableName := by
  have hnodup : (all.map variableName).Nodup := by decide
  intro j k h
  exact List.inj_on_of_nodup_map hnodup (mem_all j) (mem_all k) h

end Setting

namespace Settings

open Setting (Sound)

variable {env : Environment} {s t : Settings} {k : Setting}

/-- The setting has the value that its variable stands for, and its old one if there is no variable. -/
def Overridden (env : Environment) (s t : Settings) (k : Setting) : Prop :=
  match env k.variableName with
  | none => t.get k = s.get k
  | some value => k.content.Stands value (t.get k)

theorem Overridden.congr {u v : Settings} (h : Overridden env s t k) (hs : u.get k = s.get k)
    (ht : v.get k = t.get k) : Overridden env u v k := by
  rw [Overridden, hs, ht]
  exact h

theorem Overridden.again (h : Overridden env s t k) : Overridden env t t k := by
  unfold Overridden at h ⊢
  split
  · rfl
  · rename_i value hv
    rw [hv] at h
    exact h

theorem set_get (s : Settings) (k : Setting) : s.set k (s.get k) = s := by
  cases k <;> rfl

/-! ## One setting after the other -/

theorem overrideEach_absent (h : env k.variableName = none) (s : Settings) (rest : List Setting) :
    overrideEach env s (k :: rest) = overrideEach env s rest := by
  rw [overrideEach, h]

theorem overrideEach_applied {value : String} {x : k.Value} (h : env k.variableName = some value)
    (hx : k.content.Stands value x) (s : Settings) (rest : List Setting) :
    overrideEach env s (k :: rest) = overrideEach env (s.set k x) rest := by
  simp only [overrideEach, h, Setting.Content.read?_eq_some_iff.mpr hx]

theorem overrideEach_bad {value : String} (h : env k.variableName = some value)
    (hx : ∀ x, ¬ k.content.Stands value x) (s : Settings) (rest : List Setting) :
    overrideEach env s (k :: rest) = (s, some ⟨k.variableName, value⟩) := by
  simp only [overrideEach, h, Setting.Content.read?_eq_none_iff.mpr hx]

theorem overrideEach_again {ks : List Setting} (h : ∀ k ∈ ks, Overridden env s s k)
    (more : List Setting) : overrideEach env s (ks ++ more) = overrideEach env s more := by
  induction ks with
  | nil => rfl
  | cons k ks ih =>
    have hrest := ih fun j hj => h j (List.mem_cons_of_mem _ hj)
    have hk := h k List.mem_cons_self
    unfold Overridden at hk
    rw [List.cons_append]
    split at hk
    · rename_i hv
      rw [overrideEach_absent hv, hrest]
    · rename_i value hv
      rw [overrideEach_applied hv hk, set_get, hrest]

/-- What becomes of settings when variables are applied to some of them: all of these are overridden
and the others stay, or there is a first variable that stands for nothing. -/
inductive Outcome (env : Environment) (s : Settings) (ks : List Setting) :
    Settings × Option BadVariable → Prop
  | done {t : Settings} (sound : ∀ k ∈ ks, Sound env k) (overridden : ∀ k ∈ ks, Overridden env s t k)
      (kept : ∀ k, k ∉ ks → t.get k = s.get k) : Outcome env s ks (t, none)
  | stopped {t : Settings} {before after : List Setting} {k : Setting} {value : String}
      (split : ks = before ++ k :: after) (found : env k.variableName = some value)
      (bad : ∀ x, ¬ k.content.Stands value x) (sound : ∀ j ∈ before, Sound env j)
      (overridden : ∀ j ∈ before, Overridden env s t j)
      (kept : ∀ j, j ∉ before → t.get j = s.get j) :
      Outcome env s ks (t, some ⟨k.variableName, value⟩)

theorem Outcome.cons {ks : List Setting} {u : Settings} {result : Settings × Option BadVariable}
    (h : Outcome env u ks result) (hk : k ∉ ks) (hsound : Sound env k)
    (hu : Overridden env s u k) (hsame : ∀ j, j ≠ k → u.get j = s.get j) :
    Outcome env s (k :: ks) result := by
  -- `front` is all of `ks`, or those before a variable that stands for nothing
  have hfirst : ∀ {t : Settings} {front : List Setting}, k ∉ front →
      (∀ j ∈ front, Overridden env u t j) → (∀ j, j ∉ front → t.get j = u.get j) →
      (∀ j ∈ k :: front, Overridden env s t j) ∧ ∀ j, j ∉ k :: front → t.get j = s.get j := by
    intro t front hfresh hover hkept
    refine ⟨fun j hj => ?_, fun j hj => ?_⟩
    · rcases List.mem_cons.mp hj with rfl | hj
      · exact hu.congr rfl (hkept j hfresh)
      · have hne : j ≠ k := fun he => hfresh (he ▸ hj)
        exact (hover j hj).congr (hsame j hne).symm rfl
    · obtain ⟨hne, hj⟩ := not_or.mp (mt List.mem_cons.mpr hj)
      exact (hkept j hj).trans (hsame j hne)
  cases h with
  | done sound overridden kept =>
    obtain ⟨hover, hkept⟩ := hfirst hk overridden kept
    exact .done (List.forall_mem_cons.mpr ⟨hsound, sound⟩) hover hkept
  | stopped split found bad sound overridden kept =>
    have hfresh : k ∉ _ := fun hmem => hk (split ▸ List.mem_append_left _ hmem)
    obtain ⟨hover, hkept⟩ := hfirst hfresh overridden kept
    exact .stopped (congrArg (k :: ·) split) found bad (List.forall_mem_cons.mpr ⟨hsound, sound⟩)
      hover hkept

theorem outcome {ks : List Setting} (h : ks.Nodup) (s : Settings) :
    Outcome env s ks (overrideEach env s ks) := by
  induction ks generalizing s with
  | nil => exact .done (by simp) (by simp) fun _ _ => rfl
  | cons k ks ih =>
    obtain ⟨hk, hks⟩ := List.nodup_cons.mp h
    cases hv : env k.variableName with
    | none =>
      have hsound : Sound env k := fun value hvalue => by rw [hv] at hvalue; cases hvalue
      have hsame : Overridden env s s k := by simp [Overridden, hv]
      rw [overrideEach_absent hv]
      exact (ih hks s).cons hk hsound hsame fun _ _ => rfl
    | some value =>
      by_cases hx : ∃ x, k.content.Stands value x
      · obtain ⟨x, hx⟩ := hx
        have hsound : Sound env k := fun other hother => by
          rw [hv] at hother
          cases hother
          exact ⟨x, hx⟩
        have hset : Overridden env s (s.set k x) k := by
          rw [Overridden, hv]
          exact (get_set s k x).symm ▸ hx
        rw [overrideEach_applied hv hx]
        exact (ih hks _).cons hk hsound hset fun j hne => get_set_of_ne s x hne
      · have hbad := not_exists.mp hx
        have hsplit : k :: ks = [] ++ k :: ks := rfl
        rw [overrideEach_bad hv hbad]
        exact .stopped hsplit hv hbad (by simp) (by simp) fun _ _ => rfl

/-- Applying the same variables again comes to the same end. -/
theorem Outcome.again {ks : List Setting} {t : Settings} {answer : Option BadVariable}
    (h : Outcome env s ks (t, answer)) : overrideEach env t ks = (t, answer) := by
  cases h with
  | done _ overridden =>
    have hall := overrideEach_again (fun k hk => (overridden k hk).again) []
    rwa [List.append_nil] at hall
  | stopped split found bad _ overridden =>
    rw [split, overrideEach_again fun j hj => (overridden j hj).again, overrideEach_bad found bad]

/-- Each setting has a variable of its own, named after it. An environment is applied to its end exactly
if each number that it gives is shown, between blanks, in the range of its setting. Then each setting
has the value of its variable, or its old one if there is none. Otherwise the first setting in order
whose number is not shown is named with the text of its variable as it stands, the settings before it
are overridden and the others are as they were. Either way, applying the environment again gives the
same settings and the same answer. -/
theorem overrideFrom_layers (s : Settings) (env : Environment) :
    let t := (s.overrideFrom env).1
    let answer := (s.overrideFrom env).2
    (∀ k : Setting, k.variableName =
      "STOMP_JSONRPC_" ++ String.ofList (k.name.toList.map Char.toUpper)) ∧
    Function.Injective Setting.variableName ∧
    (answer = none ↔ ∀ (k : Setting) bound value, k.content = .number bound →
      env k.variableName = some value → ∃ n < bound, Text.Shows value n) ∧
    (answer = none → ∀ k, Overridden env s t k) ∧
    (∀ bad, answer = some bad → ∃ before k after bound, Setting.all = before ++ k :: after ∧
      k.content = .number bound ∧ bad.name = k.variableName ∧
      env k.variableName = some bad.value ∧ (∀ n, Text.Shows bad.value n → bound ≤ n) ∧
      (∀ j ∈ before, Sound env j ∧ Overridden env s t j) ∧ ∀ j ∈ k :: after, t.get j = s.get j) ∧
    t.overrideFrom env = (t, answer) := by
  intro t answer
  have hall : Setting.all.Nodup := by decide
  have hout : Outcome env s Setting.all (t, answer) := outcome hall s
  have hagain : t.overrideFrom env = (t, answer) := hout.again
  clear_value t answer
  refine ⟨Setting.variableName_eq, Setting.variableName_injective, ?_, ?_, ?_, hagain⟩
  · simp only [← Setting.sound_iff]
    cases hout with
    | done sound => exact iff_of_true rfl fun k => sound k (Setting.mem_all k)
    | stopped _ found bad =>
      refine iff_of_false (by simp) fun hsound => ?_
      obtain ⟨x, hx⟩ := hsound _ _ found
      exact bad x hx
  · rintro rfl k
    cases hout with
    | done _ overridden => exact overridden k (Setting.mem_all k)
  · rintro bad rfl
    cases hout with
    | stopped split found hbad sound overridden kept =>
      obtain ⟨bound, hc, hlarge⟩ := Setting.Content.exists_bound hbad
      refine ⟨_, _, _, bound, split, hc, rfl, found, hlarge,
        fun j hj => ⟨sound j hj, overridden j hj⟩, fun j hj => kept j fun hmem => ?_⟩
      rw [split] at hall
      exact (List.disjoint_of_nodup_append hall) hmem hj

end Settings
end BrokerRpc
