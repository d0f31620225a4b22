import PageScript.Keyboard
import PageScript.Proofs.Histories
import PageScript.Proofs.Lockstep

/-!
# Faults of effects

What is done to the elements of a document goes wrong in three ways only: the element is gone, an effect cannot be
carried out, or the target of one is not a selector. None of them says that something was looked for in vain, so the
faults of an action's own checks can be told from those of the effects that it sets off.
-/
namespace PageScript

theorem Selector.parse_eq_error {text : String} {fault : Fault} (h : Selector.parse text = .error fault) :
    ∃ reason, fault = .invalidSelector text reason := by
  rw [Selector.parse] at h
  cases hp : Selector.parseChars text.toList <;> rw [hp] at h <;> cases h
  exact ⟨_, rfl⟩

/-- A fault of an effect or of the element that sets it off. -/
inductive Fault.OfEffect : Fault → Prop
  | target {selector reason : String} (h : Selector.parse selector = .error (.invalidSelector selector reason)) :
      OfEffect (.invalidSelector selector reason)
  | driver (reason : String) : OfEffect (.driver reason)
  | stale (number : Nat) : OfEffect (.staleElement number)

variable {fault : Fault}

namespace Document

variable {d : Document}

theorem ofEffect_selectFirst {selector : String} (h : d.selectFirst selector = .error fault) : fault.OfEffect := by
  have hp := map_eq_error.mp (map_eq_error.mp h)
  obtain ⟨reason, rfl⟩ := Selector.parse_eq_error hp
  exact .target hp

theorem ofEffect_subtree {number : Nat} (h : d.subtree number = .error fault) : fault.OfEffect := by
  rw [subtree] at h
  split at h <;> cases h
  exact .stale number

theorem ofEffect_node {number : Nat} (h : d.node number = .error fault) : fault.OfEffect :=
  ofEffect_subtree (map_eq_error.mp h)

theorem ofEffect_change {n : Node} {c : Change} (h : d.change n c = .error fault) : fault.OfEffect := by
  cases c with
  | remove =>
    rw [change] at h
    split at h
    · cases h
      exact .driver _
    · exact ofEffect_subtree (map_eq_error.mp h)
  | _ => cases h

theorem ofEffect_apply {e : Effect} (h : d.apply e = .error fault) : fault.OfEffect := by
  rcases bind_eq_error.mp h with h | ⟨found, -, h⟩
  · exact ofEffect_selectFirst h
  · cases found with
    | none => cases h
    | some n =>
      rcases bind_eq_error.mp h with h | ⟨d', -, ⟨⟩⟩
      exact ofEffect_change h

end Document

namespace World

variable {w : World}

theorem ofEffect_trigger {e : Effect} (h : w.trigger e = .error fault) : fault.OfEffect := by
  unfold trigger at h
  split at h
  · exact Document.ofEffect_apply (map_eq_error.mp h)
  · cases h

theorem ofEffect_triggerAll {effects : List Effect} (h : (w.triggerAll effects).1 = .error fault) :
    fault.OfEffect := by
  induction effects generalizing w with
  | nil => cases h
  | cons e effects ih =>
    rw [triggerAll] at h
    cases ht : w.trigger e with
    | error fault' =>
      rw [ht] at h
      cases h
      exact ofEffect_trigger ht
    | ok w' =>
      rw [ht] at h
      exact ih h

theorem ofEffect_activate {number : Nat} (h : (w.activate number).1 = .error fault) : fault.OfEffect := by
  rw [activate] at h
  split at h
  · rename_i ha
    cases h
    exact Document.ofEffect_node (map_eq_error.mp ha)
  · exact ofEffect_triggerAll h

theorem ofEffect_setValue {number : Nat} {value : String} (h : (w.setValue number value).1 = .error fault) :
    fault.OfEffect := by
  rw [setValue] at h
  split at h
  · cases h
  · rename_i hs
    cases h
    exact Document.ofEffect_node (map_eq_error.mp hs)

theorem ofEffect_press {keys : List Nat} (h : (Keyboard.press host keys w).1 = .error fault) : fault.OfEffect := by
  induction keys generalizing w with
  | nil => cases h
  | cons key keys ih =>
    have hask : host.ask (.activate key) w = w.activate key := rfl
    rw [Keyboard.press, Call.bind_apply, hask] at h
    rcases hactivate : w.activate key with ⟨fault' | _, w'⟩ <;> rw [hactivate] at h
    · cases h
      exact ofEffect_activate (congrArg Prod.fst hactivate)
    · exact ih h

end World

end PageScript
