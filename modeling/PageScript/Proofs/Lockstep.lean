import PageScript.Performing

/-!
# Hosts in lockstep

Two hosts whose states are related may be asked the same. If their answers are the same, and the states they leave
are related again, then every action answers the same on both. An action asks, waits for an element, and lets time
pass, and does nothing else with a host; so it is enough to know this of these three.

A wait for an element may be excused: its fault on the first host, if it is of a certain kind, says nothing about
the second.
-/
namespace PageScript

variable {σ τ α β γ : Type}

/-! ## Calls that agree -/

namespace Call

theorem bind_apply (c : Call σ α) (k : α → Call σ β) (s : σ) :
    (c >>= k) s = match c s with
      | (.ok a, s) => k a s
      | (.error fault, s) => (.error fault, s) := by
  change (ExceptT.bindCont k (c s).1) (c s).2 = _
  rcases c s with ⟨_ | a, s'⟩ <;> rfl

theorem bind_eq_error {c : Call σ α} {k : α → Call σ β} {s s' : σ} {fault : Fault} :
    (c >>= k) s = (.error fault, s') ↔
      c s = (.error fault, s') ∨ ∃ a s₁, c s = (.ok a, s₁) ∧ k a s₁ = (.error fault, s') := by
  rw [bind_apply]
  constructor
  · intro h
    rcases hc : c s with ⟨fault' | a, s₁⟩ <;> rw [hc] at h
    · cases h
      exact .inl rfl
    · exact .inr ⟨a, s₁, rfl, h⟩
  · rintro (hc | ⟨a, s₁, hc, h⟩) <;> rw [hc]
    exact h

/-- From related states two calls come to the same answer and to related states, unless the first has an excuse. -/
def Agree (excused : Fault → Prop) (R : σ → τ → Prop) (c : Call σ α) (c' : Call τ α) : Prop :=
  ∀ s t, R s t →
    (∃ fault, (c s).1 = .error fault ∧ excused fault) ∨ (c s).1 = (c' t).1 ∧ R (c s).2 (c' t).2

namespace Agree

variable {excused : Fault → Prop} {R : σ → τ → Prop} {c : Call σ α} {c' : Call τ α}

theorem pure (a : α) : Agree excused R (pure a : Call σ α) (pure a : Call τ α) := fun _ _ h => .inr ⟨rfl, h⟩

theorem throw (fault : Fault) : Agree excused R (throw fault : Call σ α) (throw fault : Call τ α) :=
  fun _ _ h => .inr ⟨rfl, h⟩

theorem bind {k : α → Call σ β} {k' : α → Call τ β} (hc : Agree excused R c c')
    (hk : ∀ a, Agree excused R (k a) (k' a)) : Agree excused R (c >>= k) (c' >>= k') := by
  intro s t h
  rw [bind_apply, bind_apply]
  have hs := hc s t h
  revert hs
  rcases c s with ⟨fault | a, s'⟩ <;> rcases c' t with ⟨answer, t'⟩
  · rintro (⟨_, he, hf⟩ | ⟨rfl, hr⟩)
    · exact .inl ⟨_, congrArg _ (Except.error.inj he), hf⟩
    · exact .inr ⟨rfl, hr⟩
  · rintro (⟨_, ⟨⟩, _⟩ | ⟨rfl, hr⟩)
    exact hk a s' t' hr

theorem foldlM {f : α → γ → Call σ α} {f' : α → γ → Call τ α} (h : ∀ a x, Agree excused R (f a x) (f' a x))
    (xs : List γ) (a : α) : Agree excused R (xs.foldlM f a) (xs.foldlM f' a) := by
  induction xs generalizing a with
  | nil => exact .pure a
  | cons x xs ih =>
    rw [List.foldlM_cons, List.foldlM_cons]
    exact (h a x).bind ih

theorem weaken (h : Agree (fun _ => False) R c c') : Agree excused R c c' := by
  intro s t hr
  rcases h s t hr with ⟨_, _, ⟨⟩⟩ | hs
  exact .inr hs

end Agree

end Call

/-! ## Actions -/

/-- What is done with related states of two hosts leads to related states. Elements may be waited for with different
timeouts. -/
structure Lockstep (host : Host σ) (host' : Host τ) (excused : Fault → Prop) (R : σ → τ → Prop)
    (timeout timeout' : Nat) : Prop where
  call : ∀ r, Call.Agree (fun _ => False) R (host.ask r) (host'.ask r)
  await : ∀ selector, Call.Agree excused R (host.await selector timeout) (host'.await selector timeout')
  sleep : ∀ ms s t, R s t → R (host.sleep ms s) (host'.sleep ms t)

namespace Lockstep

variable {host : Host σ} {host' : Host τ} {excused : Fault → Prop} {R : σ → τ → Prop} {timeout timeout' : Nat}
  (h : Lockstep host host' excused R timeout timeout')

include h

theorem ask (r : Request) : Call.Agree excused R (host.ask r) (host'.ask r) := (h.call r).weaken

theorem layout (container : Nat) :
    Call.Agree excused R (Keyboard.layout host container) (Keyboard.layout host' container) := by
  refine (h.ask _).bind fun labels => .foldlM (fun keys label => ?_) _ _
  refine (h.ask (.parent label)).bind fun parent => ?_
  cases parent with
  | none => exact .pure _
  | some key =>
    refine (h.ask (.text label)).bind fun glyph => ?_
    split
    · refine (h.ask (.children key)).bind fun children => .foldlM (fun keys child => ?_) _ _
      exact (h.ask (.attr child "alt")).bind fun alt => .pure _
    · exact .pure _

theorem press (keys : List Nat) : Call.Agree excused R (Keyboard.press host keys) (Keyboard.press host' keys) := by
  induction keys with
  | nil => exact .pure _
  | cons key keys ih => exact (h.ask (.activate key)).bind fun _ => ih

theorem anyFocused (nodes : List Nat) :
    Call.Agree excused R (Action.anyFocused host nodes) (Action.anyFocused host' nodes) := by
  induction nodes with
  | nil => exact .pure _
  | cons node nodes ih =>
    refine (h.ask (.classNames node)).bind fun classes => ?_
    split
    · exact .pure _
    · exact ih

theorem pressKey (keyMap : List (String × Nat)) (key : String) :
    Call.Agree excused R (Action.pressKey host keyMap key) (Action.pressKey host' keyMap key) := by
  -- The fault of the request is rewritten, so that an excuse would not be passed on as it is.
  intro s t hr
  right
  unfold Action.pressKey
  cases keyMap.lookup key with
  | none => exact ⟨rfl, hr⟩
  | some code =>
    have hc := h.call (.keyDown code) s t hr
    simp only [Host.ask, and_false, exists_false, false_or] at hc
    revert hc
    dsimp only
    rcases host.call (.keyDown code) s with ⟨fault | _ | _, s'⟩ <;>
      rcases host'.call (.keyDown code) t with ⟨answer, t'⟩ <;> rintro ⟨rfl, hr⟩ <;> exact ⟨rfl, hr⟩

theorem typeOnKeyboard (selector text : String) :
    Call.Agree excused R (Action.typeOnKeyboard host timeout selector text)
      (Action.typeOnKeyboard host' timeout' selector text) := by
  refine (h.await selector).bind fun container => (h.layout container).bind fun layout => ?_
  cases layout.presses text with
  | ok keys => exact h.press keys
  | error glyph => exact .throw _

/-- Every action answers the same on both hosts. -/
theorem perform (keyMap : List (String × Nat)) (a : Action) :
    Call.Agree excused R (a.perform host keyMap timeout) (a.perform host' keyMap timeout') := by
  cases a with
  | waitForElement selector => exact (h.await selector).bind fun _ => .pure _
  | click selector => exact (h.await selector).bind fun node => (h.ask (.activate node)).bind fun _ => .pure _
  | type selector text =>
    exact (h.await selector).bind fun node => (h.ask (.setValue node text)).bind fun _ => .pure _
  | typeWithKeyboard selector text => exact (h.typeOnKeyboard selector text).bind fun _ => .pure _
  | keyPress key => exact (h.pressKey keyMap key).bind fun _ => .pure _
  | assertEquals selector expected =>
    refine (h.await selector).bind fun node => (h.ask (.value node)).bind fun actual => ?_
    split
    · exact .pure _
    · exact .throw _
  | wait ms => exact fun s t hr => .inr ⟨rfl, h.sleep ms s t hr⟩
  | checkFocus key =>
    refine (h.ask (.queryAll "*")).bind fun nodes => (h.anyFocused nodes).bind fun focused => ?_
    cases focused
    · exact .throw _
    · exact .pure _
  | beaconStart => exact .pure _
  | generateReport => exact .pure _

end Lockstep

end PageScript
