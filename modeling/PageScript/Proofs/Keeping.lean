import PageScript.Proofs.Effects
import PageScript.Proofs.Histories
import PageScript.Proofs.Journal

/-!
# What a run keeps

An action asks a host for something, connects and disconnects an observer, and lets time pass. What all of these keep,
whatever it says of the host, is kept by every action and by every run. No action asks for the local storage to be
cleared, so nothing is said of that request. An action fails as its requests do, or in a way of its own, of which only
the loss of the focus ends a run.
-/
namespace PageScript

variable {σ α β γ : Type} {P : σ → Prop} {F : Fault → Prop}

/-! ## Calls -/

/-- Whatever a call answers, it keeps a property of the host's state, and if it fails then with a fault of some kind. -/
def Call.Keeps (P : σ → Prop) (F : Fault → Prop) (c : Call σ α) : Prop :=
  ∀ s, P s → P (c s).2 ∧ ∀ fault, (c s).1 = .error fault → F fault

namespace Call.Keeps

/-- A fault that is passed on is of its kind whatever was to be answered. -/
theorem passOn {fault : Fault} {s : σ} (h : P s ∧ ∀ f, (.error fault : Except Fault α) = .error f → F f) :
    P s ∧ ∀ f, (.error fault : Except Fault β) = .error f → F f :=
  ⟨h.1, fun _ he => h.2 _ (congrArg _ (Except.error.inj he))⟩

theorem pure (a : α) : Keeps P F (pure a : Call σ α) := fun _ hs => ⟨hs, nofun⟩

theorem throw {fault : Fault} (h : F fault) : Keeps P F (throw fault : Call σ α) :=
  fun _ hs => ⟨hs, fun _ hf => Except.error.inj hf ▸ h⟩

theorem bind {c : Call σ α} {k : α → Call σ β} (hc : Keeps P F c) (hk : ∀ a, Keeps P F (k a)) :
    Keeps P F (c >>= k) := by
  intro s hs
  have hnext := hc s hs
  rw [bind_apply]
  revert hnext
  rcases c s with ⟨fault | a, s₁⟩
  · exact passOn
  · exact fun hnext => hk a s₁ hnext.1

theorem foldlM {f : α → γ → Call σ α} (h : ∀ a x, Keeps P F (f a x)) (xs : List γ) (a : α) :
    Keeps P F (xs.foldlM f a) := by
  induction xs generalizing a with
  | nil => exact .pure a
  | cons x xs ih =>
    rw [List.foldlM_cons]
    exact (h a x).bind ih

end Call.Keeps

/-! ## Actions and runs -/

/-- Everything that an action may do with a host keeps a property of its state. What it may fail with is of some kind,
as is every fault that does not end a run. -/
structure Keeping (host : Host σ) (P : σ → Prop) (F : Fault → Prop) : Prop where
  call : ∀ r, r ≠ .clearLocalStorage → Call.Keeps P F (host.ask r)
  observe : ∀ s, P s → P (host.observe s).2
  unobserve : ∀ subscription s, P s → P (host.unobserve subscription s)
  nextChange : ∀ subscription deadline s, P s → P (host.nextChange subscription deadline s).2
  sleepUntil : ∀ deadline s, P s → P (host.sleepUntil deadline s)
  harmless : ∀ fault, fault.endsRun = false → F fault

namespace Keeping

variable {host : Host σ} (h : Keeping host P F) {keyMap : List (String × Nat)} {timeout : Nat}

include h

/-- If it does not matter how an action fails, nothing need be known of that. -/
theorem anyhow : Keeping host P fun _ => True where
  call r hr s hs := ⟨(h.call r hr s hs).1, fun _ _ => trivial⟩
  observe := h.observe
  unobserve := h.unobserve
  nextChange := h.nextChange
  sleepUntil := h.sleepUntil
  harmless _ _ := trivial

theorem ask (r : Request) (hr : r ≠ .clearLocalStorage := by nofun) : Call.Keeps P F (host.ask r) := h.call r hr

theorem watch (subscription : Subscription) (selector : String) (deadline changes : Nat) :
    Call.Keeps P F (host.watch subscription selector deadline changes) := by
  induction changes with
  | zero => exact fun s hs => ⟨h.sleepUntil deadline s hs, nofun⟩
  | succ changes ih =>
    intro s hs
    have hchange := h.nextChange subscription deadline s hs
    rw [Host.watch]
    revert hchange
    dsimp only
    rcases host.nextChange subscription deadline s with ⟨_ | _, s₁⟩
    · exact fun hchange => ⟨hchange, nofun⟩
    · intro hchange
      have hquery := h.ask (.query selector) (by nofun) s₁ hchange
      revert hquery
      dsimp only [Host.ask]
      rcases host.call (.query selector) s₁ with ⟨fault | _ | node, s₂⟩
      · exact Call.Keeps.passOn
      · exact fun hquery => ih s₂ hquery.1
      · exact fun hquery => ⟨hquery.1, nofun⟩

theorem search (subscription : Subscription) (selector : String) (timeout : Nat) :
    Call.Keeps P F (host.search subscription selector timeout) := by
  intro s hs
  have hquery := h.ask (.query selector) (by nofun) s hs
  rw [Host.search]
  revert hquery
  dsimp only [Host.ask]
  rcases host.call (.query selector) s with ⟨fault | _ | node, s₁⟩
  · exact Call.Keeps.passOn
  · intro hquery
    have hwatch := h.watch subscription selector (host.ahead timeout s₁) (host.changesAhead subscription s₁) s₁ hquery.1
    revert hwatch
    dsimp only
    rcases host.watch subscription selector (host.ahead timeout s₁) (host.changesAhead subscription s₁) s₁
      with ⟨fault | _ | node, s₂⟩
    · exact Call.Keeps.passOn
    · exact fun hwatch => ⟨hwatch.1, fun fault he => Except.error.inj he ▸ h.harmless _ rfl⟩
    · exact fun hwatch => ⟨hwatch.1, nofun⟩
  · exact fun hquery => ⟨hquery.1, nofun⟩

theorem await (selector : String) : Call.Keeps P F (host.await selector timeout) := by
  intro s hs
  obtain ⟨hfound, hfault⟩ := h.search (host.observe s).1 selector timeout _ (h.observe s hs)
  exact ⟨h.unobserve _ _ hfound, hfault⟩

theorem layout (container : Nat) : Call.Keeps P F (Keyboard.layout host container) := by
  refine (h.ask _).bind fun labels => .foldlM (fun keys label => ?_) _ _
  refine (h.ask (.parent label)).bind fun parent => ?_
  cases parent with
  | none => exact .pure _
  | some key =>
    refine (h.ask (.text label)).bind fun glyph => ?_
    split
    · refine (h.ask (.children key)).bind fun children => .foldlM (fun keys child => ?_) _ _
      exact (h.ask (.attr child "alt")).bind fun alt => .pure _
    · exact .pure _

theorem press (keys : List Nat) : Call.Keeps P F (Keyboard.press host keys) := by
  induction keys with
  | nil => exact .pure _
  | cons key keys ih => exact (h.ask (.activate key)).bind fun _ => ih

theorem anyFocused (nodes : List Nat) : Call.Keeps P F (Action.anyFocused host nodes) := by
  induction nodes with
  | nil => exact .pure _
  | cons node nodes ih =>
    refine (h.ask (.classNames node)).bind fun classes => ?_
    split
    · exact .pure _
    · exact ih

theorem pressKey (key : String) : Call.Keeps P F (Action.pressKey host keyMap key) := by
  intro s hs
  unfold Action.pressKey
  cases keyMap.lookup key with
  | none => exact Call.Keeps.throw (h.harmless _ rfl) s hs
  | some code =>
    have hdown := h.ask (.keyDown code) (by nofun) s hs
    revert hdown
    dsimp only [Host.ask]
    rcases host.call (.keyDown code) s with ⟨fault | _ | _, s₁⟩
    · exact fun hdown => Call.Keeps.throw (h.harmless _ rfl) s₁ hdown.1
    · exact fun hdown => Call.Keeps.throw (h.harmless _ rfl) s₁ hdown.1
    · exact fun hdown => ⟨hdown.1, nofun⟩

theorem typeOnKeyboard (selector text : String) :
    Call.Keeps P F (Action.typeOnKeyboard host timeout selector text) := by
  refine (h.await selector).bind fun container => (h.layout container).bind fun layout => ?_
  cases layout.presses text with
  | ok keys => exact h.press keys
  | error glyph => exact .throw (h.harmless _ rfl)

/-- Every action keeps it. Only a check of the focus may fail in a way that ends a run. -/
theorem perform {a : Action} (ha : ∀ key, a = .checkFocus key → F (.focusLost key)) :
    Call.Keeps P F (a.perform host keyMap timeout) := by
  cases a with
  | waitForElement selector => exact (h.await selector).bind fun _ => .pure _
  | click selector => exact (h.await selector).bind fun node => (h.ask (.activate node)).bind fun _ => .pure _
  | type selector text =>
    exact (h.await selector).bind fun node => (h.ask (.setValue node text)).bind fun _ => .pure _
  | typeWithKeyboard selector text => exact (h.typeOnKeyboard selector text).bind fun _ => .pure _
  | keyPress key => exact (h.pressKey key).bind fun _ => .pure _
  | assertEquals selector expected =>
    refine (h.await selector).bind fun node => (h.ask (.value node)).bind fun actual => ?_
    split
    · exact .pure _
    · exact .throw (h.harmless _ rfl)
  | wait ms => exact fun s hs => ⟨h.sleepUntil _ s hs, nofun⟩
  | checkFocus key =>
    refine (h.ask (.queryAll "*")).bind fun nodes => (h.anyFocused nodes).bind fun focused => ?_
    cases focused
    · exact .throw (ha key rfl)
    · exact .pure _
  | beaconStart => exact .pure _
  | generateReport => exact .pure _

theorem performAll (steps : List Step) {s : σ} (hs : P s) :
    P (performAll host keyMap timeout steps s).2 := by
  induction steps generalizing s with
  | nil => exact hs
  | cons step steps ih => exact ih (h.anyhow.perform (fun _ _ => trivial) s hs).1

theorem drain (strict : Bool) (r : Run) {s : σ} (hs : P s) : P (Engine.drain host strict r s).2.2 :=
  Engine.drain_invariant host strict (fun _ _ s => P s)
    (fun {_ _ s _ _} _ hs => (h.anyhow.perform (fun _ _ => trivial) s hs).1) hs

end Keeping

/-! ## Worlds -/

namespace World

theorem ofEffect_keyDown {w : World} {code : Nat} {fault : Fault} (h : (w.keyDown code).1 = .error fault) :
    fault.OfEffect := by
  unfold keyDown at h
  dsimp only at h
  split at h
  · cases h
  · rename_i ht
    cases h
    exact ofEffect_triggerAll (congrArg Prod.fst ht)

theorem ofEffect_answer {w : World} {r : Request} {fault : Fault} (h : (answer r w).1 = .error fault) :
    fault.OfEffect := by
  cases r with
  | query selector => exact Document.ofEffect_selectFirst (map_eq_error.mp h)
  | queryAll selector => exact Document.ofEffect_selectFirst (map_eq_error.mpr (map_eq_error.mp h))
  | activate number => exact ofEffect_activate h
  | setValue number text => exact ofEffect_setValue h
  | value number | text number | classNames number | attr number name | parent number =>
    exact Document.ofEffect_node (map_eq_error.mp h)
  | elementsByTag number tag | children number => exact Document.ofEffect_subtree (map_eq_error.mp h)
  | keyDown code => exact ofEffect_keyDown h
  | clearLocalStorage => cases h

/-- A run does with a world nothing else than can be done with it at any time, and no request ends the run. -/
theorem keeping {P : World → Prop}
    (keep : ∀ w event, event ≠ .request .clearLocalStorage → P w → P (step w event)) :
    Keeping host P fun fault => fault.endsRun = false where
  call r hr w hw := by
    refine ⟨keep w (.request r) (fun he => hr (Event.request.inj he)) hw, fun fault hf => ?_⟩
    cases ofEffect_answer hf <;> rfl
  observe w hw := keep w .observe nofun hw
  unobserve
    | .live id, w, hw => keep w (.unobserve id) nofun hw
    | .closed, _, hw => hw
  nextChange
    | .live id, deadline, w, hw => keep w (.nextChange id deadline) nofun hw
    | .closed, deadline, w, hw => keep w (.sleepUntil deadline) nofun hw
  sleepUntil deadline w hw := keep w (.sleepUntil deadline) nofun hw
  harmless _ hf := hf

end World

end PageScript
