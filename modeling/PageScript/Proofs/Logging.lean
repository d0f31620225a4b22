import PageScript.Proofs.Journal
import PageScript.Proofs.Lockstep

/-!
# Logs

A host can be made to keep a log of all that is done with it and of what comes of that. Nothing but the log is different
then: whatever is done with two hosts that mirror each other, as a host with a log and the same host without one do,
comes to the same, up to whole runs. So the log of a run says what the run does with the host itself.
-/
namespace PageScript

variable {σ τ : Type}

/-! ## Hosts that mirror each other -/

structure Mirrors (host : Host σ) (host' : Host τ) (R : σ → τ → Prop) : Prop where
  call : ∀ r s t, R s t → (host.call r s).1 = (host'.call r t).1 ∧ R (host.call r s).2 (host'.call r t).2
  observe : ∀ s t, R s t → (host.observe s).1 = (host'.observe t).1 ∧ R (host.observe s).2 (host'.observe t).2
  unobserve : ∀ subscription s t, R s t → R (host.unobserve subscription s) (host'.unobserve subscription t)
  nextChange : ∀ subscription deadline s t, R s t →
    (host.nextChange subscription deadline s).1 = (host'.nextChange subscription deadline t).1 ∧
      R (host.nextChange subscription deadline s).2 (host'.nextChange subscription deadline t).2
  changesAhead : ∀ subscription s t, R s t → host.changesAhead subscription s = host'.changesAhead subscription t
  now : ∀ s t, R s t → host.now s = host'.now t
  ahead : ∀ ms s t, R s t → host.ahead ms s = host'.ahead ms t
  sleepUntil : ∀ deadline s t, R s t → R (host.sleepUntil deadline s) (host'.sleepUntil deadline t)
  stopwatch : ∀ s t, R s t → host.stopwatch s = host'.stopwatch t

namespace Mirrors

variable {host : Host σ} {host' : Host τ} {R : σ → τ → Prop} (h : Mirrors host host' R)

include h

theorem ask (r : Request) : Call.Agree (fun _ => False) R (host.ask r) (host'.ask r) :=
  fun s t hr => .inr (h.call r s t hr)

theorem watch (subscription : Subscription) (selector : String) (deadline changes : Nat) :
    Call.Agree (fun _ => False) R (host.watch subscription selector deadline changes)
      (host'.watch subscription selector deadline changes) := by
  induction changes with
  | zero => exact fun s t hr => .inr ⟨rfl, h.sleepUntil deadline s t hr⟩
  | succ changes ih =>
    intro s t hr
    have hchange := h.nextChange subscription deadline s t hr
    rw [Host.watch, Host.watch]
    revert hchange
    dsimp only
    rcases host.nextChange subscription deadline s with ⟨_ | _, s₁⟩ <;>
      rcases host'.nextChange subscription deadline t with ⟨_, t₁⟩ <;> rintro ⟨rfl, hr₁⟩
    · exact .inr ⟨rfl, hr₁⟩
    · have hquery := h.call (.query selector) s₁ t₁ hr₁
      revert hquery
      dsimp only
      rcases host.call (.query selector) s₁ with ⟨fault | _ | node, s₂⟩ <;>
        rcases host'.call (.query selector) t₁ with ⟨_, t₂⟩ <;> rintro ⟨rfl, hr₂⟩
      · exact .inr ⟨rfl, hr₂⟩
      · exact ih s₂ t₂ hr₂
      · exact .inr ⟨rfl, hr₂⟩

theorem search (subscription : Subscription) (selector : String) (timeout : Nat) :
    Call.Agree (fun _ => False) R (host.search subscription selector timeout)
      (host'.search subscription selector timeout) := by
  intro s t hr
  have hquery := h.call (.query selector) s t hr
  rw [Host.search, Host.search]
  revert hquery
  dsimp only
  rcases host.call (.query selector) s with ⟨fault | _ | node, s₁⟩ <;>
    rcases host'.call (.query selector) t with ⟨_, t₁⟩ <;> rintro ⟨rfl, hr₁⟩
  · exact .inr ⟨rfl, hr₁⟩
  · have hwatch := h.watch subscription selector (host.ahead timeout s₁) (host.changesAhead subscription s₁) s₁ t₁ hr₁
    dsimp only
    rw [← h.ahead timeout s₁ t₁ hr₁, ← h.changesAhead subscription s₁ t₁ hr₁]
    revert hwatch
    rcases host.watch subscription selector (host.ahead timeout s₁) (host.changesAhead subscription s₁) s₁
        with ⟨fault | _ | node, s₂⟩ <;>
      rcases host'.watch subscription selector (host.ahead timeout s₁) (host.changesAhead subscription s₁) t₁
        with ⟨_, t₂⟩ <;> rintro (⟨_, _, ⟨⟩⟩ | ⟨rfl, hr₂⟩) <;> exact .inr ⟨rfl, hr₂⟩
  · exact .inr ⟨rfl, hr₁⟩

theorem lockstep (timeout : Nat) : Lockstep host host' (fun _ => False) R timeout timeout where
  call := h.ask
  await selector s t hr := by
    obtain ⟨hsubscription, hr₁⟩ := h.observe s t hr
    have hsearch := h.search (host.observe s).1 selector timeout _ _ hr₁
    rw [Host.await, Host.await]
    dsimp only
    rw [← hsubscription]
    rcases hsearch with ⟨_, _, ⟨⟩⟩ | ⟨hfound, hr₂⟩
    exact .inr ⟨hfound, h.unobserve _ _ _ hr₂⟩
  sleep ms s t hr := by
    rw [Host.sleep, Host.sleep, h.ahead ms s t hr]
    exact h.sleepUntil _ s t hr

/-! ## Whole runs -/

variable {s : σ} {t : τ}

theorem perform (strict : Bool) (step : Step) (r : Run) (hr : R s t) :
    let next := Engine.perform host strict step r s
    ∃ t', Engine.perform host' strict step r t = (next.1, next.2.1, t') ∧ R next.2.2 t' := by
  rcases (h.lockstep r.timeout).perform r.keyMap step.action s t hr with ⟨_, _, ⟨⟩⟩ | ⟨hresult, hr'⟩
  rw [Engine.perform_eq rfl, Engine.perform_eq rfl]
  dsimp only
  rw [← hresult, h.now s t hr, h.now _ _ hr', h.stopwatch _ _ hr']
  exact ⟨_, rfl, hr'⟩

theorem drain (strict : Bool) (r : Run) (hr : R s t) :
    let out := Engine.drain host strict r s
    ∃ t', Engine.drain host' strict r t = (out.1, out.2.1, t') ∧ R out.2.2 t' := by
  induction r, s using Engine.drain.induct host strict generalizing t
  case case1 r s hq =>
    rw [Engine.drain_of_nil hq, Engine.drain_of_nil hq]
    exact ⟨t, rfl, hr⟩
  case case2 r s step queue hq next ha =>
    obtain ⟨t₁, hn, hr₁⟩ := h.perform strict step { r with queue } hr
    rw [Engine.drain_of_aborted hq rfl ha, Engine.drain_of_aborted hq hn ha]
    exact ⟨t₁, rfl, hr₁⟩
  case case3 r s step queue hq next ha ih =>
    obtain ⟨t₁, hn, hr₁⟩ := h.perform strict step { r with queue } hr
    obtain ⟨t₂, hrest, hr₂⟩ := ih hr₁
    rw [Engine.drain_of_running hq rfl ha, Engine.drain_of_running hq hn ha, hrest]
    exact ⟨t₂, rfl, hr₂⟩

end Mirrors

/-! ## Logs -/

/-- Something that was done with a host, and what came of it. -/
inductive Interaction where
  | asked (r : Request) (answer : Except Fault r.Reply)
  | observed (subscription : Subscription)
  | unobserved (subscription : Subscription)
  | listened (subscription : Subscription) (deadline : Nat) (heard : Bool)
  | slept (deadline : Nat)

structure Logged (σ : Type) where
  state : σ
  log : List Interaction := []

namespace Logged

def note (s : Logged σ) (i : Interaction) (state : σ) : Logged σ := ⟨state, s.log ++ [i]⟩

end Logged

namespace Host

variable (host : Host σ)

/-- Keeps a log of all that is done with a host. Looking at the time is not noted. -/
def logged : Host (Logged σ) where
  call r s :=
    let (answer, state) := host.call r s.state
    (answer, s.note (.asked r answer) state)
  observe s :=
    let (subscription, state) := host.observe s.state
    (subscription, s.note (.observed subscription) state)
  unobserve subscription s := s.note (.unobserved subscription) (host.unobserve subscription s.state)
  nextChange subscription deadline s :=
    let (heard, state) := host.nextChange subscription deadline s.state
    (heard, s.note (.listened subscription deadline heard) state)
  changesAhead subscription s := host.changesAhead subscription s.state
  now s := host.now s.state
  ahead ms s := host.ahead ms s.state
  sleepUntil deadline s := s.note (.slept deadline) (host.sleepUntil deadline s.state)
  stopwatch s := host.stopwatch s.state

/-- Nothing but the log tells a host that keeps one from one that does not. -/
theorem mirrors_logged : Mirrors host host.logged fun s t => t.state = s where
  call := by
    rintro r _ t rfl
    exact ⟨rfl, rfl⟩
  observe := by
    rintro _ t rfl
    exact ⟨rfl, rfl⟩
  unobserve := by
    rintro subscription _ t rfl
    rfl
  nextChange := by
    rintro subscription deadline _ t rfl
    exact ⟨rfl, rfl⟩
  changesAhead := by
    rintro subscription _ t rfl
    rfl
  now := by
    rintro _ t rfl
    rfl
  ahead := by
    rintro ms _ t rfl
    rfl
  sleepUntil := by
    rintro deadline _ t rfl
    rfl
  stopwatch := by
    rintro _ t rfl
    rfl

end Host

end PageScript
