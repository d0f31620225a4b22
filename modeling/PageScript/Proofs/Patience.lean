import PageScript.Proofs.Lockstep
import PageScript.Proofs.Journal
import PageScript.Proofs.Listening

/-!
# Patience

A longer timeout changes nothing as long as no element is missing. A wait that ends with an element has ended before
its deadline, so that a later deadline was not noticed either, and the world it leaves is the same. Step by step this
holds of whole runs.
-/
namespace PageScript

namespace World

variable {w : World} {id deadline later : Nat} {ps : List Pending}

/-! ## Waiting for changes -/

/-- A change that is heard of by one deadline is heard of by a later one, at the same instant. Nothing is heard of at
the deadline itself, unless it had been there to read before. -/
theorem changeUntil_later (h : Orderly { w with pending := ps }) (hl : deadline ≤ later)
    (hw : w.now < deadline ∨ w.unread id = 0) (hc : (changeUntil id deadline w ps).1 = true) :
    changeUntil id later w ps = changeUntil id deadline w ps ∧ (changeUntil id deadline w ps).2.now < deadline := by
  induction ps generalizing w with
  | nil =>
    by_cases hu : 0 < w.unread id
    · simp only [changeUntil, if_pos hu]
      exact ⟨trivial, hw.resolve_right (Nat.ne_of_gt hu)⟩
    · simp [changeUntil, if_neg hu] at hc
  | cons p ps ih =>
    have hp : w.now ≤ p.due := h.ahead p List.mem_cons_self
    by_cases hd : p.due < deadline ∧ (p.due ≤ w.now ∨ w.unread id = 0)
    · have hnext : ∀ instant, p.due < instant →
          changeUntil id instant w (p :: ps) = changeUntil id instant (w.happen p) ps := by
        intro instant hi
        rw [changeUntil, if_pos ⟨hi, hd.2⟩]
      rw [hnext deadline hd.1] at hc ⊢
      rw [hnext later (hd.1.trans_le hl)]
      refine ih (h.elapsed h.elapsed_happen) (.inl ?_) hc
      rw [now_happen, max_eq_right hp]
      exact hd.1
    · by_cases hu : 0 < w.unread id
      · have hnow := hw.resolve_right (Nat.ne_of_gt hu)
        have hd' : ¬ (p.due < later ∧ (p.due ≤ w.now ∨ w.unread id = 0)) := by omega
        simp only [changeUntil, if_neg hd, if_neg hd', if_pos hu]
        exact ⟨trivial, hnow⟩
      · simp [changeUntil, if_neg hd, if_neg hu] at hc

/-- Observers that have read everything, or have time left, are not told earlier or later of a change if they would
wait longer. -/
theorem nextChange_later (h : w.Orderly) (hl : deadline ≤ later) (hw : w.now < deadline ∨ w.unread id = 0)
    (hc : (w.nextChange id deadline).1 = true) :
    w.nextChange id later = w.nextChange id deadline ∧ (w.nextChange id deadline).2.now < deadline :=
  changeUntil_later h hl hw hc

/-! ## Waiting for elements -/

theorem watch_later (selector : String) (changes : Nat) (h : w.Orderly) (hl : deadline ≤ later)
    (hw : w.now < deadline ∨ w.unread id = 0)
    (hc : (host.watch (.live id) selector deadline changes w).1 ≠ .ok none) :
    host.watch (.live id) selector later changes w = host.watch (.live id) selector deadline changes w := by
  induction changes generalizing w with
  | zero => exact absurd rfl hc
  | succ changes ih =>
    have hnext : ∀ instant, host.nextChange (.live id) instant w = w.nextChange id instant := fun _ => rfl
    rw [watch_succ, hnext] at hc
    rw [watch_succ, watch_succ, hnext, hnext]
    cases hn : (w.nextChange id deadline).1 with
    | false =>
      rw [show w.nextChange id deadline = (false, (w.nextChange id deadline).2) from Prod.ext hn rfl] at hc
      exact absurd rfl hc
    | true =>
      obtain ⟨heq, hnow⟩ := nextChange_later h hl hw hn
      have he := h.elapsed (Orderly.elapsed_changeUntil id deadline h)
      rw [heq]
      revert hc
      rw [show w.nextChange id deadline = (true, (w.nextChange id deadline).2) from Prod.ext hn rfl]
      dsimp only
      rcases (w.nextChange id deadline).2.document.selectFirst selector with fault | _ | n
      · exact fun _ => rfl
      · exact fun hc => ih (w := (w.nextChange id deadline).2) he (.inl hnow) hc
      · exact fun _ => rfl

variable {selector : String} {timeout timeout' : Nat}

theorem search_later (h : w.Orderly) (hu : w.unread id = 0) (hl : timeout ≤ timeout')
    (hc : (host.search (.live id) selector timeout w).1 ≠ .error (.elementNotFound selector timeout)) :
    host.search (.live id) selector timeout' w = host.search (.live id) selector timeout w := by
  have hdeadline : w.ahead timeout ≤ w.ahead timeout' := by
    unfold ahead
    omega
  have hw := watch_later selector (host.changesAhead (.live id) w) h hdeadline (.inr hu)
  rw [search_eq] at hc
  rw [search_eq, search_eq]
  revert hc
  rcases w.document.selectFirst selector with fault | _ | n
  · exact fun _ => rfl
  · intro hc
    have hfound : (host.watch (.live id) selector (w.ahead timeout) (host.changesAhead (.live id) w) w).1 ≠
        .ok none := by
      intro hn
      refine hc ?_
      revert hn
      rcases host.watch (.live id) selector (w.ahead timeout) (host.changesAhead (.live id) w) w
        with ⟨found, w'⟩
      rintro rfl
      rfl
    dsimp only
    rw [hw hfound]
    revert hfound
    rcases host.watch (.live id) selector (w.ahead timeout) (host.changesAhead (.live id) w) w
      with ⟨fault | _ | number, w'⟩
    · exact fun _ => rfl
    · exact fun hfound => absurd rfl hfound
    · exact fun _ => rfl
  · exact fun _ => rfl

theorem agree_await (selector : String) (hl : timeout ≤ timeout') :
    Call.Agree (fun fault => fault = .elementNotFound selector timeout) (fun w w' => w = w' ∧ w.Orderly)
      (host.await selector timeout) (host.await selector timeout') := by
  rintro w _ ⟨rfl, h⟩
  by_cases hc : (host.search (.live w.nextObserver) selector timeout w.observe.2).1 =
      .error (.elementNotFound selector timeout)
  · exact .inl ⟨_, by rw [await_eq, hc], rfl⟩
  · right
    have hsame : host.await selector timeout w = host.await selector timeout' w := by
      rw [await_eq, await_eq, search_later h.observe h.unread_observe hl hc]
    exact ⟨congrArg Prod.fst hsame, congrArg Prod.snd hsame, h.elapsed (h.elapsed_await selector timeout)⟩

/-- A world is in lockstep with itself, whatever the timeouts, as long as no element is missing. -/
theorem lockstep_later (hl : timeout ≤ timeout') :
    Lockstep host host (fun fault => ∃ selector, fault = .elementNotFound selector timeout)
      (fun w w' => w = w' ∧ w.Orderly) timeout timeout' where
  call r := by
    rintro w _ ⟨rfl, h⟩
    exact .inr ⟨rfl, rfl, h.answer r⟩
  await selector := by
    intro w w' h
    rcases agree_await selector hl w w' h with ⟨fault, hw, hf⟩ | hw
    · exact .inl ⟨fault, hw, selector, hf⟩
    · exact .inr hw
  sleep ms := by
    rintro w _ ⟨rfl, h⟩
    exact ⟨rfl, h.elapsed (Orderly.elapsed_runUntil _ h)⟩

end World

/-! ## Whole runs -/

namespace Run

variable (r : Run) (timeout : Nat)

def withTimeout : Run := { r with timeout }

theorem react_withTimeout (now : Nat) (a : Action) :
    (r.withTimeout timeout).react now a = (r.react now a).withTimeout timeout := by
  cases a with
  | generateReport =>
    simp only [react, finishReport, withTimeout]
    split <;> rfl
  | _ => rfl

theorem note_withTimeout (step : Step) (result : Except Fault String) :
    (r.withTimeout timeout).note step result = (r.note step result).withTimeout timeout := by
  unfold note
  dsimp only
  split <;> split <;> rfl

theorem settle_withTimeout (strict : Bool) (step : Step) (result : Except Fault String) :
    (r.withTimeout timeout).settle strict step result = (r.settle strict step result).withTimeout timeout := by
  unfold settle
  rw [note_withTimeout]
  cases reasonToStop strict step result <;> rfl

theorem finishReport_withTimeout (now : Nat) :
    (r.withTimeout timeout).finishReport now = (r.finishReport now).withTimeout timeout := by
  unfold finishReport withTimeout
  dsimp only
  split <;> rfl

end Run

/-- The step failed because an element was missing. -/
def Executed.Misses (x : Executed) : Prop := ∃ selector timeout, x.result = .error (.elementNotFound selector timeout)

namespace Engine

variable {strict : Bool} {r : Run} {w : World} {step : Step} {timeout : Nat}

theorem perform_later (h : w.Orderly) (hl : r.timeout ≤ timeout)
    (hm : ¬ (perform World.host strict step r w).1.Misses) :
    perform World.host strict step (r.withTimeout timeout) w =
        ((perform World.host strict step r w).1, (perform World.host strict step r w).2.1.withTimeout timeout,
          (perform World.host strict step r w).2.2) ∧
      (perform World.host strict step r w).2.2.Orderly := by
  rcases (World.lockstep_later hl).perform r.keyMap step.action w w ⟨rfl, h⟩ with
    ⟨fault, hf, selector, rfl⟩ | ⟨hresult, hworld, ho⟩
  · exact absurd ⟨selector, r.timeout, hf⟩ hm
  · refine ⟨?_, ho⟩
    have hp : step.action.perform World.host (r.withTimeout timeout).keyMap (r.withTimeout timeout).timeout w =
        step.action.perform World.host r.keyMap r.timeout w := Prod.ext hresult.symm hworld.symm
    unfold perform
    rw [hp]
    rcases step.action.perform World.host r.keyMap r.timeout w with ⟨result, w'⟩
    dsimp only
    rw [Run.react_withTimeout, Run.settle_withTimeout]

theorem drain_later (h : w.Orderly) (hl : r.timeout ≤ timeout)
    (hm : ∀ x ∈ (drain World.host strict r w).1, ¬ x.Misses) :
    drain World.host strict (r.withTimeout timeout) w =
      ((drain World.host strict r w).1, (drain World.host strict r w).2.1.withTimeout timeout,
        (drain World.host strict r w).2.2) := by
  induction r, w using drain.induct World.host strict
  case case1 r w hq =>
    rw [drain_of_nil hq, drain_of_nil (r := r.withTimeout timeout) hq]
  case case2 r w step queue hq next ha =>
    have hd := drain_of_aborted hq rfl ha
    rw [hd] at hm ⊢
    obtain ⟨hp, -⟩ := perform_later (r := { r with queue }) h hl (hm _ List.mem_cons_self)
    rw [drain_of_aborted (r := r.withTimeout timeout) hq hp ha]
  case case3 r w step queue hq next ha ih =>
    have hd := drain_of_running hq rfl ha
    rw [hd] at hm ⊢
    obtain ⟨hfirst, hrest⟩ := List.forall_mem_cons.mp hm
    obtain ⟨hp, ho⟩ := perform_later (r := { r with queue }) h hl hfirst
    have ht : next.2.1.timeout = r.timeout := (keyMap_perform World.host strict step { r with queue } w).2
    rw [drain_of_running (r := r.withTimeout timeout) hq hp ha, ih ho (ht ▸ hl) hrest]

theorem conclude_withTimeout (clears : Bool) (r : Run) (w : World) (timeout : Nat) :
    conclude World.host clears (r.withTimeout timeout) w =
      ((conclude World.host clears r w).1.withTimeout timeout, (conclude World.host clears r w).2) :=
  Prod.ext (Run.finishReport_withTimeout r timeout _) rfl

end Engine

/-- A longer timeout changes nothing if no step misses an element. The same steps are performed at the same instants
with the same results, and the report and the world that the run leaves are the same. -/
theorem execute_patient (page : Page) (timed : Bool) (longestWait : Nat) (settings : Settings) {later : Nat}
    (hl : settings.timeout ≤ later) {lines : List String} {n : Nat} {e : Engine}
    (h : (Engine.ofSettings settings).load lines = (.ok n, e)) :
    let w : World := { World.ofPage page with timed, longestWait }
    ∃ report journal e₁ w₁,
      e.execute World.host w = (.ok (report, journal), e₁, w₁) ∧
      ((∀ x ∈ journal, ¬ x.Misses) →
        ∃ e' e₁',
          (Engine.ofSettings { settings with timeout := later }).load lines = (.ok n, e') ∧
          e'.execute World.host w = (.ok (report, journal), e₁', w₁)) := by
  intro w
  have ho : w.Orderly := World.orderly_ofPage page timed longestWait
  obtain ⟨script, hp, rfl, rfl⟩ := Engine.load_eq_ok_iff.mp h
  let start := Run.start settings script (World.host.stopwatch w)
  let out := Engine.drain World.host settings.stopOnFailure start w
  refine ⟨_, _, _, _, Engine.execute_loaded World.host settings script w, ?_⟩
  intro hm
  have hd : Engine.drain World.host settings.stopOnFailure (start.withTimeout later) w =
      (out.1, out.2.1.withTimeout later, out.2.2) := Engine.drain_later ho hl hm
  have hlast := Engine.conclude_withTimeout settings.clearLocalStorage out.2.1 out.2.2 later
  obtain ⟨e', he⟩ := Engine.execute_of_drain { settings with timeout := later } hd hlast
  exact ⟨_, e', Engine.load_of_parsed { settings with timeout := later } hp, he⟩

/-- An element that comes three milliseconds after a click is waited for, ten milliseconds at most or a thousand. -/
theorem execute_patient_delayed :
    let late : Effect := { target := "body", change := .append { tag := "b" }, delay := 3 }
    let page : Page := { body := [{ tag := "button", id := some "go", onClick := [late] }] }
    let settings : Settings := { timeout := 10 }
    let lines := ["click(#go)", "waitForElement(b)"]
    let w : World := { World.ofPage page with timed := true }
    let loaded := (Engine.ofSettings settings).load lines
    settings.timeout ≤ 1000 ∧ loaded = (.ok 2, loaded.2) ∧
      ∃ report journal e₁ w₁ e' e₁',
        loaded.2.execute World.host w = (.ok (report, journal), e₁, w₁) ∧
        (∀ x ∈ journal, ¬ x.Misses) ∧ journal.map Executed.ended = [0, 3] ∧
        (Engine.ofSettings { settings with timeout := 1000 }).load lines = (.ok 2, e') ∧
        e'.execute World.host w = (.ok (report, journal), e₁', w₁) := by
  intro late page settings lines w loaded
  have hl : settings.timeout ≤ 1000 := by decide
  have h : loaded = (.ok 2, loaded.2) := Prod.ext rfl rfl
  obtain ⟨report, journal, e₁, w₁, he, hlater⟩ := execute_patient page true thirtyYears settings hl h
  have hrun : (loaded.2.execute World.host w).1.toOption.map (fun out =>
      (out.2.map Executed.ended, out.2.all fun x => x.result.isOk)) = some ([0, 3], true) := by
    decide +kernel
  change loaded.2.execute World.host w = _ at he
  rw [he] at hrun
  obtain ⟨hended, hall⟩ : journal.map Executed.ended = [0, 3] ∧ (journal.all fun x => x.result.isOk) = true := by
    simpa only [Except.toOption, Option.map_some, Option.some.injEq, Prod.mk.injEq] using hrun
  have hm : ∀ x ∈ journal, ¬ x.Misses := by
    rintro x hx ⟨selector, timeout, hr⟩
    have hok := List.all_eq_true.mp hall x hx
    rw [hr] at hok
    cases hok
  obtain ⟨e', e₁', hload, he'⟩ := hlater hm
  exact ⟨hl, h, report, journal, e₁, w₁, e', e₁', he, hm, hended, hload, he'⟩

end PageScript
