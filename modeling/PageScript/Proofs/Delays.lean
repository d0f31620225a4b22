import PageScript.Proofs.Pacing

/-!
# Injected delays

A delay is injected behind every step that is no wait and does not end the run, and the recorder adds it up one step
later, if there still is a recorder then. The sum that a report shows is nevertheless the delay times the number of such
steps in the stretch that the report is about.
-/
namespace PageScript

/-! ## Spaced steps -/

/-- Lines that wait stand alone, and behind every other step there is the delay, if there is one. -/
inductive Spaced (delay : Nat) : List Step → Prop
  | nil : Spaced delay []
  | wait {step : Step} {steps : List Step} (hw : step.action.isWait = true) (hs : step.synthetic = false)
      (h : Spaced delay steps) : Spaced delay (step :: steps)
  | paused {step : Step} {steps : List Step} (hw : step.action.isWait = false) (h : Spaced delay steps) :
      Spaced delay (step :: (pause delay ++ steps))

theorem Spaced.expand_append {delay : Nat} {steps : List Step} (h : Spaced delay steps) {step : Step}
    (hs : step.synthetic = false) : Spaced delay (step.expand delay ++ steps) := by
  unfold Step.expand
  split
  · rename_i ms hwait
    exact .wait (by rw [hwait]; rfl) hs h
  · rename_i key hkey
    rw [List.append_assoc, List.cons_append, List.cons_append]
    exact .paused (by rw [hkey]; rfl) (.paused rfl h)
  · rename_i hwait _
    have hw : step.action.isWait = false := by
      cases ha : step.action <;> simp_all [Action.isWait]
    exact .paused hw h

theorem spaced_expansion (delay : Nat) {script : List Step} (h : ∀ step ∈ script, step.synthetic = false) :
    Spaced delay (expansion delay script) := by
  induction script with
  | nil => exact .nil
  | cons step script ih =>
    obtain ⟨hs, h⟩ := List.forall_mem_cons.mp h
    exact (ih h).expand_append hs

/-! ## Spaced journals -/

namespace Executed

instance (strict : Bool) (x : Executed) : Decidable (x.Ends strict) := decidable_of_iff _ isSome_reason

/-- A delay is due behind a step that is no wait and does not end the run. -/
def OwesDelay (strict : Bool) (x : Executed) : Prop := x.step.action.isWait = false ∧ ¬ x.Ends strict

instance (strict : Bool) (x : Executed) : Decidable (x.OwesDelay strict) := instDecidableAnd

end Executed

/-- A journal in which each step that owes a delay has it right behind itself, and no other step has one. -/
inductive Paid (strict : Bool) (delay : Nat) : List Executed → Prop
  | nil : Paid strict delay []
  | wait {x : Executed} {rest : List Executed} (hw : x.step.action.isWait = true) (hs : x.step.synthetic = false)
      (h : Paid strict delay rest) : Paid strict delay (x :: rest)
  | owed {x : Executed} {pauses rest : List Executed} (hx : x.OwesDelay strict)
      (hp : pauses.map Executed.step = pause delay) (h : Paid strict delay rest) :
      Paid strict delay (x :: (pauses ++ rest))
  | last {x : Executed} (hw : x.step.action.isWait = false) (hx : x.Ends strict) : Paid strict delay [x]

section

variable {strict : Bool} {delay : Nat} {journal : List Executed}

/-- A journal begins some steps and goes on to their end, unless a step ends the run. -/
structure Follows (strict : Bool) (journal : List Executed) (steps : List Step) : Prop where
  begun : journal.map Executed.step <+: steps
  last : ∀ before x after, journal = before ++ x :: after → x.Ends strict → after = []
  whole : (∀ x ∈ journal, ¬ x.Ends strict) → journal.map Executed.step = steps

theorem Follows.tail {x : Executed} {step : Step} {steps : List Step} (h : Follows strict (x :: journal) (step :: steps))
    (hx : ¬ x.Ends strict) : x.step = step ∧ Follows strict journal steps := by
  have hbegun := h.begun
  rw [List.map_cons, List.cons_prefix_cons] at hbegun
  refine ⟨hbegun.1, hbegun.2, fun before y after he => h.last (x :: before) y after (congrArg _ he), fun hall => ?_⟩
  have hwhole := h.whole (List.forall_mem_cons.mpr ⟨hx, hall⟩)
  exact List.tail_eq_of_cons_eq hwhole

/-- Nothing follows a step that ends the run. -/
theorem Follows.eq_nil {x : Executed} {steps : List Step} (h : Follows strict (x :: journal) steps)
    (hx : x.Ends strict) : journal = [] := h.last [] x journal rfl hx

theorem Spaced.paid {steps : List Step} (h : Spaced delay steps) (hj : Follows strict journal steps) :
    Paid strict delay journal := by
  induction h generalizing journal with
  | nil =>
    rw [List.map_eq_nil_iff.mp (List.prefix_nil.mp hj.begun)]
    exact .nil
  | @wait step steps hw hs _ ih =>
    cases journal with
    | nil => exact .nil
    | cons x journal =>
      have hstep : x.step = step := (List.cons_prefix_cons.mp hj.begun).1
      refine .wait (hstep ▸ hw) (hstep ▸ hs) ?_
      by_cases hx : x.Ends strict
      · rw [hj.eq_nil hx]
        exact .nil
      · exact ih (hj.tail hx).2
  | @paused step steps hw _ ih =>
    cases journal with
    | nil => exact .nil
    | cons x journal =>
      have hstep : x.step = step := (List.cons_prefix_cons.mp hj.begun).1
      by_cases hx : x.Ends strict
      · rw [hj.eq_nil hx]
        exact .last (hstep ▸ hw) hx
      · have htail := (hj.tail hx).2
        by_cases hd : delay = 0
        · have hpause : pause delay = [] := if_pos hd
          rw [hpause] at htail
          have hpaid : Paid strict delay (x :: ([] ++ journal)) := .owed ⟨hstep ▸ hw, hx⟩ hpause.symm (ih htail)
          exact hpaid
        · have hpause : pause delay = [Step.delay delay] := if_neg hd
          rw [hpause, List.singleton_append] at htail
          cases journal with
          | nil =>
            have hwhole := htail.whole (List.forall_mem_nil _)
            cases hwhole
          | cons y journal =>
            have hy : y.step = Step.delay delay := (List.cons_prefix_cons.mp htail.begun).1
            have hrest : Paid strict delay journal := by
              by_cases hye : y.Ends strict
              · rw [htail.eq_nil hye]
                exact .nil
              · exact ih (htail.tail hye).2
            have hpaid : Paid strict delay (x :: ([y] ++ journal)) :=
              .owed ⟨hstep ▸ hw, hx⟩ (by rw [hpause, ← hy]; rfl) hrest
            exact hpaid

/-! ## Sums -/

theorem of_pauses {pauses : List Executed} (h : pauses.map Executed.step = pause delay) :
    injectedDelays pauses = delay ∧ ∀ y ∈ pauses, y.step.action.isWait = true := by
  unfold pause at h
  split at h
  · rw [List.map_eq_nil_iff.mp h]
    exact ⟨‹delay = 0›.symm, List.forall_mem_nil _⟩
  · obtain ⟨y, rfl, hy⟩ := List.map_eq_singleton_iff.mp h
    rw [injectedDelays_cons, List.forall_mem_singleton, Executed.injectedDelay, hy]
    exact ⟨rfl, rfl⟩

theorem Executed.injectedDelay_of_not_wait {x : Executed} (h : x.step.action.isWait = false) : x.injectedDelay = 0 := by
  unfold injectedDelay
  split
  · rename_i ms ha
    rw [ha] at h
    cases h
  · rfl

theorem Executed.injectedDelay_of_written {x : Executed} (h : x.step.synthetic = false) : x.injectedDelay = 0 := by
  rw [injectedDelay, h]

/-- Up to the end of the recording the injected delays are those that are owed. -/
theorem Paid.injectedDelays_eq (h : Paid strict delay journal) :
    let recorded := journal.takeWhile (!·.closes)
    injectedDelays recorded = delay * recorded.countP (·.OwesDelay strict) := by
  induction h with
  | nil => rfl
  | @wait x rest hw hs _ ih =>
    have hplain := (Executed.plain_of_wait hw).1
    have howes : ¬ x.OwesDelay strict := fun h => by simp [h.1] at hw
    rw [List.takeWhile_cons_of_pos (by simp [hplain.2])]
    simpa [Executed.injectedDelay_of_written hs, howes] using ih
  | @owed x pauses rest hx hp _ ih =>
    obtain ⟨hsum, hwait⟩ := of_pauses hp
    have hplain : ∀ y ∈ pauses, (!y.closes) = true := fun y hy => by
      simp [(Executed.plain_of_wait (hwait y hy)).1.2]
    have howes : pauses.countP (·.OwesDelay strict) = 0 := by
      rw [List.countP_eq_zero]
      intro y hy howes
      have hno := (of_decide_eq_true howes).1
      rw [hwait y hy] at hno
      cases hno
    cases hc : x.closes with
    | true => simp [hc]
    | false =>
      rw [List.takeWhile_cons_of_pos (by simp [hc]), List.takeWhile_append_of_pos hplain]
      simp only [injectedDelays_cons, injectedDelays_append, List.countP_cons, List.countP_append,
        Executed.injectedDelay_of_not_wait hx.1, hsum, howes, ih]
      simp [hx, Nat.mul_add, Nat.add_comm]
  | @last x hw hx =>
    have howes : ¬ x.OwesDelay strict := fun h => h.2 hx
    cases hc : x.closes <;> simp [hc, howes, Executed.injectedDelay_of_not_wait hw]

theorem sinceBeacon_append {later : List Executed} (h : later.any Executed.opens = true) (journal : List Executed) :
    sinceBeacon (journal ++ later) = sinceBeacon later := by
  induction journal with
  | nil => rfl
  | cons x journal ih => rw [List.cons_append, sinceBeacon, if_pos (by simp [h]), ih]

theorem Paid.sinceBeacon (h : Paid strict delay journal) : Paid strict delay (sinceBeacon journal) := by
  induction h with
  | nil => exact .nil
  | @wait x rest hw hs h ih =>
    rw [PageScript.sinceBeacon]
    split
    · exact ih
    · exact .wait hw hs h
  | @owed x pauses rest hx hp h ih =>
    have hopens : pauses.any Executed.opens = false := by
      rw [List.any_eq_false]
      intro y hy
      simp [(Executed.plain_of_wait ((of_pauses hp).2 y hy)).1.1]
    cases hr : rest.any Executed.opens with
    | true => rwa [← List.cons_append, sinceBeacon_append hr]
    | false =>
      rw [PageScript.sinceBeacon, List.any_append, hopens, hr]
      exact .owed hx hp h
  | @last x hw hx => exact .last hw hx

end

/-! ## Whole runs -/

variable {σ : Type} (host : Host σ)

theorem paid_of_drain {settings : Settings} {script : List Step} {now : Nat} {s s₁ : σ} {journal : List Executed}
    {r : Run} (hw : ∀ step ∈ script, step.synthetic = false)
    (hd : Engine.drain host settings.stopOnFailure (.start settings script now) s = (journal, r, s₁)) :
    Paid settings.stopOnFailure settings.delayBetween journal := by
  have hx := drain_expansion host (running_start settings hw now) s
  rw [hd] at hx
  exact (spaced_expansion settings.delayBetween hw).paid ⟨hx.1, hx.2.2, hx.2.1⟩

/-- The delays that a report shows are those of the stretch that it is about: the delay between commands for each step
there that is no wait and does not end the run, be it a line of the script or an injected focus check. They are summed
exactly, and the sum is shown as a number of 64 bits. -/
theorem execute_counts_delays {settings : Settings} {lines : List String} {n : Nat} {e : Engine}
    (h : (Engine.ofSettings settings).load lines = (.ok n, e)) (s : σ) :
    ∃ script report journal e' s',
      List.Forall₂ (fun line step => Step.parse line = .ok step) lines script ∧
      e.execute host s = (.ok (report, journal), e', s') ∧
      (performAll host settings.keyMap settings.timeout (journal.map Executed.step) s).1 = journal ∧
      journal.map Executed.step <+: expansion settings.delayBetween script ∧
      ∀ rep, report = some rep →
        rep.delays =
          settings.delayBetween * (lastWindow journal).countP (·.OwesDelay settings.stopOnFailure) % Text.bound64 := by
  obtain ⟨script, journal, r, s₁, hp, hd, he⟩ := Engine.execute_of_load host h s
  have hwritten := written_of_parsed hp
  have hbegun := (drain_expansion host (running_start settings hwritten (host.stopwatch s)) s).1
  rw [hd] at hbegun
  refine ⟨script, _, journal, _, _, hp, he, congrArg Prod.fst (Engine.performAll_of_drain hd), hbegun, ?_⟩
  intro rep hrep
  have hpaid := (paid_of_drain host hwritten hd).sinceBeacon
  rw [(recorded_of_drain host hd).report_delays hrep, lastWindow, hpaid.injectedDelays_eq]

/-- Of six lines the restart of the recording and the typing count, and their delays exceed 64 bits together. -/
theorem execute_counts_delays_restarted :
    let settings : Settings := { delayBetween := Text.bound64 - 1 }
    let lines := ["click(#a)", "beaconStart()", "wait(3)", "type(#a,b)", "generateReport()", "click(#b)"]
    let loaded := (Engine.ofSettings settings).load lines
    loaded = (.ok 6, loaded.2) ∧
      ∃ rep journal e' w,
        loaded.2.execute World.host (World.ofPage {}) = (.ok (some rep, journal), e', w) ∧
        rep.delays = (Text.bound64 - 1) * (lastWindow journal).countP (·.OwesDelay false) % Text.bound64 ∧
        rep.delays = Text.bound64 - 2 := by
  intro settings lines loaded
  have h : loaded = (.ok 6, loaded.2) := Prod.ext rfl rfl
  have hdelays : ((loaded.2.execute World.host (World.ofPage {})).1.toOption.bind Prod.fst).map Report.delays =
      some (Text.bound64 - 2) := by decide +kernel
  obtain ⟨script, report, journal, e', w, -, he, -, -, hrep⟩ := execute_counts_delays World.host h (World.ofPage {})
  rw [he] at hdelays
  obtain ⟨rep, rfl, hsum⟩ := Option.map_eq_some_iff.mp hdelays
  exact ⟨h, rep, journal, e', w, he, hrep rep rfl, hsum⟩

end PageScript
