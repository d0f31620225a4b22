import PageScript.Proofs.Loading

/-!
# Journals

A run takes its queue down step by step, and its journal lists the steps it performed. What holds of a run at
the start, and is kept by every step that is taken from the queue, holds at the end; the journal's entries are
what performing its steps one after another answers.
-/
namespace PageScript

variable {σ : Type} (host : Host σ)

namespace Executed

/-- A run ends with a step that lost the focus, and with a reported one that failed if none may fail. -/
def Ends (strict : Bool) (x : Executed) : Prop :=
  (∃ key, x.result = .error (.focusLost key)) ∨
    strict = true ∧ x.step.isReported = true ∧ ∃ fault, x.result = .error fault

def reason (strict : Bool) (x : Executed) : Option String := Run.reasonToStop strict x.step x.result

theorem isSome_reason {strict : Bool} {x : Executed} : (x.reason strict).isSome = true ↔ x.Ends strict := by
  rw [reason, Ends]
  cases x.result with
  | ok message => simp [Run.reasonToStop]
  | error fault =>
    cases fault <;> by_cases h : (strict && x.step.isReported) = true <;>
      simp_all [Run.reasonToStop, Fault.endsRun]

theorem reason_eq_none {strict : Bool} {x : Executed} : x.reason strict = none ↔ ¬ x.Ends strict := by
  rw [← isSome_reason, Option.not_isSome_iff_eq_none]

end Executed

/-- The recording after a step, before it is decided how the run goes on. -/
def Run.noted (r : Run) (now : Nat) (x : Executed) : Run := (r.react now x.step.action).note x.step x.result

namespace Run

variable (r : Run) (now : Nat) (x : Executed)

theorem noted_eq :
    r.noted now x =
      { r with
        recorder := (r.noted now x).recorder
        report := (r.noted now x).report
        incomplete := (r.noted now x).incomplete } := by
  unfold noted
  rw [note_eq, react_eq]

theorem report_noted : (r.noted now x).report = (r.react now x.step.action).report := by
  rw [noted, note_eq]

theorem incomplete_noted (h : r.incomplete = []) : (r.noted now x).incomplete = [] := by
  rw [noted, note_eq]
  cases ha : x.step.action with
  | generateReport =>
    simp only [react, finishReport]
    split <;> rfl
  | _ => exact h

theorem settle_react_of_continue {strict : Bool} (h : x.reason strict = none) :
    (r.react now x.step.action).settle strict x.step x.result =
      { r.noted now x with queue := r.injected x.step ++ r.queue } := by
  rw [settle_of_continue h, noted, react_eq]
  rfl

end Run

/-- Performs steps one after another, whatever they answer. -/
def performAll (keyMap : List (String × Nat)) (timeout : Nat) : List Step → σ → List Executed × σ
  | [], s => ([], s)
  | step :: steps, s =>
    let done := step.action.perform host keyMap timeout s
    let rest := performAll keyMap timeout steps done.2
    (⟨step, done.1, host.now s, host.now done.2⟩ :: rest.1, rest.2)

theorem performAll_append (keyMap : List (String × Nat)) (timeout : Nat) (steps later : List Step) (s : σ) :
    performAll host keyMap timeout (steps ++ later) s =
      let first := performAll host keyMap timeout steps s
      let rest := performAll host keyMap timeout later first.2
      (first.1 ++ rest.1, rest.2) := by
  induction steps generalizing s with
  | nil => rfl
  | cons step steps ih => simp only [List.cons_append, performAll, ih]

namespace Engine

variable {host} {strict : Bool} {r : Run} {s : σ}

/-- A step is performed with its action, and then the recording and the queue follow. -/
theorem perform_eq {step : Step} {done : Except Fault String × σ}
    (h : step.action.perform host r.keyMap r.timeout s = done) :
    perform host strict step r s =
      (⟨step, done.1, host.now s, host.now done.2⟩,
        (r.react (host.stopwatch done.2) step.action).settle strict step done.1, done.2) := by
  subst h
  rfl

theorem drain_of_nil (h : r.queue = []) : drain host strict r s = ([], r, s) := by
  rw [drain]
  split
  · rfl
  · simp_all

theorem drain_of_cons {step : Step} {queue : List Step} (h : r.queue = step :: queue) :
    drain host strict r s =
      let next := perform host strict step { r with queue } s
      if next.2.1.phase = .aborted then ([next.1], next.2)
      else
        let rest := drain host strict next.2.1 next.2.2
        (next.1 :: rest.1, rest.2) := by
  rw [drain]
  split
  · simp_all
  · rename_i step' queue' h'
    rw [h] at h'
    cases h'
    rfl

section

variable {step : Step} {queue : List Step} {next : Executed × Run × σ}

theorem drain_of_aborted (hq : r.queue = step :: queue)
    (hn : perform host strict step { r with queue } s = next) (ha : next.2.1.phase = .aborted) :
    drain host strict r s = ([next.1], next.2) := by
  rw [drain_of_cons hq, hn]
  exact if_pos ha

theorem drain_of_running (hq : r.queue = step :: queue)
    (hn : perform host strict step { r with queue } s = next) (ha : next.2.1.phase ≠ .aborted) :
    drain host strict r s =
      (next.1 :: (drain host strict next.2.1 next.2.2).1, (drain host strict next.2.1 next.2.2).2) := by
  rw [drain_of_cons hq, hn]
  exact if_neg ha

end

theorem perform_of_stop {step : Step} {reason : String}
    (h : (perform host strict step r s).1.reason strict = some reason) :
    ∃ now, (perform host strict step r s).2.1 =
      (r.noted now (perform host strict step r s).1).abandon reason :=
  ⟨_, Run.settle_of_stop h⟩

theorem perform_of_continue {step : Step} (h : (perform host strict step r s).1.reason strict = none) :
    ∃ now, (perform host strict step r s).2.1 =
      { r.noted now (perform host strict step r s).1 with queue := r.injected step ++ r.queue } :=
  ⟨_, Run.settle_react_of_continue r _ _ h⟩

/-- However the run goes on, its recording is what the step has left. -/
theorem perform_recording (host : Host σ) (strict : Bool) (step : Step) (r : Run) (s : σ) :
    let next := perform host strict step r s
    ∃ now, next.2.1.recorder = (r.noted now next.1).recorder ∧
      next.2.1.report = (r.noted now next.1).report := by
  intro next
  cases hr : next.1.reason strict with
  | none =>
    obtain ⟨now, hn⟩ := perform_of_continue hr
    rw [hn]
    exact ⟨now, rfl, rfl⟩
  | some reason =>
    obtain ⟨now, hn⟩ := perform_of_stop hr
    rw [hn]
    exact ⟨now, rfl, rfl⟩

theorem drain_ended (host : Host σ) (strict : Bool) (r : Run) (s : σ) :
    (drain host strict r s).2.1.queue = [] ∨ (drain host strict r s).2.1.phase = .aborted := by
  fun_induction drain host strict r s with
  | case1 r s hq => exact .inl hq
  | case2 r s step queue hq next ha => exact .inr ha
  | case3 r s step queue hq next ha rest ih => exact ih

/-- What holds before a run, and is kept by every step, holds of all that the run has done. -/
theorem drain_invariant (host : Host σ) (strict : Bool) (Inv : List Executed → Run → σ → Prop)
    (keep : ∀ {done r s step queue}, r.queue = step :: queue → Inv done r s →
      let next := perform host strict step { r with queue } s
      Inv (done ++ [next.1]) next.2.1 next.2.2)
    (h : Inv [] r s) :
    Inv (drain host strict r s).1 (drain host strict r s).2.1 (drain host strict r s).2.2 := by
  suffices hs : ∀ done, Inv done r s →
      Inv (done ++ (drain host strict r s).1) (drain host strict r s).2.1 (drain host strict r s).2.2 from
    hs [] h
  clear h
  induction r, s using drain.induct host strict
  case case1 r s hq =>
    intro done h
    rw [drain_of_nil hq]
    simpa using h
  case case2 r s step queue hq next ha =>
    intro done h
    simp only [drain_of_cons hq]
    rw [if_pos ha]
    exact keep hq h
  case case3 r s step queue hq next ha ih =>
    intro done h
    simp only [drain_of_cons hq]
    rw [if_neg ha]
    have hk := ih _ (keep hq h)
    rwa [List.append_assoc, List.singleton_append] at hk

theorem keyMap_perform (host : Host σ) (strict : Bool) (step : Step) (r : Run) (s : σ) :
    (perform host strict step r s).2.1.keyMap = r.keyMap ∧
      (perform host strict step r s).2.1.timeout = r.timeout := by
  cases hr : (perform host strict step r s).1.reason strict with
  | none =>
    obtain ⟨now, hn⟩ := perform_of_continue hr
    rw [hn, Run.noted_eq]
    exact ⟨rfl, rfl⟩
  | some reason =>
    obtain ⟨now, hn⟩ := perform_of_stop hr
    rw [hn, Run.noted_eq]
    exact ⟨rfl, rfl⟩

/-- The journal of a run is what performing its steps one after another answers. -/
theorem performAll_drain (host : Host σ) (strict : Bool) (r : Run) (s : σ) :
    performAll host r.keyMap r.timeout ((drain host strict r s).1.map Executed.step) s =
      ((drain host strict r s).1, (drain host strict r s).2.2) := by
  have h := drain_invariant host strict
    (fun done r' s' => r'.keyMap = r.keyMap ∧ r'.timeout = r.timeout ∧
      performAll host r.keyMap r.timeout (done.map Executed.step) s = (done, s')) ?_ ⟨rfl, rfl, rfl⟩
  · exact h.2.2
  · intro done r' s' step queue hq ⟨hk, ht, hp⟩ next
    have hf := keyMap_perform host strict step { r' with queue } s'
    refine ⟨hf.1.trans hk, hf.2.trans ht, ?_⟩
    rw [List.map_append, performAll_append, hp]
    simp only [← hk, ← ht]
    rfl

end Engine

def Run.start (settings : Settings) (script : List Step) (now : Nat) : Run :=
  { Run.ofSettings settings with queue := script, phase := .running, recorder := some { started := now } }

namespace Engine

theorem performAll_of_drain {host : Host σ} {strict : Bool} {settings : Settings} {script : List Step}
    {now : Nat} {s s₁ : σ} {journal : List Executed} {r : Run}
    (hd : drain host strict (.start settings script now) s = (journal, r, s₁)) :
    performAll host settings.keyMap settings.timeout (journal.map Executed.step) s = (journal, s₁) := by
  have h := performAll_drain host strict (.start settings script now) s
  rw [hd] at h
  exact h

/-- What is left of a run that has performed its steps: its closed recording, and the host. -/
def conclude (host : Host σ) (clears : Bool) (r : Run) (s : σ) : Run × σ :=
  let s := if clears then (host.call .clearLocalStorage s).2 else s
  (r.finishReport (host.stopwatch s), s)

theorem execute_of_loading (host : Host σ) {e : Engine} (h : e.phase = .loading) (s : σ) :
    let out := drain host e.stopOnFailure ((e.run.enter .running).beginReport (host.stopwatch s)) s
    let last := conclude host e.clearLocalStorage out.2.1 out.2.2
    e.execute host s =
      (.ok (last.1.report, out.1), { e with run := { last.1 with phase := .reported, report := none } }, last.2) := by
  rw [execute, if_neg (not_not_intro h)]
  simp only [Run.finishReport_complete]
  rfl

/-- Running a script that was loaded drains its steps, clears the local storage if that is wanted, and then
closes the recording. -/
theorem execute_of_load (host : Host σ) {settings : Settings} {lines : List String} {n : Nat} {e : Engine}
    (h : (Engine.ofSettings settings).load lines = (.ok n, e)) (s : σ) :
    ∃ script journal r s₁,
      List.Forall₂ (fun line step => Step.parse line = .ok step) lines script ∧
      drain host settings.stopOnFailure (.start settings script (host.stopwatch s)) s = (journal, r, s₁) ∧
      let s' := if settings.clearLocalStorage then (host.call .clearLocalStorage s₁).2 else s₁
      let closed := r.finishReport (host.stopwatch s')
      e.execute host s =
        (.ok (closed.report, journal), { e with run := { closed with phase := .reported, report := none } },
          s') := by
  obtain ⟨script, hp, rfl⟩ := load_eq_ok h
  exact ⟨script, _, _, _, Step.parseLines_eq_ok_iff.mp hp, rfl, execute_of_loading host rfl s⟩

/-! ## Engines of several settings -/

def loaded (settings : Settings) (script : List Step) : Engine :=
  { Engine.ofSettings settings with run := { Run.ofSettings settings with queue := script, phase := .loading } }

/-- Whether a script is accepted does not depend on the settings. -/
theorem load_of_parsed (settings : Settings) {lines : List String} {script : List Step}
    (h : List.Forall₂ (fun line step => Step.parse line = .ok step) lines script) :
    (Engine.ofSettings settings).load lines = (.ok lines.length, loaded settings script) := by
  have hp : Step.parseLines 1 lines = .ok script := Step.parseLines_eq_ok_iff.mpr h
  have hi : ¬ (Engine.ofSettings settings).phase ≠ .idle := fun hn => hn rfl
  rw [load, if_neg hi, hp, h.length_eq]
  rfl

theorem load_eq_ok_iff {settings : Settings} {lines : List String} {n : Nat} {e : Engine} :
    (Engine.ofSettings settings).load lines = (.ok n, e) ↔
      ∃ script, List.Forall₂ (fun line step => Step.parse line = .ok step) lines script ∧ n = lines.length ∧
        e = loaded settings script := by
  constructor
  · intro h
    obtain ⟨script, hp, -⟩ := load_eq_ok h
    have hf := Step.parseLines_eq_ok_iff.mp hp
    rw [load_of_parsed settings hf] at h
    cases h
    exact ⟨script, hf, rfl, rfl⟩
  · rintro ⟨script, hf, rfl, rfl⟩
    exact load_of_parsed settings hf

theorem execute_loaded (host : Host σ) (settings : Settings) (script : List Step) (s : σ) :
    let out := drain host settings.stopOnFailure (.start settings script (host.stopwatch s)) s
    let last := conclude host settings.clearLocalStorage out.2.1 out.2.2
    (loaded settings script).execute host s =
      (.ok (last.1.report, out.1),
        { loaded settings script with run := { last.1 with phase := .reported, report := none } }, last.2) :=
  execute_of_loading host rfl s

theorem execute_of_drained {host : Host σ} (settings : Settings) {script : List Step} {s s₁ : σ}
    {journal : List Executed} {r : Run}
    (hd : drain host settings.stopOnFailure (.start settings script (host.stopwatch s)) s = (journal, r, s₁)) :
    (loaded settings script).execute host s =
      let closed := conclude host settings.clearLocalStorage r s₁
      (.ok (closed.1.report, journal),
        { Engine.ofSettings settings with run := { closed.1 with phase := .reported, report := none } },
        closed.2) := by
  have he := execute_loaded host settings script s
  rw [hd] at he
  exact he

theorem execute_of_drain {host : Host σ} (settings : Settings) {script : List Step} {s s₁ s₂ : σ}
    {journal : List Executed} {r closed : Run}
    (hd : drain host settings.stopOnFailure (.start settings script (host.stopwatch s)) s = (journal, r, s₁))
    (hc : conclude host settings.clearLocalStorage r s₁ = (closed, s₂)) :
    ∃ e', (loaded settings script).execute host s = (.ok (closed.report, journal), e', s₂) := by
  have he := execute_loaded host settings script s
  simp only [hd, hc] at he
  exact ⟨_, he⟩

end Engine

end PageScript
