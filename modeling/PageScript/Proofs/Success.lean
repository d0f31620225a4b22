import PageScript.Host.Faulty
import PageScript.Proofs.Abandonment
import PageScript.Proofs.Recording

/-!
# When a report is a success

A report that covers a whole run is a success if every line of the script was performed and every step passed.
One kind of failure goes unseen: a focus check that the host did not let come to an end. It leaves no outcome, and
the run goes on as if the focus had been found.
-/
namespace PageScript

namespace Executed

variable (x : Executed)

def Passed : Prop := ∃ message, x.result = .ok message

/-- A focus check that failed without finding that the focus is lost. -/
def Undecided : Prop :=
  (∃ key, x.step.action = .checkFocus key) ∧ ∃ fault, x.result = .error fault ∧ ∀ key, fault ≠ .focusLost key

variable {x}

theorem succeeded_outcome : x.outcome.succeeded = true ↔ x.Passed := by
  unfold outcome Passed
  cases x.result <;> simp

theorem leavesOutcome_of_undecided (h : x.Undecided) : x.leavesOutcome = false := by
  obtain ⟨⟨key, ha⟩, -⟩ := h
  simp [leavesOutcome, ha]

theorem Passed.not_ends {strict : Bool} (h : x.Passed) : ¬ x.Ends strict := by
  obtain ⟨message, hx⟩ := h
  simp [Ends, hx]

theorem Undecided.not_ends {strict : Bool} (h : x.Undecided) : ¬ x.Ends strict := by
  have hn := leavesOutcome_of_undecided h
  obtain ⟨-, fault, hx, hf⟩ := h
  rintro (⟨key, he⟩ | ⟨-, hr, -⟩)
  · rw [hx] at he
    exact hf key (Except.error.inj he)
  · rw [x.isReported_eq, hn] at hr
    cases hr

end Executed

theorem exists_perform_of_mem {σ : Type} {host : Host σ} {keyMap : List (String × Nat)} {timeout : Nat}
    {steps : List Step} {s : σ} {x : Executed} (h : x ∈ (performAll host keyMap timeout steps s).1) :
    ∃ t, x.result = (x.step.action.perform host keyMap timeout t).1 := by
  induction steps generalizing s with
  | nil => cases h
  | cons step steps ih =>
    rcases List.mem_cons.mp h with rfl | h
    · exact ⟨s, rfl⟩
    · exact ih h

theorem Executed.passed_of_wait {σ : Type} {host : Host σ} {keyMap : List (String × Nat)} {timeout ms : Nat}
    {t : σ} {x : Executed} (ha : x.step.action = .wait ms)
    (hx : x.result = (x.step.action.perform host keyMap timeout t).1) : x.Passed := by
  rw [ha] at hx
  exact ⟨_, hx⟩

theorem mem_expansion {delay : Nat} {script : List Step} {step : Step} (h : step ∈ expansion delay script) :
    step ∈ script ∨ (∃ ms, step.action = .wait ms) ∨ ∃ key, step.action = .checkFocus key := by
  have hpause : ∀ {later}, later ∈ pause delay → ∃ ms, later.action = .wait ms := by
    intro later hl
    unfold pause at hl
    split at hl
    · cases hl
    · exact ⟨delay, by rw [List.mem_singleton.mp hl, Step.action_delay]⟩
  obtain ⟨line, hline, hs⟩ := List.mem_flatMap.mp h
  unfold Step.expand at hs
  split at hs
  · exact .inl (List.mem_singleton.mp hs ▸ hline)
  · simp only [List.cons_append, List.mem_cons, List.mem_append] at hs
    rcases hs with rfl | hs | rfl | hs
    · exact .inl hline
    · exact .inr (.inl (hpause hs))
    · exact .inr (.inr ⟨_, Step.action_focusCheck _⟩)
    · exact .inr (.inl (hpause hs))
  · rcases List.mem_cons.mp hs with rfl | hs
    · exact .inl hline
    · exact .inr (.inl (hpause hs))

/-! ## Runs that are recorded throughout -/

def Executed.Plain (x : Executed) : Prop := x.opens = false ∧ x.closes = false

theorem lastWindow_eq_self {journal : List Executed} (h : ∀ x ∈ journal, x.Plain) :
    lastWindow journal = journal := by
  have hs : sinceBeacon journal = journal := by
    cases journal with
    | nil => rfl
    | cons x journal =>
      have hn : ¬ journal.any Executed.opens = true := by
        simp only [List.any_eq_true, not_exists, not_and]
        intro y hy
        simp [(h y (List.mem_cons_of_mem x hy)).1]
      rw [sinceBeacon, if_neg hn]
  rw [lastWindow, hs, List.takeWhile_eq_self_iff]
  intro x hx
  simp [(h x hx).2]

/-- A plain step that leaves no outcome is a wait or a focus check. -/
theorem Executed.Plain.cases {x : Executed} (hp : x.Plain) (h : x.leavesOutcome = false)
    (hs : x.step.synthetic = false ∨ (∃ ms, x.step.action = .wait ms) ∨ ∃ key, x.step.action = .checkFocus key) :
    (∃ ms, x.step.action = .wait ms) ∨ ∃ key, x.step.action = .checkFocus key := by
  rcases hs with hs | hs
  · obtain ⟨ho, hc⟩ := hp
    cases ha : x.step.action <;> simp_all [leavesOutcome, opens, closes]
  · exact hs

theorem Report.isSuccess_iff {report : Report} :
    report.isSuccess = true ↔
      (∀ o ∈ report.outcomes, o.succeeded = true) ∧ report.incomplete = [] ∧ report.aborted = none := by
  simp [isSuccess, failed, and_assoc]

theorem succeeded_outcomes {steps : List Executed} :
    (∀ o ∈ outcomes steps, o.succeeded = true) ↔ ∀ x ∈ steps, x.leavesOutcome = true → x.Passed := by
  rw [outcomes, List.forall_mem_map]
  simp [Executed.succeeded_outcome]

section

variable {strict : Bool} {script : List Step} {journal : List Executed} {r : Run} {report : Report} {now : Nat}

/-- The report of a run that is recorded throughout. -/
theorem isSuccess_iff_of_plain (ha : Accounted strict script journal r) (hw : r.Whole) (hr : Recorded journal r)
    (hp : ∀ x ∈ journal, x.Plain)
    (hq : ∀ x ∈ journal, x.leavesOutcome = false → x.Passed ∨ ∃ key, x.step.action = .checkFocus key)
    (h : (r.finishReport now).report = some report) :
    report.isSuccess = true ↔
      scriptTexts (journal.map Executed.step) = scriptTexts script ∧ ∀ x ∈ journal, x.Passed ∨ x.Undecided := by
  have ho := hr.report_outcomes h
  rw [lastWindow_eq_self hp] at ho
  obtain ⟨hi, hab⟩ := hw.finishReport h
  rw [Report.isSuccess_iff, ho, succeeded_outcomes, hi, hab]
  constructor
  · rintro ⟨hall, hnone, habort⟩
    have hends : ¬ WasAborted strict journal := by
      rw [← ha.isSome_aborted, habort]
      exact Bool.false_ne_true
    refine ⟨by simpa [hnone] using ha.texts_eq, ?_⟩
    intro x hx
    cases hl : x.leavesOutcome with
    | true => exact .inl (hall x hx hl)
    | false =>
      rcases hq x hx hl with hpass | hcheck
      · exact .inl hpass
      · cases hres : x.result with
        | ok message => exact .inl ⟨message, hres⟩
        | error fault =>
          right
          refine ⟨hcheck, fault, hres, ?_⟩
          rintro key rfl
          exact hends ⟨x, hx, .inl ⟨key, hres⟩⟩
  · rintro ⟨htexts, hall⟩
    have hends : ¬ WasAborted strict journal := by
      rintro ⟨x, hx, hend⟩
      rcases hall x hx with hpass | hund
      · exact hpass.not_ends hend
      · exact hund.not_ends hend
    refine ⟨?_, ha.incomplete_eq_nil hends, ?_⟩
    · intro x hx hl
      rcases hall x hx with hpass | hund
      · exact hpass
      · rw [Executed.leavesOutcome_of_undecided hund] at hl
        cases hl
    · rw [← Option.not_isSome_iff_eq_none, ha.isSome_aborted]
      exact hends

end

variable {σ : Type}

theorem plain_of_drain (host : Host σ) (settings : Settings) {lines : List String} {script : List Step}
    {now : Nat} {s : σ}
    (hp : List.Forall₂ (fun line step => Step.parse line = .ok step) lines script)
    (hplain : ∀ line ∈ lines, ∀ step, Step.parse line = .ok step →
      step.action ≠ .beaconStart ∧ step.action ≠ .generateReport) :
    ∀ x ∈ (Engine.drain host settings.stopOnFailure (.start settings script now) s).1, x.Plain := by
  intro x hx
  have hbegun := (drain_expansion host (running_start settings (written_of_parsed hp) now) s).1
  have hs : x.step.action ≠ .beaconStart ∧ x.step.action ≠ .generateReport := by
    rcases mem_expansion (hbegun.subset (List.mem_map_of_mem hx)) with hs | ⟨ms, hs⟩ | ⟨key, hs⟩
    · obtain ⟨line, hline, hparse⟩ := exists_line_of_mem hp hs
      exact hplain line hline _ hparse
    · simp [hs]
    · simp [hs]
  simpa [Executed.Plain, Executed.opens, Executed.closes] using hs

/-- If a script neither restarts nor ends the recording, the report of its run is a success exactly if every line
was performed and every step, the injected ones included, passed or was a focus check that failed without finding
that the focus is lost. -/
theorem execute_isSuccess_iff (host : Host σ) {settings : Settings} {lines : List String} {n : Nat} {e : Engine}
    (h : (Engine.ofSettings settings).load lines = (.ok n, e))
    (hplain : ∀ line ∈ lines, ∀ step, Step.parse line = .ok step →
      step.action ≠ .beaconStart ∧ step.action ≠ .generateReport) (s : σ) :
    ∃ report journal e' s',
      e.execute host s = (.ok (report, journal), e', s') ∧
      (performAll host settings.keyMap settings.timeout (journal.map Executed.step) s).1 = journal ∧
      ∀ rep, report = some rep → (rep.isSuccess = true ↔
        scriptTexts (journal.map Executed.step) = lines ∧ ∀ x ∈ journal, x.Passed ∨ x.Undecided) := by
  obtain ⟨script, journal, r, s₁, hp, hd, he⟩ := Engine.execute_of_load host h s
  obtain ⟨ha, hw⟩ := accounted_of_drain host hp hd
  have hr := recorded_of_drain host hd
  have hperform := congrArg Prod.fst (Engine.performAll_of_drain hd)
  have hbegun := (drain_expansion host (running_start settings (written_of_parsed hp) (host.stopwatch s)) s).1
  rw [hd] at hbegun
  have hkind : ∀ x ∈ journal, x.step ∈ script ∨ (∃ ms, x.step.action = .wait ms) ∨
      ∃ key, x.step.action = .checkFocus key := by
    intro x hx
    exact mem_expansion (hbegun.subset (List.mem_map_of_mem hx))
  have hpl : ∀ x ∈ journal, x.Plain := by
    intro x hx
    rcases hkind x hx with hs | ⟨ms, hs⟩ | ⟨key, hs⟩
    · obtain ⟨line, hline, hparse⟩ := exists_line_of_mem hp hs
      simpa [Executed.Plain, Executed.opens, Executed.closes] using hplain line hline _ hparse
    · simp [Executed.Plain, Executed.opens, Executed.closes, hs]
    · simp [Executed.Plain, Executed.opens, Executed.closes, hs]
  refine ⟨_, journal, _, _, he, hperform, ?_⟩
  intro rep hrep
  rw [isSuccess_iff_of_plain ha hw hr hpl ?_ hrep, scriptTexts_of_parsed hp]
  intro x hx hl
  have hs := (hkind x hx).imp_left (written_of_parsed hp x.step)
  rcases (hpl x hx).cases hl hs with ⟨ms, hwait⟩ | hcheck
  · rw [← show _ = journal from hperform] at hx
    obtain ⟨t, ht⟩ := exists_perform_of_mem hx
    exact .inl (Executed.passed_of_wait hwait ht)
  · exact .inr hcheck

/-- The document does not answer the focus check behind a key press. The check fails, and the run is a success. -/
theorem execute_isSuccess_iff_unanswered :
    let host := ({ failing := [(.queryAll, ⟨"gone", 0⟩)] } : Failures).apply World.host
    let settings : Settings := { keyMap := [("down", 40)] }
    let lines := ["keyPress(down)"]
    let loaded := (Engine.ofSettings settings).load lines
    loaded = (.ok 1, loaded.2) ∧
      (∀ line ∈ lines, ∀ step, Step.parse line = .ok step →
        step.action ≠ .beaconStart ∧ step.action ≠ .generateReport) ∧
      ∃ report journal e' c,
        loaded.2.execute host { state := World.ofPage {} } = (.ok (some report, journal), e', c) ∧
        report.isSuccess = true ∧ (∀ x ∈ journal, x.Passed ∨ x.Undecided) ∧ ¬ ∀ x ∈ journal, x.Passed := by
  intro host settings lines loaded
  have h : loaded = (.ok 1, loaded.2) := Prod.ext rfl rfl
  have hplain : ∀ line ∈ lines, ∀ step, Step.parse line = .ok step →
      step.action ≠ .beaconStart ∧ step.action ≠ .generateReport := by
    intro line hline step hstep
    rw [List.mem_singleton.mp hline] at hstep
    have hs : step.action = .keyPress "down" := by
      rw [show Step.parse "keyPress(down)" = .ok ⟨"keyPress(down)", ⟨"keyPress", ["down"]⟩, .keyPress "down", false⟩ from
        rfl] at hstep
      rw [← Except.ok.inj hstep]
    simp [hs]
  obtain ⟨report, journal, e', c, he, -, hrep⟩ :=
    execute_isSuccess_iff host h hplain { state := World.ofPage {} }
  have hrun : (loaded.2.execute host { state := World.ofPage {} }).1.toOption.map (fun out =>
      (out.1.map Report.isSuccess, out.2.all fun x => x.result.isOk)) = some (some true, false) := by
    decide +kernel
  rw [he] at hrun
  obtain ⟨hsucc, hall⟩ : report.map Report.isSuccess = some true ∧
      (journal.all fun x => x.result.isOk) = false := by
    simpa only [Except.toOption, Option.map_some, Option.some.injEq, Prod.mk.injEq] using hrun
  obtain ⟨rep, rfl, hs⟩ := Option.map_eq_some_iff.mp hsucc
  refine ⟨h, hplain, rep, journal, e', c, he, hs, ((hrep rep rfl).mp hs).2, ?_⟩
  intro hpass
  have hok : (journal.all fun x => x.result.isOk) = true := by
    rw [List.all_eq_true]
    intro x hx
    obtain ⟨message, hm⟩ := hpass x hx
    rw [hm]
    rfl
  rw [hall] at hok
  cases hok

end PageScript
