import PageScript.Proofs.Expansion

/-!
# What a run gives up

A run that ends early gives up the lines it did not come to. Together with the lines it performed they are the
script, and the report names them and the reason, whether it was still open when the run ended or not.
-/
namespace PageScript

/-- A step aborts a run for a reason: the focus is lost, or a reported line failed and none may. -/
inductive Executed.Aborts (strict : Bool) (x : Executed) : String → Prop
  | focusLost {key : String} (hx : x.result = .error (.focusLost key)) :
      x.Aborts strict s!"Focus lost after pressing {key}"
  | failed {fault : Fault} (hs : strict = true) (hr : x.step.isReported = true)
      (hx : x.result = .error fault) (hf : ∀ key, fault ≠ .focusLost key) :
      x.Aborts strict s!"Stopped after failure of {x.step.text}"

def WasAborted (strict : Bool) (journal : List Executed) : Prop := ∃ x ∈ journal, x.Ends strict

theorem Executed.reason_eq_some {strict : Bool} {x : Executed} {reason : String} :
    x.reason strict = some reason ↔ x.Aborts strict reason := by
  constructor
  · intro h
    unfold Executed.reason Run.reasonToStop at h
    cases hx : x.result with
    | ok message => simp [hx] at h
    | error fault =>
      simp only [hx] at h
      split at h
      · obtain ⟨key, rfl⟩ := Fault.endsRun_eq_true.mp ‹_›
        cases h
        exact .focusLost hx
      · split at h
        · obtain ⟨hs, hr⟩ := Bool.and_eq_true_iff.mp ‹_›
          cases h
          refine .failed hs hr hx ?_
          intro key hf
          exact absurd (Fault.endsRun_eq_true.mpr ⟨key, hf⟩) ‹_›
        · cases h
  · intro h
    cases h with
    | focusLost hx =>
      rw [Executed.reason, hx]
      rfl
    | @failed fault hs hr hx hf =>
      have he : ¬ fault.endsRun = true := by simpa using hf
      simp only [Executed.reason, Run.reasonToStop, hx]
      rw [if_neg he, if_pos (by simp [hs, hr])]

/-! ## Reports that are whole -/

/-- The report that is kept names no line that was given up and no reason. -/
def Run.Whole (r : Run) : Prop :=
  ∀ report, r.report = some report → report.incomplete = [] ∧ report.aborted = none

namespace Run

theorem aborted_finishReport (r : Run) (now : Nat) : (r.finishReport now).aborted = r.aborted := by
  unfold finishReport
  split
  · rfl
  · rfl

variable {r : Run}

theorem Whole.finishReport (h : r.Whole) {now : Nat} {report : Report}
    (hr : (r.finishReport now).report = some report) :
    report.incomplete = r.incomplete ∧ report.aborted = r.aborted := by
  unfold Run.finishReport at hr
  split at hr
  · simp only [Recorder.finish] at hr
    split at hr
    · cases hr
    · cases hr
      exact ⟨rfl, rfl⟩
  · obtain ⟨old, ho, rfl⟩ := Option.map_eq_some_iff.mp hr
    obtain ⟨hi, ha⟩ := h old ho
    simp [hi, ha]

theorem Whole.noted (h : r.Whole) (hi : r.incomplete = []) (ha : r.aborted = none) (now : Nat)
    (x : Executed) : (r.noted now x).Whole := by
  intro report hr
  rw [report_noted] at hr
  cases hx : x.step.action with
  | generateReport =>
    rw [hx] at hr
    obtain ⟨hri, hra⟩ := h.finishReport hr
    exact ⟨hri.trans hi, hra.trans ha⟩
  | _ =>
    rw [hx] at hr
    exact h report hr

end Run

variable {σ : Type} (host : Host σ) {strict : Bool} {delay : Nat} {script : List Step}

/-- As long as a run goes on its report is whole, and ending the run leaves the report alone. -/
theorem drain_whole {r : Run} (h : Running strict delay script [] r) (hw : r.Whole) (s : σ) :
    (Engine.drain host strict r s).2.1.Whole := by
  have hi := Engine.drain_invariant host strict (fun done r _ =>
    (Running strict delay script done r ∨ Ended strict delay script done r) ∧ r.Whole)
    ?_ ⟨.inl h, hw⟩ (s := s)
  · exact hi.2
  · intro done r s step queue hq ⟨hp, hw⟩ next
    rcases hp with hp | hp
    · refine ⟨hp.perform hq, ?_⟩
      obtain ⟨now, -, hr⟩ := Engine.perform_recording host strict step { r with queue } s
      have hn := Run.Whole.noted (r := { r with queue }) hw hp.incomplete_eq hp.aborted_eq now next.1
      intro report hreport
      exact hn report (hr ▸ hreport)
    · exact absurd hq hp.queue_ne_cons

/-! ## Accounting for a script -/

/-- What was performed and what was given up are the script, and a run gives up something only if its last
step aborted it. -/
structure Accounted (strict : Bool) (script : List Step) (journal : List Executed) (r : Run) : Prop where
  texts_eq : scriptTexts (journal.map Executed.step) ++ r.incomplete = scriptTexts script
  aborted_iff : ∀ reason, r.aborted = some reason ↔
    ∃ before x, journal = before ++ [x] ∧ x.Aborts strict reason
  isSome_aborted : r.aborted.isSome = true ↔ WasAborted strict journal
  incomplete_eq : r.aborted = none → r.incomplete = []

section

variable {journal : List Executed} {r : Run}

theorem Accounted.incomplete_eq_nil (h : Accounted strict script journal r)
    (hn : ¬ WasAborted strict journal) : r.incomplete = [] := by
  rw [← h.isSome_aborted, Option.not_isSome_iff_eq_none] at hn
  exact h.incomplete_eq hn

theorem Running.accounts (h : Running strict delay script journal r) (hq : r.queue = []) :
    Accounted strict script journal r where
  texts_eq := by
    have ha := congrArg scriptTexts h.ahead
    rw [hq, expansion_nil, List.append_nil, scriptTexts_expansion] at ha
    rw [ha, h.incomplete_eq, List.append_nil]
  aborted_iff := by
    intro reason
    rw [h.aborted_eq]
    constructor
    · intro hr
      cases hr
    · rintro ⟨before, x, rfl, hx⟩
      have hn := h.unended x (by simp)
      rw [← Executed.isSome_reason, Executed.reason_eq_some.mpr hx] at hn
      exact absurd rfl hn
  isSome_aborted := by
    rw [h.aborted_eq]
    constructor
    · intro hr
      cases hr
    · rintro ⟨x, hm, hx⟩
      exact absurd hx (h.unended x hm)
  incomplete_eq := fun _ => h.incomplete_eq

theorem Ended.accounts (h : Ended strict delay script journal r) : Accounted strict script journal r := by
  obtain ⟨before, x, reason, hj, -, hx, hr⟩ := h.last
  refine ⟨h.accounted, ?_, ?_, ?_⟩
  · intro reason'
    rw [hr]
    constructor
    · intro he
      cases he
      exact ⟨before, x, hj, Executed.reason_eq_some.mp hx⟩
    · rintro ⟨before', x', hj', hx'⟩
      obtain ⟨-, he⟩ := List.append_inj' (hj.symm.trans hj') rfl
      cases he
      rw [← Executed.reason_eq_some, hx] at hx'
      exact hx'
  · rw [hr]
    refine iff_of_true rfl ⟨x, by simp [hj], ?_⟩
    rw [← Executed.isSome_reason, hx]
    rfl
  · intro hn
    cases hr.symm.trans hn

end

theorem drain_accounts {r : Run} (h : Running strict delay script [] r) (s : σ) :
    Accounted strict script (Engine.drain host strict r s).1 (Engine.drain host strict r s).2.1 := by
  rcases drain_progress host h s with ⟨hp, hq⟩ | hp
  · exact hp.accounts hq
  · exact hp.accounts

theorem accounted_of_drain {settings : Settings} {lines : List String} {now : Nat} {s s₁ : σ}
    {journal : List Executed} {r : Run}
    (hp : List.Forall₂ (fun line step => Step.parse line = .ok step) lines script)
    (hd : Engine.drain host settings.stopOnFailure (.start settings script now) s = (journal, r, s₁)) :
    Accounted settings.stopOnFailure script journal r ∧ r.Whole := by
  have hr := running_start settings (written_of_parsed hp) now
  have hstart : (Run.start settings script now).Whole := by
    simp [Run.Whole, Run.start, Run.ofSettings]
  have ha := drain_accounts host hr s
  have hw := drain_whole host hr hstart s
  rw [hd] at ha hw
  exact ⟨ha, hw⟩

/-- A report accounts for the whole script: the lines that were performed, in order, and behind them those it
names as left out. It names some only if the run was aborted, and then the reason, which is that of the last
step of the journal. -/
theorem execute_accounts_for_script {settings : Settings} {lines : List String} {n : Nat} {e : Engine}
    (h : (Engine.ofSettings settings).load lines = (.ok n, e)) (s : σ) :
    ∃ report journal e' s',
      e.execute host s = (.ok (report, journal), e', s') ∧
      (performAll host settings.keyMap settings.timeout (journal.map Executed.step) s).1 = journal ∧
      ∀ rep, report = some rep →
        scriptTexts (journal.map Executed.step) ++ rep.incomplete = lines ∧
        (rep.incomplete ≠ [] → rep.aborted ≠ none) ∧
        rep.aborted = e'.run.aborted ∧
        ∀ reason, rep.aborted = some reason ↔
          ∃ before x, journal = before ++ [x] ∧ x.Aborts settings.stopOnFailure reason := by
  obtain ⟨script, journal, r, s₁, hp, hd, he⟩ := Engine.execute_of_load host h s
  obtain ⟨ha, hw⟩ := accounted_of_drain host hp hd
  refine ⟨_, journal, _, _, he, congrArg Prod.fst (Engine.performAll_of_drain hd), ?_⟩
  intro rep hrep
  obtain ⟨hi, hab⟩ := hw.finishReport hrep
  refine ⟨?_, ?_, ?_, ?_⟩
  · rw [hi, ha.texts_eq, scriptTexts_of_parsed hp]
  · intro hn hnone
    exact hn (hi.trans (ha.incomplete_eq (hab ▸ hnone)))
  · exact hab.trans (r.aborted_finishReport _).symm
  · intro reason
    rw [hab]
    exact ha.aborted_iff reason

/-- A key press behind the end of the recording, after which no element has the focus. The report was closed before,
and still it names the click that is left out, and why. -/
theorem execute_accounts_for_script_closed :
    let settings : Settings := { keyMap := [("down", 40)] }
    let lines := ["click(#a)", "generateReport()", "keyPress(down)", "click(#go)"]
    let loaded := (Engine.ofSettings settings).load lines
    loaded = (.ok 4, loaded.2) ∧
      ∃ rep journal e' w,
        loaded.2.execute World.host (World.ofPage {}) = (.ok (some rep, journal), e', w) ∧
        scriptTexts (journal.map Executed.step) = ["click(#a)", "generateReport()", "keyPress(down)"] ∧
        rep.incomplete = ["click(#go)"] ∧ rep.aborted = some "Focus lost after pressing down" ∧
        scriptTexts (journal.map Executed.step) ++ rep.incomplete = lines ∧
        ∃ before x, journal = before ++ [x] ∧ x.Aborts false "Focus lost after pressing down" := by
  intro settings lines loaded
  have h : loaded = (.ok 4, loaded.2) := Prod.ext rfl rfl
  obtain ⟨report, journal, e', w, he, -, hrep⟩ :=
    execute_accounts_for_script World.host h (World.ofPage {})
  have hrun : (loaded.2.execute World.host (World.ofPage {})).1.toOption.map (fun out =>
      (scriptTexts (out.2.map Executed.step), out.1.map fun rep => (rep.incomplete, rep.aborted))) =
      some (["click(#a)", "generateReport()", "keyPress(down)"],
        some (["click(#go)"], some "Focus lost after pressing down")) := by
    decide +kernel
  rw [he] at hrun
  obtain ⟨hperformed, hreported⟩ := Prod.mk.inj (Option.some.inj hrun)
  obtain ⟨rep, rfl, hr⟩ := Option.map_eq_some_iff.mp hreported
  obtain ⟨hleft, haborted⟩ := Prod.mk.inj hr
  obtain ⟨ht, -, -, ha⟩ := hrep rep rfl
  exact ⟨h, rep, journal, e', w, he, hperformed, hleft, haborted, ht, (ha _).mp haborted⟩

end PageScript
