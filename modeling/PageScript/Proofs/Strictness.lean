import PageScript.Host.Simulated
import PageScript.Proofs.Success

/-!
# Runs that stop at the first failure

A strict run does what the lenient run of the same script does, up to the first line that fails. Until then no
step tells the two apart: steps that leave no outcome may fail in both, and a lost focus ends both. So a strict
run is a lenient one that is cut off behind its first failure.
-/
namespace PageScript

/-! ## Cutting off a list -/

section

variable {α β : Type} (p : α → Bool)

/-- The entries up to the first one that fits, that one included; all of them if none fits. -/
def upToFirst (xs : List α) : List α := xs.take (xs.findIdx p + 1)

@[simp] theorem upToFirst_nil : upToFirst p [] = [] := rfl

theorem upToFirst_cons (x : α) (xs : List α) :
    upToFirst p (x :: xs) = if p x then [x] else x :: upToFirst p xs := by
  cases h : p x <;> simp [upToFirst, List.findIdx_cons, h]

theorem upToFirst_begins (xs : List α) : upToFirst p xs <+: xs := List.take_prefix _ _

variable {p}

theorem upToFirst_eq_nil {xs : List α} : upToFirst p xs = [] ↔ xs = [] := by
  cases xs with
  | nil => simp
  | cons x xs => rw [upToFirst_cons]; split <;> simp

theorem upToFirst_of_first {before after : List α} {x : α} (hb : ∀ y ∈ before, p y = false) (hx : p x = true) :
    upToFirst p (before ++ x :: after) = before ++ [x] := by
  induction before with
  | nil => rw [List.nil_append, upToFirst_cons, if_pos hx, List.nil_append]
  | cons y before ih =>
    obtain ⟨hy, hbs⟩ := List.forall_mem_cons.mp hb
    rw [List.cons_append, upToFirst_cons, if_neg (by simp [hy]), ih hbs, List.cons_append]

/-- Cutting off is the same before and after entries are picked and mapped, if only picked ones fit. -/
theorem upToFirst_filter_map {pick : α → Bool} {f : α → β} {q : β → Bool}
    (hp : ∀ x, p x = (pick x && q (f x))) (xs : List α) :
    ((upToFirst p xs).filter pick).map f = upToFirst q ((xs.filter pick).map f) := by
  induction xs with
  | nil => rfl
  | cons x xs ih =>
    rw [upToFirst_cons, hp]
    cases hx : pick x <;> cases hq : q (f x) <;> simp [hx, hq, upToFirst_cons, ih]

end

/-! ## Single steps -/

/-- Whether a step is a line of the script that was to leave an outcome and failed. -/
def Executed.failed (x : Executed) : Bool := x.leavesOutcome && !x.outcome.succeeded

namespace Executed

variable {x : Executed}

theorem failed_iff : x.failed = true ↔ x.step.isReported = true ∧ ∃ fault, x.result = .error fault := by
  rw [failed, isReported_eq, outcome]
  cases x.result <;> simp

theorem ends_of_failed (h : x.failed = true) : x.Ends true := by
  obtain ⟨hr, hf⟩ := failed_iff.mp h
  exact .inr ⟨rfl, hr, hf⟩

/-- A step that did not fail ends a strict run only if it ends every run. -/
theorem reason_eq_of_not_failed (h : x.failed = false) : x.reason true = x.reason false := by
  have hn : ¬ (x.step.isReported = true ∧ ∃ fault, x.result = .error fault) := by
    rw [← failed_iff, h]
    exact Bool.false_ne_true
  unfold reason Run.reasonToStop
  cases hx : x.result with
  | ok message => rfl
  | error fault =>
    have hr : x.step.isReported = false := by
      rw [← Bool.not_eq_true]
      exact fun hr => hn ⟨hr, fault, hx⟩
    simp [hr]

end Executed

theorem outcomes_upToFirst (steps : List Executed) :
    outcomes (upToFirst Executed.failed steps) = upToFirst (!·.succeeded) (outcomes steps) :=
  upToFirst_filter_map (f := Executed.outcome) (q := fun o => !o.succeeded) (fun _ => rfl) steps

theorem kept_upToFirst (p : Outcome → Bool) (os : List Outcome) :
    kept (upToFirst p os) = (kept os).map (upToFirst p) := by
  by_cases h : os = []
  · rw [h]
    rfl
  · rw [kept, kept, if_neg (by simpa [upToFirst_eq_nil] using h), if_neg (by simpa using h)]
    rfl

namespace Run

variable {r : Run} {strict strict' : Bool} {step : Step} {result : Except Fault String}

theorem settle_congr (h : reasonToStop strict step result = reasonToStop strict' step result) :
    r.settle strict step result = r.settle strict' step result := by
  rw [settle, settle, h]

end Run

/-! ## Whole runs -/

variable {σ : Type}

namespace Engine

variable {host : Host σ} {r : Run} {s : σ} {step : Step} {queue : List Step}

/-- Up to a failure a strict run and a lenient one come to the same. -/
theorem perform_eq_of_not_failed (h : (perform host false step r s).1.failed = false) :
    perform host true step r s = perform host false step r s :=
  Prod.ext rfl (Prod.ext (Run.settle_congr (Executed.reason_eq_of_not_failed h)) rfl)

theorem phase_of_failed (h : (perform host true step r s).1.failed = true) :
    (perform host true step r s).2.1.phase = .aborted := by
  obtain ⟨reason, hr⟩ := Option.isSome_iff_exists.mp (Executed.isSome_reason.mpr (Executed.ends_of_failed h))
  obtain ⟨now, hn⟩ := perform_of_stop hr
  rw [hn]
  rfl

theorem drain_strict_of_failed (hq : r.queue = step :: queue)
    (h : (perform host false step { r with queue } s).1.failed = true) :
    (drain host true r s).1 = [(perform host false step { r with queue } s).1] := by
  rw [drain_of_aborted hq rfl (phase_of_failed h)]
  rfl

/-- A strict run begins with the first step of the lenient one and ends with it likewise, unless that failed. -/
theorem drain_strict_of_aborted (hq : r.queue = step :: queue)
    (ha : (perform host false step { r with queue } s).2.1.phase = .aborted)
    (h : (perform host false step { r with queue } s).1.failed = false) :
    drain host true r s = drain host false r s := by
  rw [drain_of_aborted hq (perform_eq_of_not_failed h) ha, drain_of_aborted hq rfl ha]

theorem journal_strict (host : Host σ) (r : Run) (s : σ) :
    (drain host true r s).1 = upToFirst Executed.failed (drain host false r s).1 := by
  induction r, s using drain.induct host false
  case case1 r s hq =>
    rw [drain_of_nil hq, drain_of_nil hq, upToFirst_nil]
  case case2 r s step queue hq next ha =>
    have hd : (drain host false r s).1 = [next.1] := by rw [drain_of_aborted hq rfl ha]
    cases hf : next.1.failed with
    | true => rw [hd, upToFirst_cons, if_pos hf, drain_strict_of_failed hq hf]
    | false => rw [drain_strict_of_aborted hq ha hf, hd, upToFirst_cons, upToFirst_nil, ite_self]
  case case3 r s step queue hq next ha ih =>
    rw [drain_of_running hq rfl ha, upToFirst_cons]
    cases hf : next.1.failed with
    | true => rw [if_pos rfl, drain_strict_of_failed hq hf]
    | false =>
      rw [if_neg Bool.false_ne_true, drain_of_running hq (perform_eq_of_not_failed hf) ha]
      exact congrArg (next.1 :: ·) ih

theorem drain_strict_eq (h : ∀ x ∈ (drain host false r s).1, x.failed = false) :
    drain host true r s = drain host false r s := by
  induction r, s using drain.induct host false
  case case1 r s hq =>
    rw [drain_of_nil hq, drain_of_nil hq]
  case case2 r s step queue hq next ha =>
    rw [drain_of_aborted hq rfl ha] at h
    exact drain_strict_of_aborted hq ha (h _ List.mem_cons_self)
  case case3 r s step queue hq next ha ih =>
    have hd := drain_of_running hq rfl ha
    rw [hd] at h
    obtain ⟨hf, hrest⟩ := List.forall_mem_cons.mp h
    rw [hd, drain_of_running hq (perform_eq_of_not_failed hf) ha, ih hrest]

end Engine

/-- A strict run performs the steps of the lenient one, up to the first line that fails. If none does, nothing is
different. If the recording is neither restarted nor ended, the report of the strict run has the outcomes of the
other report up to the first failure. -/
theorem execute_strict_prefix (host : Host σ) (settings : Settings) {lines : List String} {n : Nat}
    {lenient : Engine}
    (h : (Engine.ofSettings { settings with stopOnFailure := false }).load lines = (.ok n, lenient)) (s : σ) :
    ∃ strict report report' journal journal' e e' t t',
      (Engine.ofSettings { settings with stopOnFailure := true }).load lines = (.ok n, strict) ∧
      lenient.execute host s = (.ok (report, journal), e, t) ∧
      strict.execute host s = (.ok (report', journal'), e', t') ∧
      journal' <+: journal ∧
      ((∀ x ∈ journal, x.failed = false) → journal' = journal ∧ report' = report ∧ t' = t) ∧
      (∀ before x after, journal = before ++ x :: after → (∀ y ∈ before, y.failed = false) → x.failed = true →
        journal' = before ++ [x]) ∧
      ((∀ line ∈ lines, ∀ step, Step.parse line = .ok step →
          step.action ≠ .beaconStart ∧ step.action ≠ .generateReport) →
        report'.map Report.outcomes = (report.map Report.outcomes).map (upToFirst (!·.succeeded))) := by
  obtain ⟨script, hp, rfl, rfl⟩ := Engine.load_eq_ok_iff.mp h
  let start := Run.start { settings with stopOnFailure := false } script (host.stopwatch s)
  have hj : (Engine.drain host true start s).1 = upToFirst Executed.failed (Engine.drain host false start s).1 :=
    Engine.journal_strict host start s
  refine ⟨_, _, _, _, _, _, _, _, _, Engine.load_of_parsed _ hp, Engine.execute_loaded host _ script s,
    Engine.execute_loaded host _ script s, ?_, ?_, ?_, ?_⟩
  · exact hj ▸ upToFirst_begins _ _
  · intro hnone
    have hd : Engine.drain host true start s = Engine.drain host false start s := Engine.drain_strict_eq hnone
    have hlast := congrArg (fun out => Engine.conclude host settings.clearLocalStorage out.2.1 out.2.2) hd
    exact ⟨congrArg Prod.fst hd, congrArg (fun last => last.1.report) hlast, congrArg Prod.snd hlast⟩
  · intro before x after hd hb hx
    exact hj.trans (hd ▸ upToFirst_of_first hb hx)
  · intro hplain
    have hpl : ∀ x ∈ (Engine.drain host false start s).1, x.Plain :=
      plain_of_drain host { settings with stopOnFailure := false } hp hplain
    have hpl' : ∀ x ∈ upToFirst Executed.failed (Engine.drain host false start s).1, x.Plain :=
      fun x hx => hpl x ((upToFirst_begins _ _).subset hx)
    have hstart : Recorded [] start := recorded_start _ script _
    have hr := (drain_recorded host false hstart s).finishReport
    have hr' := (drain_recorded host true hstart s).finishReport
    calc _ = kept (outcomes (lastWindow (Engine.drain host true start s).1)) := hr' _
      _ = kept (outcomes (upToFirst Executed.failed (Engine.drain host false start s).1)) := by
        rw [hj, lastWindow_eq_self hpl']
      _ = kept (upToFirst (!·.succeeded) (outcomes (Engine.drain host false start s).1)) :=
        congrArg kept (outcomes_upToFirst _)
      _ = (kept (outcomes (lastWindow (Engine.drain host false start s).1))).map (upToFirst (!·.succeeded)) := by
        rw [kept_upToFirst, lastWindow_eq_self hpl]
      _ = _ := congrArg _ (hr _).symm

/-- The second of three clicks finds nothing to click on. A strict run leaves the third one undone. -/
theorem execute_strict_prefix_click :
    let page : Page := { body := [{ tag := "button", id := some "go" }] }
    let settings : Settings := { timeout := 10 }
    let lines := ["click(#go)", "click(#gone)", "click(#go)"]
    let loaded := (Engine.ofSettings settings).load lines
    loaded = (.ok 3, loaded.2) ∧
      (∀ line ∈ lines, ∀ step, Step.parse line = .ok step →
        step.action ≠ .beaconStart ∧ step.action ≠ .generateReport) ∧
      ∃ strict report report' journal journal' e e' w w',
        (Engine.ofSettings { settings with stopOnFailure := true }).load lines = (.ok 3, strict) ∧
        loaded.2.execute World.host (World.ofPage page) = (.ok (report, journal), e, w) ∧
        strict.execute World.host (World.ofPage page) = (.ok (report', journal'), e', w') ∧
        journal.map Executed.failed = [false, true, false] ∧ journal'.map Executed.failed = [false, true] ∧
        report'.map Report.outcomes = (report.map Report.outcomes).map (upToFirst (!·.succeeded)) := by
  intro page settings lines loaded
  have h : loaded = (.ok 3, loaded.2) := Prod.ext rfl rfl
  have hplain : ∀ line ∈ lines, ∀ step, Step.parse line = .ok step →
      step.action ≠ .beaconStart ∧ step.action ≠ .generateReport := by
    intro line hline step hs
    have hall : ∀ line ∈ lines, (Step.parse line).toOption.all fun step =>
        step.action ≠ .beaconStart ∧ step.action ≠ .generateReport := by
      decide +kernel
    simpa [hs, Except.toOption] using hall line hline
  obtain ⟨strict, report, report', journal, journal', e, e', w, w', hl, he, he', -, -, hcut, hout⟩ :=
    execute_strict_prefix World.host settings h (World.ofPage page)
  have hf : journal.map Executed.failed = [false, true, false] := by
    have hrun : (loaded.2.execute World.host (World.ofPage page)).1.toOption.map
        (·.2.map Executed.failed) = some [false, true, false] := by
      decide +kernel
    simpa [he, Except.toOption] using hrun
  have hf' : journal'.map Executed.failed = [false, true] := by
    obtain ⟨x, y, z, rfl⟩ : ∃ x y z, journal = [x, y, z] :=
      List.length_eq_three.mp (by simpa using congrArg List.length hf)
    obtain ⟨hx, hy, -⟩ : x.failed = false ∧ y.failed = true ∧ z.failed = false := by simpa using hf
    have hj : journal' = [x] ++ [y] := hcut [x] y [z] rfl (by simpa using hx) hy
    simp [hj, hx, hy]
  exact ⟨h, hplain, strict, report, report', journal, journal', e, e', w, w', hl, he, he', hf, hf', hout hplain⟩

end PageScript
