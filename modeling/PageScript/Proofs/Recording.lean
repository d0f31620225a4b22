import Mathlib.Data.List.TakeWhile
import PageScript.Proofs.Expansion

/-!
# What a report holds

A report is about one stretch of the run: from the last restart of the recording to the first end of the
recording behind it. Its outcomes are those of the script's reported steps in this window, in the order in
which they were performed, and its delays those that were injected there, however often the recording was ended and
restarted before.
-/
namespace PageScript

namespace Executed

variable (x : Executed)

def outcome : Outcome :=
  match x.result with
  | .ok message => ⟨true, message, x.step.text⟩
  | .error fault => ⟨false, s!"[{x.step.action.name}] {fault.message}", x.step.text⟩

/-- Whether a step leaves an outcome: every line of the script does but for a wait, a focus check and the end
of the recording. -/
def leavesOutcome : Bool :=
  match x.step.action with
  | .wait _ | .checkFocus _ | .generateReport => false
  | _ => !x.step.synthetic

def opens : Bool := x.step.action = .beaconStart

def closes : Bool := x.step.action = .generateReport

/-- The milliseconds of a step, if it is an injected delay. -/
def injectedDelay : Nat :=
  match x.step.synthetic, x.step.action with
  | true, .wait ms => ms
  | _, _ => 0

theorem isReported_eq : x.step.isReported = x.leavesOutcome := by
  unfold Step.isReported leavesOutcome
  cases x.step.action <;> simp [Action.isReported, Action.verb, Verb.info]

variable {x}

theorem closes_of_opens (h : x.opens = true) : x.closes = false := by
  simp_all [opens, closes]

end Executed

/-! ## Windows -/

/-- The steps from the last restart of the recording on, or all steps if there was none. -/
def sinceBeacon : List Executed → List Executed
  | [] => []
  | x :: journal => if journal.any Executed.opens then sinceBeacon journal else x :: journal

/-- The stretch that the report is about. It goes up to the first end of the recording behind its last
restart. -/
def lastWindow (journal : List Executed) : List Executed :=
  (sinceBeacon journal).takeWhile (!·.closes)

/-- Whether the recording has been ended since its last restart. -/
def isClosed (journal : List Executed) : Bool := (sinceBeacon journal).any Executed.closes

def outcomes (steps : List Executed) : List Outcome :=
  (steps.filter Executed.leavesOutcome).map Executed.outcome

/-- The exact sum of the injected delays among some steps. -/
def injectedDelays : List Executed → Nat
  | [] => 0
  | x :: steps => x.injectedDelay + injectedDelays steps

section

variable (journal : List Executed) {x : Executed}

@[simp] theorem outcomes_append (later : List Executed) :
    outcomes (journal ++ later) = outcomes journal ++ outcomes later := by
  simp [outcomes]

theorem outcomes_eq_nil {steps : List Executed} :
    outcomes steps = [] ↔ ∀ x ∈ steps, x.leavesOutcome = false := by
  simp [outcomes]

theorem outcomes_singleton (x : Executed) :
    outcomes [x] = if x.leavesOutcome then [x.outcome] else [] := by
  cases h : x.leavesOutcome <;> simp [outcomes, h]

@[simp] theorem injectedDelays_nil : injectedDelays [] = 0 := rfl

@[simp] theorem injectedDelays_cons (x : Executed) :
    injectedDelays (x :: journal) = x.injectedDelay + injectedDelays journal := rfl

@[simp] theorem injectedDelays_append (later : List Executed) :
    injectedDelays (journal ++ later) = injectedDelays journal + injectedDelays later := by
  induction journal with
  | nil => simp
  | cons x journal ih => simp [ih, Nat.add_assoc]

theorem sinceBeacon_concat_of_opens (h : x.opens = true) : sinceBeacon (journal ++ [x]) = [x] := by
  induction journal with
  | nil => rfl
  | cons y journal ih =>
    rw [List.cons_append, sinceBeacon, if_pos (by simp [h]), ih]

theorem sinceBeacon_concat (h : x.opens = false) :
    sinceBeacon (journal ++ [x]) = sinceBeacon journal ++ [x] := by
  induction journal with
  | nil => rfl
  | cons y journal ih =>
    rw [List.cons_append, sinceBeacon, sinceBeacon, ih]
    simp only [List.any_append, List.any_cons, h, List.any_nil, Bool.or_false]
    split
    · rfl
    · rfl

theorem isClosed_concat_of_opens (h : x.opens = true) : isClosed (journal ++ [x]) = false := by
  simp [isClosed, sinceBeacon_concat_of_opens journal h, Executed.closes_of_opens h]

theorem isClosed_concat (h : x.opens = false) :
    isClosed (journal ++ [x]) = (isClosed journal || x.closes) := by
  simp [isClosed, sinceBeacon_concat journal h]

theorem lastWindow_concat_of_opens (h : x.opens = true) : lastWindow (journal ++ [x]) = [x] := by
  simp [lastWindow, sinceBeacon_concat_of_opens journal h, Executed.closes_of_opens h]

variable {journal}

theorem lastWindow_concat_of_isClosed (h : x.opens = false) (hc : isClosed journal = true) :
    lastWindow (journal ++ [x]) = lastWindow journal := by
  obtain ⟨y, hy, hyc⟩ := List.any_eq_true.mp hc
  have hl : ((sinceBeacon journal).takeWhile (!·.closes)).length ≠ (sinceBeacon journal).length := by
    intro hl
    have he := (List.takeWhile_prefix (l := sinceBeacon journal) (!·.closes)).eq_of_length hl
    simpa [hyc] using List.takeWhile_eq_self_iff.mp he y hy
  rw [lastWindow, sinceBeacon_concat journal h, List.takeWhile_append, if_neg hl]
  rfl

theorem lastWindow_concat (h : x.opens = false) (hc : isClosed journal = false) :
    lastWindow (journal ++ [x]) = lastWindow journal ++ if x.closes then [] else [x] := by
  have hn : ∀ y ∈ sinceBeacon journal, (!y.closes) = true := by
    simpa [isClosed] using hc
  rw [lastWindow, lastWindow, sinceBeacon_concat journal h, List.takeWhile_append_of_pos hn,
    List.takeWhile_eq_self_iff.mpr hn]
  cases hx : x.closes <;> simp [hx]

end

/-! ## Recordings -/

/-- The outcomes of a report; without outcomes there is none. -/
def kept (os : List Outcome) : Option (List Outcome) := if os.isEmpty then none else some os

theorem kept_eq_none {os : List Outcome} : kept os = none ↔ os = [] := by
  simp [kept]

theorem kept_eq_some {os os' : List Outcome} (h : kept os = some os') : os = os' := by
  unfold kept at h
  split at h
  · cases h
  · exact Option.some.inj h

namespace Run

variable {r : Run} (now : Nat)

theorem recorder_finishReport (r : Run) : (r.finishReport now).recorder = none := by
  unfold finishReport
  split
  · rfl
  · assumption

theorem outcomes_finishReport {os : List Outcome} (h : r.recorder.map Recorder.outcomes = some os) :
    (r.finishReport now).report.map Report.outcomes = kept os := by
  obtain ⟨recorder, hr, rfl⟩ := Option.map_eq_some_iff.mp h
  simp only [finishReport, hr, Recorder.finish, Recorder.isEmpty, kept]
  split <;> simp [*]

theorem outcomes_finishReport_of_none (h : r.recorder = none) :
    (r.finishReport now).report.map Report.outcomes = r.report.map Report.outcomes := by
  simp [finishReport, h, Function.comp_def]

theorem delays_of_finish {recorder : Recorder} {incomplete : List String} {aborted : Option String} {report : Report}
    (h : recorder.finish now incomplete aborted = some report) :
    report.delays = recorder.delays % Text.bound64 := by
  rw [Recorder.finish] at h
  split at h
  · cases h
  · cases h
    rfl

variable (r) (x : Executed)

theorem outcomes_noted :
    (r.noted now x).recorder.map Recorder.outcomes =
      (r.react now x.step.action).recorder.map fun recorder => recorder.outcomes ++ outcomes [x] := by
  rw [outcomes_singleton, ← x.isReported_eq]
  unfold noted note
  generalize r.react now x.step.action = r'
  cases hr : r'.recorder <;> cases x.step.isReported <;> cases hx : x.result <;> dsimp only <;> split <;>
    simp [Executed.outcome, hr, hx, record, recordDelay, Recorder.record, Recorder.recordDelay]

theorem delays_noted :
    (r.noted now x).recorder.map Recorder.delays =
      (r.react now x.step.action).recorder.map fun recorder => recorder.delays + x.injectedDelay := by
  unfold noted note
  generalize r.react now x.step.action = r'
  cases hr : r'.recorder <;> cases x.step.isReported <;> cases hs : x.step.synthetic <;> cases ha : x.step.action <;>
    simp [Executed.injectedDelay, hs, ha, hr, record, recordDelay, Recorder.record, Recorder.recordDelay]

end Run

/-- The recorder holds the outcomes and the delays of the window as long as the recording goes on, and then the report
does, with the sum of the delays as a number of 64 bits. -/
structure Recorded (done : List Executed) (r : Run) : Prop where
  recorder_eq : r.recorder.map Recorder.outcomes =
    if isClosed done then none else some (outcomes (lastWindow done))
  report_eq : isClosed done = true → r.report.map Report.outcomes = kept (outcomes (lastWindow done))
  delays_eq : ∀ recorder, r.recorder = some recorder → recorder.delays = injectedDelays (lastWindow done)
  report_delays_eq : isClosed done = true → ∀ report, r.report = some report →
    report.delays = injectedDelays (lastWindow done) % Text.bound64

namespace Recorded

variable {done : List Executed} {r : Run}

/-- There is a recorder as long as the recording goes on. -/
theorem isClosed_eq (h : Recorded done r) : isClosed done = r.recorder.isNone := by
  have hr := h.recorder_eq
  cases hc : isClosed done <;> cases hs : r.recorder <;> simp_all

theorem finishReport (h : Recorded done r) (now : Nat) :
    (r.finishReport now).report.map Report.outcomes = kept (outcomes (lastWindow done)) := by
  have hr := h.recorder_eq
  cases hc : isClosed done with
  | true =>
    rw [hc] at hr
    rw [Run.outcomes_finishReport_of_none now (Option.map_eq_none_iff.mp hr), h.report_eq hc]
  | false =>
    rw [hc] at hr
    exact Run.outcomes_finishReport now hr

theorem report_outcomes (h : Recorded done r) {now : Nat} {report : Report}
    (hr : (r.finishReport now).report = some report) : report.outcomes = outcomes (lastWindow done) := by
  have hk := h.finishReport now
  rw [hr] at hk
  exact (kept_eq_some hk.symm).symm

theorem report_delays (h : Recorded done r) {now : Nat} {report : Report}
    (hr : (r.finishReport now).report = some report) :
    report.delays = injectedDelays (lastWindow done) % Text.bound64 := by
  have hc := h.isClosed_eq
  unfold Run.finishReport at hr
  split at hr
  · rename_i recorder hs
    rw [Run.delays_of_finish now hr, h.delays_eq recorder hs]
  · rename_i hs
    obtain ⟨old, ho, rfl⟩ := Option.map_eq_some_iff.mp hr
    exact h.report_delays_eq (hc.trans (by rw [hs]; rfl)) old ho

theorem report_eq_none (h : Recorded done r) (now : Nat) :
    (r.finishReport now).report = none ↔ ∀ x ∈ lastWindow done, x.leavesOutcome = false := by
  rw [← outcomes_eq_nil, ← kept_eq_none, ← h.finishReport now, Option.map_eq_none_iff]

variable {x : Executed}

theorem noted_of_opens (hx : x.opens = true) (now : Nat) : Recorded (done ++ [x]) (r.noted now x) := by
  have ha : x.step.action = .beaconStart := by simpa [Executed.opens] using hx
  have ho := r.outcomes_noted now x
  have hd := r.delays_noted now x
  rw [ha] at hd
  constructor
  · rw [ho, ha, isClosed_concat_of_opens done hx, lastWindow_concat_of_opens done hx]
    rfl
  · simp [isClosed_concat_of_opens done hx]
  · intro recorder hs
    rw [hs] at hd
    rw [lastWindow_concat_of_opens done hx]
    simpa [Run.react, Run.beginReport] using hd
  · simp [isClosed_concat_of_opens done hx]

theorem noted_of_closes (h : Recorded done r) (hx : x.closes = true) (now : Nat) :
    Recorded (done ++ [x]) (r.noted now x) := by
  have ha : x.step.action = .generateReport := by simpa [Executed.closes] using hx
  have hb : x.opens = false := by simp [Executed.opens, ha]
  have hw : lastWindow (done ++ [x]) = lastWindow done := by
    cases hc : isClosed done with
    | true => exact lastWindow_concat_of_isClosed hb hc
    | false => simp [lastWindow_concat hb hc, hx]
  have hd := r.delays_noted now x
  rw [ha] at hd
  constructor
  · rw [r.outcomes_noted, ha, isClosed_concat done hb, hx, Bool.or_true]
    simp [Run.react, Run.recorder_finishReport]
  · intro _
    rw [r.report_noted, ha, hw]
    exact h.finishReport now
  · intro recorder hs
    rw [hs] at hd
    simp [Run.react, Run.recorder_finishReport] at hd
  · intro _ report hs
    rw [r.report_noted, ha] at hs
    rw [hw]
    exact h.report_delays hs

theorem noted_of_other (h : Recorded done r) (hb : x.opens = false) (hx : x.closes = false) (now : Nat) :
    Recorded (done ++ [x]) (r.noted now x) := by
  have ha : r.react now x.step.action = r := by
    cases ha : x.step.action <;> simp_all [Executed.opens, Executed.closes, Run.react]
  have ho := r.outcomes_noted now x
  have hp := r.report_noted now x
  have hdelays := r.delays_noted now x
  rw [ha] at ho hp hdelays
  have hc := isClosed_concat done hb
  rw [hx, Bool.or_false] at hc
  have hr := h.recorder_eq
  cases hd : isClosed done with
  | true =>
    rw [hd, if_pos rfl, Option.map_eq_none_iff] at hr
    constructor
    · simp [ho, hr, hc, hd]
    · intro _
      rw [hp, lastWindow_concat_of_isClosed hb hd]
      exact h.report_eq hd
    · intro recorder hs
      rw [hs, hr] at hdelays
      cases hdelays
    · intro _
      rw [hp, lastWindow_concat_of_isClosed hb hd]
      exact h.report_delays_eq hd
  | false =>
    rw [hd] at hr
    obtain ⟨recorder, hr, hos⟩ := Option.map_eq_some_iff.mp hr
    constructor
    · rw [ho, hr, hc, hd, lastWindow_concat hb hd]
      simp [hx, hos]
    · simp [hc, hd]
    · intro recorder' hs
      rw [hs, hr] at hdelays
      have hsum : recorder'.delays = recorder.delays + x.injectedDelay := Option.some.inj hdelays
      rw [lastWindow_concat hb hd, hsum, h.delays_eq recorder hr]
      simp [hx]
    · simp [hc, hd]

/-- Every step keeps the recording in line with the window. -/
theorem noted (h : Recorded done r) (now : Nat) (x : Executed) : Recorded (done ++ [x]) (r.noted now x) := by
  cases hb : x.opens with
  | true => exact noted_of_opens hb now
  | false =>
    cases hx : x.closes with
    | true => exact h.noted_of_closes hx now
    | false => exact h.noted_of_other hb hx now

end Recorded

/-! ## Whole runs -/

variable {σ : Type} (host : Host σ)

theorem drain_recorded (strict : Bool) {r : Run} (h : Recorded [] r) (s : σ) :
    Recorded (Engine.drain host strict r s).1 (Engine.drain host strict r s).2.1 := by
  refine Engine.drain_invariant host strict (fun done r _ => Recorded done r) ?_ h
  intro done r s step queue _ h next
  obtain ⟨now, hr, hp⟩ := Engine.perform_recording host strict step { r with queue } s
  have hn := Recorded.noted (r := { r with queue }) ⟨h.recorder_eq, h.report_eq, h.delays_eq, h.report_delays_eq⟩ now
    next.1
  exact ⟨hr ▸ hn.recorder_eq, hp ▸ hn.report_eq, hr ▸ hn.delays_eq, hp ▸ hn.report_delays_eq⟩

theorem recorded_start (settings : Settings) (script : List Step) (now : Nat) :
    Recorded [] (.start settings script now) where
  recorder_eq := rfl
  report_eq := by simp [isClosed, sinceBeacon]
  delays_eq := by
    rintro recorder ⟨⟩
    rfl
  report_delays_eq := by simp [isClosed, sinceBeacon]

theorem recorded_of_drain {strict : Bool} {settings : Settings} {script : List Step} {now : Nat} {s s₁ : σ}
    {journal : List Executed} {r : Run}
    (hd : Engine.drain host strict (.start settings script now) s = (journal, r, s₁)) :
    Recorded journal r := by
  have h := drain_recorded host strict (recorded_start settings script now) s
  rw [hd] at h
  exact h

/-- The report of a run is about the last window of its journal. It has one outcome for each line of the
script in this window that leaves one, in order, and there is no report if no line does. -/
theorem execute_reports_lastWindow {settings : Settings} {lines : List String} {n : Nat} {e : Engine}
    (h : (Engine.ofSettings settings).load lines = (.ok n, e)) (s : σ) :
    ∃ report journal e' s',
      e.execute host s = (.ok (report, journal), e', s') ∧
      (performAll host settings.keyMap settings.timeout (journal.map Executed.step) s).1 = journal ∧
      scriptTexts (journal.map Executed.step) <+: lines ∧
      (∀ rep, report = some rep →
        rep.outcomes = ((lastWindow journal).filter Executed.leavesOutcome).map Executed.outcome) ∧
      (report = none ↔ ∀ x ∈ lastWindow journal, x.leavesOutcome = false) := by
  obtain ⟨script, journal, r, s₁, hp, hd, he⟩ := Engine.execute_of_load host h s
  have hr := running_start settings (written_of_parsed hp) (host.stopwatch s)
  have hbegun := (drain_expansion host hr s).1
  rw [hd] at hbegun
  have ht := scriptTexts_prefix hbegun
  rw [scriptTexts_expansion, scriptTexts_of_parsed hp] at ht
  have hw := recorded_of_drain host hd
  exact ⟨_, journal, _, _, he, congrArg Prod.fst (Engine.performAll_of_drain hd), ht,
    fun _ hrep => hw.report_outcomes hrep, hw.report_eq_none _⟩

/-- A recording that is restarted, ended, and not taken up again. Of three clicks the report has the one between. -/
theorem execute_reports_lastWindow_restarted :
    let loaded := (Engine.ofSettings {}).load
      ["click(#a)", "beaconStart()", "click(#b)", "generateReport()", "click(#c)"]
    loaded = (.ok 5, loaded.2) ∧
      ∃ rep journal e' w,
        loaded.2.execute World.host (World.ofPage {}) = (.ok (some rep, journal), e', w) ∧
        journal.map (·.step.text) =
          ["click(#a)", "beaconStart()", "click(#b)", "generateReport()", "click(#c)"] ∧
        rep.outcomes = [⟨true, "Beacon started", "beaconStart()"⟩,
          ⟨false, "[click] Could not find #b after 5000 ms", "click(#b)"⟩] ∧
        ((lastWindow journal).filter Executed.leavesOutcome).map Executed.outcome = rep.outcomes ∧
        ∃ x ∈ lastWindow journal, x.leavesOutcome = true := by
  intro loaded
  have h : loaded = (.ok 5, loaded.2) := Prod.ext rfl rfl
  obtain ⟨report, journal, e', w, he, -, -, houtcomes, hnone⟩ :=
    execute_reports_lastWindow World.host h (World.ofPage {})
  have hrun : (loaded.2.execute World.host (World.ofPage {})).1.toOption.map (fun out =>
      (out.2.map (·.step.text), out.1.map Report.outcomes)) =
      some (["click(#a)", "beaconStart()", "click(#b)", "generateReport()", "click(#c)"],
        some [⟨true, "Beacon started", "beaconStart()"⟩,
          ⟨false, "[click] Could not find #b after 5000 ms", "click(#b)"⟩]) := by
    decide +kernel
  rw [he] at hrun
  obtain ⟨hperformed, hreported⟩ := Prod.mk.inj (Option.some.inj hrun)
  obtain ⟨rep, rfl, hrep⟩ := Option.map_eq_some_iff.mp hreported
  refine ⟨h, rep, journal, e', w, he, hperformed, hrep, (houtcomes rep rfl).symm, ?_⟩
  by_contra hn
  push Not at hn
  cases hnone.mpr fun x hx => by simpa using hn x hx

end PageScript
