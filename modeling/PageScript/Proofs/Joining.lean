import PageScript.Proofs.Abandonment
import PageScript.Proofs.Idling
import PageScript.Proofs.Keeping

/-!
# Waits in a row

A script may be run in two parts: what the first lines come to, and then, from there, what the other lines come to,
unless the first lines have ended the run. A wait does nothing to a run but let time pass, and time may pass in parts.
So two waits in a row can be replaced by one wait for both times: the runs are the same up to the first wait and from
the end of the second one on, and if a run does not come to the waits, it leaves them undone either way.
-/
namespace PageScript

variable {σ : Type}

/-! ## Runs in two parts -/

namespace Run

def followedBy (r : Run) (later : List Step) : Run := { r with queue := r.queue ++ later }

def leaving (r : Run) (lines : List String) : Run := { r with incomplete := r.incomplete ++ lines }

variable (r : Run) (later : List Step)

theorem react_followedBy (now : Nat) (a : Action) :
    (r.followedBy later).react now a = (r.react now a).followedBy later := by
  cases a with
  | generateReport =>
    simp only [react, finishReport, followedBy]
    split <;> rfl
  | _ => rfl

theorem note_followedBy (step : Step) (result : Except Fault String) :
    (r.followedBy later).note step result = (r.note step result).followedBy later := by
  unfold note
  dsimp only
  split <;> split <;> rfl

variable {r later} {strict : Bool} {step : Step} {result : Except Fault String}

theorem settle_followedBy_of_stop {reason : String} (h : reasonToStop strict step result = some reason) :
    (r.followedBy later).settle strict step result =
      (r.settle strict step result).leaving (later.map Step.text) := by
  rw [settle_of_stop h, settle_of_stop h, note_followedBy]
  simp [abandon, followedBy, leaving]

theorem settle_followedBy_of_continue (h : reasonToStop strict step result = none) :
    (r.followedBy later).settle strict step result = (r.settle strict step result).followedBy later := by
  rw [settle_of_continue h, settle_of_continue h, note_followedBy]
  exact congrArg (fun queue => { r.note step result with queue }) (List.append_assoc ..).symm

end Run

namespace Engine

variable {host : Host σ} {strict : Bool} {r : Run} {s : σ} {step : Step}

theorem perform_followedBy_of_stop {reason : String}
    (h : (perform host strict step r s).1.reason strict = some reason) (later : List Step) :
    perform host strict step (r.followedBy later) s =
      let next := perform host strict step r s
      (next.1, next.2.1.leaving (later.map Step.text), next.2.2) := by
  obtain ⟨done, hdone⟩ : ∃ done, step.action.perform host r.keyMap r.timeout s = done := ⟨_, rfl⟩
  have hdone' : step.action.perform host (r.followedBy later).keyMap (r.followedBy later).timeout s = done := hdone
  rw [perform_eq hdone] at h ⊢
  rw [perform_eq hdone', Run.react_followedBy, Run.settle_followedBy_of_stop h]

theorem perform_followedBy_of_continue (h : (perform host strict step r s).1.reason strict = none)
    (later : List Step) :
    perform host strict step (r.followedBy later) s =
      let next := perform host strict step r s
      (next.1, next.2.1.followedBy later, next.2.2) := by
  obtain ⟨done, hdone⟩ : ∃ done, step.action.perform host r.keyMap r.timeout s = done := ⟨_, rfl⟩
  have hdone' : step.action.perform host (r.followedBy later).keyMap (r.followedBy later).timeout s = done := hdone
  rw [perform_eq hdone] at h ⊢
  rw [perform_eq hdone', Run.react_followedBy, Run.settle_followedBy_of_continue h]

theorem phase_of_stop {reason : String} (h : (perform host strict step r s).1.reason strict = some reason) :
    (perform host strict step r s).2.1.phase = .aborted := by
  obtain ⟨now, hn⟩ := perform_of_stop h
  rw [hn]
  rfl

theorem phase_of_continue (h : (perform host strict step r s).1.reason strict = none) :
    (perform host strict step r s).2.1.phase = r.phase := by
  obtain ⟨now, hn⟩ := perform_of_continue h
  rw [hn, Run.noted_eq]

/-- A run with more steps behind its queue gives them up if it is ended before, and otherwise goes on with them. -/
theorem drain_followedBy (host : Host σ) (strict : Bool) (later : List Step) (r : Run) (s : σ)
    (hr : r.phase ≠ .aborted) :
    drain host strict (r.followedBy later) s =
      let first := drain host strict r s
      if first.2.1.phase = .aborted then (first.1, first.2.1.leaving (later.map Step.text), first.2.2)
      else
        let rest := drain host strict (first.2.1.followedBy later) first.2.2
        (first.1 ++ rest.1, rest.2) := by
  induction r, s using drain.induct host strict
  case case1 r s hq =>
    simp only [drain_of_nil hq]
    rw [if_neg hr, List.nil_append]
  case case2 r s step queue hq next ha =>
    have hq' : (r.followedBy later).queue = step :: (queue ++ later) := congrArg (· ++ later) hq
    cases hreason : next.1.reason strict with
    | none => exact absurd ((phase_of_continue hreason).symm.trans ha) hr
    | some reason =>
      have hn := perform_followedBy_of_stop hreason later
      rw [drain_of_aborted hq' hn ha, drain_of_aborted hq rfl ha]
      exact (if_pos ha).symm
  case case3 r s step queue hq next ha ih =>
    have hq' : (r.followedBy later).queue = step :: (queue ++ later) := congrArg (· ++ later) hq
    cases hreason : next.1.reason strict with
    | some reason => exact absurd (phase_of_stop hreason) ha
    | none =>
      have hn := perform_followedBy_of_continue hreason later
      rw [drain_of_running hq' hn ha, drain_of_running hq rfl ha, ih ha]
      dsimp only
      split <;> rfl

def waited (host : Host σ) (step : Step) (ms : Nat) (s : σ) : Executed :=
  ⟨step, .ok s!"Waited for {ms} ms", host.now s, host.now (host.sleep ms s)⟩

theorem perform_wait {ms : Nat} (hwait : step.action = .wait ms) (hwritten : step.synthetic = false) :
    perform host strict step r s = (waited host step ms s, r, host.sleep ms s) := by
  have hdone : step.action.perform host r.keyMap r.timeout s = (.ok s!"Waited for {ms} ms", host.sleep ms s) := by
    rw [hwait]
    rfl
  have hnote : r.note step (.ok s!"Waited for {ms} ms") = r := by
    simp [Run.note, Step.isReported, Action.isReported, Action.verb, Verb.info, hwait, hwritten]
  have hinjected : r.injected step = [] := by
    simp [Run.injected, Action.isWait, hwait]
  have hreact : r.react (host.stopwatch (host.sleep ms s)) step.action = r := by
    rw [hwait]
    rfl
  rw [perform_eq hdone, hreact, Run.settle_of_continue rfl, hnote, hinjected]
  rfl

theorem drain_wait (host : Host σ) (strict : Bool) {ms : Nat} (hwait : step.action = .wait ms)
    (hwritten : step.synthetic = false) (hr : r.phase ≠ .aborted) (later : List Step) (s : σ) :
    drain host strict { r with queue := step :: later } s =
      let rest := drain host strict { r with queue := later } (host.sleep ms s)
      (waited host step ms s :: rest.1, rest.2) :=
  drain_of_running rfl (perform_wait hwait hwritten) hr

/-- Where two waits come to the same as one for both times, it makes no difference to a run which of them it has before
it. -/
theorem drain_waits (host : Host σ) (strict : Bool) {x y z : Step} {a b : Nat} (hx : x.action = .wait a)
    (hy : y.action = .wait b) (hz : z.action = .wait (a + b)) (hwritten : ∀ step ∈ [x, y, z], step.synthetic = false)
    (hsleep : host.sleep b (host.sleep a s) = host.sleep (a + b) s) (hr : r.phase ≠ .aborted) (later : List Step) :
    ∃ doneX doneY doneZ after r' s',
      (doneX.step = x ∧ doneY.step = y ∧ doneZ.step = z) ∧
      (doneZ.began = doneX.began ∧ doneX.ended = doneY.began ∧ doneZ.ended = doneY.ended) ∧
      drain host strict { r with queue := x :: y :: later } s = (doneX :: doneY :: after, r', s') ∧
      drain host strict { r with queue := z :: later } s = (doneZ :: after, r', s') := by
  obtain ⟨hwx, hwy, hwz⟩ : x.synthetic = false ∧ y.synthetic = false ∧ z.synthetic = false := by simpa using hwritten
  have hnow : host.now (host.sleep (a + b) s) = host.now (host.sleep b (host.sleep a s)) := by rw [hsleep]
  refine ⟨waited host x a s, waited host y b (host.sleep a s), waited host z (a + b) s, _, _, _, ⟨rfl, rfl, rfl⟩,
    ⟨rfl, rfl, hnow⟩, ?_, drain_wait host strict hz hwz hr later s⟩
  rw [drain_wait host strict hx hwx hr, drain_wait host strict hy hwy hr, hsleep]

end Engine

/-! ## Lines that are given up -/

def Report.listing (lines : List String) (report : Report) : Report := { report with incomplete := lines }

namespace Run

variable {r : Run}

theorem Whole.report_leaving (h : r.Whole) (lines : List String) (now : Nat) :
    ((r.leaving lines).finishReport now).report =
      (r.finishReport now).report.map (Report.listing (r.incomplete ++ lines)) := by
  unfold Run.finishReport leaving
  cases r.recorder with
  | some recorder =>
    simp only [Recorder.finish]
    split <;> rfl
  | none =>
    rw [Option.map_map]
    refine Option.map_congr fun old hold => ?_
    simp [Report.listing, (h old hold).1]

theorem finishReport_leaving (r : Run) (lines : List String) (now : Nat) :
    { (r.leaving lines).finishReport now with report := none } = { r.finishReport now with report := none } := by
  unfold finishReport leaving
  cases r.recorder <;> rfl

end Run

/-! ## Waits -/

def WaitsFor (line : String) (ms : Nat) : Prop := ∃ step, Step.parse line = .ok step ∧ step.action = .wait ms

namespace World

theorem now_sleep (w : World) (ms : Nat) : (host.sleep ms w).now = w.ahead ms := by
  have hnow := now_sleepUntil w (w.ahead ms)
  rwa [max_eq_right (w.now_le_ahead ms)] at hnow

/-- Two waits come to one for both times, unless that is so long that it would be cut. -/
theorem sleep_add_iff {a b : Nat} (w : World) :
    host.sleep b (host.sleep a w) = host.sleep (a + b) w ↔
      a + b ≤ w.longestWait ∨ a = 0 ∨ b = 0 ∨ w.longestWait = 0 := by
  have hclock : (host.sleep a w).longestWait = w.longestWait := longestWait_runUntil _ w w.pending
  have hreach : (host.sleep a w).ahead b = w.ahead (a + b) ↔
      a + b ≤ w.longestWait ∨ a = 0 ∨ b = 0 ∨ w.longestWait = 0 := by
    simp only [ahead, now_sleep, hclock]
    omega
  rw [← hreach]
  constructor
  · intro hsleep
    have hnow := congrArg World.now hsleep
    rwa [now_sleep, now_sleep] at hnow
  · intro hafter
    have hle : w.ahead a ≤ w.ahead (a + b) := by
      rw [← hafter, ← now_sleep]
      exact now_le_ahead _ b
    change (host.sleep a w).sleepUntil ((host.sleep a w).ahead b) = _
    rw [hafter]
    exact sleepUntil_sleepUntil hle w

theorem keeping_longestWait (longestWait : Nat) :
    Keeping host (fun w => w.longestWait = longestWait) fun fault => fault.endsRun = false :=
  keeping fun w event _ hw => (longestWait_step w event).trans hw

end World

/-! ## Whole runs -/

/-- What becomes of the report and the journal of a run when two lines in a row that wait are replaced by one. -/
inductive Joined (first last : List String) (line line' joined : String) :
    Option Report × List Executed → Option Report × List Executed → Prop
  /-- The run waited. One entry stands for two, and nothing else has changed. -/
  | waited {report : Option Report} {before after : List Executed} {x y z : Executed}
      (texts : x.step.text = line ∧ y.step.text = line' ∧ z.step.text = joined)
      (times : z.began = x.began ∧ x.ended = y.began ∧ z.ended = y.ended)
      (undone : ∀ rep, report = some rep → rep.incomplete <:+ last) :
      Joined first last line line' joined (report, before ++ x :: y :: after) (report, before ++ z :: after)
  /-- The run was ended before. Its report lists the waits among the lines that are left undone. -/
  | ended {report : Option Report} {journal : List Executed} {undone : List String} (lines : undone <:+ first)
      (listed : ∀ rep, report = some rep → rep.incomplete = undone ++ line :: line' :: last) :
      Joined first last line line' joined (report, journal)
        (report.map (Report.listing (undone ++ joined :: last)), journal)

theorem exists_parsed_append {lines later : List String} {script : List Step}
    (h : List.Forall₂ (fun line step => Step.parse line = .ok step) (lines ++ later) script) :
    ∃ steps rest, script = steps ++ rest ∧ List.Forall₂ (fun line step => Step.parse line = .ok step) lines steps ∧
      List.Forall₂ (fun line step => Step.parse line = .ok step) later rest := by
  refine ⟨script.take lines.length, script.drop lines.length, (List.take_append_drop ..).symm, ?_, ?_⟩
  · simpa using List.forall₂_take lines.length h
  · simpa using List.forall₂_drop lines.length h

theorem Running.scriptTexts_journal {strict : Bool} {delay : Nat} {script : List Step} {journal : List Executed}
    {r : Run} (h : Running strict delay script journal r) (hq : r.queue = []) :
    scriptTexts (journal.map Executed.step) = scriptTexts script := by
  have hahead := congrArg scriptTexts h.ahead
  rwa [hq, expansion_nil, List.append_nil, scriptTexts_expansion] at hahead

namespace Engine

variable {host : Host σ} {settings : Settings} {script : List Step} {journal : List Executed} {r : Run} {s s₁ : σ}

/-- If the first lines of a script end the run, the others show in its report and nowhere else. -/
theorem execute_of_ended (hwhole : r.Whole) (hended : r.phase = .aborted)
    (hd : drain host settings.stopOnFailure (.start settings script (host.stopwatch s)) s = (journal, r, s₁)) :
    ∃ (report : Option Report) (e' : Engine) (s' : σ), ∀ later,
      (loaded settings (script ++ later)).execute host s =
        (.ok (report.map (Report.listing (r.incomplete ++ later.map Step.text)), journal), e', s') := by
  let closed := conclude host settings.clearLocalStorage r s₁
  refine ⟨closed.1.report,
    { Engine.ofSettings settings with run := { closed.1 with phase := .reported, report := none } }, closed.2, ?_⟩
  intro later
  have hd' : drain host settings.stopOnFailure (.start settings (script ++ later) (host.stopwatch s)) s =
      (journal, r.leaving (later.map Step.text), s₁) := by
    have hfollowed := drain_followedBy host settings.stopOnFailure later
      (.start settings script (host.stopwatch s)) s nofun
    rw [hd] at hfollowed
    exact hfollowed.trans (if_pos hended)
  have hreport := hwhole.report_leaving (later.map Step.text) (host.stopwatch closed.2)
  have hrun := congrArg (fun run : Run => { Engine.ofSettings settings with run := { run with phase := .reported } })
    (r.finishReport_leaving (later.map Step.text) (host.stopwatch closed.2))
  rw [execute_of_drained settings hd']
  refine Prod.ext ?_ (Prod.ext hrun rfl)
  exact congrArg (fun report => Except.ok (report, journal)) hreport

/-- If they do not, the run goes on with the others from where they have come to. -/
theorem drain_of_unended (hgoes : r.phase ≠ .aborted) (hq : r.queue = [])
    (hd : drain host settings.stopOnFailure (.start settings script (host.stopwatch s)) s = (journal, r, s₁))
    (later : List Step) :
    drain host settings.stopOnFailure (.start settings (script ++ later) (host.stopwatch s)) s =
      let rest := drain host settings.stopOnFailure { r with queue := later } s₁
      (journal ++ rest.1, rest.2) := by
  have hfollowed := drain_followedBy host settings.stopOnFailure later
    (.start settings script (host.stopwatch s)) s nofun
  have hlater : r.followedBy later = { r with queue := later } := by rw [Run.followedBy, hq, List.nil_append]
  rw [hd] at hfollowed
  rw [← hlater]
  exact hfollowed.trans (if_neg hgoes)

end Engine

section

variable {host : Host σ} {settings : Settings} {first last : List String} {line line' joined : String}
  {steps rest : List Step} {x y z : Step} {before : List Executed} {r : Run} {s s₁ : σ}

theorem joined_of_ended (htexts : (x :: y :: rest).map Step.text = line :: line' :: last)
    (htexts' : (z :: rest).map Step.text = joined :: last) (hlines : scriptTexts steps = first)
    (haccounts : Accounted settings.stopOnFailure steps before r) (hwhole : r.Whole) (hended : r.phase = .aborted)
    (hd : Engine.drain host settings.stopOnFailure (.start settings steps (host.stopwatch s)) s = (before, r, s₁)) :
    ∃ report report' e' s',
      (Engine.loaded settings (steps ++ x :: y :: rest)).execute host s = (.ok (report, before), e', s') ∧
      (Engine.loaded settings (steps ++ z :: rest)).execute host s = (.ok (report', before), e', s') ∧
      Joined first last line line' joined (report, before) (report', before) := by
  obtain ⟨report, e', s', hall⟩ := Engine.execute_of_ended hwhole hended hd
  have he := hall (x :: y :: rest)
  have he' := hall (z :: rest)
  have hagain : report.map (Report.listing (r.incomplete ++ joined :: last)) =
      (report.map (Report.listing (r.incomplete ++ line :: line' :: last))).map
        (Report.listing (r.incomplete ++ joined :: last)) := by
    rw [Option.map_map]
    rfl
  rw [htexts] at he
  rw [htexts', hagain] at he'
  refine ⟨_, _, e', s', he, he', .ended ⟨_, haccounts.texts_eq.trans hlines⟩ fun rep hrep => ?_⟩
  obtain ⟨old, -, rfl⟩ := Option.map_eq_some_iff.mp hrep
  rfl

theorem joined_of_running {a b : Nat} (hx : x.action = .wait a) (hy : y.action = .wait b)
    (hz : z.action = .wait (a + b))
    (hp : List.Forall₂ (fun line step => Step.parse line = .ok step) (first ++ line :: line' :: last)
      (steps ++ x :: y :: rest))
    (hread : Step.parse line = .ok x ∧ Step.parse line' = .ok y ∧ Step.parse joined = .ok z)
    (hlines : scriptTexts steps = first)
    (hrunning : Running settings.stopOnFailure settings.delayBetween steps before r) (hq : r.queue = [])
    (hd : Engine.drain host settings.stopOnFailure (.start settings steps (host.stopwatch s)) s = (before, r, s₁))
    (hsleep : host.sleep b (host.sleep a s₁) = host.sleep (a + b) s₁) :
    ∃ report journal journal' e' s',
      (Engine.loaded settings (steps ++ x :: y :: rest)).execute host s = (.ok (report, journal), e', s') ∧
      (Engine.loaded settings (steps ++ z :: rest)).execute host s = (.ok (report, journal'), e', s') ∧
      Joined first last line line' joined (report, journal) (report, journal') := by
  obtain ⟨hxtext, hxwritten⟩ := Step.text_of_parse hread.1
  obtain ⟨hytext, hywritten⟩ := Step.text_of_parse hread.2.1
  obtain ⟨hztext, hzwritten⟩ := Step.text_of_parse hread.2.2
  have hwritten : ∀ step ∈ [x, y, z], step.synthetic = false := by simp [hxwritten, hywritten, hzwritten]
  have hgoes : r.phase ≠ .aborted := by
    rw [hrunning.phase_eq]
    nofun
  obtain ⟨doneX, doneY, doneZ, after, r₂, s₂, ⟨rfl, rfl, rfl⟩, htimes, hrestX, hrestZ⟩ :=
    Engine.drain_waits host settings.stopOnFailure hx hy hz hwritten hsleep hgoes rest
  have hd₁ := Engine.drain_of_unended hgoes hq hd (doneX.step :: doneY.step :: rest)
  have hd₂ := Engine.drain_of_unended hgoes hq hd (doneZ.step :: rest)
  rw [hrestX] at hd₁
  rw [hrestZ] at hd₂
  refine ⟨_, _, _, _, _, Engine.execute_of_drained settings hd₁, Engine.execute_of_drained settings hd₂,
    .waited ⟨hxtext, hytext, hztext⟩ htimes fun rep hrep => ?_⟩
  obtain ⟨haccounts, hwhole⟩ := accounted_of_drain host hp hd₁
  have htexts := haccounts.texts_eq
  rw [scriptTexts_of_parsed hp] at htexts
  have hundone : scriptTexts (after.map Executed.step) ++ r₂.incomplete = last := by
    simpa [hrunning.scriptTexts_journal hq, hlines, hxwritten, hywritten, hxtext, hytext] using htexts
  exact ⟨_, (hwhole.finishReport hrep).1 ▸ hundone⟩

end

theorem WaitsFor.action_eq {line : String} {ms : Nat} (h : WaitsFor line ms) {step : Step}
    (hstep : Step.parse line = .ok step) : step.action = .wait ms := by
  obtain ⟨step', hstep', hwait⟩ := h
  exact Except.ok.inj (hstep.symm.trans hstep') ▸ hwait

/-- Two lines in a row that wait may be replaced by one that waits for both times, if the clock can wait that long. The
run comes to the same world, with its document, its time and all that is still to happen, and it leaves its engine the
same. The report is the same but for those lines, which it lists if they are left undone, and the journal but for the
entries of the waits. -/
theorem execute_join_waits (settings : Settings) {first last : List String} {line line' joined : String} {a b : Nat}
    (ha : WaitsFor line a) (hb : WaitsFor line' b) (hab : WaitsFor joined (a + b)) (w : World)
    (hclock : a + b ≤ w.longestWait) {n : Nat} {e : Engine}
    (h : (Engine.ofSettings settings).load (first ++ line :: line' :: last) = (.ok n, e)) :
    ∃ n' e' report report' journal journal' e₁ w₁,
      (Engine.ofSettings settings).load (first ++ joined :: last) = (.ok n', e') ∧
      e.execute World.host w = (.ok (report, journal), e₁, w₁) ∧
      e'.execute World.host w = (.ok (report', journal'), e₁, w₁) ∧
      Joined first last line line' joined (report, journal) (report', journal') := by
  obtain ⟨script, hp, -, rfl⟩ := Engine.load_eq_ok_iff.mp h
  obtain ⟨steps, behind, rfl, hfirst, hbehind⟩ := exists_parsed_append hp
  obtain ⟨x, behindX, hx, hbehindX, rfl⟩ := List.forall₂_cons_left_iff.mp hbehind
  obtain ⟨y, rest, hy, hlast, rfl⟩ := List.forall₂_cons_left_iff.mp hbehindX
  obtain ⟨z, hz, hzwait⟩ := hab
  have hbehind' : List.Forall₂ (fun line step => Step.parse line = .ok step) (joined :: last) (z :: rest) :=
    .cons hz hlast
  have hload := Engine.load_of_parsed settings (List.rel_append hfirst hbehind')
  have hlines := scriptTexts_of_parsed hfirst
  obtain ⟨⟨before, r, w₁⟩, hd⟩ : ∃ out, Engine.drain World.host settings.stopOnFailure
    (.start settings steps (World.host.stopwatch w)) w = out := ⟨_, rfl⟩
  obtain ⟨haccounts, hwhole⟩ := accounted_of_drain World.host hfirst hd
  have hprogress := drain_progress World.host
    (running_start settings (written_of_parsed hfirst) (World.host.stopwatch w)) w
  have hlongest := (World.keeping_longestWait w.longestWait).drain settings.stopOnFailure
    (.start settings steps (World.host.stopwatch w)) (s := w) rfl
  rw [hd] at hprogress hlongest
  rcases hprogress with ⟨hrunning, hq⟩ | hended
  · have hsleep := (World.sleep_add_iff w₁).mpr (.inl (hlongest ▸ hclock))
    obtain ⟨report, journal, journal', e₁, w₂, he, he', hjoined⟩ :=
      joined_of_running (ha.action_eq hx) (hb.action_eq hy) hzwait hp ⟨hx, hy, hz⟩ hlines hrunning hq hd hsleep
    exact ⟨_, _, report, report, journal, journal', e₁, w₂, hload, he, he', hjoined⟩
  · obtain ⟨report, report', e₁, w₂, he, he', hjoined⟩ := joined_of_ended (texts_of_parsed hbehind)
      (texts_of_parsed hbehind') hlines haccounts hwhole hended.phase_eq hd
    exact ⟨_, _, report, report', before, before, e₁, w₂, hload, he, he', hjoined⟩

/-- A click puts a new element into the page five milliseconds later, which is in the second of two waits. With one wait
for both times the element is there as well, and the runs end at the same time. -/
theorem execute_join_waits_delayed :
    let late : Effect := { target := "body", change := .append { tag := "p", id := some "late" }, delay := 5 }
    let page : Page := { body := [{ tag := "button", id := some "go", onClick := [late] }] }
    let settings : Settings := { timeout := 10 }
    let first := ["click(#go)"]
    let last := ["waitForElement(#late)"]
    let loaded := (Engine.ofSettings settings).load (first ++ "wait(3)" :: "wait(4)" :: last)
    let w : World := { World.ofPage page with timed := true }
    WaitsFor "wait(3)" 3 ∧ WaitsFor "wait(4)" 4 ∧ WaitsFor "wait(7)" (3 + 4) ∧ 3 + 4 ≤ w.longestWait ∧
      loaded = (.ok 4, loaded.2) ∧
      ∃ n' e' report report' journal journal' e₁ w₁,
        (Engine.ofSettings settings).load (first ++ "wait(7)" :: last) = (.ok n', e') ∧
        loaded.2.execute World.host w = (.ok (report, journal), e₁, w₁) ∧
        e'.execute World.host w = (.ok (report', journal'), e₁, w₁) ∧
        Joined first last "wait(3)" "wait(4)" "wait(7)" (report, journal) (report', journal') ∧
        journal.map (·.step.text) = ["click(#go)", "wait(3)", "wait(4)", "waitForElement(#late)"] ∧ w₁.now = 7 := by
  intro late page settings first last loaded w
  have h : loaded = (.ok 4, loaded.2) := Prod.ext rfl rfl
  have ha : WaitsFor "wait(3)" 3 := ⟨_, rfl, rfl⟩
  have hb : WaitsFor "wait(4)" 4 := ⟨_, rfl, rfl⟩
  have hab : WaitsFor "wait(7)" (3 + 4) := ⟨_, rfl, rfl⟩
  have hclock : 3 + 4 ≤ w.longestWait := by decide
  obtain ⟨n', e', report, report', journal, journal', e₁, w₁, hl, he, he', hjoined⟩ :=
    execute_join_waits settings ha hb hab w hclock h
  have hrun : ((loaded.2.execute World.host w).1.toOption.map fun out => out.2.map (·.step.text),
      (loaded.2.execute World.host w).2.2.now) =
      (some ["click(#go)", "wait(3)", "wait(4)", "waitForElement(#late)"], 7) := by
    decide +kernel
  rw [he] at hrun
  obtain ⟨hj, hnow⟩ := Prod.mk.inj hrun
  exact ⟨ha, hb, hab, hclock, h, n', e', report, report', journal, journal', e₁, w₁, hl, he, he', hjoined,
    Option.some.inj hj, hnow⟩

end PageScript
