import PageScript.CommandLine
import PageScript.Files
import PageScript.Proofs.Abandonment
import PageScript.Proofs.Recording

/-!
# The verdict of a run

The program fails if the report of a run is no success, and a run that was aborted has no success to report.
But a run without a report never fails, so that the verdict hides an aborted run if the last window of its
journal leaves no outcome.
-/
namespace PageScript

/-- A verdict that hides no line that was given up. -/
structure Discloses (strict : Bool) (journal : List Executed) (abandoned : List String)
    (verdict : Except Fault Unit) : Prop where
  whole : verdict = .ok () → ¬ WasAborted strict journal ∧ abandoned = []
  failed : WasAborted strict journal → ∃ failed, verdict = .error (.runFailed failed abandoned.length)

theorem Report.isSuccess_eq_false {report : Report} (h : report.aborted.isSome = true) :
    report.isSuccess = false := by
  rw [isSuccess, Option.isNone_eq_false_iff.mpr h, Bool.and_false]

section

variable {strict : Bool} {script : List Step} {journal : List Executed} {r : Run}

theorem discloses_of_report (ha : Accounted strict script journal r) (hw : r.Whole) {now : Nat}
    {report : Report} (hr : (r.finishReport now).report = some report) :
    Discloses strict journal r.incomplete (CommandLine.reportResult (some report)) := by
  obtain ⟨hi, hab⟩ := hw.finishReport hr
  have hf : WasAborted strict journal →
      CommandLine.reportResult (some report) =
        .error (.runFailed report.failed.length r.incomplete.length) := by
    intro h
    have hs : report.isSuccess = false :=
      Report.isSuccess_eq_false (hab ▸ ha.isSome_aborted.mpr h)
    rw [CommandLine.reportResult, hs, ← hi]
    rfl
  constructor
  · intro hok
    have hn : ¬ WasAborted strict journal := by
      intro h
      cases hok.symm.trans (hf h)
    exact ⟨hn, ha.incomplete_eq_nil hn⟩
  · intro h
    exact ⟨_, hf h⟩

theorem discloses_none_iff (ha : Accounted strict script journal r) :
    Discloses strict journal r.incomplete (CommandLine.reportResult none) ↔
      ¬ WasAborted strict journal := by
  constructor
  · intro h
    exact (h.whole rfl).1
  · intro hn
    exact ⟨fun _ => ⟨hn, ha.incomplete_eq_nil hn⟩, fun h => absurd h hn⟩

/-- The verdict hides something exactly if the run was aborted without a report. -/
theorem discloses_iff (ha : Accounted strict script journal r) (hw : r.Whole) (hr : Recorded journal r)
    (now : Nat) :
    Discloses strict journal r.incomplete (CommandLine.reportResult (r.finishReport now).report) ↔
      ¬ (WasAborted strict journal ∧ ∀ x ∈ lastWindow journal, x.leavesOutcome = false) := by
  rw [← hr.report_eq_none now]
  cases hc : (r.finishReport now).report with
  | none => simpa using discloses_none_iff ha
  | some report => simpa using discloses_of_report ha hw hc

end

namespace CommandLine

variable {settings : Settings} {lines : List String}

theorem runLines_of_load {n : Nat} {e : Engine} (h : (Engine.ofSettings settings).load lines = (.ok n, e))
    (page : Page) (timed : Bool) :
    let out := e.execute World.host { World.ofPage page with timed }
    runLines settings page timed lines = (out.1, out.2.2) := by
  simp only [runLines, h]

variable {m : Type → Type} [Monad m] [LawfulMonad m] {read : String → m (Except Fault String)}
variable {settingsPath pagePath : String} {path : Option String} {page : Page}

theorem answer_run (hs : Settings.load read settingsPath = pure (.ok settings))
    (hl : Script.load read (path.getD settings.scriptPath) = pure (.ok lines))
    (hp : Page.load read pagePath = pure (.ok page)) (colours timed json : Bool) :
    answer colours read timed (.run settingsPath pagePath path json) =
      pure (runAnswer colours json (runLines settings page timed lines)) := by
  have h : (prepare read settingsPath pagePath path).run = pure (.ok (settings, lines, page)) := by
    simp [prepare, hs, hl, hp, ExceptT.run_bind, ExceptT.run_mk]
  rw [answer, h]
  simp

end CommandLine

/-- For settings, a script and a page that are all valid, the verdict of a run discloses what the run gave up
unless the run was aborted and no step of the last window of its journal leaves an outcome. Then the program
claims success. -/
theorem answer_run_discloses_iff {m : Type → Type} [Monad m] [LawfulMonad m]
    {read : String → m (Except Fault String)} {settingsPath pagePath : String} {path : Option String}
    {settings : Settings} {lines : List String} {page : Page} {n : Nat} {e : Engine}
    (hs : Settings.load read settingsPath = pure (.ok settings))
    (hl : Script.load read (path.getD settings.scriptPath) = pure (.ok lines))
    (hp : Page.load read pagePath = pure (.ok page))
    (h : (Engine.ofSettings settings).load lines = (.ok n, e)) (colours timed json : Bool) :
    ∃ report journal world abandoned answer,
      CommandLine.runLines settings page timed lines = (.ok (report, journal), world) ∧
      scriptTexts (journal.map Executed.step) ++ abandoned = lines ∧
      CommandLine.answer colours read timed (.run settingsPath pagePath path json) = pure answer ∧
      (Discloses settings.stopOnFailure journal abandoned answer.result ↔
        ¬ (WasAborted settings.stopOnFailure journal ∧
          ∀ x ∈ lastWindow journal, x.leavesOutcome = false)) ∧
      (WasAborted settings.stopOnFailure journal →
        (∀ x ∈ lastWindow journal, x.leavesOutcome = false) → answer.result = .ok ()) := by
  obtain ⟨script, journal, r, w, hparsed, hd, he⟩ :=
    Engine.execute_of_load World.host h { World.ofPage page with timed }
  obtain ⟨ha, hw⟩ := accounted_of_drain World.host hparsed hd
  have hr := recorded_of_drain World.host hd
  have hrun := CommandLine.runLines_of_load h page timed
  simp only [he] at hrun
  have hanswer := CommandLine.answer_run hs hl hp colours timed json
  rw [hrun] at hanswer
  refine ⟨_, journal, _, r.incomplete, _, hrun, ?_, hanswer, discloses_iff ha hw hr _, ?_⟩
  · rw [ha.texts_eq, scriptTexts_of_parsed hparsed]
  · intro _ hn
    exact congrArg CommandLine.reportResult ((hr.report_eq_none _).mpr hn)

/-- The focus is found to be lost before anything was reported: one line is given up, and the program claims
success. -/
theorem answer_run_discloses_iff_checkFocus :
    let files : Files :=
      [(["c.json"], .file (some "\x7b\"testFile\":\"s.json\"\x7d")),
        (["s.json"], .file (some "[\"checkFocus(down)\",\"click(#go)\"]")),
        (["p.yaml"], .file (some ""))]
    let read : String → Id (Except Fault String) := fun path => files.read path
    let settings : Settings := { testFile := "s.json", baseDir := "" }
    let lines := ["checkFocus(down)", "click(#go)"]
    let loaded := (Engine.ofSettings settings).load lines
    Settings.load read "c.json" = pure (.ok settings) ∧
      Script.load read settings.scriptPath = pure (.ok lines) ∧
      Page.load read "p.yaml" = pure (.ok {}) ∧ loaded = (.ok 2, loaded.2) ∧
      ∃ report journal world abandoned answer,
        CommandLine.runLines settings {} false lines = (.ok (report, journal), world) ∧
        WasAborted false journal ∧ abandoned = ["click(#go)"] ∧
        scriptTexts (journal.map Executed.step) ++ abandoned = lines ∧
        CommandLine.answer false read false (.run "c.json" "p.yaml" none false) = pure answer ∧
        answer.result = .ok () ∧ ¬ Discloses false journal abandoned answer.result := by
  intro files read settings lines loaded
  have hs : Settings.load read "c.json" = pure (.ok settings) :=
    (by decide +kernel : (Settings.load read "c.json").run = .ok settings)
  have hl : Script.load read (Option.getD none settings.scriptPath) = pure (.ok lines) :=
    (by decide +kernel : (Script.load read settings.scriptPath).run = .ok lines)
  have hp : Page.load read "p.yaml" = pure (.ok {}) := rfl
  have h : loaded = (.ok 2, loaded.2) := Prod.ext rfl rfl
  obtain ⟨report, journal, world, abandoned, answer, hrun, ht, hanswer, hiff, hok⟩ :=
    answer_run_discloses_iff hs hl hp h false false false
  have hj : (CommandLine.runLines settings {} false lines).1.toOption.map (fun out =>
      (scriptTexts (out.2.map Executed.step), out.2.any (·.result = .error (.focusLost "down")),
        (lastWindow out.2).any Executed.leavesOutcome)) = some (["checkFocus(down)"], true, false) := by
    decide +kernel
  rw [hrun] at hj
  obtain ⟨htexts, hlost, hnone⟩ : scriptTexts (journal.map Executed.step) = ["checkFocus(down)"] ∧
      journal.any (·.result = .error (.focusLost "down")) = true ∧
      (lastWindow journal).any Executed.leavesOutcome = false := by
    simpa only [Except.toOption, Option.map_some, Option.some.injEq, Prod.mk.injEq] using hj
  have haborted : WasAborted false journal := by
    obtain ⟨x, hx, hf⟩ := List.any_eq_true.mp hlost
    exact ⟨x, hx, .inl ⟨"down", of_decide_eq_true hf⟩⟩
  have hquiet : ∀ x ∈ lastWindow journal, x.leavesOutcome = false := by
    simpa using hnone
  refine ⟨hs, hl, hp, h, report, journal, world, abandoned, answer, hrun, haborted, ?_, ht, hanswer,
    hok haborted hquiet, ?_⟩
  · rw [htexts] at ht
    exact List.tail_eq_of_cons_eq ht
  · intro hd
    exact hiff.mp hd ⟨haborted, hquiet⟩

end PageScript
