import PageScript.Host.Faulty
import PageScript.Proofs.Keeping
import PageScript.Proofs.Logging
import PageScript.Proofs.Timeline

/-!
# Clearing the local storage

If the local storage is to be cleared, this is one request at the end of a run, behind everything else that is done with
the host, and its answer is not looked at. So whether it is to be cleared makes no difference to a run. Nothing else
touches the storage, neither an action nor an effect, and what a page stores is there in the end unless it is cleared.
-/
namespace PageScript

variable {σ : Type}

/-! ## Nothing else asks for it -/

theorem Host.keeping_logged (host : Host σ) :
    Keeping host.logged (fun s => ∀ answer, .asked .clearLocalStorage answer ∉ s.log) fun _ => True := by
  have hnote : ∀ (s : Logged σ) (i : Interaction) (state : σ), (∀ answer, .asked .clearLocalStorage answer ∉ s.log) →
      (∀ answer, i ≠ .asked .clearLocalStorage answer) →
      ∀ answer, .asked .clearLocalStorage answer ∉ (s.note i state).log := by
    intro s i state hs hi answer hm
    rcases List.mem_append.mp hm with hm | hm
    · exact hs answer hm
    · exact hi answer (List.mem_singleton.mp hm).symm
  refine ⟨fun r hr s hs => ⟨hnote s _ _ hs ?_, fun _ _ => trivial⟩, fun s hs => hnote s _ _ hs nofun,
    fun subscription s hs => hnote s _ _ hs nofun, fun subscription deadline s hs => hnote s _ _ hs nofun,
    fun deadline s hs => hnote s _ _ hs nofun, fun _ _ => trivial⟩
  intro answer he
  cases he
  exact hr rfl

/-! ## Nothing else touches it -/

namespace World

variable {w w' : World}

theorem localStorage_elapsed (h : w.Elapsed w') : w'.document.localStorage = w.document.localStorage := by
  obtain ⟨done, -, -, hd⟩ := h.happened
  rw [hd]
  exact Document.undergo_invariant (P := fun d => d.localStorage = w.document.localStorage)
    (fun _ _ _ hs ha => (Document.elementsOnly_apply ha).localStorage.trans hs) rfl _

theorem localStorage_answer {r : Request} (hr : r ≠ .clearLocalStorage) (w : World) :
    (answer r w).2.document.localStorage = w.document.localStorage := by
  cases r with
  | activate number =>
    rw [answer, activate]
    split
    · rfl
    · rename_i h
      obtain ⟨n, -, ha⟩ := map_eq_ok.mp h
      cases ha
      exact (elementsOnly_triggerAll _ _).localStorage
  | setValue number text =>
    rw [answer, setValue]
    split
    · rename_i h
      obtain ⟨n, -, rfl⟩ := map_eq_ok.mp h
      rfl
    · rfl
  | keyDown code =>
    have h := elementsOnly_triggerAll { w with document := (w.document.keyDown code).2 } (w.document.keyDown code).1
    rw [answer, keyDown]
    dsimp only
    split <;> rename_i ht <;> rw [ht] at h <;> exact h.localStorage
  | clearLocalStorage => exact absurd rfl hr
  | _ => rfl

/-- Whatever is done with a world but clearing the storage, what is stored stays. -/
theorem localStorage_step (h : w.Orderly) {event : Event} (he : event ≠ .request .clearLocalStorage) :
    (w.step event).document.localStorage = w.document.localStorage := by
  cases event with
  | append selector element =>
    rw [step, append]
    split
    · rename_i ha
      obtain ⟨n, -, -, rfl⟩ := Document.exists_insert_of_append ha
      rfl
    · rfl
  | trigger effect =>
    rw [step]
    cases ht : w.trigger effect with
    | error fault => rfl
    | ok w' => exact (elementsOnly_trigger ht).localStorage
  | request r => exact localStorage_answer (fun hr => he (congrArg _ hr)) w
  | sleepUntil instant => exact localStorage_elapsed (Orderly.elapsed_runUntil instant h)
  | nextChange observer deadline => exact localStorage_elapsed (Orderly.elapsed_changeUntil observer deadline h)
  | _ => rfl

theorem keeping_localStorage (stored : List (String × String)) :
    Keeping host (fun w => w.Orderly ∧ w.document.localStorage = stored) fun fault => fault.endsRun = false :=
  keeping fun w event he hw => ⟨orderly_step w event hw.1, (localStorage_step hw.1 he).trans hw.2⟩

end World

/-! ## Whole runs -/

def Report.untimed (report : Report) : Report := { report with elapsed := 0, elapsedWithoutDelays := 0 }

def Engine.clearing (e : Engine) : Engine := { e with clearLocalStorage := true }

namespace Run

/-- The instant at which a report is closed shows in its times only. -/
theorem untimed_finishReport (r : Run) (now now' : Nat) :
    (r.finishReport now').report.map Report.untimed = (r.finishReport now).report.map Report.untimed := by
  unfold finishReport
  cases r.recorder with
  | some recorder =>
    simp only [Recorder.finish]
    split <;> rfl
  | none => rfl

theorem finishReport_now (r : Run) (now now' : Nat) :
    { r.finishReport now' with report := none } = { r.finishReport now with report := none } := by
  unfold finishReport
  cases r.recorder <;> rfl

end Run

namespace Engine

variable {host : Host σ} {settings : Settings} {script : List Step} {journal : List Executed} {r : Run} {s s₁ : σ}

theorem execute_leaving
    (hd : drain host settings.stopOnFailure (.start settings script (host.stopwatch s)) s = (journal, r, s₁)) :
    (loaded { settings with clearLocalStorage := false } script).execute host s =
      (.ok ((r.finishReport (host.stopwatch s₁)).report, journal),
        { Engine.ofSettings { settings with clearLocalStorage := false } with
          run := { r.finishReport (host.stopwatch s₁) with phase := .reported, report := none } }, s₁) :=
  execute_of_drained { settings with clearLocalStorage := false } hd

theorem execute_clearing
    (hd : drain host settings.stopOnFailure (.start settings script (host.stopwatch s)) s = (journal, r, s₁)) :
    let s₂ := (host.call .clearLocalStorage s₁).2
    (loaded { settings with clearLocalStorage := false } script).clearing.execute host s =
      (.ok ((r.finishReport (host.stopwatch s₂)).report, journal),
        clearing { Engine.ofSettings { settings with clearLocalStorage := false } with
          run := { r.finishReport (host.stopwatch s₁) with phase := .reported, report := none } }, s₂) := by
  intro s₂
  have he := execute_of_drained { settings with clearLocalStorage := true } hd
  have hrun := congrArg (fun run : Run => { run with phase := .reported })
    (r.finishReport_now (host.stopwatch s₁) (host.stopwatch s₂))
  refine he.trans (Prod.ext rfl (Prod.ext ?_ rfl))
  exact congrArg (fun run => { Engine.ofSettings { settings with clearLocalStorage := true } with run }) hrun

end Engine

/-- Two engines that differ in whether they clear the local storage load the same scripts. Running one comes to the same
with both of them on every host, whatever it answers and however the run ends: the same is done with the host and comes
of it, and the journals, the reports and the engines are the same in the end. But the one makes one request more, behind
all the others, whatever is answered to it, and this can show in the report only as far as it takes time. On a page that
request empties the local storage, and without it all that the page stores is still there. -/
theorem execute_clears_last (settings : Settings) {lines : List String} {n : Nat} {e : Engine}
    (h : (Engine.ofSettings { settings with clearLocalStorage := false }).load lines = (.ok n, e)) :
    (Engine.ofSettings { settings with clearLocalStorage := true }).load lines = (.ok n, e.clearing) ∧
    (∀ {σ : Type} (host : Host σ) (s : σ), ∃ report report' journal e₁ log s₁ answer s₂,
      e.execute host s = (.ok (report, journal), e₁, s₁) ∧
      e.execute host.logged ⟨s, []⟩ = (.ok (report, journal), e₁, ⟨s₁, log⟩) ∧
      (∀ answer, .asked .clearLocalStorage answer ∉ log) ∧
      host.call .clearLocalStorage s₁ = (answer, s₂) ∧
      e.clearing.execute host s = (.ok (report', journal), e₁.clearing, s₂) ∧
      e.clearing.execute host.logged ⟨s, []⟩ =
        (.ok (report', journal), e₁.clearing, ⟨s₂, log ++ [.asked .clearLocalStorage answer]⟩) ∧
      report'.map Report.untimed = report.map Report.untimed ∧
      (host.stopwatch s₂ = host.stopwatch s₁ → report' = report)) ∧
    ∀ (page : Page) (timed : Bool),
      let w : World := { World.ofPage page with timed }
      let out := e.execute World.host w
      let out' := e.clearing.execute World.host w
      out'.1 = out.1 ∧ out'.2.1 = out.2.1.clearing ∧ out'.2.2 = out.2.2.clearLocalStorage ∧
        out.2.2.document.localStorage = page.localStorage ∧ out'.2.2.document.localStorage = [] := by
  obtain ⟨script, hp, rfl, rfl⟩ := Engine.load_eq_ok_iff.mp h
  refine ⟨Engine.load_of_parsed { settings with clearLocalStorage := true } hp, fun host s => ?_, ?_⟩
  · let start := Run.start settings script (host.stopwatch s)
    obtain ⟨⟨journal, r, s₁⟩, hd⟩ : ∃ out, Engine.drain host settings.stopOnFailure start s = out := ⟨_, rfl⟩
    have hmirrors := host.mirrors_logged.drain settings.stopOnFailure start (s := s) (t := ⟨s, []⟩) rfl
    have hlog := host.keeping_logged.drain settings.stopOnFailure start (s := ⟨s, []⟩) (fun _ => List.not_mem_nil)
    rw [hd] at hmirrors
    obtain ⟨⟨s₁, log⟩, hlogged, rfl⟩ := hmirrors
    rw [hlogged] at hlog
    refine ⟨_, _, journal, _, log, _, _, _, Engine.execute_leaving hd, Engine.execute_leaving hlogged,
      hlog, rfl, Engine.execute_clearing hd, Engine.execute_clearing hlogged,
      r.untimed_finishReport _ _, fun hstopwatch => ?_⟩
    exact congrArg (fun now => (r.finishReport now).report) hstopwatch
  · intro page timed w out out'
    obtain ⟨⟨journal, r, w₁⟩, hd⟩ : ∃ out, Engine.drain World.host settings.stopOnFailure
      (.start settings script (World.host.stopwatch w)) w = out := ⟨_, rfl⟩
    have ho : w.Orderly := World.orderly_ofPage page timed thirtyYears
    have hstored := (World.keeping_localStorage page.localStorage).drain settings.stopOnFailure
      (.start settings script (World.host.stopwatch w)) (s := w) ⟨ho, rfl⟩
    rw [hd] at hstored
    have hout : out = _ := Engine.execute_leaving hd
    have hout' : out' = _ := Engine.execute_clearing hd
    rw [hout, hout']
    exact ⟨rfl, rfl, rfl, hstored.2, rfl⟩

/-- The host refuses to clear the storage behind a run that has lost the focus. Nothing shows of that, and on a host
that does not refuse the storage is empty in the end. -/
theorem execute_clears_last_refused :
    let page : Page := { body := [{ tag := "p" }], localStorage := [("seen", "1")] }
    let host := Failures.apply { failing := [(.clearLocalStorage, ⟨"no", 0⟩)] } World.host
    let settings : Settings := {}
    let loaded := (Engine.ofSettings { settings with clearLocalStorage := false }).load
      ["click(p)", "checkFocus(down)", "click(p)"]
    let s : Logged (Counted World) := { state := { state := World.ofPage page } }
    loaded = (.ok 3, loaded.2) ∧
      (∃ report journal e₁ log s₁ s₂,
        loaded.2.execute host.logged s = (.ok (report, journal), e₁, ⟨s₁, log⟩) ∧
        loaded.2.clearing.execute host.logged s = (.ok (report, journal), e₁.clearing,
          ⟨s₂, log ++ [.asked .clearLocalStorage (.error (.driver "no"))]⟩) ∧
        report.map Report.aborted = some (some "Focus lost after pressing down") ∧
        s₂.state.document.localStorage = [("seen", "1")]) ∧
      (loaded.2.execute World.host (World.ofPage page)).2.2.document.localStorage = [("seen", "1")] ∧
      (loaded.2.clearing.execute World.host (World.ofPage page)).2.2.document.localStorage = [] := by
  intro page host settings loaded s
  have h : loaded = (.ok 3, loaded.2) := Prod.ext rfl rfl
  obtain ⟨-, hhost, hpage⟩ := execute_clears_last settings h
  obtain ⟨-, -, -, hkept, hcleared⟩ := hpage page false
  obtain ⟨report, report', journal, e₁, log, s₁, answer, s₂, he, hlogged, -, hcall, -, hlogged', -, hreport⟩ :=
    hhost host s.state
  have hrefused : host.call .clearLocalStorage s₁ =
      (.error (.driver "no"), s₁.use .clearLocalStorage) := by
    simp [host, Failures.apply, Failures.answer, Failures.messageAfter, Request.operation]
  obtain ⟨rfl, rfl⟩ := Prod.mk.inj (hrefused.symm.trans hcall)
  have hsame : report' = report := hreport rfl
  subst hsame
  have hrun : ((loaded.2.execute host s.state).1.toOption.map fun out => out.1.map Report.aborted,
      (loaded.2.execute host s.state).2.2.state.document.localStorage) =
      (some (some (some "Focus lost after pressing down")), [("seen", "1")]) := by
    decide +kernel
  rw [he] at hrun
  obtain ⟨haborted, hstored⟩ := Prod.mk.inj hrun
  exact ⟨h, ⟨_, journal, e₁, log, s₁, _, hlogged, hlogged', Option.some.inj haborted, hstored⟩, hkept, hcleared⟩

end PageScript
