import PageScript.Host.Simulated
import PageScript.Proofs.Journal
import PageScript.Proofs.Loading

/-!
# The expansion of a script

Each line of a script stands for itself and for the steps that are injected behind it. Running a script is
reading this expansion from left to right: the queue always stands for what is left of it, although injected
steps are put in front of the queue and lead to injected steps themselves. A run performs the whole expansion
unless a step ends it, and then nothing behind that step.
-/
namespace PageScript

def pause (delay : Nat) : List Step := if delay = 0 then [] else [Step.delay delay]

/-- What a step stands for: itself, and a delay unless it is a wait. A key press is followed by a focus check,
with a delay of its own. -/
def Step.expand (delay : Nat) (step : Step) : List Step :=
  match step.action with
  | .wait _ => [step]
  | .keyPress key => step :: pause delay ++ Step.focusCheck key :: pause delay
  | _ => step :: pause delay

/-- What steps stand for, one after another. -/
def expansion (delay : Nat) (steps : List Step) : List Step := steps.flatMap (Step.expand delay)

section

variable (delay : Nat)

@[simp] theorem expansion_nil : expansion delay [] = [] := rfl

@[simp] theorem expansion_cons (step : Step) (steps : List Step) :
    expansion delay (step :: steps) = step.expand delay ++ expansion delay steps := rfl

@[simp] theorem expansion_append (steps later : List Step) :
    expansion delay (steps ++ later) = expansion delay steps ++ expansion delay later := by
  simp [expansion]

theorem synthetic_of_mem_pause {step : Step} (h : step ∈ pause delay) : step.synthetic = true := by
  unfold pause at h
  split at h
  · cases h
  · rw [List.mem_singleton.mp h, Step.synthetic_delay]

theorem length_pause_le : (pause delay).length ≤ 1 := by
  unfold pause
  split <;> simp

theorem length_expand_le (step : Step) : (step.expand delay).length ≤ 4 := by
  have h := length_pause_le delay
  unfold Step.expand
  split <;> simp <;> omega

theorem length_expansion_le (steps : List Step) :
    (expansion delay steps).length ≤ 4 * steps.length := by
  induction steps with
  | nil => simp
  | cons step steps ih =>
    have h := length_expand_le delay step
    simp only [expansion_cons, List.length_append, List.length_cons]
    omega

theorem scriptTexts_expand (step : Step) : scriptTexts (step.expand delay) = scriptTexts [step] := by
  have h : scriptTexts (pause delay) = [] :=
    scriptTexts_of_injected fun _ => synthetic_of_mem_pause delay
  unfold Step.expand
  split <;> simp [h]

theorem scriptTexts_expansion (steps : List Step) :
    scriptTexts (expansion delay steps) = scriptTexts steps := by
  induction steps with
  | nil => rfl
  | cons step steps ih =>
    rw [expansion_cons, scriptTexts_append, scriptTexts_expand, ih, ← scriptTexts_append,
      List.singleton_append]

end

theorem Run.synthetic_of_mem_injected (r : Run) (step : Step) {later : Step}
    (h : later ∈ r.injected step) : later.synthetic = true := by
  rcases List.mem_append.mp h with h | h
  · split at h
    · cases h
    · rw [List.mem_singleton.mp h, Step.synthetic_delay]
  · split at h
    · rw [List.mem_singleton.mp h, Step.synthetic_focusCheck]
    · cases h

theorem Run.expand_eq (r : Run) (step : Step) :
    step.expand r.delay = step :: expansion r.delay (r.injected step) := by
  cases ha : step.action <;> by_cases hd : r.delay = 0 <;>
    simp [Step.expand, injected, pause, Action.isWait, ha, hd]

/-! ## Queues -/

/-- Behind a step that is no wait there are lines of the script only. An injected step is thus queued behind
injected delays at most, which never fail. -/
def Orderly (queue : List Step) : Prop :=
  queue.Pairwise fun step later => step.action.isWait = true ∨ later.synthetic = false

theorem orderly_of_written {queue : List Step} (h : ∀ step ∈ queue, step.synthetic = false) :
    Orderly queue :=
  List.pairwise_of_forall_mem_list fun _ _ later hl => .inr (h later hl)

theorem Orderly.written {step : Step} {queue : List Step} (h : Orderly (step :: queue))
    (hw : step.action.isWait = false) : ∀ later ∈ queue, later.synthetic = false := by
  intro later hl
  simpa [hw] using List.rel_of_pairwise_cons h hl

theorem Orderly.inject {step : Step} {queue : List Step} (h : Orderly (step :: queue)) (r : Run) :
    Orderly (r.injected step ++ queue) := by
  cases hw : step.action.isWait with
  | true =>
    cases ha : step.action <;> simp_all [Action.isWait, Run.injected]
    exact h.of_cons
  | false =>
    have hq := h.written hw
    refine List.pairwise_append.mpr ⟨?_, orderly_of_written hq, fun _ _ later hl => .inr (hq later hl)⟩
    cases ha : step.action <;> by_cases hd : r.delay = 0 <;>
      simp [Run.injected, Action.isWait, ha, hd]

/-! ## Progress -/

variable {σ : Type} {host : Host σ} {strict : Bool} {delay : Nat} {script : List Step}

/-- A run that goes on: what it did and what its queue stands for make up the expansion of the script. -/
structure Running (strict : Bool) (delay : Nat) (script : List Step) (done : List Executed) (r : Run) :
    Prop where
  phase_eq : r.phase = .running
  delay_eq : r.delay = delay
  ahead : done.map Executed.step ++ expansion delay r.queue = expansion delay script
  unended : ∀ x ∈ done, ¬ x.Ends strict
  orderly : Orderly r.queue
  aborted_eq : r.aborted = none
  incomplete_eq : r.incomplete = []

/-- A run that ended early, with its last step: what it did begins the expansion of the script, and the lines
it gave up are all the others. -/
structure Ended (strict : Bool) (delay : Nat) (script : List Step) (done : List Executed) (r : Run) :
    Prop where
  phase_eq : r.phase = .aborted
  queue_eq : r.queue = []
  begun : done.map Executed.step <+: expansion delay script
  last : ∃ before x reason, done = before ++ [x] ∧ (∀ y ∈ before, ¬ y.Ends strict) ∧
    x.reason strict = some reason ∧ r.aborted = some reason
  accounted : scriptTexts (done.map Executed.step) ++ r.incomplete = scriptTexts script

theorem isWait_of_reason {step : Step} {r : Run} {s : σ} {reason : String}
    (h : (Engine.perform host strict step r s).1.reason strict = some reason) :
    step.action.isWait = false := by
  cases ha : step.action with
  | wait ms =>
    have hr : (Engine.perform host strict step r s).1.result = .ok s!"Waited for {ms} ms" := by
      simp only [Engine.perform, ha]
      rfl
    simp [Executed.reason, Run.reasonToStop, hr] at h
  | _ => rfl

section

variable {done : List Executed} {r : Run} {s : σ} {step : Step} {queue : List Step}

theorem Running.ahead_of_cons (h : Running strict delay script done r) (hq : r.queue = step :: queue)
    {x : Executed} (hx : x.step = step) :
    (done ++ [x]).map Executed.step ++ expansion delay (r.injected step ++ queue) =
      expansion delay script := by
  have ha := h.ahead
  rw [hq, expansion_cons, ← h.delay_eq, Run.expand_eq, h.delay_eq] at ha
  simpa [hx] using ha

theorem Running.carry_on (hq : r.queue = step :: queue) (h : Running strict delay script done r)
    (hr : (Engine.perform host strict step { r with queue } s).1.reason strict = none) :
    let next := Engine.perform host strict step { r with queue } s
    Running strict delay script (done ++ [next.1]) next.2.1 := by
  intro next
  obtain ⟨now, hn⟩ := Engine.perform_of_continue hr
  have hi := Run.incomplete_noted { r with queue } now next.1 h.incomplete_eq
  rw [Run.noted_eq] at hn
  have hu : ∀ x ∈ done ++ [next.1], ¬ x.Ends strict := by
    intro x hm
    rcases List.mem_append.mp hm with hm | hm
    · exact h.unended x hm
    · rw [List.mem_singleton.mp hm, ← Executed.isSome_reason, hr]
      exact Bool.false_ne_true
  refine ⟨?_, ?_, ?_, hu, ?_, ?_, ?_⟩ <;> rw [hn]
  · exact h.phase_eq
  · exact h.delay_eq
  · exact h.ahead_of_cons hq rfl
  · exact (hq ▸ h.orderly : Orderly (step :: queue)).inject _
  · exact h.aborted_eq
  · exact hi

theorem Running.stop (hq : r.queue = step :: queue) (h : Running strict delay script done r) {reason : String}
    (hr : (Engine.perform host strict step { r with queue } s).1.reason strict = some reason) :
    let next := Engine.perform host strict step { r with queue } s
    Ended strict delay script (done ++ [next.1]) next.2.1 := by
  intro next
  obtain ⟨now, hn⟩ := Engine.perform_of_stop hr
  have hi := Run.incomplete_noted { r with queue } now next.1 h.incomplete_eq
  rw [Run.noted_eq] at hn
  have ha := h.ahead_of_cons (x := next.1) hq rfl
  have hleft : next.2.1.incomplete = queue.map Step.text := by
    rw [hn]
    exact congrArg (· ++ queue.map Step.text) hi
  refine ⟨?_, ?_, ⟨_, ha⟩, ⟨done, next.1, reason, rfl, h.unended, hr, ?_⟩, ?_⟩
  · rw [hn]
    rfl
  · rw [hn]
    rfl
  · rw [hn]
    rfl
  · have hw := (hq ▸ h.orderly : Orderly (step :: queue)).written (isWait_of_reason hr)
    have ht := congrArg scriptTexts ha
    rw [scriptTexts_append, scriptTexts_expansion, scriptTexts_append, scriptTexts_expansion,
      scriptTexts_of_injected fun _ => r.synthetic_of_mem_injected step, List.nil_append,
      scriptTexts_of_written hw] at ht
    rw [hleft]
    exact ht

/-- One step of a run either carries it on or ends it. -/
theorem Running.perform (hq : r.queue = step :: queue) (h : Running strict delay script done r) :
    let next := Engine.perform host strict step { r with queue } s
    Running strict delay script (done ++ [next.1]) next.2.1 ∨
      Ended strict delay script (done ++ [next.1]) next.2.1 := by
  cases hr : (Engine.perform host strict step { r with queue } s).1.reason strict with
  | none => exact .inl (h.carry_on hq hr)
  | some reason => exact .inr (h.stop hq hr)

theorem Ended.queue_ne_cons (h : Ended strict delay script done r) : r.queue ≠ step :: queue := by
  simp [h.queue_eq]

end

theorem Ended.after_eq_nil {done : List Executed} {r : Run} (h : Ended strict delay script done r)
    {before after : List Executed} {x : Executed} (hd : done = before ++ x :: after) (hx : x.Ends strict) :
    after = [] := by
  obtain ⟨first, last, reason, hl, hf, -, -⟩ := h.last
  rcases List.eq_nil_or_concat after with ha | ⟨init, y, rfl⟩
  · exact ha
  · rw [List.concat_eq_append, ← List.cons_append, ← List.append_assoc] at hd
    have he : before ++ x :: init = first := (List.append_inj' (hd.symm.trans hl) rfl).1
    exact absurd hx (hf x (by simp [← he]))

/-! ## Whole runs -/

theorem running_start (settings : Settings) (hw : ∀ step ∈ script, step.synthetic = false) (now : Nat) :
    Running settings.stopOnFailure settings.delayBetween script [] (.start settings script now) where
  phase_eq := rfl
  delay_eq := rfl
  ahead := rfl
  unended := by simp
  orderly := orderly_of_written hw
  aborted_eq := rfl
  incomplete_eq := rfl

/-- A run has gone through the whole expansion of its script or was ended early. -/
theorem drain_progress (host : Host σ) {r : Run} (h : Running strict delay script [] r) (s : σ) :
    let out := Engine.drain host strict r s
    Running strict delay script out.1 out.2.1 ∧ out.2.1.queue = [] ∨
      Ended strict delay script out.1 out.2.1 := by
  intro out
  have hp : Running strict delay script out.1 out.2.1 ∨ Ended strict delay script out.1 out.2.1 := by
    refine Engine.drain_invariant host strict (fun done r _ =>
      Running strict delay script done r ∨ Ended strict delay script done r) ?_ (.inl h)
    intro done r s step queue hq hi
    rcases hi with hi | hi
    · exact hi.perform hq
    · exact absurd hq hi.queue_ne_cons
  rcases hp with hp | hp
  · left
    refine ⟨hp, ?_⟩
    rcases Engine.drain_ended host strict r s with hq | ha
    · exact hq
    · cases ha.symm.trans hp.phase_eq
  · exact .inr hp

theorem drain_expansion (host : Host σ) {r : Run} (h : Running strict delay script [] r) (s : σ) :
    let journal := (Engine.drain host strict r s).1
    journal.map Executed.step <+: expansion delay script ∧
      ((∀ x ∈ journal, ¬ x.Ends strict) → journal.map Executed.step = expansion delay script) ∧
      ∀ before x after, journal = before ++ x :: after → x.Ends strict → after = [] := by
  intro journal
  rcases drain_progress host h s with ⟨hp, hq⟩ | hp
  · have ha := hp.ahead
    rw [hq, expansion_nil, List.append_nil] at ha
    refine ⟨ha ▸ List.prefix_rfl, fun _ => ha, ?_⟩
    intro before x after hd hx
    have hm : x ∈ journal := by simp [hd]
    exact absurd hx (hp.unended x hm)
  · refine ⟨hp.begun, ?_, fun before x after hd hx => hp.after_eq_nil hd hx⟩
    intro hn
    obtain ⟨before, x, reason, hl, -, hx, -⟩ := hp.last
    have hm : x ∈ journal := by simp [journal, hl]
    exact absurd (Executed.isSome_reason.mp (by rw [hx]; rfl)) (hn x hm)

/-- Every run of a script that was loaded comes to an answer. The steps it performs, each on the host that the
one before has left, begin the expansion of the script; they are all of it unless a step ends the run, behind
which nothing is performed. There are at most four for each line. -/
theorem execute_follows_expansion (host : Host σ) {settings : Settings} {lines : List String} {n : Nat}
    {e : Engine} (h : (Engine.ofSettings settings).load lines = (.ok n, e)) (s : σ) :
    ∃ script report journal e' s',
      List.Forall₂ (fun line step => Step.parse line = .ok step) lines script ∧
      e.execute host s = (.ok (report, journal), e', s') ∧
      (performAll host settings.keyMap settings.timeout (journal.map Executed.step) s).1 = journal ∧
      journal.map Executed.step <+: expansion settings.delayBetween script ∧
      ((∀ x ∈ journal, ¬ x.Ends settings.stopOnFailure) →
        journal.map Executed.step = expansion settings.delayBetween script) ∧
      (∀ before x after, journal = before ++ x :: after → x.Ends settings.stopOnFailure → after = []) ∧
      journal.length ≤ 4 * lines.length := by
  obtain ⟨script, journal, r, s₁, hp, hd, he⟩ := Engine.execute_of_load host h s
  have hr := running_start settings (written_of_parsed hp) (host.stopwatch s)
  have hx := drain_expansion host hr s
  rw [hd] at hx
  obtain ⟨hbegun, hwhole, hlast⟩ := hx
  have ha := congrArg Prod.fst (Engine.performAll_of_drain hd)
  refine ⟨script, _, journal, _, _, hp, he, ha, hbegun, hwhole, hlast, ?_⟩
  calc journal.length = (journal.map Executed.step).length := (List.length_map _).symm
    _ ≤ (expansion settings.delayBetween script).length := hbegun.length_le
    _ ≤ 4 * script.length := length_expansion_le _ script
    _ = 4 * lines.length := by rw [hp.length_eq]

/-- The check that a key press injects behind the delay finds no focus, so that the click is never come to. -/
theorem execute_follows_expansion_keyPress :
    let settings : Settings := { keyMap := [("down", 40)], delayBetween := 5 }
    let loaded := (Engine.ofSettings settings).load ["keyPress(down)", "click(#go)"]
    loaded = (.ok 2, loaded.2) ∧
      ∃ report journal e' w,
        loaded.2.execute World.host (World.ofPage {}) = (.ok (report, journal), e', w) ∧
        journal.map (·.step.text) = ["keyPress(down)", "wait(5)", "checkFocus(down)"] ∧
        journal.map (·.step.text) <+:
          ["keyPress(down)", "wait(5)", "checkFocus(down)", "wait(5)", "click(#go)", "wait(5)"] ∧
        ∃ x ∈ journal, x.Ends settings.stopOnFailure := by
  intro settings loaded
  have h : loaded = (.ok 2, loaded.2) := Prod.ext rfl rfl
  obtain ⟨script, report, journal, e', w, hp, he, -, hb, hall, -⟩ :=
    execute_follows_expansion World.host h (World.ofPage {})
  have hs : script = [⟨"keyPress(down)", ⟨"keyPress", ["down"]⟩, .keyPress "down", false⟩,
      ⟨"click(#go)", ⟨"click", ["#go"]⟩, .click "#go", false⟩] :=
    Except.ok.inj ((Step.parseLines_eq_ok_iff.mpr hp : Step.parseLines 1 _ = _).symm.trans rfl)
  have ht : (expansion 5 script).map Step.text =
      ["keyPress(down)", "wait(5)", "checkFocus(down)", "wait(5)", "click(#go)", "wait(5)"] := by
    rw [hs]
    decide +kernel
  have hrun : (loaded.2.execute World.host (World.ofPage {})).1.toOption.map (fun out => out.2.map (·.step.text)) =
      some ["keyPress(down)", "wait(5)", "checkFocus(down)"] := by
    decide +kernel
  rw [he] at hrun
  have hperformed := Option.some.inj hrun
  have hbegun := hb.map Step.text
  rw [List.map_map, ht] at hbegun
  refine ⟨h, report, journal, e', w, he, hperformed, hbegun, ?_⟩
  by_contra hn
  push Not at hn
  have hwhole := congrArg (List.map Step.text) (hall hn)
  rw [List.map_map, ht] at hwhole
  exact absurd (hperformed.symm.trans hwhole) (by decide)

end PageScript
