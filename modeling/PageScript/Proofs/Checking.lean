import PageScript.CommandLine
import PageScript.Proofs.Lifetime
import PageScript.Proofs.Loading

/-!
# Checking scripts

Scripts are read line by line in two places: where they are only checked, and where they are loaded to be run. Both
accept a script if every line is a step, and otherwise both name the first line that is none and say why. A script that
is refused has been read up to that line, but none of the good lines before it is kept.
-/
namespace PageScript

namespace Step

/-- A script is refused for the first of its lines that is no step. -/
theorem exists_first_of_parseLines {first : Nat} {lines : List String} {fault : Fault}
    (h : parseLines first lines = .error fault) :
    ∃ before line after cause, lines = before ++ line :: after ∧
      (∀ earlier ∈ before, ∃ step, parse earlier = .ok step) ∧ parse line = .error cause ∧
      fault = .scriptLine (before.length + first) cause := by
  induction lines generalizing first with
  | nil => cases h
  | cons line lines ih =>
    rw [parseLines] at h
    cases hp : parse line with
    | error cause =>
      rw [hp] at h
      cases h
      exact ⟨[], line, lines, cause, rfl, List.forall_mem_nil _, hp, by rw [List.length_nil, Nat.zero_add]⟩
    | ok step =>
      rw [hp] at h
      obtain ⟨before, bad, after, cause, rfl, hbefore, hbad, hfault⟩ := ih (map_eq_error.mp h)
      refine ⟨line :: before, bad, after, cause, rfl, List.forall_mem_cons.mpr ⟨⟨step, hp⟩, hbefore⟩, hbad, ?_⟩
      rw [hfault, List.length_cons, Nat.add_assoc, Nat.add_comm 1]

end Step

namespace CommandLine

variable (colours : Bool)

theorem checkLines_result (number : Nat) (lines : List String) :
    (checkLines colours number lines).2 = (Step.parseLines number lines).map fun _ => () := by
  induction lines generalizing number with
  | nil => rfl
  | cons line lines ih =>
    rw [checkLines, Step.parseLines]
    cases Step.parse line with
    | error fault => rfl
    | ok step =>
      dsimp only
      rw [ih]
      cases Step.parseLines (number + 1) lines <;> rfl

theorem checkAnswer_result (lines : List String) :
    (checkAnswer colours lines).result = (Step.parseLines 1 lines).map fun _ => () := by
  rw [← checkLines_result colours, checkAnswer]
  rcases checkLines colours 1 lines with ⟨printed, fault | _⟩ <;> rfl

theorem answer_check {m : Type → Type} [Monad m] [LawfulMonad m] {read : String → m (Except Fault String)}
    {path : String} {lines : List String} (h : Script.load read path = pure (.ok lines)) (timed : Bool) :
    answer colours read timed (.check path) = pure (checkAnswer colours lines) := by
  rw [answer, h]
  simp

end CommandLine

/-- What checking a script answers agrees with what becomes of an engine that is told to load it and of its host. -/
structure Agrees {σ : Type} (lines : List String) (checked : Except Fault Unit) (e : Engine) (s : σ)
    (loaded : Except Fault Engine.Reply × Engine × σ) : Prop where
  accepted : checked = .ok () ↔ ∃ reply, loaded.1 = .ok reply
  refused : ∀ fault, checked = .error fault ↔ loaded.1 = .error fault
  /-- The fault is that of the first line that is no step; lines are counted from 1. -/
  first : ∀ fault, loaded.1 = .error fault → ∃ before line after cause, lines = before ++ line :: after ∧
    (∀ earlier ∈ before, ∃ step, Step.parse earlier = .ok step) ∧ Step.parse line = .error cause ∧
    fault = .scriptLine (before.length + 1) cause
  /-- A refused script asks nothing of the host and leaves nothing in the queue. -/
  untouched : ∀ fault, loaded.1 = .error fault → loaded.2 = (e, s) ∧ loaded.2.1.run.queue = []
  /-- An accepted script asks nothing of the host either and leaves one step for each line. -/
  queued : ∀ reply, loaded.1 = .ok reply → reply = .loaded lines.length ∧ loaded.2.2 = s ∧
    List.Forall₂ (fun line step => Step.parse line = .ok step ∧ step.text = line ∧ step.synthetic = false)
      lines loaded.2.1.run.queue

section

variable {σ : Type} {lines : List String} {e e' : Engine} {s : σ}

theorem agrees_of_refused {fault : Fault} (hp : Step.parseLines 1 lines = .error fault) (hq : e.run.queue = []) :
    Agrees lines (.error fault) e s (.error fault, e, s) where
  accepted := by
    constructor
    · rintro ⟨⟩
    · rintro ⟨_, ⟨⟩⟩
  refused := by
    intro fault'
    constructor <;> (rintro ⟨⟩; rfl)
  first := by
    rintro _ ⟨⟩
    exact Step.exists_first_of_parseLines hp
  untouched := fun _ _ => ⟨rfl, hq⟩
  queued := by rintro _ ⟨⟩

theorem agrees_of_accepted {steps : List Step} (hp : Step.parseLines 1 lines = .ok steps)
    (hq : e'.run.queue = steps) : Agrees lines (.ok ()) e s (.ok (.loaded steps.length), e', s) where
  accepted := by
    constructor
    · exact fun _ => ⟨_, rfl⟩
    · exact fun _ => rfl
  refused := by
    intro fault
    constructor <;> rintro ⟨⟩
  first := by rintro _ ⟨⟩
  untouched := by rintro _ ⟨⟩
  queued := by
    rintro _ ⟨⟩
    have hall := Step.parseLines_eq_ok_iff.mp hp
    refine ⟨by rw [hall.length_eq], rfl, ?_⟩
    rw [hq]
    exact hall.imp fun line step h => ⟨h, Step.text_of_parse h⟩

end

/-- Checking a script and loading it into a new engine agree on every script, whatever the settings and the host of the
engine are. -/
theorem check_agrees_with_load {σ : Type} (host : Host σ) (s : σ) (settings : Settings) (colours : Bool)
    (lines : List String) :
    (∀ (m : Type → Type) [Monad m] [LawfulMonad m] (read : String → m (Except Fault String)) (path : String)
        (timed : Bool), Script.load read path = pure (.ok lines) →
      CommandLine.answer colours read timed (.check path) = pure (CommandLine.checkAnswer colours lines)) ∧
    Agrees lines (CommandLine.checkAnswer colours lines).result (.ofSettings settings) s
      (Engine.use host (.ofSettings settings) s (.load lines)) := by
  refine ⟨fun m _ _ read path timed h => CommandLine.answer_check colours h timed, ?_⟩
  rw [CommandLine.checkAnswer_result]
  have hidle : (Engine.ofSettings settings).phase = .idle := rfl
  cases hp : Step.parseLines 1 lines with
  | error fault =>
    have hload : Engine.use host (.ofSettings settings) s (.load lines) = (.error fault, .ofSettings settings, s) := by
      rw [Engine.use, Engine.load_of_refused hidle hp]
      rfl
    rw [hload]
    exact agrees_of_refused hp rfl
  | ok steps =>
    have hload : ∃ e, Engine.use host (.ofSettings settings) s (.load lines) = (.ok (.loaded steps.length), e, s) ∧
        e.run.queue = steps := by
      simp only [Engine.use, Engine.load, hidle, hp]
      exact ⟨_, rfl, rfl⟩
    obtain ⟨e, hload, hqueue⟩ := hload
    rw [hload]
    exact agrees_of_accepted hp hqueue

end PageScript
