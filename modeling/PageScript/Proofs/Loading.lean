import Mathlib.Data.List.Forall2
import PageScript.Engine

/-!
# Loading a script

A script that is accepted puts one step into the queue for each of its lines, in order. Each step keeps its
line as it was written, and none of them is an injected one.
-/
namespace PageScript

/-- The texts of the steps that were not injected. -/
def scriptTexts (steps : List Step) : List String := (steps.filter (!·.synthetic)).map Step.text

@[simp] theorem scriptTexts_nil : scriptTexts [] = [] := rfl

@[simp] theorem scriptTexts_cons (step : Step) (steps : List Step) :
    scriptTexts (step :: steps) = (if step.synthetic then [] else [step.text]) ++ scriptTexts steps := by
  cases h : step.synthetic <;> simp [scriptTexts, h]

@[simp] theorem scriptTexts_append (steps later : List Step) :
    scriptTexts (steps ++ later) = scriptTexts steps ++ scriptTexts later := by
  simp [scriptTexts]

theorem scriptTexts_of_injected {steps : List Step} (h : ∀ step ∈ steps, step.synthetic = true) :
    scriptTexts steps = [] := by
  simpa [scriptTexts] using h

theorem scriptTexts_of_written {steps : List Step} (h : ∀ step ∈ steps, step.synthetic = false) :
    scriptTexts steps = steps.map Step.text := by
  rw [scriptTexts, List.filter_eq_self.mpr]
  simpa using h

theorem scriptTexts_prefix {steps later : List Step} (h : steps <+: later) :
    scriptTexts steps <+: scriptTexts later :=
  (h.filter _).map _

namespace Step

theorem text_of_parse {line : String} {step : Step} (h : parse line = .ok step) :
    step.text = line ∧ step.synthetic = false := by
  unfold parse at h
  cases hc : Command.parse line with
  | error fault => simp [hc, bind, Except.bind] at h
  | ok command =>
    cases ha : Action.resolve command with
    | error fault => simp [hc, ha, bind, Except.bind] at h
    | ok action =>
      simp only [hc, ha, bind, Except.bind, pure, Except.pure, Except.ok.injEq] at h
      subst h
      exact ⟨rfl, rfl⟩

theorem parseLines_eq_ok_iff {first : Nat} {lines : List String} {steps : List Step} :
    parseLines first lines = .ok steps ↔
      List.Forall₂ (fun line step => parse line = .ok step) lines steps := by
  induction lines generalizing first steps with
  | nil => cases steps <;> simp [parseLines]
  | cons line lines ih =>
    cases hp : parse line with
    | error fault => cases steps <;> simp [parseLines, hp]
    | ok step =>
      cases steps with
      | nil => cases hl : parseLines (first + 1) lines <;> simp [parseLines, hp, hl, Except.map]
      | cons step' rest =>
        rw [List.forall₂_cons, ← @ih (first + 1)]
        cases hl : parseLines (first + 1) lines <;> simp [parseLines, hp, hl, Except.map]

end Step

section

variable {lines : List String} {script : List Step}

theorem written_of_parsed (h : List.Forall₂ (fun line step => Step.parse line = .ok step) lines script) :
    ∀ step ∈ script, step.synthetic = false := by
  induction h with
  | nil => simp
  | cons hp _ ih =>
    intro step hs
    rcases List.mem_cons.mp hs with rfl | hs
    · exact (Step.text_of_parse hp).2
    · exact ih step hs

theorem texts_of_parsed (h : List.Forall₂ (fun line step => Step.parse line = .ok step) lines script) :
    script.map Step.text = lines := by
  induction h with
  | nil => rfl
  | cons hp _ ih => rw [List.map_cons, ih, (Step.text_of_parse hp).1]

theorem exists_line_of_mem (h : List.Forall₂ (fun line step => Step.parse line = .ok step) lines script)
    {step : Step} (hs : step ∈ script) : ∃ line ∈ lines, Step.parse line = .ok step := by
  induction h with
  | nil => cases hs
  | @cons line first lines script hp _ ih =>
    rcases List.mem_cons.mp hs with rfl | hs
    · exact ⟨line, by simp, hp⟩
    · obtain ⟨other, ho, hp⟩ := ih hs
      exact ⟨other, List.mem_cons_of_mem line ho, hp⟩

theorem scriptTexts_of_parsed
    (h : List.Forall₂ (fun line step => Step.parse line = .ok step) lines script) :
    scriptTexts script = lines := by
  rw [scriptTexts_of_written (written_of_parsed h), texts_of_parsed h]

end

namespace Engine

theorem load_eq_ok {e e' : Engine} {lines : List String} {n : Nat} (h : e.load lines = (.ok n, e')) :
    ∃ script, Step.parseLines 1 lines = .ok script ∧
      e' = { e with run := { e.run with queue := e.run.queue ++ script, phase := .loading } } := by
  unfold load at h
  split at h
  · cases h
  · cases hp : Step.parseLines 1 lines with
    | error fault => simp [hp] at h
    | ok script =>
      simp only [hp, Prod.mk.injEq] at h
      exact ⟨script, rfl, h.2.symm⟩

end Engine

end PageScript
