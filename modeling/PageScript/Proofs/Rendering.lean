import PageScript.Proofs.Abandonment

/-!
# What the text of a report shows

The text shows what failed and which lines were left out. The reason of an early end stands only in the heading of the
lines that were left out, so that a run that ends early with its last line leaves a text that says nothing of it.
-/
namespace PageScript

namespace Text

/-- The parts stand in the text one behind another, with any text around them. -/
inductive Shows : String → List String → Prop
  | nil (text : String) : Shows text []
  | cons (before part : String) {rest : String} {parts : List String} (h : Shows rest parts) :
      Shows (before ++ (part ++ rest)) (part :: parts)

variable {text text' : String} {parts parts' : List String}

theorem Shows.behind (before : String) (h : Shows text parts) : Shows (before ++ text) parts := by
  cases h with
  | nil => exact .nil _
  | cons before' part h =>
    rw [← String.append_assoc]
    exact .cons _ part h

theorem Shows.append (h : Shows text parts) (h' : Shows text' parts') : Shows (text ++ text') (parts ++ parts') := by
  induction h with
  | nil text => exact h'.behind text
  | cons before part h ih =>
    simp only [String.append_assoc, List.cons_append]
    exact .cons before part ih

theorem shows_singleton (before part rest : String) : Shows (before ++ (part ++ rest)) [part] :=
  .cons before part (.nil rest)

theorem Shows.occurs {part : String} (h : Shows text [part]) : part.toList <:+: text.toList := by
  cases h with
  | cons before _ h => simp

theorem unlines_cons (line : String) (lines : List String) :
    unlines (line :: lines) = line ++ ("\n" ++ unlines lines) := by
  simp [unlines, String.append_assoc]

theorem unlines_append (lines lines' : List String) : unlines (lines ++ lines') = unlines lines ++ unlines lines' := by
  induction lines with
  | nil => simp [unlines]
  | cons line lines ih => simp only [List.cons_append, unlines_cons, ih, String.append_assoc]

/-- Lines that show a part each show all of them. -/
theorem shows_unlines {α : Type} {line part : α → String} (h : ∀ a, Shows (line a) [part a]) (items : List α) :
    Shows (unlines (items.map line)) (items.map part) := by
  induction items with
  | nil => exact .nil _
  | cons a items ih =>
    rw [List.map_cons, List.map_cons, unlines_cons]
    exact (h a).append (ih.behind "\n")

end Text

open Text (Shows)

namespace Report

variable (r : Report)

theorem shows_failures : Shows (Text.unlines (r.failures false)) (r.failed.map Outcome.message) := by
  have hitem (o : Outcome) : Shows s!"  ✗ {o.message}" [o.message] := by
    simpa [toString] using Text.shows_singleton "  ✗ " o.message ""
  have hitems := Text.shows_unlines hitem r.failed
  by_cases hf : r.failed = []
  · simp [failures, hf, Shows.nil]
  · simp only [failures, List.isEmpty_iff, hf, if_false, Text.unlines_cons, Text.Style.paint_false]
    exact ((((hitems.behind _).behind _).behind _).behind _)

theorem shows_heading : Shows r.incompleteHeading r.aborted.toList := by
  cases ha : r.aborted with
  | none => exact .nil _
  | some reason =>
    have h := Text.shows_singleton "Unable to complete the following tests (" reason ")"
    simpa [incompleteHeading, ha, String.append_assoc, toString] using h

theorem shows_missing (h : r.incomplete ≠ []) :
    Shows (Text.unlines (r.missing false)) (r.aborted.toList ++ r.incomplete) := by
  have hitem (line : String) : Shows ("  " ++ line) [id line] := by
    simpa using Text.shows_singleton "  " line ""
  have hitems := Text.shows_unlines hitem r.incomplete
  rw [List.map_id] at hitems
  simp only [missing, List.isEmpty_iff, h, if_false, Text.unlines_cons, Text.Style.paint_false]
  exact ((r.shows_heading.append (hitems.behind _)).behind _).behind _

theorem render_eq (colours : Bool) : r.render colours =
    Text.unlines (r.summary colours) ++ (Text.unlines (r.failures colours) ++ Text.unlines (r.missing colours)) := by
  rw [render, Text.unlines_append, Text.unlines_append, String.append_assoc]

/-- If lines were left out, the text shows all that there is to show. -/
theorem shows_render (h : r.incomplete ≠ []) :
    Shows (r.render false) (r.failed.map Outcome.message ++ (r.aborted.toList ++ r.incomplete)) := by
  rw [render_eq]
  exact (r.shows_failures.append (r.shows_missing h)).behind _

/-- If no line was left out, the text shows what failed, and it is the same for every reason. -/
theorem render_of_complete (h : r.incomplete = []) :
    Shows (r.render false) (r.failed.map Outcome.message) ∧
      ∀ reason, { r with aborted := reason }.render false = r.render false := by
  have hmissing : ∀ reason, { r with aborted := reason }.missing false = [] := by simp [missing, h]
  constructor
  · have hs := r.shows_failures.append (.nil (Text.unlines (r.missing false)))
    rw [List.append_nil] at hs
    rw [render_eq]
    exact hs.behind _
  · intro reason
    simp only [render, hmissing reason, hmissing r.aborted]
    rfl

end Report

/-- The text of the report of a run shows every message of a failure and every line that was left out, in order. If a
line was left out, the reason stands between them. But if every line was performed, the text is the same for every
reason, so that it shows none, even if the run was aborted. -/
theorem execute_render_shows {σ : Type} (host : Host σ) {settings : Settings} {lines : List String} {n : Nat}
    {e : Engine} (h : (Engine.ofSettings settings).load lines = (.ok n, e)) (s : σ) :
    ∃ report journal e' s',
      e.execute host s = (.ok (report, journal), e', s') ∧
      (performAll host settings.keyMap settings.timeout (journal.map Executed.step) s).1 = journal ∧
      ∀ rep, report = some rep →
        (rep.aborted.isSome = true ↔ WasAborted settings.stopOnFailure journal) ∧
        (scriptTexts (journal.map Executed.step) ≠ lines → ∃ reason, rep.aborted = some reason ∧
          Shows (rep.render false) (rep.failed.map Outcome.message ++ reason :: rep.incomplete)) ∧
        (scriptTexts (journal.map Executed.step) = lines → rep.incomplete = [] ∧
          Shows (rep.render false) (rep.failed.map Outcome.message) ∧
          ∀ reason, { rep with aborted := reason }.render false = rep.render false) := by
  obtain ⟨script, journal, r, s₁, hp, hd, he⟩ := Engine.execute_of_load host h s
  obtain ⟨ha, hw⟩ := accounted_of_drain host hp hd
  refine ⟨_, journal, _, _, he, congrArg Prod.fst (Engine.performAll_of_drain hd), ?_⟩
  intro rep hrep
  obtain ⟨hi, hab⟩ := hw.finishReport hrep
  have htexts := ha.texts_eq
  rw [scriptTexts_of_parsed hp, ← hi] at htexts
  refine ⟨hab ▸ ha.isSome_aborted, fun hne => ?_, fun hall => ?_⟩
  · have hleft : rep.incomplete ≠ [] := by
      intro hnil
      rw [hnil, List.append_nil] at htexts
      exact hne htexts
    cases hreason : rep.aborted with
    | none => exact absurd (hi.trans (ha.incomplete_eq (hab ▸ hreason))) hleft
    | some reason =>
      have hs := rep.shows_render hleft
      rw [hreason] at hs
      exact ⟨reason, rfl, hs⟩
  · have hnil : rep.incomplete = [] := by simpa [hall] using htexts
    exact ⟨hnil, rep.render_of_complete hnil⟩

/-- The focus is lost behind the last line: the report is no success, and its text is that of a success. -/
theorem execute_render_shows_focusLost :
    let settings : Settings := { keyMap := [("down", 40)] }
    let loaded := (Engine.ofSettings settings).load ["keyPress(down)"]
    loaded = (.ok 1, loaded.2) ∧
      ∃ rep journal e' w,
        loaded.2.execute World.host (World.ofPage {}) = (.ok (some rep, journal), e', w) ∧
        rep.isSuccess = false ∧ rep.aborted = some "Focus lost after pressing down" ∧
        rep.render false = { rep with aborted := none }.render false ∧
        { rep with aborted := none }.isSuccess = true ∧
        ¬Shows (rep.render false) ["Focus lost after pressing down"] := by
  intro settings loaded
  have h : loaded = (.ok 1, loaded.2) := Prod.ext rfl rfl
  obtain ⟨report, journal, e', w, he, -, hrep⟩ := execute_render_shows World.host h (World.ofPage {})
  let rep : Report := {
    outcomes := [⟨true, "Pressed down", "keyPress(down)"⟩]
    aborted := some "Focus lost after pressing down" }
  have hrun : (loaded.2.execute World.host (World.ofPage {})).1.toOption.map (fun out =>
      (out.1, scriptTexts (out.2.map Executed.step))) = some (some rep, ["keyPress(down)"]) := by
    decide +kernel
  rw [he] at hrun
  obtain ⟨rfl, hall⟩ : report = some rep ∧ scriptTexts (journal.map Executed.step) = ["keyPress(down)"] := by
    simpa only [Except.toOption, Option.map_some, Option.some.injEq, Prod.mk.injEq] using hrun
  obtain ⟨-, -, hsame⟩ := (hrep rep rfl).2.2 hall
  refine ⟨h, rep, journal, e', w, he, rfl, rfl, (hsame none).symm, rfl, fun hs => ?_⟩
  have habsent : ¬"Focus lost after pressing down".toList <:+: (rep.render false).toList := by decide +kernel
  exact habsent hs.occurs

end PageScript
