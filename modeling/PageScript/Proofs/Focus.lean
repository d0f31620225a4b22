import PageScript.Proofs.Abandonment
import PageScript.Proofs.Faithfulness
import PageScript.Proofs.Keeping
import PageScript.Proofs.Pacing

/-!
# The focus

A check of the focus asks for all elements and then for the class tokens of one after another. Nothing comes between
these requests, so that no element is gone when it is asked, and the check either finds the focus or finds it lost. No
other step finds the focus lost. So a lenient run is aborted by its checks of the focus alone, each of which sees the
document as the steps before it have left it, with all that has happened while they took their time.
-/
namespace PageScript

theorem Text.contains_iff {part s : List Char} : contains part s = true ↔ part <:+: s := by
  induction s with
  | nil => rw [contains, List.isEmpty_iff, List.infix_nil]
  | cons c s ih => rw [contains, Bool.or_eq_true, List.isPrefixOf_iff_prefix, ih, List.infix_cons_iff]

theorem Action.marksFocus_iff {token : String} : marksFocus token = true ↔ "focus".toList <:+: token.toList :=
  Text.contains_iff

/-! ## Single checks -/

/-- An element of a document has a class token that contains the mark of the focus. -/
def Document.HasFocus (d : Document) : Prop :=
  ∃ number classes, d.classNames number = .ok classes ∧ ∃ token ∈ classes, "focus".toList <:+: token.toList

theorem Document.Numbered.hasFocus_iff {d : Document} (hd : d.Numbered) :
    d.HasFocus ↔ ∃ n ∈ d.nodes, n.classes.any Action.marksFocus = true := by
  simp only [List.any_eq_true, Action.marksFocus_iff]
  constructor
  · rintro ⟨number, classes, hc, hfocus⟩
    obtain ⟨n, hn, rfl⟩ := map_eq_ok.mp hc
    exact ⟨n, mem_nodes_of_node hn, hfocus⟩
  · rintro ⟨n, hn, hfocus⟩
    exact ⟨n.number, n.classes, map_eq_ok.mpr ⟨n, node_of_mem_nodes hd hn, rfl⟩, hfocus⟩

namespace World

variable {w : World} {keyMap : List (String × Nat)} {timeout : Nat}

theorem classNames_of_mem_nodes (hd : w.document.Numbered) {n : Node} (hn : n ∈ w.document.nodes) :
    host.ask (.classNames n.number) w = (.ok n.classes, w) := by
  have hc : w.document.classNames n.number = .ok n.classes :=
    map_eq_ok.mpr ⟨n, Document.node_of_mem_nodes hd hn, rfl⟩
  exact congrArg (·, w) hc

/-- Every element that was enumerated is still there when it is asked for its classes. -/
theorem anyFocused_eq (hd : w.document.Numbered) {ns : List Node} (hns : ns ⊆ w.document.nodes) :
    Action.anyFocused host (ns.map Node.number) w = (.ok (ns.any (·.classes.any Action.marksFocus)), w) := by
  induction ns with
  | nil => rfl
  | cons n ns ih =>
    obtain ⟨hn, hrest⟩ := List.cons_subset.mp hns
    rw [List.map_cons, Action.anyFocused, Call.bind_apply, classNames_of_mem_nodes hd hn, List.any_cons]
    dsimp only
    cases hfocus : n.classes.any Action.marksFocus with
    | true => rfl
    | false => exact ih hrest

theorem queryAll_any (w : World) : host.ask (.queryAll "*") w = (.ok (w.document.nodes.map Node.number), w) := by
  have hany : Selector.parse "*" = .ok ⟨{}, []⟩ := rfl
  have hfound : w.document.nodes.map Node.number = w.document.found ⟨{}, []⟩ := (Document.found_any _).symm
  rw [hfound]
  exact Document.queryAll_eq hany w

theorem perform_checkFocus (hd : w.document.Numbered) (key : String) :
    (Action.checkFocus key).perform host keyMap timeout w =
      (if w.document.nodes.any (·.classes.any Action.marksFocus) then .ok s!"Focus OK after {key}"
        else .error (.focusLost key), w) := by
  rw [Action.perform, Call.bind_apply, queryAll_any]
  dsimp only
  rw [Call.bind_apply, anyFocused_eq hd (List.Subset.refl _)]
  dsimp only
  split <;> rfl

/-- A check of the focus says whether there is one, and never anything else. -/
theorem checkFocus_exact (hd : w.document.Numbered) (keyMap : List (String × Nat)) (timeout : Nat) (key : String) :
    (w.document.HasFocus →
      (Action.checkFocus key).perform host keyMap timeout w = (.ok s!"Focus OK after {key}", w)) ∧
    (¬ w.document.HasFocus →
      (Action.checkFocus key).perform host keyMap timeout w = (.error (.focusLost key), w)) := by
  rw [perform_checkFocus hd, hd.hasFocus_iff, ← List.any_eq_true]
  constructor
  · intro hfocus
    rw [if_pos hfocus]
  · intro hlost
    rw [if_neg hlost]

end World

/-! ## Whole runs -/

/-- The entries of a journal are what its steps come to, each in the state that the steps before it have left. -/
theorem mem_performAll {σ : Type} (host : Host σ) (keyMap : List (String × Nat)) (timeout : Nat) {steps : List Step}
    {s : σ} {x : Executed} :
    x ∈ (performAll host keyMap timeout steps s).1 ↔ ∃ before step after, steps = before ++ step :: after ∧
      x = (step.executed host keyMap timeout (performAll host keyMap timeout before s).2).1 := by
  induction steps generalizing s with
  | nil => simp [performAll]
  | cons first steps ih =>
    rw [performAll, List.mem_cons, ih]
    constructor
    · rintro (rfl | ⟨before, step, after, rfl, rfl⟩)
      · exact ⟨[], first, steps, rfl, rfl⟩
      · exact ⟨first :: before, step, after, rfl, rfl⟩
    · rintro ⟨_ | ⟨_, before⟩, step, after, he, rfl⟩
      · cases he
        exact .inl rfl
      · cases he
        exact .inr ⟨before, step, after, rfl, rfl⟩

/-- Among some steps there is a check of the focus that sees a document in which no element has it. -/
def LosesFocus (keyMap : List (String × Nat)) (timeout : Nat) (steps : List Step) (w : World) : Prop :=
  ∃ before step after key, steps = before ++ step :: after ∧ step.action = .checkFocus key ∧
    ¬ (performAll World.host keyMap timeout before w).2.document.HasFocus

theorem LosesFocus.mono {keyMap : List (String × Nat)} {timeout : Nat} {steps steps' : List Step} {w : World}
    (hs : steps <+: steps') (h : LosesFocus keyMap timeout steps w) : LosesFocus keyMap timeout steps' w := by
  obtain ⟨before, step, after, key, rfl, hcheck, hlost⟩ := h
  obtain ⟨later, rfl⟩ := hs
  exact ⟨before, step, after ++ later, key, by simp, hcheck, hlost⟩

namespace World

variable {w : World} {keyMap : List (String × Nat)} {timeout : Nat}

theorem keeping_numbered : Keeping host (fun w => w.document.Numbered) fun fault => fault.endsRun = false :=
  keeping fun w event _ hd => (becomes_step w event).edits.numbered hd

theorem focusLost_iff (hd : w.document.Numbered) (a : Action) :
    (∃ key, (a.perform host keyMap timeout w).1 = .error (.focusLost key)) ↔
      ∃ key, a = .checkFocus key ∧ ¬ w.document.HasFocus := by
  constructor
  · rintro ⟨key, hlost⟩
    by_contra hn
    push Not at hn
    by_cases ha : ∃ key, a = .checkFocus key
    · obtain ⟨key', rfl⟩ := ha
      rw [(checkFocus_exact hd keyMap timeout key').1 (hn key' rfl)] at hlost
      cases hlost
    · have hgoes := (keeping_numbered.perform (fun key ha' => absurd ⟨key, ha'⟩ ha) w hd).2 _ hlost
      cases hgoes
  · rintro ⟨key, rfl, hlost⟩
    exact ⟨key, congrArg Prod.fst ((checkFocus_exact hd keyMap timeout key).2 hlost)⟩

theorem wasAborted_iff (hd : w.document.Numbered) (steps : List Step) :
    WasAborted false (performAll host keyMap timeout steps w).1 ↔ LosesFocus keyMap timeout steps w := by
  have hends : ∀ x : Executed, x.Ends false ↔ ∃ key, x.result = .error (.focusLost key) := by
    simp [Executed.Ends]
  have hbefore (before : List Step) : (performAll host keyMap timeout before w).2.document.Numbered :=
    keeping_numbered.performAll before hd
  simp only [WasAborted, hends, mem_performAll]
  constructor
  · rintro ⟨x, ⟨before, step, after, he, rfl⟩, hlost⟩
    obtain ⟨key, hcheck, hnone⟩ := (focusLost_iff (hbefore before) step.action).mp hlost
    exact ⟨before, step, after, key, he, hcheck, hnone⟩
  · rintro ⟨before, step, after, key, he, hcheck, hnone⟩
    exact ⟨_, ⟨before, step, after, he, rfl⟩, (focusLost_iff (hbefore before) step.action).mpr ⟨key, hcheck, hnone⟩⟩

/-- A lenient run is aborted by its checks of the focus alone, and it makes all checks up to one that finds it lost. -/
theorem isSome_aborted_iff (hd : w.document.Numbered) {settings : Settings} (hlenient : settings.stopOnFailure = false)
    {lines : List String} {script : List Step} {now : Nat} {journal : List Executed} {r : Run} {w₁ : World}
    (hp : List.Forall₂ (fun line step => Step.parse line = .ok step) lines script)
    (hdrain : Engine.drain host settings.stopOnFailure (.start settings script now) w = (journal, r, w₁)) :
    (r.aborted.isSome = true ↔ LosesFocus settings.keyMap settings.timeout (journal.map Executed.step) w) ∧
      (r.aborted.isSome = true ↔
        LosesFocus settings.keyMap settings.timeout (expansion settings.delayBetween script) w) := by
  have haborted := (accounted_of_drain host hp hdrain).1.isSome_aborted
  have hprogress := drain_expansion host (running_start settings (written_of_parsed hp) now) w
  rw [hlenient] at haborted
  rw [hdrain, hlenient] at hprogress
  obtain ⟨hbegun, hall, -⟩ := hprogress
  have hjournal : WasAborted false journal ↔
      LosesFocus settings.keyMap settings.timeout (journal.map Executed.step) w := by
    rw [← wasAborted_iff hd, Engine.performAll_of_drain hdrain]
  rw [haborted]
  refine ⟨hjournal, fun hlost => (hjournal.mp hlost).mono hbegun, fun hlost => ?_⟩
  by_contra hn
  have hunended : ∀ x ∈ journal, ¬ x.Ends false := fun x hx hends => hn ⟨x, hx, hends⟩
  rw [← hall hunended] at hlost
  exact hn (hjournal.mpr hlost)

end World

/-- In every state that a page comes to, a check of the focus succeeds if the class tokens of some element say that it
has the focus, and otherwise says that it is lost. A run from there that may go on behind failures is aborted exactly if
one of its checks, be it a line of the script or one that follows a key press and the delay behind it, finds no such
element at its time. This holds of the steps that were performed as well as of all that the script stands for. -/
theorem execute_aborted_iff_focus_lost (page : Page) (timed : Bool) (longestWait : Nat) (events : List World.Event)
    {settings : Settings} (hlenient : settings.stopOnFailure = false) {lines : List String} {n : Nat} {e : Engine}
    (h : (Engine.ofSettings settings).load lines = (.ok n, e)) :
    let w := World.after { World.ofPage page with timed, longestWait } events
    (∀ keyMap timeout key,
      (w.document.HasFocus →
        (Action.checkFocus key).perform World.host keyMap timeout w = (.ok s!"Focus OK after {key}", w)) ∧
      (¬ w.document.HasFocus →
        (Action.checkFocus key).perform World.host keyMap timeout w = (.error (.focusLost key), w))) ∧
    ∃ script report journal e' w',
      List.Forall₂ (fun line step => Step.parse line = .ok step) lines script ∧
      e.execute World.host w = (.ok (report, journal), e', w') ∧
      (performAll World.host settings.keyMap settings.timeout (journal.map Executed.step) w).1 = journal ∧
      journal.map Executed.step <+: expansion settings.delayBetween script ∧
      (e'.run.aborted.isSome = true ↔
        LosesFocus settings.keyMap settings.timeout (journal.map Executed.step) w) ∧
      (e'.run.aborted.isSome = true ↔
        LosesFocus settings.keyMap settings.timeout (expansion settings.delayBetween script) w) ∧
      ∀ rep, report = some rep → rep.aborted = e'.run.aborted := by
  intro w
  have hd : w.document.Numbered := (World.becomes_after _ events).edits.numbered (Document.numbered_ofPage page)
  refine ⟨World.checkFocus_exact hd, ?_⟩
  obtain ⟨script, journal, r, w₁, hp, hdrain, he⟩ := Engine.execute_of_load World.host h w
  obtain ⟨hjournal, hexpansion⟩ := World.isSome_aborted_iff hd hlenient hp hdrain
  have hprogress := drain_expansion World.host
    (running_start settings (written_of_parsed hp) (World.host.stopwatch w)) w
  have hwhole := (accounted_of_drain World.host hp hdrain).2
  have hrun := r.aborted_finishReport
  rw [hdrain] at hprogress
  refine ⟨script, _, journal, _, _, hp, he, congrArg Prod.fst (Engine.performAll_of_drain hdrain), hprogress.1, ?_, ?_,
    fun rep hrep => (hwhole.finishReport hrep).2.trans (hrun _).symm⟩
  · exact (congrArg (·.isSome = true) (hrun _)).to_iff.trans hjournal
  · exact (congrArg (·.isSome = true) (hrun _)).to_iff.trans hexpansion

/-- A key press takes the focus away, not at once but in the delay behind it, and so the check after that delay finds
it lost. The click is left undone. -/
theorem execute_aborted_iff_focus_lost_delayed :
    let page : Page :=
      { body := [{ tag := "input", className := some "focus" }]
        onKey := [(40, [{ target := "input", change := .removeClass "focus", delay := 3 }])] }
    let settings : Settings := { keyMap := [("down", 40)], delayBetween := 5 }
    let lines := ["keyPress(down)", "click(input)"]
    let loaded := (Engine.ofSettings settings).load lines
    let w := World.after { World.ofPage page with timed := true } []
    settings.stopOnFailure = false ∧ loaded = (.ok 2, loaded.2) ∧
      ∃ script report journal e' w',
        List.Forall₂ (fun line step => Step.parse line = .ok step) lines script ∧
        loaded.2.execute World.host w = (.ok (report, journal), e', w') ∧
        journal.map (·.step.text) = ["keyPress(down)", "wait(5)", "checkFocus(down)"] ∧
        e'.run.aborted = some "Focus lost after pressing down" ∧
        LosesFocus settings.keyMap settings.timeout (expansion 5 script) w := by
  intro page settings lines loaded w
  have h : loaded = (.ok 2, loaded.2) := Prod.ext rfl rfl
  obtain ⟨-, script, report, journal, e', w', hp, he, -, -, -, hiff, -⟩ :=
    execute_aborted_iff_focus_lost page true thirtyYears [] (rfl : settings.stopOnFailure = false) h
  have hrun : ((loaded.2.execute World.host w).1.toOption.map fun out => out.2.map (·.step.text),
      (loaded.2.execute World.host w).2.1.run.aborted) =
      (some ["keyPress(down)", "wait(5)", "checkFocus(down)"], some "Focus lost after pressing down") := by
    decide +kernel
  change loaded.2.execute World.host w = _ at he
  rw [he] at hrun
  obtain ⟨hj, ha⟩ := Prod.mk.inj hrun
  exact ⟨rfl, h, script, report, journal, e', w', hp, he, Option.some.inj hj, ha, hiff.mp (by rw [ha]; rfl)⟩

end PageScript
