import PageScript.Proofs.Listening
import PageScript.Proofs.Pacing

/-!
# Pages without delays

On a page none of whose effects has a delay everything happens at once. Nothing is ever pending, so that waiting
changes nothing but the time, and an element that is not there at the first look does not come.
-/
namespace PageScript

/-! ## Effects without delays -/

mutual

/-- Whether no effect of an element, or of what is below it or comes to it, has a delay. -/
def Element.isPrompt : Element → Bool
  | { children, onClick, .. } => Element.allPrompt children && Effect.allPrompt onClick

def Element.allPrompt : List Element → Bool
  | [] => true
  | element :: elements => element.isPrompt && Element.allPrompt elements

/-- Whether an effect has no delay, nor any effect of an element that it appends. -/
def Effect.isPrompt : Effect → Bool
  | { change, delay, .. } => delay == 0 && change.isPrompt

def Effect.allPrompt : List Effect → Bool
  | [] => true
  | effect :: effects => effect.isPrompt && Effect.allPrompt effects

def Change.isPrompt : Change → Bool
  | .append element => element.isPrompt
  | _ => true

end

/-- Whether no effect of a page has a delay, wherever it stands. -/
def Page.isPrompt (p : Page) : Bool := Element.allPrompt p.body && p.onKey.all fun key => Effect.allPrompt key.2

theorem Element.allPrompt_iff {es : List Element} : Element.allPrompt es = true ↔ ∀ e ∈ es, e.isPrompt = true := by
  induction es with
  | nil => simp [Element.allPrompt]
  | cons e es ih => rw [Element.allPrompt, Bool.and_eq_true, ih, List.forall_mem_cons]

theorem Effect.allPrompt_iff {es : List Effect} : Effect.allPrompt es = true ↔ ∀ e ∈ es, e.isPrompt = true := by
  induction es with
  | nil => simp [Effect.allPrompt]
  | cons e es ih => rw [Effect.allPrompt, Bool.and_eq_true, ih, List.forall_mem_cons]

/-! ## Documents without delays -/

namespace Tree

mutual

theorem prompt_ofElement (next : Nat) (e : Element) (h : e.isPrompt = true) :
    ∀ n ∈ (ofElement next e).nodes, Effect.allPrompt n.onClick = true := by
  obtain ⟨tag, id, className, value, text, attrs, children, onClick⟩ := e
  rw [Element.isPrompt, Bool.and_eq_true] at h
  rw [ofElement, forall_nodes_node]
  exact ⟨h.2, prompt_ofElements (next + 1) children h.1⟩

theorem prompt_ofElements (next : Nat) (es : List Element) (h : Element.allPrompt es = true) :
    ∀ t ∈ ofElements next es, ∀ n ∈ t.nodes, Effect.allPrompt n.onClick = true := by
  cases es with
  | nil => simp [ofElements]
  | cons e es =>
    rw [Element.allPrompt, Bool.and_eq_true] at h
    rw [ofElements, List.forall_mem_cons]
    exact ⟨prompt_ofElement next e h.1, prompt_ofElements _ es h.2⟩

end

end Tree

namespace Document

/-- No effect that clicking an element or pressing a key has in a document has a delay. -/
structure Prompt (d : Document) : Prop where
  onClick : ∀ n ∈ d.nodes, Effect.allPrompt n.onClick = true
  onKey : ∀ key ∈ d.onKey, Effect.allPrompt key.2 = true

variable {d d' : Document}

theorem prompt_ofPage {p : Page} (h : p.isPrompt = true) : (ofPage p).Prompt := by
  rw [Page.isPrompt, Bool.and_eq_true, List.all_eq_true] at h
  exact ⟨Tree.forall_nodes_node.mpr ⟨rfl, Tree.prompt_ofElements 1 p.body h.1⟩, h.2⟩

theorem Prompt.update (h : d.Prompt) {change : Node → Node} (hc : ∀ n, (change n).onClick = n.onClick) (number : Nat) :
    (d.update number change).Prompt :=
  ⟨Tree.forall_nodes_update h.onClick (fun n hn => (hc n).symm ▸ hn) number, h.onKey⟩

theorem Prompt.insert (h : d.Prompt) (parent : Nat) {element : Element} (he : element.isPrompt = true) :
    (d.insert parent element).Prompt :=
  ⟨Tree.forall_nodes_append h.onClick (Tree.prompt_ofElement d.next element he) parent, h.onKey⟩

theorem Prompt.remove (h : d.Prompt) (t : Tree) : (d.remove t).Prompt :=
  ⟨Tree.forall_nodes_remove h.onClick t.root.number, h.onKey⟩

theorem Prompt.change (h : d.Prompt) {n : Node} {c : Change} (hc : c.isPrompt = true) (hd : d.change n c = .ok d') :
    d'.Prompt := by
  cases c with
  | setValue value | setText text | removeClass token =>
    cases hd
    refine h.update (fun m => ?_) _
    rfl
  | addClass token =>
    cases hd
    refine h.update (fun m => ?_) _
    split <;> rfl
  | append element =>
    cases hd
    exact h.insert _ hc
  | remove =>
    rw [Document.change] at hd
    split at hd
    · cases hd
    · obtain ⟨t, -, rfl⟩ := map_eq_ok.mp hd
      exact h.remove t

theorem Prompt.apply (h : d.Prompt) {e : Effect} (he : e.isPrompt = true) (hd : d.apply e = .ok (some d')) :
    d'.Prompt := by
  obtain ⟨target, c, delay⟩ := e
  rw [Effect.isPrompt, Bool.and_eq_true] at he
  obtain ⟨n, -, hc⟩ := exists_change_of_apply hd
  exact h.change he.2 hc

theorem Prompt.setValue (h : d.Prompt) {number : Nat} {value : String} (hd : d.setValue number value = .ok d') :
    d'.Prompt := by
  obtain ⟨n, -, rfl⟩ := map_eq_ok.mp hd
  refine h.update (fun m => ?_) _
  rfl

theorem Prompt.activate (h : d.Prompt) {number : Nat} {effects : List Effect}
    (hd : d.activate number = .ok (effects, d')) : Effect.allPrompt effects = true ∧ d'.Prompt := by
  obtain ⟨n, hn, hd⟩ := map_eq_ok.mp hd
  cases hd
  exact ⟨h.onClick n (mem_nodes_of_node hn), h.onClick, h.onKey⟩

theorem Prompt.keyDown (h : d.Prompt) (code : Nat) :
    Effect.allPrompt (d.keyDown code).1 = true ∧ (d.keyDown code).2.Prompt := by
  refine ⟨?_, h.onClick, h.onKey⟩
  rcases d.keyDown_effects code with hnone | ⟨key, hkey, heffects⟩
  · rw [hnone]
    rfl
  · exact heffects ▸ h.onKey key hkey

end Document

/-! ## Worlds in which nothing is pending -/

/-- What a look for an element that does not wait comes to. -/
def Document.look (d : Document) (selector : String) (timeout : Nat) : Except Fault Nat :=
  match d.selectFirst selector with
  | .error fault => .error fault
  | .ok (some n) => .ok n.number
  | .ok none => .error (.elementNotFound selector timeout)

namespace World

/-- Nothing is pending, and nothing ever will be. -/
structure Still (w : World) : Prop where
  orderly : w.Orderly
  pending : w.pending = []
  prompt : w.document.Prompt

/-- Still worlds with the same document. They may differ in their times and observers. -/
structure Alike (w w' : World) : Prop where
  left : w.Still
  right : w'.Still
  document : w.document = w'.document

variable {w w' : World}

theorem still_ofPage {p : Page} (h : p.isPrompt = true) (timed : Bool) (longestWait : Nat) :
    Still { ofPage p with timed, longestWait } where
  orderly := orderly_ofPage p timed longestWait
  pending := rfl
  prompt := Document.prompt_ofPage h

theorem Still.notify (h : w.Still) {d : Document} (hd : d.Prompt) : (w.notify d).Still :=
  ⟨h.orderly.notify d, h.pending, hd⟩

theorem Still.sleepUntil (h : w.Still) (deadline : Nat) :
    (w.sleepUntil deadline).Still ∧ (w.sleepUntil deadline).document = w.document := by
  have heq : w.sleepUntil deadline = { w with pending := [], now := max w.now deadline } := by
    rw [World.sleepUntil, h.pending, runUntil]
  have ho := h.orderly.elapsed (Orderly.elapsed_runUntil deadline h.orderly)
  exact ⟨⟨ho, by rw [heq], by rw [heq]; exact h.prompt⟩, by rw [heq]⟩

theorem Still.await (h : w.Still) (selector : String) (timeout : Nat) :
    (host.await selector timeout w).1 = w.document.look selector timeout ∧
      (host.await selector timeout w).2.Still ∧ (host.await selector timeout w).2.document = w.document := by
  have hobserved : w.observe.2.Still := ⟨h.orderly.observe, h.pending, h.prompt⟩
  have hleave : ∀ {v : World}, v.Still → (v.unobserve w.nextObserver).Still := fun {v} hv =>
    ⟨orderly_step v (.unobserve w.nextObserver) hv.orderly, hv.pending, hv.prompt⟩
  have hahead : host.changesAhead (.live w.nextObserver) w.observe.2 = 0 := by
    change w.observe.2.unread w.nextObserver + w.pending.length = 0
    rw [h.orderly.unread_observe, h.pending]
    rfl
  have hsearch := search_eq w.observe.2 (.live w.nextObserver) selector timeout
  have hdoc : w.observe.2.document = w.document := rfl
  rw [hahead, hdoc] at hsearch
  rw [await_eq, hsearch, Document.look]
  rcases w.document.selectFirst selector with fault | _ | n
  · exact ⟨rfl, hleave hobserved, rfl⟩
  · obtain ⟨hs, hd⟩ := hobserved.sleepUntil (w.observe.2.ahead timeout)
    exact ⟨rfl, hleave hs, hd⟩
  · exact ⟨rfl, hleave hobserved, rfl⟩

namespace Alike

theorem symm (h : w.Alike w') : w'.Alike w := ⟨h.right, h.left, h.document.symm⟩

theorem trans {w'' : World} (h : w.Alike w') (h' : w'.Alike w'') : w.Alike w'' :=
  ⟨h.left, h'.right, h.document.trans h'.document⟩

theorem notify (h : w.Alike w') {d : Document} (hd : d.Prompt) : (w.notify d).Alike (w'.notify d) :=
  ⟨h.left.notify hd, h.right.notify hd, rfl⟩

theorem note (h : w.Alike w') {d : Document} (hd : d.Prompt) :
    Alike { w with document := d } { w' with document := d } :=
  ⟨⟨⟨h.left.orderly.sorted, h.left.orderly.ahead, h.left.orderly.known⟩, h.left.pending, hd⟩,
    ⟨⟨h.right.orderly.sorted, h.right.orderly.ahead, h.right.orderly.known⟩, h.right.pending, hd⟩, rfl⟩

/-- An effect without delay is applied at once, and does the same in worlds that are alike. -/
theorem trigger (h : w.Alike w') {e : Effect} (he : e.isPrompt = true) :
    (∃ fault, w.trigger e = .error fault ∧ w'.trigger e = .error fault) ∨
      ∃ v v', w.trigger e = .ok v ∧ w'.trigger e = .ok v' ∧ v.Alike v' := by
  have hdelay : e.delay = 0 := by
    obtain ⟨target, c, delay⟩ := e
    rw [Effect.isPrompt, Bool.and_eq_true] at he
    simpa using he.1
  rw [World.trigger, World.trigger, if_pos hdelay, if_pos hdelay, World.apply, World.apply, ← h.document]
  cases ha : w.document.apply e with
  | error fault => exact .inl ⟨fault, rfl, rfl⟩
  | ok changed =>
    right
    cases changed with
    | none => exact ⟨w, w', rfl, rfl, h⟩
    | some d => exact ⟨w.notify d, w'.notify d, rfl, rfl, h.notify (h.left.prompt.apply he ha)⟩

theorem triggerAll (h : w.Alike w') {effects : List Effect} (he : Effect.allPrompt effects = true) :
    (w.triggerAll effects).1 = (w'.triggerAll effects).1 ∧ (w.triggerAll effects).2.Alike (w'.triggerAll effects).2 := by
  induction effects generalizing w w' with
  | nil => exact ⟨rfl, h⟩
  | cons e effects ih =>
    rw [Effect.allPrompt, Bool.and_eq_true] at he
    rw [World.triggerAll, World.triggerAll]
    rcases h.trigger he.1 with ⟨fault, ht, ht'⟩ | ⟨v, v', ht, ht', hv⟩
    · rw [ht, ht']
      exact ⟨rfl, h⟩
    · rw [ht, ht']
      exact ih hv he.2

theorem activate (h : w.Alike w') (number : Nat) :
    (w.activate number).1 = (w'.activate number).1 ∧ (w.activate number).2.Alike (w'.activate number).2 := by
  rw [World.activate, World.activate, ← h.document]
  cases ha : w.document.activate number with
  | error fault => exact ⟨rfl, h⟩
  | ok out =>
    obtain ⟨he, hd⟩ := h.left.prompt.activate ha
    exact (h.note hd).triggerAll he

theorem setValue (h : w.Alike w') (number : Nat) (value : String) :
    (w.setValue number value).1 = (w'.setValue number value).1 ∧
      (w.setValue number value).2.Alike (w'.setValue number value).2 := by
  rw [World.setValue, World.setValue, ← h.document]
  cases hs : w.document.setValue number value with
  | error fault => exact ⟨rfl, h⟩
  | ok d => exact ⟨rfl, h.notify (h.left.prompt.setValue hs)⟩

theorem keyDown (h : w.Alike w') (code : Nat) :
    (w.keyDown code).1 = (w'.keyDown code).1 ∧ (w.keyDown code).2.Alike (w'.keyDown code).2 := by
  obtain ⟨he, hd⟩ := h.left.prompt.keyDown code
  have ht := (h.note hd).triggerAll he
  rw [World.keyDown, World.keyDown, ← h.document]
  dsimp only
  revert ht
  rcases World.triggerAll { w with document := (w.document.keyDown code).2 } (w.document.keyDown code).1
    with ⟨_ | _, v⟩ <;>
  rcases World.triggerAll { w' with document := (w.document.keyDown code).2 } (w.document.keyDown code).1
    with ⟨result, v'⟩ <;>
  · rintro ⟨rfl, ha⟩
    exact ⟨rfl, ha⟩

theorem answer (h : w.Alike w') (r : Request) :
    (answer r w).1 = (answer r w').1 ∧ (World.answer r w).2.Alike (World.answer r w').2 := by
  cases r with
  | activate number => exact h.activate number
  | setValue number value => exact h.setValue number value
  | keyDown code => exact h.keyDown code
  | clearLocalStorage =>
    refine ⟨rfl, ?_⟩
    have hd : w.document.clearLocalStorage.Prompt := ⟨h.left.prompt.onClick, h.left.prompt.onKey⟩
    have hn := h.note hd
    rw [World.answer, World.answer, World.clearLocalStorage, World.clearLocalStorage, ← h.document]
    exact hn
  | _ => exact ⟨by simp only [World.answer, h.document], h⟩

end Alike

theorem timeless (timeout : Nat) : Timeless host Alike timeout where
  symm h := h.symm
  trans h h' := h.trans h'
  call r w w' h := .inr (h.answer r)
  await selector w w' h := by
    obtain ⟨hresult, hs, hd⟩ := h.left.await selector timeout
    obtain ⟨hresult', hs', hd'⟩ := h.right.await selector timeout
    right
    refine ⟨?_, hs, hs', ?_⟩
    · rw [hresult, hresult', h.document]
    · rw [hd, hd', h.document]
  sleep ms w w' h := by
    obtain ⟨hs, hd⟩ := h.left.sleepUntil (w.ahead ms)
    exact ⟨hs, h.right, hd.trans h.document⟩

end World

/-- On a page without delays the pace of a run does not matter. With any delay between commands, and without any of
the lines that wait, there is a report with the same outcomes and the same reason for an early end, or none as before,
and the document is the same in the end. The lines left undone are the same but for those left out. -/
theorem execute_timeless {page : Page} (hpage : page.isPrompt = true) (timed : Bool) (longestWait : Nat)
    (settings : Settings) (delay : Nat) {marked : List (String × Bool)}
    (hw : ∀ line ∈ marked, line.2 = false → ∀ step, Step.parse line.1 = .ok step → step.action.isWait = true)
    {n : Nat} {e : Engine} (h : (Engine.ofSettings settings).load (marked.map Prod.fst) = (.ok n, e)) :
    let w : World := { World.ofPage page with timed, longestWait }
    ∃ n' e' report report' journal journal' e₁ e₁' w₁ w₁',
      (Engine.ofSettings { settings with delayBetween := delay }).load ((marked.filter Prod.snd).map Prod.fst) =
        (.ok n', e') ∧
      e.execute World.host w = (.ok (report, journal), e₁, w₁) ∧
      e'.execute World.host w = (.ok (report', journal'), e₁', w₁') ∧
      report'.map Report.outcomes = report.map Report.outcomes ∧
      report'.map Report.aborted = report.map Report.aborted ∧
      w₁'.document = w₁.document ∧
      ∀ rep rep', report = some rep → report' = some rep' →
        ∃ done left, marked = done ++ left ∧ rep.incomplete = left.map Prod.fst ∧
          rep'.incomplete = (left.filter Prod.snd).map Prod.fst := by
  intro w
  have hs : w.Still := World.still_ofPage hpage timed longestWait
  obtain ⟨n', e', report, report', journal, journal', e₁, e₁', w₁, w₁', hload, he, he', -, ha, ho, hb, hi⟩ :=
    (World.timeless settings.timeout).execute_marked ⟨hs, hs, rfl⟩ delay hw h
  exact ⟨n', e', report, report', journal, journal', e₁, e₁', w₁, w₁', hload, he, he', ho, hb, ha.document.symm, hi⟩

/-- The focus is lost behind a key press. Of the two lines left undone one is a wait, and the other is left undone also
in a script without that wait and without delays. -/
theorem execute_timeless_focusLost :
    let page : Page := { body := [{ tag := "button", id := some "go" }] }
    let settings : Settings := { keyMap := [("down", 40)], delayBetween := 5 }
    let marked := [("wait(3)", false), ("click(#go)", true), ("wait(7)", true), ("keyPress(down)", true),
      ("wait(1)", false), ("click(#go)", true)]
    let loaded := (Engine.ofSettings settings).load (marked.map Prod.fst)
    page.isPrompt = true ∧
      (∀ line ∈ marked, line.2 = false → ∀ step, Step.parse line.1 = .ok step → step.action.isWait = true) ∧
      loaded = (.ok 6, loaded.2) ∧
      ∃ n' e' rep rep' journal journal' e₁ e₁' w₁ w₁',
        (Engine.ofSettings { settings with delayBetween := 0 }).load ((marked.filter Prod.snd).map Prod.fst) =
          (.ok n', e') ∧
        loaded.2.execute World.host (World.ofPage page) = (.ok (some rep, journal), e₁, w₁) ∧
        e'.execute World.host (World.ofPage page) = (.ok (some rep', journal'), e₁', w₁') ∧
        rep'.outcomes = rep.outcomes ∧ rep.incomplete = ["wait(1)", "click(#go)"] ∧ rep'.incomplete = ["click(#go)"] := by
  intro page settings marked loaded
  have hpage : page.isPrompt = true := by decide +kernel
  have hw : ∀ line ∈ marked, line.2 = false → ∀ step, Step.parse line.1 = .ok step → step.action.isWait = true := by
    intro line hline hleft step hs
    have hall : ∀ line ∈ marked, line.2 = false → (Step.parse line.1).toOption.all (·.action.isWait) := by
      decide +kernel
    simpa [hs, Except.toOption] using hall line hline hleft
  have h : loaded = (.ok 6, loaded.2) := Prod.ext rfl rfl
  obtain ⟨n', e', report, report', journal, journal', e₁, e₁', w₁, w₁', hload, he, he', ho, -, -, hi⟩ :=
    execute_timeless hpage false thirtyYears settings 0 hw h
  have hrun : (loaded.2.execute World.host (World.ofPage page)).1.toOption.map (·.1.map Report.incomplete) =
      some (some ["wait(1)", "click(#go)"]) := by
    decide +kernel
  change loaded.2.execute World.host (World.ofPage page) = _ at he
  have hincomplete : report.map Report.incomplete = some ["wait(1)", "click(#go)"] := by
    simpa [he, Except.toOption] using hrun
  obtain ⟨rep, rfl, hrep⟩ := Option.map_eq_some_iff.mp hincomplete
  obtain ⟨rep', rfl, hout⟩ := Option.map_eq_some_iff.mp ho
  obtain ⟨done, left, hm, hl, hl'⟩ := hi rep rep' rfl rfl
  have hlength : left.length = 2 := by simpa [hrep] using (congrArg List.length hl).symm
  have hleft : left = marked.drop 4 := by
    have hdone : done.length = 4 := by
      have hall : 6 = done.length + left.length := by simpa [marked] using congrArg List.length hm
      omega
    rw [hm, ← hdone, List.drop_left]
  rw [hleft] at hl'
  exact ⟨hpage, hw, h, n', e', rep, rep', journal, journal', e₁, e₁', w₁, w₁', hload, he, he', hout, hrep, hl'⟩

end PageScript
