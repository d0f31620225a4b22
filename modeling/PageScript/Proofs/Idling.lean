import PageScript.Run
import PageScript.Proofs.Effects
import PageScript.Proofs.Typing

/-!
# Actions that come to nothing

An action that does not find what it looks for, or finds something else, has done nothing but wait: the world is as if
it had been left alone for that time. Effects may have been due at the very instant at which the wait ended. A sleep
ends before these happen, and so does a wait whose time is up, but a wait that is ended by a change ends behind all
effects of the instant of that change.
-/
namespace PageScript

namespace World

variable {w w' w'' : World} {id deadline instant : Nat} {p : Pending} {ps : List Pending}

/-! ## Letting time pass -/

/-- Goes to an instant and lets the effects that are due at it happen as well. -/
def sleepThrough (w : World) (instant : Nat) : World :=
  { w.sleepUntil (instant + 1) with now := max w.now instant }

theorem runUntil_congr (now : Nat) (qs : List Pending) :
    runUntil deadline { w with now, pending := qs } ps = { runUntil deadline w ps with now := max now deadline } := by
  induction ps generalizing w now with
  | nil => rfl
  | cons p ps ih =>
    have hhappen : happen { w with now, pending := qs } p =
        { w.happen p with now := max now p.due, pending := qs } := by
      rw [happen_eq, happen_eq]
      rcases w.document.apply p.effect with fault | _ | d <;> rfl
    rw [runUntil, runUntil, hhappen]
    split
    · have hmax : max (max now p.due) deadline = max now deadline := by omega
      rw [ih, hmax]
    · rfl

theorem runUntil_pending (qs : List Pending) :
    runUntil deadline { w with pending := qs } ps = runUntil deadline w ps := by
  have hnow : (runUntil deadline w ps).now = max w.now deadline := now_runUntil deadline w ps
  have hcongr : runUntil deadline { w with pending := qs } ps =
      { runUntil deadline w ps with now := max w.now deadline } := runUntil_congr w.now qs
  rw [hcongr, ← hnow]

theorem runUntil_runUntil {later : Nat} (h : deadline ≤ later) (w : World) (ps : List Pending) :
    (runUntil deadline w ps).sleepUntil later = runUntil later w ps := by
  induction ps generalizing w with
  | nil =>
    have hmax : max (max w.now deadline) later = max w.now later := by omega
    rw [runUntil, runUntil, sleepUntil, runUntil, hmax]
  | cons p ps ih =>
    by_cases hp : p.due < deadline
    · rw [runUntil, if_pos hp, ih, runUntil, if_pos (hp.trans_le h)]
    · have hmax : max (max w.now deadline) later = max w.now later := by omega
      have hstop : runUntil deadline w (p :: ps) = { w with now := max w.now deadline, pending := p :: ps } := by
        rw [runUntil, if_neg hp]
      have hnow : (runUntil later w (p :: ps)).now = max w.now later := now_runUntil ..
      rw [hstop, sleepUntil, runUntil_congr, hmax, ← hnow]

theorem sleepUntil_sleepUntil {later : Nat} (h : deadline ≤ later) (w : World) :
    (w.sleepUntil deadline).sleepUntil later = w.sleepUntil later := runUntil_runUntil h w w.pending

theorem now_sleepUntil (w : World) (deadline : Nat) : (w.sleepUntil deadline).now = max w.now deadline :=
  now_runUntil deadline w w.pending

theorem sleepUntil_of_now (w : World) (now : Nat) :
    sleepUntil { w with now } deadline = { w.sleepUntil deadline with now := max now deadline } :=
  runUntil_congr now w.pending

theorem sleepUntil_sleepThrough {later : Nat} (h : instant < later) (w : World) :
    (w.sleepThrough instant).sleepUntil later = w.sleepUntil later := by
  have hmax : max (max w.now instant) later = max w.now later := by omega
  rw [sleepThrough, sleepUntil_of_now, sleepUntil_sleepUntil h, hmax, ← now_sleepUntil]

theorem sleepThrough_sleepThrough {later : Nat} (h : instant ≤ later) (w : World) :
    (w.sleepThrough instant).sleepThrough later = w.sleepThrough later := by
  have hmax : max (max w.now instant) later = max w.now later := by omega
  rw [sleepThrough, sleepUntil_sleepThrough (Nat.lt_succ_of_le h), sleepThrough]
  exact congrArg (fun now => { w.sleepUntil (later + 1) with now }) hmax

theorem sleepUntil_idle (h : ∀ p ∈ w.pending, deadline ≤ p.due) :
    w.sleepUntil deadline = { w with now := max w.now deadline } := by
  obtain ⟨document, now, pending⟩ := w
  cases pending with
  | nil => rfl
  | cons p ps =>
    have hp : ¬ p.due < deadline := Nat.not_lt.mpr (h p List.mem_cons_self)
    rw [sleepUntil, runUntil, if_neg hp]

theorem sleepThrough_idle (h : ∀ p ∈ w.pending, instant < p.due) :
    w.sleepThrough instant = { w with now := max w.now instant } := by
  rw [sleepThrough, sleepUntil_idle h]

/-- Without effects at the instant itself, it makes no difference whether they would have happened. -/
theorem sleepThrough_eq_sleepUntil (h : w.Orderly) (hp : ∀ p ∈ w.pending, p.due ≠ instant) :
    w.sleepThrough instant = w.sleepUntil instant := by
  have hrest : ∀ p ∈ (w.sleepUntil instant).pending, instant + 1 ≤ p.due := by
    have he : w.Elapsed (w.sleepUntil instant) := Orderly.elapsed_runUntil instant h
    obtain ⟨done, hpending, -⟩ := he.happened
    intro p hm
    have hahead := he.ahead p hm
    have hne := hp p (hpending ▸ List.mem_append_right done hm)
    rw [now_sleepUntil] at hahead
    omega
  rw [sleepThrough, ← sleepUntil_sleepUntil (Nat.le_succ instant), sleepUntil_idle hrest]
  change { w.sleepUntil instant with now := max w.now instant } = _
  rw [← now_sleepUntil]

/-! ## Who listens does not matter -/

theorem runUntil_comm {f : World → World} (hhappen : ∀ w p, (f w).happen p = f (w.happen p))
    (hstop : ∀ w ps, { f w with pending := ps, now := max (f w).now deadline } =
      f { w with pending := ps, now := max w.now deadline }) (w : World) (ps : List Pending) :
    runUntil deadline (f w) ps = f (runUntil deadline w ps) := by
  induction ps generalizing w with
  | nil => exact hstop w []
  | cons p ps ih =>
    rw [runUntil, runUntil, hhappen]
    split
    · exact ih (w.happen p)
    · exact hstop w (p :: ps)

theorem sleepUntil_nextObserver (w : World) (nextObserver : Nat) :
    sleepUntil { w with nextObserver } deadline = { w.sleepUntil deadline with nextObserver } := by
  refine runUntil_comm (f := fun w => { w with nextObserver }) (fun w p => ?_) (fun _ _ => rfl) w w.pending
  rw [happen_eq, happen_eq]
  rcases w.document.apply p.effect with fault | _ | d <;> rfl

theorem happen_unobserve (w : World) (p : Pending) (id : Nat) :
    (w.unobserve id).happen p = (w.happen p).unobserve id := by
  have hnotify : ∀ d, (notify { w with now := max w.now p.due } d).unobserve id =
      notify ({ w with now := max w.now p.due }.unobserve id) d := by
    intro d
    simp only [notify, unobserve, List.filter_map]
    rfl
  have hdocument : (w.unobserve id).document = w.document := rfl
  rw [happen_eq, happen_eq, hdocument]
  rcases w.document.apply p.effect with fault | _ | d
  · rfl
  · rfl
  · exact (hnotify d).symm

theorem sleepUntil_unobserve (w : World) (id : Nat) :
    (w.unobserve id).sleepUntil deadline = (w.sleepUntil deadline).unobserve id :=
  runUntil_comm (f := (unobserve · id)) (fun w p => happen_unobserve w p id) (fun _ _ => rfl) w w.pending

theorem unobserve_read (w : World) (id : Nat) : (w.read id).unobserve id = w.unobserve id := by
  have hfilter : ∀ observers : List Observer,
      (observers.map fun o => if o.id = id then o.read else o).filter (·.id ≠ id) =
        observers.filter (·.id ≠ id) := by
    intro observers
    induction observers with
    | nil => rfl
    | cons o observers ih =>
      by_cases ho : o.id = id
      · have hread : o.read.id = id := ho
        simpa [ho, hread] using ih
      · simpa [ho] using ih
  rw [unobserve, unobserve, read, hfilter]

/-! ## Waiting for changes -/

/-- What becomes of a world in which an observer waits for a change: but for the observer itself, time passes up to
the change, or up to the deadline if there is none. -/
inductive Waited (id deadline : Nat) (w : World) : Bool → World → Prop
  | heard {w' : World} (hnow : w'.now < deadline)
      (h : w'.unobserve id = (w.unobserve id).sleepThrough w'.now) : Waited id deadline w true w'
  | timeUp {w' : World} (hnow : w'.now = deadline)
      (h : w'.unobserve id = (w.unobserve id).sleepUntil deadline) : Waited id deadline w false w'

variable {heard : Bool}

theorem Waited.trans (h : Waited id deadline w true w') (h' : Waited id deadline w' heard w'')
    (hnow : w'.now ≤ w''.now) : Waited id deadline w heard w'' := by
  cases h with
  | heard hlt hw =>
    cases h' with
    | heard hlt' hw' => exact .heard hlt' (by rw [hw', hw, sleepThrough_sleepThrough hnow])
    | timeUp hend hw' => exact .timeUp hend (by rw [hw', hw, sleepUntil_sleepThrough hlt])

theorem Waited.of_happen (h : Waited id deadline { w.happen p with pending := ps } heard w') (hp : p.due < deadline)
    (hnow : p.due ≤ w'.now) : Waited id deadline { w with pending := p :: ps } heard w' := by
  have hfirst : ∀ instant, p.due < instant →
      (unobserve { w with pending := p :: ps } id).sleepUntil instant =
        (unobserve { w.happen p with pending := ps } id).sleepUntil instant := by
    intro instant hinstant
    have hstep : sleepUntil { w with pending := p :: ps } instant =
        sleepUntil { w.happen p with pending := ps } instant := by
      change runUntil instant { w with pending := p :: ps } (p :: ps) = _
      rw [runUntil, if_pos hinstant, happen_pending, runUntil_pending]
      exact (runUntil_pending ps).symm
    rw [sleepUntil_unobserve, sleepUntil_unobserve, hstep]
  cases h with
  | heard hlt hw =>
    refine .heard hlt ?_
    have hmax : max w.now w'.now = max (w.happen p).now w'.now := by
      rw [now_happen]
      omega
    rw [hw, sleepThrough, sleepThrough, hfirst _ (Nat.lt_succ_of_le hnow)]
    exact congrArg (fun now => { (unobserve { w.happen p with pending := ps } id).sleepUntil (w'.now + 1) with now })
      hmax.symm
  | timeUp hend hw => exact .timeUp hend (by rw [hw, hfirst _ hp])

/-- Something to read is read at once if everything that is still to happen is due later. -/
theorem waited_read (hnow : w.now < deadline) (hlater : ∀ p ∈ w.pending, w.now < p.due) :
    Waited id deadline w true (w.read id) := by
  refine .heard hnow ?_
  have hidle : (w.unobserve id).sleepThrough w.now = { w.unobserve id with now := max w.now w.now } :=
    sleepThrough_idle hlater
  rw [max_self] at hidle
  exact (unobserve_read w id).trans hidle.symm

theorem waited_idle (hnow : w.now ≤ deadline) (hlate : ∀ p ∈ w.pending, deadline ≤ p.due) :
    Waited id deadline w false { w with now := max w.now deadline } :=
  .timeUp (max_eq_right hnow) (sleepUntil_idle (w := w.unobserve id) hlate).symm

theorem Orderly.waited_changeUntil (h : Orderly { w with pending := ps }) (hnow : w.now ≤ deadline)
    (hu : w.unread id = 0 ∨ w.now < deadline) :
    Waited id deadline { w with pending := ps } (changeUntil id deadline w ps).1 (changeUntil id deadline w ps).2 := by
  -- Behind an effect there may be something to read, but that effect was due before the deadline.
  induction ps generalizing w with
  | nil =>
    rw [changeUntil]
    split
    · exact waited_read (hu.resolve_left (by omega)) (by simp)
    · exact waited_idle hnow (by simp)
  | cons p ps ih =>
    have hahead : w.now ≤ p.due := h.ahead p List.mem_cons_self
    rw [changeUntil]
    split
    · rename_i hdue
      have he := h.elapsed_happen
      have hhappen : (w.happen p).now = p.due := (now_happen w p).trans (max_eq_right hahead)
      have hnow' := ((h.elapsed he).elapsed_changeUntil id deadline).now
      have hlt : (w.happen p).now < deadline := hhappen ▸ hdue.1
      exact (ih (h.elapsed he) hlt.le (.inr hlt)).of_happen hdue.1 (hhappen.symm.trans_le hnow')
    · rename_i hdue
      split
      · rename_i hread
        have hlt : w.now < deadline := hu.resolve_left (by omega)
        have hlate : ∀ q ∈ p :: ps, w.now + 1 ≤ q.due := h.forall_due_le rfl (by omega)
        exact waited_read hlt hlate
      · exact waited_idle hnow (h.forall_due_le rfl (by omega))

/-- Watching for an element waits for changes, and the time is up if none of them made it appear. -/
theorem Orderly.waited_watch (h : w.Orderly) (hnow : w.now ≤ deadline) (hu : w.unread id = 0 ∨ w.now < deadline)
    (selector : String) (changes : Nat) :
    let out := host.watch (.live id) selector deadline changes w
    Waited id deadline w (match out.1 with | .ok none => false | _ => true) out.2 := by
  induction changes generalizing w with
  | zero => exact .timeUp ((now_sleepUntil w deadline).trans (max_eq_right hnow)) (sleepUntil_unobserve w id).symm
  | succ changes ih =>
    have hwait : Waited id deadline w (w.nextChange id deadline).1 (w.nextChange id deadline).2 :=
      Orderly.waited_changeUntil h hnow hu
    have he : w.Elapsed (w.nextChange id deadline).2 := Orderly.elapsed_changeUntil id deadline h
    have hnext : host.nextChange (.live id) deadline w = w.nextChange id deadline := rfl
    rw [watch_succ, hnext]
    rcases hn : w.nextChange id deadline with ⟨_ | _, w'⟩ <;> rw [hn] at hwait he
    · exact hwait
    · dsimp only at hwait he ⊢
      rcases w'.document.selectFirst selector with fault | _ | n
      · exact hwait
      · have hlt : w'.now < deadline := by
          cases hwait
          assumption
        have h' := h.elapsed he
        exact hwait.trans (ih h' hlt.le (.inr hlt)) (h'.elapsed_watch (.live id) selector deadline changes).now
      · exact hwait

/-! ## Idling -/

/-- Two worlds are the same, except perhaps for the number that the next observer gets. -/
def Like (w w' : World) : Prop := w' = { w with nextObserver := w'.nextObserver }

theorem like_of_eq {nextObserver : Nat} (h : w' = { w with nextObserver }) : w.Like w' := by
  rw [Like, h]

/-- Nothing was done to a world but to let time pass. Of the effects due at the end of that time none has happened, as
in a sleep, or all. -/
structure Idled (w w' : World) : Prop where
  now : w.now ≤ w'.now
  slept : (w.sleepUntil w'.now).Like w' ∨ (w.sleepThrough w'.now).Like w'

theorem Idled.slept_of_quiet (h : w.Idled w') (ho : w.Orderly) (hp : ∀ p ∈ w.pending, p.due ≠ w'.now) :
    (w.sleepUntil w'.now).Like w' := by
  rcases h.slept with hw | hw
  · exact hw
  · rwa [sleepThrough_eq_sleepUntil ho hp] at hw

theorem Orderly.idled_self (h : w.Orderly) (nextObserver : Nat) : w.Idled { w with nextObserver } where
  now := le_rfl
  slept := by
    have hidle : w.sleepUntil w.now = { w with now := max w.now w.now } := sleepUntil_idle h.ahead
    rw [max_self] at hidle
    exact .inl (hidle ▸ rfl)

/-- A wait by a new observer that is disconnected after it. -/
theorem Orderly.idled_of_waited (h : w.Orderly) (hw : Waited w.nextObserver deadline w.observe.2 heard w')
    (hnow : w.now ≤ w'.now) :
    w.Idled (w'.unobserve w.nextObserver) ∧
      (heard = false → w'.now = deadline ∧ (w.sleepUntil deadline).Like (w'.unobserve w.nextObserver)) := by
  cases hw with
  | heard hlt hw =>
    rw [h.unobserve_observe, sleepThrough, sleepUntil_nextObserver] at hw
    exact ⟨⟨hnow, .inr (like_of_eq hw)⟩, nofun⟩
  | timeUp hend hw =>
    rw [h.unobserve_observe, sleepUntil_nextObserver] at hw
    exact ⟨⟨hnow, .inl (hend ▸ like_of_eq hw)⟩, fun _ => ⟨hend, like_of_eq hw⟩⟩

/-- Waiting for an element is idling. It lasts until the time is up if the element does not appear. -/
theorem Orderly.idled_await (h : w.Orderly) (selector : String) (timeout : Nat) :
    let out := host.await selector timeout w
    w.Idled out.2 ∧ ∀ s t, out.1 = .error (.elementNotFound s t) →
      out.2.now = w.ahead timeout ∧ (w.sleepUntil (w.ahead timeout)).Like out.2 := by
  have hself : w.Idled (w.observe.2.unobserve w.nextObserver) := by
    rw [h.unobserve_observe]
    exact h.idled_self (w.nextObserver + 1)
  rw [await_eq, search_eq]
  rcases hs : w.observe.2.document.selectFirst selector with fault | _ | n
  · exact ⟨hself, fun s t he => by cases he; cases Document.ofEffect_selectFirst hs⟩
  · have hwait := h.observe.waited_watch (w.now_le_ahead timeout) (.inl h.unread_observe) selector
      (host.changesAhead (.live w.nextObserver) w.observe.2)
    have he := h.observe.elapsed_watch (.live w.nextObserver) selector (w.ahead timeout)
      (host.changesAhead (.live w.nextObserver) w.observe.2)
    have hahead : w.observe.2.ahead timeout = w.ahead timeout := rfl
    dsimp only at hwait ⊢
    rw [hahead]
    rcases hwatch : host.watch (.live w.nextObserver) selector (w.ahead timeout)
      (host.changesAhead (.live w.nextObserver) w.observe.2) w.observe.2 with ⟨fault | _ | number, w'⟩ <;>
      rw [hwatch] at hwait he <;> obtain ⟨hidled, hup⟩ := h.idled_of_waited hwait he.now
    · have hs := map_eq_error.mp ((watch_answers hwatch).resolve_left nofun)
      exact ⟨hidled, fun s t he => by cases he; cases Document.ofEffect_selectFirst hs⟩
    · exact ⟨hidled, fun s t _ => hup rfl⟩
    · exact ⟨hidled, nofun⟩
  · exact ⟨hself, nofun⟩

end World

/-! ## Actions -/

namespace Action

/-- The selector of the element that an action is about. -/
def selector? : Action → Option String
  | waitForElement selector | click selector | type selector _ | typeWithKeyboard selector _
  | assertEquals selector _ => some selector
  | _ => none

/-- A fault says that an action did not find what it looked for, or found something else. -/
inductive Unmet (keyMap : List (String × Nat)) (a : Action) : Fault → Prop
  | elementNotFound (selector : String) (timeout : Nat) : Unmet keyMap a (.elementNotFound selector timeout)
  | assertionMismatch (selector expected actual : String) :
      Unmet keyMap a (.assertionMismatch selector expected actual)
  | unknownKeyGlyph (selector glyph : String) : Unmet keyMap a (.unknownKeyGlyph selector glyph)
  | focusLost (key : String) : Unmet keyMap a (.focusLost key)
  | invalidSelector {selector : String} (reason : String) (h : a.selector? = some selector) :
      Unmet keyMap a (.invalidSelector selector reason)
  | keyDispatchFailed {key : String} (reason : String) (h : keyMap.lookup key = none) :
      Unmet keyMap a (.keyDispatchFailed key reason)

variable {keyMap : List (String × Nat)} {timeout : Nat} {a : Action} {fault : Fault} {w w' : World}

/-- An effect fails like an action only if the selector of that action cannot be read. -/
theorem Unmet.not_ofEffect (h : a.Unmet keyMap fault) {selector : String} (hs : a.selector? = some selector)
    {s : Selector} (hp : Selector.parse selector = .ok s) : ¬fault.OfEffect := by
  intro he
  cases he with
  | target hinvalid =>
    cases h with
    | invalidSelector reason hown =>
      cases hs.symm.trans hown
      cases hp.symm.trans hinvalid
  | _ => cases h

end Action

namespace World

variable {w w' : World} {fault : Fault}

theorem parse_of_await {selector : String} {timeout number : Nat}
    (h : host.await selector timeout w = (.ok number, w')) : ∃ s, Selector.parse selector = .ok s := by
  obtain ⟨_, hs, -⟩ := map_eq_ok.mp ((await_answers h).resolve_left nofun)
  obtain ⟨_, hall, -⟩ := map_eq_ok.mp hs
  obtain ⟨s, hp, -⟩ := map_eq_ok.mp hall
  exact ⟨s, hp⟩

theorem anyFocused_keeps (w : World) (nodes : List Nat) :
    (Action.anyFocused host nodes w).2 = w ∧
      ∀ fault, (Action.anyFocused host nodes w).1 = .error fault → fault.OfEffect := by
  induction nodes with
  | nil => exact ⟨rfl, nofun⟩
  | cons node nodes ih =>
    have hask : host.ask (.classNames node) w = (w.document.classNames node, w) := rfl
    rw [Action.anyFocused, Call.bind_apply, hask]
    cases hclasses : w.document.classNames node with
    | error fault =>
      refine ⟨rfl, fun fault' he => ?_⟩
      cases he
      exact Document.ofEffect_node (map_eq_error.mp hclasses)
    | ok classes =>
      dsimp only
      split
      · exact ⟨rfl, nofun⟩
      · exact ih

/-- A press of a key fails in its name, and is not even tried if the key has no code. -/
theorem pressKey_error {keyMap : List (String × Nat)} {key : String}
    (h : Action.pressKey host keyMap key w = (.error fault, w')) :
    (∃ reason, fault = .keyDispatchFailed key reason) ∧ (keyMap.lookup key = none → w' = w) := by
  unfold Action.pressKey at h
  cases hkey : keyMap.lookup key with
  | none =>
    rw [hkey] at h
    cases h
    exact ⟨⟨_, rfl⟩, fun _ => rfl⟩
  | some code =>
    rw [hkey] at h
    dsimp only at h
    rcases hdown : host.call (.keyDown code) w with ⟨fault' | _ | _, w₁⟩ <;> rw [hdown] at h <;> cases h <;>
      exact ⟨⟨_, rfl⟩, nofun⟩

/-- What an action that comes to nothing leaves of a world: it has idled, and up to a timeout if an element did not
appear. -/
structure Spent (timeout : Nat) (w : World) (fault : Fault) (w' : World) : Prop where
  idled : w.Idled w'
  timeUp : ∀ selector ms, fault = .elementNotFound selector ms →
    w'.now = w.ahead timeout ∧ (w.sleepUntil w'.now).Like w'

/-- What is done with an element that was waited for may be left out of account if that does nothing to the world when
it fails, or does not fail at all. -/
theorem Orderly.spent_await {α : Type} {selector : String} {timeout : Nat} {next : Nat → Call World α} (h : w.Orderly)
    (hcall : (host.await selector timeout >>= next) w = (.error fault, w'))
    (hnext : ∀ number w₁, host.await selector timeout w = (.ok number, w₁) → next number w₁ = (.error fault, w') →
      w' = w₁ ∧ ∀ selector ms, fault ≠ .elementNotFound selector ms) :
    w.Spent timeout fault w' := by
  have hidled := h.idled_await selector timeout
  rcases Call.bind_eq_error.mp hcall with hawait | ⟨number, w₁, hawait, hcall⟩ <;> rw [hawait] at hidled
  · refine ⟨hidled.1, fun s t he => ?_⟩
    obtain ⟨hnow, hslept⟩ := hidled.2 s t (congrArg _ he)
    exact ⟨hnow, hnow ▸ hslept⟩
  · obtain ⟨rfl, hfault⟩ := hnext number w₁ hawait hcall
    exact ⟨hidled.1, fun s t he => absurd he (hfault s t)⟩

theorem Orderly.spent_self (h : w.Orderly) (timeout : Nat)
    (hfault : ∀ selector ms, fault ≠ .elementNotFound selector ms) : w.Spent timeout fault w :=
  ⟨h.idled_self w.nextObserver, fun s t he => absurd he (hfault s t)⟩

end World

theorem Fault.OfEffect.ne_elementNotFound {fault : Fault} (h : fault.OfEffect) (selector : String) (ms : Nat) :
    fault ≠ .elementNotFound selector ms := by
  rintro rfl
  cases h

/-- All checks of an action come before the first thing that it does to the document. -/
theorem Action.Unmet.spent {a : Action} {keyMap : List (String × Nat)} {timeout : Nat} {fault : Fault} {w w' : World}
    (hu : a.Unmet keyMap fault) (h : w.Orderly) (hd : w.document.Numbered)
    (hcall : a.perform World.host keyMap timeout w = (.error fault, w')) : w.Spent timeout fault w' := by
  have hfound : ∀ {selector number w₁}, a.selector? = some selector →
      World.host.await selector timeout w = (.ok number, w₁) → ¬fault.OfEffect := by
    intro selector number w₁ hs hawait
    obtain ⟨s, hp⟩ := World.parse_of_await hawait
    exact hu.not_ofEffect hs hp
  cases a with
  | waitForElement selector => exact h.spent_await hcall (fun _ _ _ hnext => nomatch hnext)
  | click selector =>
    refine h.spent_await hcall fun node w₁ hawait hnext => absurd ?_ (hfound rfl hawait)
    rcases Call.bind_eq_error.mp hnext with hask | ⟨_, _, -, ⟨⟩⟩
    exact World.ofEffect_activate (congrArg Prod.fst hask)
  | type selector text =>
    refine h.spent_await hcall fun node w₁ hawait hnext => absurd ?_ (hfound rfl hawait)
    rcases Call.bind_eq_error.mp hnext with hask | ⟨_, _, -, ⟨⟩⟩
    exact World.ofEffect_setValue (congrArg Prod.fst hask)
  | typeWithKeyboard selector text =>
    rcases Call.bind_eq_error.mp hcall with htype | ⟨_, _, -, ⟨⟩⟩
    refine h.spent_await htype fun container w₁ hawait hnext => ?_
    have he : w.Elapsed w₁ := by
      have he := h.elapsed_await selector timeout
      rwa [hawait] at he
    obtain ⟨above, keyboard, hplace, rfl⟩ := Tree.exists_place_of_mem_numbers (World.mem_numbers_of_await hawait)
    obtain ⟨layout, hlayout, -⟩ := Keyboard.layout_apply (he.document_keeps hd).1 hplace
    rw [Call.bind_apply, hlayout] at hnext
    dsimp only at hnext
    cases hpresses : layout.presses text <;> rw [hpresses] at hnext
    · cases hnext
      exact ⟨rfl, nofun⟩
    · exact absurd (World.ofEffect_press (congrArg Prod.fst hnext)) (hfound rfl hawait)
  | keyPress key =>
    rcases Call.bind_eq_error.mp hcall with hpress | ⟨_, _, -, ⟨⟩⟩
    obtain ⟨⟨reason, rfl⟩, hself⟩ := World.pressKey_error hpress
    cases hu with
    | keyDispatchFailed _ hkey =>
      obtain rfl := hself hkey
      exact h.spent_self timeout nofun
  | assertEquals selector expected =>
    refine h.spent_await hcall fun node w₁ hawait hnext => ?_
    rcases Call.bind_eq_error.mp hnext with hask | ⟨actual, w₂, hask, hnext⟩
    · obtain ⟨hfault, rfl⟩ := Prod.mk.inj hask
      exact ⟨rfl, (Document.ofEffect_node (map_eq_error.mp hfault)).ne_elementNotFound⟩
    · obtain ⟨-, rfl⟩ := Prod.mk.inj hask
      split at hnext <;> cases hnext
      exact ⟨rfl, nofun⟩
  | wait ms => cases hcall
  | checkFocus key =>
    rcases Call.bind_eq_error.mp hcall with hask | ⟨nodes, w₁, hask, hnext⟩
    · obtain ⟨hfault, rfl⟩ := Prod.mk.inj hask
      obtain ⟨reason, rfl⟩ := Selector.parse_eq_error (map_eq_error.mp (map_eq_error.mp hfault))
      exact h.spent_self timeout nofun
    · obtain ⟨-, rfl⟩ := Prod.mk.inj hask
      obtain ⟨hkeeps, hfocus⟩ := World.anyFocused_keeps w nodes
      rcases Call.bind_eq_error.mp hnext with hany | ⟨focused, w₂, hany, hlast⟩ <;> rw [hany] at hkeeps
      · obtain rfl : w' = w := hkeeps
        exact h.spent_self timeout (hfocus fault (congrArg Prod.fst hany)).ne_elementNotFound
      · obtain rfl : w₂ = w := hkeeps
        cases focused <;> cases hlast
        exact h.spent_self timeout nofun
  | beaconStart => cases hcall
  | generateReport => cases hcall

/-- In every world that a page comes to, an action that does not find what it looks for, or finds something else, leaves
the run as it was and the world as if it had been left alone for as long. If an element did not appear, that is for the
timeout. -/
theorem unmet_action_idles (page : Page) (longestWait : Nat) (events : List World.Event) (r : Run) {a : Action}
    {fault : Fault} {w' : World} (hu : a.Unmet r.keyMap fault)
    (h : a.perform World.host r.keyMap r.timeout (World.after { World.ofPage page with longestWait } events) =
      (.error fault, w')) :
    let w := World.after { World.ofPage page with longestWait } events
    r.react (World.host.stopwatch w') a = r ∧ w.Idled w' ∧
      ((∀ p ∈ w.pending, p.due ≠ w'.now) → (w.sleepUntil w'.now).Like w') ∧
      ∀ selector ms, fault = .elementNotFound selector ms →
        w'.now = w.ahead r.timeout ∧ (w.sleepUntil w'.now).Like w' := by
  intro w
  have ho : w.Orderly := World.after_invariant World.orderly_step (World.orderly_ofPage page false longestWait) events
  have hd : w.document.Numbered := (World.becomes_after _ events).edits.numbered (Document.numbered_ofPage page)
  have hspent := hu.spent ho hd h
  refine ⟨?_, hspent.idled, hspent.idled.slept_of_quiet ho, hspent.timeUp⟩
  cases a with
  | beaconStart => cases h
  | generateReport => cases h
  | _ => rfl

/-- An element is found together with the value that another effect of the same instant gives it. It is the wrong one,
and what would put it right is still to come. -/
theorem unmet_action_idles_mismatch :
    let events : List World.Event := [
      .trigger { target := "body", change := .append { tag := "b" }, delay := 3 },
      .trigger { target := "b", change := .setValue "no", delay := 3 },
      .trigger { target := "b", change := .setValue "yes", delay := 4 }]
    let w := (World.ofPage {}).after events
    let r : Run := { timeout := 10 }
    let a : Action := .assertEquals "b" "yes"
    let w' := (a.perform World.host r.keyMap r.timeout w).2
    a.perform World.host r.keyMap r.timeout w = (.error (.assertionMismatch "b" "yes" "no"), w') ∧
      a.Unmet r.keyMap (.assertionMismatch "b" "yes" "no") ∧
      r.react (World.host.stopwatch w') a = r ∧ w.Idled w' ∧ w'.now = 3 ∧ w'.pending.map Pending.due = [4] := by
  intro events w r a w'
  have hfault : (a.perform World.host r.keyMap r.timeout w).1 = .error (.assertionMismatch "b" "yes" "no") := by
    decide +kernel
  have h : a.perform World.host r.keyMap r.timeout w = (.error (.assertionMismatch "b" "yes" "no"), w') := by
    rw [← hfault]
    exact Prod.mk.eta.symm
  have hu : a.Unmet r.keyMap (.assertionMismatch "b" "yes" "no") := .assertionMismatch ..
  obtain ⟨hreact, hidled, -⟩ := unmet_action_idles {} thirtyYears events r hu h
  refine ⟨h, hu, hreact, hidled, ?_, ?_⟩
  · decide +kernel
  · decide +kernel

end PageScript
