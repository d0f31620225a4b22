import PageScript.Proofs.Histories

/-!
# The order of time

The effects that wait in a world stand in order of time, and none of them is overdue. So the effects that happen
while time passes are the first ones, and the document at an instant is what the effects due by then make of the
document there is.
-/
namespace PageScript

namespace Document

variable {d : Document} {p : Pending} {ps : List Pending} {instant : Nat}

/-- The document after an effect. One that fails, or whose target is missing, leaves it as it is. -/
def undergo (d : Document) (e : Effect) : Document := (d.apply e).toOption.join.getD d

theorem undergo_heard {d' : Document} {e : Effect} (h : d.apply e = .ok (some d')) : d.undergo e = d' := by
  rw [undergo, h]
  rfl

theorem undergo_silent {e : Effect} (h : ∀ d', d.apply e ≠ .ok (some d')) : d.undergo e = d := by
  rw [undergo]
  rcases ha : d.apply e with fault | _ | d'
  · rfl
  · rfl
  · exact absurd ha (h d')

theorem undergo_invariant {P : Document → Prop} (keep : ∀ d d' e, P d → d.apply e = .ok (some d') → P d') (h : P d)
    (effects : List Effect) : P (effects.foldl undergo d) := by
  induction effects generalizing d with
  | nil => exact h
  | cons e effects ih =>
    refine ih ?_
    rcases ha : d.apply e with fault | _ | d'
    · rwa [undergo_silent (by simp [ha])]
    · rwa [undergo_silent (by simp [ha])]
    · rw [undergo_heard ha]
      exact keep d d' e h ha

/-- The document that those of some pending effects that are due by an instant make. -/
def asOf (d : Document) (ps : List Pending) (instant : Nat) : Document :=
  ((ps.filter (·.due ≤ instant)).map Pending.effect).foldl undergo d

theorem asOf_of_due (hp : p.due ≤ instant) : d.asOf (p :: ps) instant = (d.undergo p.effect).asOf ps instant := by
  rw [asOf, List.filter_cons_of_pos (by simpa using hp)]
  rfl

theorem asOf_of_not_due (hp : ¬ p.due ≤ instant) : d.asOf (p :: ps) instant = d.asOf ps instant := by
  rw [asOf, List.filter_cons_of_neg (by simpa using hp)]
  rfl

theorem asOf_eq_self (h : ∀ p ∈ ps, instant < p.due) : d.asOf ps instant = d := by
  rw [asOf, List.filter_eq_nil_iff.mpr]
  · rfl
  · simpa using h

end Document

namespace World

variable {w w' w'' : World} {p : Pending} {ps : List Pending} {d : Document} {id : Nat}

/-! ## Single steps -/

def connected (w : World) : List Nat := w.observers.map Observer.id

@[simp] theorem connected_notify (w : World) (d : Document) : (w.notify d).connected = w.connected := by
  rw [connected, notify, List.map_map]
  rfl

@[simp] theorem connected_read (w : World) (id : Nat) : (w.read id).connected = w.connected := by
  rw [connected, read, List.map_map]
  refine List.map_congr_left fun o _ => ?_
  dsimp only [Function.comp_apply]
  split <;> rfl

theorem happen_eq (w : World) (p : Pending) :
    w.happen p = match w.document.apply p.effect with
      | .ok (some d) => notify { w with now := max w.now p.due } d
      | _ => { w with now := max w.now p.due } := by
  rw [happen, apply]
  rcases w.document.apply p.effect with fault | _ | d <;> rfl

@[simp] theorem now_happen (w : World) (p : Pending) : (w.happen p).now = max w.now p.due := by
  rw [happen_eq]
  split <;> rfl

@[simp] theorem document_happen (w : World) (p : Pending) :
    (w.happen p).document = w.document.undergo p.effect := by
  rw [happen_eq, Document.undergo]
  rcases w.document.apply p.effect with fault | _ | d <;> rfl

@[simp] theorem nextObserver_happen (w : World) (p : Pending) : (w.happen p).nextObserver = w.nextObserver := by
  rw [happen_eq]
  split <;> rfl

@[simp] theorem connected_happen (w : World) (p : Pending) : (w.happen p).connected = w.connected := by
  rw [happen_eq]
  split
  · exact connected_notify ..
  · rfl

/-! ## The clock -/

@[simp] theorem longestWait_happen (w : World) (p : Pending) : (w.happen p).longestWait = w.longestWait := by
  rw [happen_eq]
  split <;> rfl

theorem longestWait_runUntil (deadline : Nat) (w : World) (ps : List Pending) :
    (runUntil deadline w ps).longestWait = w.longestWait := by
  induction ps generalizing w with
  | nil => rfl
  | cons p ps ih =>
    unfold runUntil
    split <;> simp [ih]

theorem longestWait_changeUntil (id deadline : Nat) (w : World) (ps : List Pending) :
    (changeUntil id deadline w ps).2.longestWait = w.longestWait := by
  induction ps generalizing w with
  | nil =>
    unfold changeUntil
    split <;> rfl
  | cons p ps ih =>
    unfold changeUntil
    split
    · simp [ih]
    · split <;> rfl

theorem longestWait_trigger {e : Effect} (h : w.trigger e = .ok w') : w'.longestWait = w.longestWait := by
  unfold trigger at h
  split at h
  · obtain ⟨changed, -, rfl⟩ := map_eq_ok.mp h
    cases changed <;> rfl
  · cases h
    rfl

theorem longestWait_triggerAll (w : World) (effects : List Effect) :
    (w.triggerAll effects).2.longestWait = w.longestWait := by
  induction effects generalizing w with
  | nil => rfl
  | cons e effects ih =>
    unfold triggerAll
    cases ht : w.trigger e with
    | error fault => rfl
    | ok w' => simp [ih, longestWait_trigger ht]

theorem longestWait_step (w : World) (event : Event) : (w.step event).longestWait = w.longestWait := by
  cases event with
  | append selector element =>
    rw [step, append]
    split <;> rfl
  | trigger effect =>
    rw [step]
    cases ht : w.trigger effect with
    | error fault => rfl
    | ok w' => exact longestWait_trigger ht
  | request r =>
    cases r with
    | activate number =>
      rw [step, answer, activate]
      split
      · rfl
      · exact longestWait_triggerAll _ _
    | setValue number text =>
      rw [step, answer, setValue]
      split <;> rfl
    | keyDown code =>
      have h := longestWait_triggerAll { w with document := (w.document.keyDown code).2 } (w.document.keyDown code).1
      rw [step, answer, keyDown]
      dsimp only
      split <;> rename_i ht <;> rwa [ht] at h
    | _ => rfl
  | sleepUntil instant => exact longestWait_runUntil instant w w.pending
  | nextChange observer deadline => exact longestWait_changeUntil observer deadline w w.pending
  | _ => rfl

theorem longestWait_after (w : World) (events : List Event) : (w.after events).longestWait = w.longestWait := by
  have keep (w' : World) (event : Event) (h : w'.longestWait = w.longestWait) :
      (w'.step event).longestWait = w.longestWait := (longestWait_step w' event).trans h
  exact after_invariant keep rfl events

/-! ## Worlds in order -/

/-- What holds of the times and the observers of every world. -/
structure Orderly (w : World) : Prop where
  sorted : w.pending.Pairwise (·.due ≤ ·.due)
  ahead : ∀ p ∈ w.pending, w.now ≤ p.due
  known : ∀ id ∈ w.connected, id < w.nextObserver

/-- Time has passed from one world to another: some effects, the first ones, have happened, and nothing else. -/
structure Elapsed (w w' : World) : Prop where
  happened : ∃ done, w.pending = done ++ w'.pending ∧ (∀ p ∈ done, p.due ≤ w'.now) ∧
    w'.document = (done.map Pending.effect).foldl Document.undergo w.document
  ahead : ∀ p ∈ w'.pending, w'.now ≤ p.due
  now : w.now ≤ w'.now
  connected : w'.connected = w.connected
  nextObserver : w.nextObserver ≤ w'.nextObserver

theorem Elapsed.trans (h : w.Elapsed w') (h' : w'.Elapsed w'') : w.Elapsed w'' where
  happened := by
    obtain ⟨done, hp, hdue, hd⟩ := h.happened
    obtain ⟨done', hp', hdue', hd'⟩ := h'.happened
    refine ⟨done ++ done', ?_, ?_, ?_⟩
    · rw [hp, hp', List.append_assoc]
    · refine List.forall_mem_append.mpr ⟨?_, hdue'⟩
      intro p hm
      exact (hdue p hm).trans h'.now
    · rw [List.map_append, List.foldl_append, ← hd, hd']
  ahead := h'.ahead
  now := h.now.trans h'.now
  connected := h'.connected.trans h.connected
  nextObserver := h.nextObserver.trans h'.nextObserver

theorem Orderly.elapsed (h : w.Orderly) (he : w.Elapsed w') : w'.Orderly where
  sorted := by
    obtain ⟨done, hp, -⟩ := he.happened
    exact h.sorted.sublist (hp ▸ List.sublist_append_right done w'.pending)
  ahead := he.ahead
  known := by
    intro id hid
    exact (h.known id (he.connected ▸ hid)).trans_le he.nextObserver

theorem Elapsed.of_pending (h : w'.Orderly) (hp : w'.pending = w.pending) (hd : w'.document = w.document)
    (hn : w.now ≤ w'.now) (hc : w'.connected = w.connected) (ho : w'.nextObserver = w.nextObserver) :
    w.Elapsed w' :=
  ⟨⟨[], hp.symm, by simp, hd⟩, h.ahead, hn, hc, ho.ge⟩

theorem Orderly.refl (h : w.Orderly) : w.Elapsed w := .of_pending h rfl rfl le_rfl rfl rfl

theorem Orderly.read (h : w.Orderly) (id : Nat) : (w.read id).Orderly :=
  ⟨h.sorted, h.ahead, fun observer ho => h.known observer (connected_read w id ▸ ho)⟩

theorem Orderly.elapsed_read (h : w.Orderly) (id : Nat) : w.Elapsed (w.read id) :=
  .of_pending (h.read id) rfl rfl le_rfl (connected_read w id) rfl

theorem Orderly.elapsed_idle (h : w.Orderly) {deadline : Nat} (hp : ∀ p ∈ w.pending, deadline ≤ p.due) :
    w.Elapsed { w with now := max w.now deadline } := by
  refine .of_pending ⟨h.sorted, ?_, h.known⟩ rfl rfl (le_max_left _ _) rfl rfl
  intro p hm
  exact max_le (h.ahead p hm) (hp p hm)

theorem Orderly.elapsed_happen (h : Orderly { w with pending := p :: ps }) :
    Elapsed { w with pending := p :: ps } { w.happen p with pending := ps } where
  happened := ⟨[p], rfl, by simp, document_happen w p⟩
  ahead := by
    intro q hq
    have hpq := List.rel_of_pairwise_cons h.sorted hq
    have hwq := h.ahead q (List.mem_cons_of_mem p hq)
    simpa using ⟨hwq, hpq⟩
  now := by simp
  connected := connected_happen w p
  nextObserver := (nextObserver_happen w p).ge

theorem Orderly.forall_due_le (h : w.Orderly) (hw : w.pending = p :: ps) {deadline : Nat}
    (hp : ¬ p.due < deadline) : ∀ q ∈ w.pending, deadline ≤ q.due := by
  intro q hq
  rw [hw] at hq
  rcases List.mem_cons.mp hq with rfl | hq
  · exact Nat.le_of_not_lt hp
  · have hpq := List.rel_of_pairwise_cons (hw ▸ h.sorted) hq
    omega

theorem Orderly.elapsed_runUntil (deadline : Nat) (h : Orderly { w with pending := ps }) :
    Elapsed { w with pending := ps } (runUntil deadline w ps) := by
  induction ps generalizing w with
  | nil => exact h.elapsed_idle (by simp)
  | cons p ps ih =>
    rw [runUntil]
    split
    · have he := h.elapsed_happen
      exact he.trans (ih (h.elapsed he))
    · rename_i hp
      exact h.elapsed_idle (h.forall_due_le rfl hp)

theorem Orderly.elapsed_changeUntil (id deadline : Nat) (h : Orderly { w with pending := ps }) :
    Elapsed { w with pending := ps } (changeUntil id deadline w ps).2 := by
  induction ps generalizing w with
  | nil =>
    rw [changeUntil]
    split
    · exact h.elapsed_read id
    · exact h.elapsed_idle (by simp)
  | cons p ps ih =>
    rw [changeUntil]
    split
    · have he := h.elapsed_happen
      exact he.trans (ih (h.elapsed he))
    · split
      · exact h.elapsed_read id
      · rename_i hc hu
        have hp : ¬ p.due < deadline := fun hp => hc ⟨hp, .inr (Nat.eq_zero_of_not_pos hu)⟩
        exact h.elapsed_idle (h.forall_due_le rfl hp)

/-! ## What is done with a world keeps it in order -/

theorem Orderly.notify (h : w.Orderly) (d : Document) : (w.notify d).Orderly :=
  ⟨h.sorted, h.ahead, fun observer ho => h.known observer (connected_notify w d ▸ ho)⟩

theorem Orderly.apply {e : Effect} (h : w.Orderly) (ha : w.apply e = .ok w') : w'.Orderly := by
  obtain ⟨changed, -, rfl⟩ := map_eq_ok.mp ha
  cases changed with
  | none => exact h
  | some d => exact h.notify d

theorem lt_of_mem_dropWhile (due : Nat) (h : ps.Pairwise (·.due ≤ ·.due)) :
    ∀ p ∈ ps.dropWhile (·.due ≤ due), due < p.due := by
  induction ps with
  | nil => simp
  | cons p ps ih =>
    by_cases hp : p.due ≤ due
    · rw [List.dropWhile_cons_of_pos (by simpa using hp)]
      exact ih h.of_cons
    · rw [List.dropWhile_cons_of_neg (by simpa using hp)]
      intro q hq
      rcases List.mem_cons.mp hq with rfl | hq
      · exact Nat.lt_of_not_le hp
      · have hpq := List.rel_of_pairwise_cons h hq
        omega

theorem Orderly.schedule (h : w.Orderly) (e : Effect) : (w.schedule e).Orderly where
  sorted := by
    have hlt := lt_of_mem_dropWhile (w.ahead e.delay) h.sorted
    have hle : ∀ p ∈ w.pending.takeWhile (·.due ≤ w.ahead e.delay),
        p.due ≤ w.ahead e.delay := by
      intro p hp
      simpa using List.all_eq_true.mp List.all_takeWhile p hp
    refine List.pairwise_append.mpr ⟨h.sorted.sublist (List.takeWhile_sublist _), ?_, ?_⟩
    · exact List.pairwise_cons.mpr ⟨fun p hp => (hlt p hp).le, h.sorted.sublist (List.dropWhile_sublist _)⟩
    · intro p hp q hq
      rcases List.mem_cons.mp hq with rfl | hq
      · exact hle p hp
      · exact (hle p hp).trans (hlt q hq).le
  ahead := by
    intro p hp
    rcases List.mem_append.mp hp with hp | hp
    · exact h.ahead p ((List.takeWhile_sublist _).subset hp)
    · rcases List.mem_cons.mp hp with rfl | hp
      · exact World.now_le_ahead _ _
      · exact h.ahead p ((List.dropWhile_sublist _).subset hp)
  known := h.known

theorem Orderly.trigger {e : Effect} (h : w.Orderly) (ht : w.trigger e = .ok w') : w'.Orderly := by
  unfold World.trigger at ht
  split at ht
  · exact h.apply ht
  · cases ht
    exact h.schedule e

theorem Orderly.triggerAll (h : w.Orderly) (effects : List Effect) : (w.triggerAll effects).2.Orderly := by
  induction effects generalizing w with
  | nil => exact h
  | cons e effects ih =>
    rw [World.triggerAll]
    cases ht : w.trigger e with
    | error fault => exact h
    | ok w' => exact ih (h.trigger ht)

theorem Orderly.answer (h : w.Orderly) (r : Request) : (answer r w).2.Orderly := by
  have hdoc : ∀ d, Orderly { w with document := d } := fun d => ⟨h.sorted, h.ahead, h.known⟩
  cases r with
  | activate number =>
    rw [World.answer, World.activate]
    split
    · exact h
    · exact (hdoc _).triggerAll _
  | setValue number text =>
    rw [World.answer, World.setValue]
    split
    · exact h.notify _
    · exact h
  | keyDown code =>
    have ht := (hdoc (w.document.keyDown code).2).triggerAll (w.document.keyDown code).1
    rw [World.answer, World.keyDown]
    dsimp only
    split <;> rename_i heq <;> rwa [heq] at ht
  | clearLocalStorage => exact hdoc _
  | _ => exact h

theorem Orderly.observe (h : w.Orderly) : w.observe.2.Orderly where
  sorted := h.sorted
  ahead := h.ahead
  known := by
    intro id hid
    rw [World.observe, connected, List.map_append, List.mem_append] at hid
    rcases hid with hid | hid
    · exact Nat.lt_succ_of_lt (h.known id hid)
    · rw [List.mem_singleton.mp hid]
      exact Nat.lt_succ_self _

theorem orderly_step (w : World) (event : Event) (h : w.Orderly) : (w.step event).Orderly := by
  cases event with
  | append selector element =>
    rw [step, append]
    split
    · exact h.notify _
    · exact h
  | trigger effect =>
    rw [step]
    cases ht : w.trigger effect with
    | error fault => exact h
    | ok w' => exact h.trigger ht
  | request r => exact h.answer r
  | sleepUntil instant => exact h.elapsed (Orderly.elapsed_runUntil instant h)
  | observe => exact h.observe
  | unobserve observer =>
    refine ⟨h.sorted, h.ahead, ?_⟩
    intro id hid
    exact h.known id ((List.filter_sublist.map _).subset hid)
  | nextChange observer deadline => exact h.elapsed (Orderly.elapsed_changeUntil observer deadline h)
  | drain observer =>
    refine ⟨h.sorted, h.ahead, ?_⟩
    intro id hid
    refine h.known id ?_
    rw [step, drain, connected, List.map_map] at hid
    convert hid using 2
    refine List.map_congr_left fun o _ => ?_
    dsimp only [Function.comp_apply]
    split <;> rfl
  | close => exact ⟨h.sorted, h.ahead, h.known⟩

theorem orderly_ofPage (page : Page) (timed : Bool) (longestWait : Nat) :
    Orderly { ofPage page with timed, longestWait } :=
  ⟨.nil, by simp [ofPage], by simp [ofPage, connected]⟩

/-- In every world that a page comes to, time is in order. -/
theorem orderly_after (page : Page) (events : List Event) : ((ofPage page).after events).Orderly :=
  after_invariant orderly_step (orderly_ofPage page false thirtyYears) events

/-! ## The document at an instant -/

/-- The document as the effects due by an instant leave it, if nothing else is done. -/
def documentAt (w : World) (instant : Nat) : Document := w.document.asOf w.pending instant

/-- If no effect was due at the very end, all that were due by then have happened. -/
theorem Elapsed.document_eq (h : w.Elapsed w') (hp : ∀ p ∈ w'.pending, p.due ≠ w'.now) :
    w'.document = w.documentAt w'.now := by
  obtain ⟨done, hpend, hdue, hd⟩ := h.happened
  have hdone : done.filter (·.due ≤ w'.now) = done := by
    rw [List.filter_eq_self]
    simpa using hdue
  have hrest : w'.pending.filter (·.due ≤ w'.now) = [] := by
    rw [List.filter_eq_nil_iff]
    intro p hm
    have hle := h.ahead p hm
    have hne := hp p hm
    simp only [decide_eq_true_eq]
    omega
  rw [hd, documentAt, Document.asOf, hpend, List.filter_append, hdone, hrest, List.append_nil]

/-- Effects with instants of their own are due one after another. -/
theorem Orderly.apart (h : w.Orderly) (hn : (w.pending.map Pending.due).Nodup) :
    w.pending.Pairwise (·.due < ·.due) := by
  have hne : w.pending.Pairwise (·.due ≠ ·.due) := List.pairwise_map.mp hn
  exact (h.sorted.and hne).imp fun hle => lt_of_le_of_ne hle.1 hle.2

theorem now_runUntil (deadline : Nat) (w : World) (ps : List Pending) :
    (runUntil deadline w ps).now = max w.now deadline := by
  induction ps generalizing w with
  | nil => rfl
  | cons p ps ih =>
    rw [runUntil]
    split
    · rw [ih, now_happen]
      omega
    · rfl

theorem connected_unobserve (w : World) (id : Nat) : (w.unobserve id).connected = w.connected.filter (· ≠ id) := by
  rw [connected, connected, List.filter_map]
  rfl

theorem Orderly.unobserve_observe (h : w.Orderly) :
    w.observe.2.unobserve w.nextObserver = { w with nextObserver := w.nextObserver + 1 } := by
  have hfilter : w.observers.filter (·.id ≠ w.nextObserver) = w.observers := by
    rw [List.filter_eq_self]
    intro o ho
    have hlt := h.known o.id (List.mem_map_of_mem ho)
    simpa using hlt.ne
  rw [World.observe, unobserve]
  dsimp only
  rw [List.filter_append, hfilter]
  simp

theorem Elapsed.unobserve (h : w.Orderly) (he : w.observe.2.Elapsed w') :
    w.Elapsed (w'.unobserve w.nextObserver) where
  happened := he.happened
  ahead := he.ahead
  now := he.now
  connected := by
    rw [connected_unobserve, he.connected, ← connected_unobserve, h.unobserve_observe]
    rfl
  nextObserver := (Nat.le_succ _).trans he.nextObserver

end World

end PageScript
