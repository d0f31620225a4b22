import PageScript.Proofs.Timeline
import PageScript.Waiting

/-!
# Listening to a world

An observer that has read everything hears of the next change at the instant of that change, before anything later
happens, and of nothing else. This holds as long as no two effects are due at the same instant.
-/
namespace PageScript

namespace World

variable {w : World} {id deadline : Nat} {p : Pending} {ps : List Pending} {d : Document}

theorem unread_notify (h : id ∈ w.connected) (d : Document) : (w.notify d).unread id = w.unread id + 1 := by
  have hsome : (w.observers.find? (·.id == id)).isSome := by
    obtain ⟨o, ho, rfl⟩ := List.mem_map.mp h
    exact List.find?_isSome.mpr ⟨o, ho, by simp⟩
  obtain ⟨o, ho⟩ := Option.isSome_iff_exists.mp hsome
  have hfind : (w.notify d).observers.find? (·.id == id) = some { o with unread := o.unread + 1 } := by
    rw [notify, List.find?_map]
    exact congrArg (Option.map _) ho
  rw [unread, unread, hfind, ho]
  rfl

theorem find?_read (w : World) (id : Nat) :
    (w.read id).observers.find? (·.id == id) = (w.observers.find? (·.id == id)).map Observer.read := by
  have hcomp : (fun o : Observer => o.id == id) ∘ (fun o : Observer => if o.id = id then o.read else o) =
      (·.id == id) := by
    funext o
    dsimp only [Function.comp_apply]
    split <;> rfl
  rw [read, List.find?_map, hcomp]
  cases ho : w.observers.find? (·.id == id) with
  | none => rfl
  | some o =>
    have hid : o.id = id := by simpa using List.find?_some ho
    rw [Option.map_some, Option.map_some, if_pos hid]

theorem unread_read (h : w.unread id = 1) : (w.read id).unread id = 0 := by
  rw [unread, find?_read]
  rw [unread] at h
  cases ho : w.observers.find? (·.id == id) with
  | none => rfl
  | some o =>
    rw [ho] at h
    have hu : o.unread = 1 := h
    simp [Observer.read, hu, Observer.capacity]

theorem happen_pending (qs : List Pending) :
    happen { w with pending := qs } p = { w.happen p with pending := qs } := by
  rw [happen_eq, happen_eq]
  rcases w.document.apply p.effect with fault | _ | d <;> rfl

theorem happen_silent (ha : ∀ d, w.document.apply p.effect ≠ .ok (some d)) :
    w.happen p = { w with now := max w.now p.due } := by
  rw [happen_eq]
  split
  · rename_i d hd
    exact absurd hd (ha d)
  · rfl

theorem happen_heard (ha : w.document.apply p.effect = .ok (some d)) :
    w.happen p = notify { w with now := max w.now p.due } d := by
  rw [happen_eq, ha]

/-- Where effects are taken from a list of their own, those that the world itself keeps do not matter. -/
theorem changeUntil_pending (qs : List Pending) :
    changeUntil id deadline { w with pending := qs } ps = changeUntil id deadline w ps := by
  induction ps generalizing w with
  | nil => rfl
  | cons p ps ih =>
    rw [changeUntil, changeUntil, happen_pending, ih]
    rfl

/-- A change that was heard of is read before anything later happens. -/
theorem changeUntil_ready (deadline : Nat) (hu : w.unread id = 1) (h : ∀ q ∈ ps, w.now < q.due) :
    changeUntil id deadline w ps = (true, { w with pending := ps }.read id) := by
  cases ps with
  | nil => rw [changeUntil, if_pos (by omega)]
  | cons q qs =>
    have hq : ¬ (q.due < deadline ∧ (q.due ≤ w.now ∨ w.unread id = 0)) := by
      have hlt := h q List.mem_cons_self
      omega
    rw [changeUntil, if_neg hq, if_pos (by omega)]

section

variable (hu : w.unread id = 0)

include hu

theorem nextChange_idle (h : ∀ p ∈ w.pending, deadline ≤ p.due) :
    w.nextChange id deadline = (false, { w with now := max w.now deadline }) := by
  obtain ⟨document, now, pending⟩ := w
  cases pending with
  | nil =>
    simp only [nextChange, changeUntil]
    rw [if_neg (by simpa using hu)]
  | cons p ps =>
    have hp : ¬ p.due < deadline := Nat.not_lt.mpr (h p List.mem_cons_self)
    simp only [nextChange, changeUntil]
    rw [if_neg (fun hc => hp hc.1), if_neg (by simpa using hu)]

theorem nextChange_happen (hw : w.pending = p :: ps) (hp : p.due < deadline) :
    w.nextChange id deadline = changeUntil id deadline (w.happen p) ps := by
  rw [nextChange, hw, changeUntil, if_pos ⟨hp, .inr hu⟩]

theorem nextChange_silent (hw : w.pending = p :: ps) (hp : p.due < deadline)
    (ha : ∀ d, w.document.apply p.effect ≠ .ok (some d)) :
    w.nextChange id deadline = nextChange { w with now := max w.now p.due, pending := ps } id deadline := by
  rw [nextChange_happen hu hw hp, happen_silent ha]
  exact (changeUntil_pending (w := { w with now := max w.now p.due }) ps).symm

end

/-- An observer has read of all changes so far, and the next ones come one at a time. -/
structure Listening (id : Nat) (w : World) : Prop where
  orderly : w.Orderly
  apart : w.pending.Pairwise (·.due < ·.due)
  connected : id ∈ w.connected
  unread : w.unread id = 0

theorem Listening.due_lt (h : w.Listening id) (hw : w.pending = p :: ps) : ∀ q ∈ ps, max w.now p.due < q.due := by
  intro q hq
  have hpq := List.rel_of_pairwise_cons (hw ▸ h.apart) hq
  have hp := h.orderly.ahead p (hw ▸ List.mem_cons_self)
  omega

theorem Listening.silent (h : w.Listening id) (hw : w.pending = p :: ps) :
    Listening id { w with now := max w.now p.due, pending := ps } where
  orderly := by
    refine ⟨?_, fun q hq => (h.due_lt hw q hq).le, h.orderly.known⟩
    exact (hw ▸ h.orderly.sorted).of_cons
  apart := (hw ▸ h.apart).of_cons
  connected := h.connected
  unread := h.unread

/-- A change is heard of at its instant, and nothing later has happened then. -/
theorem Listening.heard (h : w.Listening id) (hw : w.pending = p :: ps) (hp : p.due < deadline)
    (ha : w.document.apply p.effect = .ok (some d)) :
    ∃ w', w.nextChange id deadline = (true, w') ∧ w'.Listening id ∧
      w'.now = p.due ∧ w'.document = d ∧ w'.pending = ps := by
  have hnow : w.now ≤ p.due := h.orderly.ahead p (hw ▸ List.mem_cons_self)
  have hsilent := h.silent hw
  have hunread : (notify { w with now := max w.now p.due } d).unread id = 1 := by
    rw [unread_notify (w := { w with now := max w.now p.due }) h.connected]
    exact congrArg (· + 1) h.unread
  have hready := changeUntil_ready deadline hunread (h.due_lt hw)
  refine ⟨read { notify { w with now := max w.now p.due } d with pending := ps } id, ?_, ?_,
    max_eq_right hnow, rfl, rfl⟩
  · rw [nextChange_happen h.unread hw hp, happen_heard ha, hready]
  · refine ⟨(hsilent.orderly.notify d).read id, hsilent.apart, ?_, unread_read hunread⟩
    rw [connected_read]
    exact (connected_notify w d).symm ▸ h.connected

theorem Orderly.unread_observe (h : w.Orderly) : w.observe.2.unread w.nextObserver = 0 := by
  have hnone : w.observers.find? (·.id == w.nextObserver) = none := by
    rw [List.find?_eq_none]
    intro o ho
    have hlt := h.known o.id (List.mem_map_of_mem ho)
    simpa using hlt.ne
  have hfind : w.observe.2.observers.find? (·.id == w.nextObserver) = some ⟨w.nextObserver, 0⟩ := by
    change List.find? _ (w.observers ++ [⟨w.nextObserver, 0⟩]) = _
    rw [List.find?_append, hnone]
    simp
  rw [World.unread, hfind]
  rfl

theorem Orderly.listening (h : w.Orderly) (hp : w.pending.Pairwise (·.due < ·.due)) :
    w.observe.2.Listening w.nextObserver where
  orderly := h.observe
  apart := hp
  connected := List.mem_map.mpr ⟨⟨w.nextObserver, 0⟩, List.mem_append_right _ (List.mem_singleton_self _), rfl⟩
  unread := h.unread_observe

/-! ## Looking for an element -/

/-- One turn of watching: the next change that is heard of before the deadline, and the query after it. -/
theorem watch_succ (w : World) (subscription : Subscription) (selector : String) (deadline changes : Nat) :
    host.watch subscription selector deadline (changes + 1) w =
      match host.nextChange subscription deadline w with
      | (false, w) => (.ok none, w)
      | (true, w) =>
        match w.document.selectFirst selector with
        | .error fault => (.error fault, w)
        | .ok none => host.watch subscription selector deadline changes w
        | .ok (some n) => (.ok (some n.number), w) := by
  rw [Host.watch]
  dsimp only
  rcases host.nextChange subscription deadline w with ⟨_ | _, w'⟩
  · rfl
  · have hcall : host.call (.query selector) w' =
        ((w'.document.selectFirst selector).map (·.map Node.number), w') := rfl
    dsimp only
    rw [hcall]
    rcases w'.document.selectFirst selector with fault | _ | n <;> rfl

/-- The world answers a query at once, so that a search begins its watch at the instant at which it was called. -/
theorem search_eq (w : World) (subscription : Subscription) (selector : String) (timeout : Nat) :
    host.search subscription selector timeout w =
      match w.document.selectFirst selector with
      | .error fault => (.error fault, w)
      | .ok (some n) => (.ok n.number, w)
      | .ok none =>
        match host.watch subscription selector (w.ahead timeout) (host.changesAhead subscription w) w with
        | (.error fault, w) => (.error fault, w)
        | (.ok (some number), w) => (.ok number, w)
        | (.ok none, w) => (.error (.elementNotFound selector timeout), w) := by
  have hcall : host.call (.query selector) w =
      ((w.document.selectFirst selector).map (·.map Node.number), w) := rfl
  rw [Host.search, hcall]
  rcases w.document.selectFirst selector with fault | _ | n
  · rfl
  · have hahead : host.ahead timeout w = w.ahead timeout := rfl
    dsimp only [Except.map, Option.map]
    rw [hahead]
    rcases host.watch subscription selector (w.ahead timeout) (host.changesAhead subscription w) w
      with ⟨fault | _ | number, w'⟩ <;> rfl
  · rfl

theorem await_eq (w : World) (selector : String) (timeout : Nat) :
    host.await selector timeout w =
      ((host.search (.live w.nextObserver) selector timeout w.observe.2).1,
        (host.search (.live w.nextObserver) selector timeout w.observe.2).2.unobserve w.nextObserver) := rfl

theorem watch_answers {subscription : Subscription} {selector : String} {deadline changes : Nat}
    {answer : Except Fault (Option Nat)} {w' : World}
    (h : host.watch subscription selector deadline changes w = (answer, w')) :
    answer = .ok none ∨ (w'.document.selectFirst selector).map (·.map Node.number) = answer := by
  induction changes generalizing w with
  | zero =>
    cases h
    exact .inl rfl
  | succ changes ih =>
    rw [watch_succ] at h
    rcases hn : host.nextChange subscription deadline w with ⟨_ | _, w₁⟩ <;> rw [hn] at h
    · cases h
      exact .inl rfl
    · dsimp only at h
      rcases hs : w₁.document.selectFirst selector with fault | _ | n <;> rw [hs] at h
      · cases h
        exact .inr (by rw [hs]; rfl)
      · exact ih h
      · cases h
        exact .inr (by rw [hs]; rfl)

/-- So does a wait for an element, unless the time is up. -/
theorem await_answers {selector : String} {timeout : Nat} {answer : Except Fault Nat} {w' : World}
    (h : host.await selector timeout w = (answer, w')) :
    answer = .error (.elementNotFound selector timeout) ∨
      (w'.document.selectFirst selector).map (·.map Node.number) = answer.map some := by
  rw [await_eq, search_eq] at h
  rcases hs : w.observe.2.document.selectFirst selector with fault | _ | n <;> rw [hs] at h
  · cases h
    exact .inr (congrArg _ hs)
  · dsimp only at h
    rcases hw : host.watch (.live w.nextObserver) selector (w.observe.2.ahead timeout)
      (host.changesAhead (.live w.nextObserver) w.observe.2) w.observe.2 with ⟨fault | _ | number, w₁⟩ <;>
      rw [hw] at h <;> cases h
    · exact .inr ((watch_answers hw).resolve_left nofun)
    · exact .inl rfl
    · exact .inr ((watch_answers hw).resolve_left nofun)
  · cases h
    exact .inr (congrArg _ hs)

/-! ## What passes while an element is looked for -/

theorem Orderly.elapsed_nextChange (h : w.Orderly) (subscription : Subscription) (deadline : Nat) :
    w.Elapsed (host.nextChange subscription deadline w).2 := by
  cases subscription with
  | live id => exact Orderly.elapsed_changeUntil id deadline h
  | closed => exact Orderly.elapsed_runUntil deadline h

theorem Orderly.elapsed_watch (h : w.Orderly) (subscription : Subscription) (selector : String)
    (deadline changes : Nat) : w.Elapsed (host.watch subscription selector deadline changes w).2 := by
  induction changes generalizing w with
  | zero => exact Orderly.elapsed_runUntil deadline h
  | succ changes ih =>
    have he := h.elapsed_nextChange subscription deadline
    rw [watch_succ]
    rcases hn : host.nextChange subscription deadline w with ⟨_ | _, w'⟩ <;> rw [hn] at he
    · exact he
    · dsimp only
      rcases w'.document.selectFirst selector with fault | _ | n
      · exact he
      · exact he.trans (ih (h.elapsed he))
      · exact he

theorem Orderly.elapsed_search (h : w.Orderly) (subscription : Subscription) (selector : String) (timeout : Nat) :
    w.Elapsed (host.search subscription selector timeout w).2 := by
  have hw := h.elapsed_watch subscription selector (w.ahead timeout) (host.changesAhead subscription w)
  rw [search_eq]
  rcases w.document.selectFirst selector with fault | _ | n
  · exact h.refl
  · revert hw
    rcases host.watch subscription selector (w.ahead timeout) (host.changesAhead subscription w) w
      with ⟨fault | _ | number, w'⟩ <;> exact id
  · exact h.refl

theorem Orderly.elapsed_await (h : w.Orderly) (selector : String) (timeout : Nat) :
    w.Elapsed (host.await selector timeout w).2 :=
  (h.observe.elapsed_search (.live w.nextObserver) selector timeout).unobserve h

end World

end PageScript
