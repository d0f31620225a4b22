import PageScript.Host.Faulty
import PageScript.Waiting
import PageScript.Proofs.Listening

/-!
# What a wait for an element finds

A search checks a selector at once and after each change, and the changes are those that the effects due before its
deadline make. No change is missed between two checks, so that the search ends at the first instant at which there is
a match. This holds when no two effects are due at the same instant and none at the deadline.
-/
namespace PageScript

/-! ## Checks -/

/-- What a check answers that comes after a number of others: that it fails, or the first match. -/
def Failures.reply (f : Failures) (selector : String) (earlier : Nat) (d : Document) : Except Fault (Option Nat) :=
  match f.messageAfter .query earlier with
  | some message => .error (.driver message)
  | none => (d.selectFirst selector).map (·.map Node.number)

/-- The changes that come before an instant, each with its own instant and the document it leads to. -/
def changes (deadline : Nat) (d : Document) : List Pending → List (Nat × Document)
  | [] => []
  | p :: ps =>
    if p.due < deadline then
      match d.apply p.effect with
      | .ok (some d') => (p.due, d') :: changes deadline d' ps
      | _ => changes deadline d ps
    else []

section

variable {deadline : Nat} {d d' : Document} {p : Pending} {ps : List Pending}

theorem changes_late (hp : ¬ p.due < deadline) : changes deadline d (p :: ps) = [] := by
  rw [changes, if_neg hp]

theorem changes_heard (hp : p.due < deadline) (ha : d.apply p.effect = .ok (some d')) :
    changes deadline d (p :: ps) = (p.due, d') :: changes deadline d' ps := by
  rw [changes, if_pos hp, ha]

theorem changes_silent (hp : p.due < deadline) (ha : ∀ d', d.apply p.effect ≠ .ok (some d')) :
    changes deadline d (p :: ps) = changes deadline d ps := by
  rw [changes, if_pos hp]
  split
  · rename_i d' hd
    exact absurd hd (ha d')
  · rfl

end

/-- The first check with an answer, which is a match or a fault, and the instant and the document of that check. -/
def settle (reply : Nat → Document → Except Fault (Option Nat)) (earlier : Nat) :
    List (Nat × Document) → Option (Except Fault Nat × Nat × Document)
  | [] => none
  | (instant, d) :: checks =>
    match reply earlier d with
    | .error fault => some (.error fault, instant, d)
    | .ok (some number) => some (.ok number, instant, d)
    | .ok none => settle reply (earlier + 1) checks

/-- The checks of a search: at once and, if changes are heard of, at each change before an instant. -/
def World.checks (w : World) (hears : Bool) (deadline : Nat) : List (Nat × Document) :=
  (w.now, w.document) :: if hears then changes deadline w.document w.pending else []

def Subscription.hears : Subscription → Bool
  | live _ => true
  | closed => false

namespace Host

variable (f : Failures) (selector : String) {id deadline turns : Nat} {c : Counted World}

theorem call_query (c : Counted World) :
    (f.apply World.host).call (.query selector) c =
      (f.reply selector (c.count .query) c.state.document, c.use .query) := by
  have hanswer : f.answer World.host (.query selector) c =
      match f.messageAfter .query (c.count .query) with
      | some message => (.error (.driver message), c.use .query)
      | none => ((c.state.document.selectFirst selector).map (·.map Node.number), c.use .query) := rfl
  change f.answer World.host (.query selector) c = _
  rw [hanswer, Failures.reply]
  cases f.messageAfter .query (c.count .query) <;> rfl

theorem count_use (c : Counted World) (op : Operation) : (c.use op).count op = c.count op + 1 := by
  rw [Counted.count, Counted.use, Assoc.lookup_put_self]
  rfl

theorem state_use (c : Counted World) (op : Operation) : (c.use op).state = c.state := rfl

theorem count_use_of_ne (c : Counted World) {op other : Operation} (h : other ≠ op) :
    (c.use op).count other = c.count other := by
  rw [Counted.count, Counted.use, Assoc.lookup_put_of_ne h]
  rfl

theorem watch_succ (c : Counted World) (subscription : Subscription) (deadline turns : Nat) :
    (f.apply World.host).watch subscription selector deadline (turns + 1) c =
      match World.host.nextChange subscription deadline c.state with
      | (false, w) => (.ok none, { c with state := w })
      | (true, w) =>
        match f.reply selector (c.count .query) w.document with
        | .ok none => (f.apply World.host).watch subscription selector deadline turns ({ c with state := w }.use .query)
        | answer => (answer, { c with state := w }.use .query) := by
  have hnext : (f.apply World.host).nextChange subscription deadline c =
      ((World.host.nextChange subscription deadline c.state).1,
        { c with state := (World.host.nextChange subscription deadline c.state).2 }) := rfl
  rw [watch]
  dsimp only
  rw [hnext]
  rcases World.host.nextChange subscription deadline c.state with ⟨_ | _, w⟩
  · rfl
  · have hcount : Counted.count { c with state := w } .query = c.count .query := rfl
    dsimp only
    rw [call_query, hcount]
    rcases f.reply selector (c.count .query) w.document with fault | _ | number <;> rfl

theorem watch_idle (hu : c.state.unread id = 0) (h : ∀ p ∈ c.state.pending, deadline ≤ p.due) (turns : Nat) :
    (f.apply World.host).watch (.live id) selector deadline (turns + 1) c =
      (.ok none, { c with state := { c.state with now := max c.state.now deadline } }) := by
  have hnext : World.host.nextChange (.live id) deadline c.state = _ := World.nextChange_idle hu h
  rw [watch_succ, hnext]

/-- A watch with enough turns ends at the first of the changes to come at which a check has an answer. -/
theorem watch_settles (deadline : Nat) {ps : List Pending} (h : c.state.Listening id) (hp : c.state.pending = ps)
    (ht : ps.length ≤ turns) :
    let out := (f.apply World.host).watch (.live id) selector deadline turns c
    match settle (f.reply selector) (c.count .query) (changes deadline c.state.document ps) with
    | some (answer, instant, d) =>
      out.1 = answer.map some ∧ out.2.state.now = instant ∧ out.2.state.document = d
    | none => out.1 = .ok none ∧ out.2.state.now = max c.state.now deadline := by
  -- One turn lets any number of effects pass that change nothing, so the induction is on the effects.
  induction ps generalizing c turns with
  | nil =>
    cases turns with
    | zero =>
      refine ⟨rfl, ?_⟩
      change (World.runUntil deadline c.state c.state.pending).now = _
      rw [hp]
      rfl
    | succ turns =>
      rw [watch_idle f selector h.unread (by simp [hp])]
      exact ⟨rfl, rfl⟩
  | cons p ps ih =>
    obtain ⟨turns, rfl⟩ := Nat.exists_eq_succ_of_ne_zero (Nat.ne_of_gt (Nat.zero_lt_of_lt ht))
    rw [List.length_cons, Nat.succ_le_succ_iff] at ht
    have hle : c.state.now ≤ p.due := h.orderly.ahead p (hp ▸ List.mem_cons_self)
    by_cases hdue : p.due < deadline
    · by_cases ha : ∃ d, c.state.document.apply p.effect = .ok (some d)
      · obtain ⟨d, ha⟩ := ha
        obtain ⟨w', hnext, hl, hnow, rfl, hpend⟩ := h.heard hp hdue ha
        have hnext : World.host.nextChange (.live id) deadline c.state = (true, w') := hnext
        rw [watch_succ, hnext, changes_heard hdue ha, settle]
        dsimp only
        rcases f.reply selector (c.count .query) w'.document with fault | _ | number
        · exact ⟨rfl, hnow, rfl⟩
        · have hi := ih (c := Counted.use { c with state := w' } .query) hl hpend ht
          have hmax : max w'.now deadline = max c.state.now deadline := by omega
          rw [count_use] at hi
          rw [← hmax]
          exact hi
        · exact ⟨rfl, hnow, rfl⟩
      · have ha := not_exists.mp ha
        have hs : (f.apply World.host).watch (.live id) selector deadline (turns + 1) c =
            (f.apply World.host).watch (.live id) selector deadline (turns + 1)
              { c with state := { c.state with now := max c.state.now p.due, pending := ps } } := by
          have hnext : World.host.nextChange (.live id) deadline c.state = _ :=
            World.nextChange_silent h.unread hp hdue ha
          rw [watch_succ, watch_succ, hnext]
          rfl
        have hi := ih (c := { c with state := { c.state with now := max c.state.now p.due, pending := ps } })
          (h.silent hp) rfl (Nat.le_succ_of_le ht)
        have hmax : max (max c.state.now p.due) deadline = max c.state.now deadline := by omega
        rw [changes_silent hdue ha, hs, ← hmax]
        exact hi
    · rw [changes_late hdue, watch_idle f selector h.unread (h.orderly.forall_due_le hp hdue)]
      exact ⟨rfl, rfl⟩

theorem search_eq (c : Counted World) (subscription : Subscription) (timeout : Nat) :
    (f.apply World.host).search subscription selector timeout c =
      match f.reply selector (c.count .query) c.state.document with
      | .error fault => (.error fault, c.use .query)
      | .ok (some number) => (.ok number, c.use .query)
      | .ok none =>
        match (f.apply World.host).watch subscription selector (c.state.ahead timeout)
            (World.host.changesAhead subscription c.state) (c.use .query) with
        | (.error fault, c) => (.error fault, c)
        | (.ok (some number), c) => (.ok number, c)
        | (.ok none, c) => (.error (.elementNotFound selector timeout), c) := by
  have hahead : (f.apply World.host).ahead timeout (c.use .query) = c.state.ahead timeout := rfl
  have hturns : (f.apply World.host).changesAhead subscription (c.use .query) =
      World.host.changesAhead subscription c.state := rfl
  rw [search, call_query]
  rcases f.reply selector (c.count .query) c.state.document with fault | _ | number
  · rfl
  · dsimp only
    rw [hahead, hturns]
    generalize (f.apply World.host).watch subscription selector (c.state.ahead timeout)
      (World.host.changesAhead subscription c.state) (c.use .query) = watched
    rcases watched with ⟨fault | _ | number, c'⟩ <;> rfl
  · rfl

theorem watch_closed (c : Counted World) (deadline : Nat) :
    (f.apply World.host).watch .closed selector deadline 0 c =
      (.ok none, { c with state := c.state.sleepUntil deadline }) := rfl

/-- A search ends at the first of its checks with an answer, or else at its deadline. -/
theorem search_settles {subscription : Subscription} (h : ∀ id, subscription = .live id → c.state.Listening id)
    (timeout : Nat) :
    let out := (f.apply World.host).search subscription selector timeout c
    match settle (f.reply selector) (c.count .query)
        (c.state.checks subscription.hears (c.state.ahead timeout)) with
    | some (answer, instant, d) => out.1 = answer ∧ out.2.state.now = instant ∧ out.2.state.document = d
    | none =>
      out.1 = .error (.elementNotFound selector timeout) ∧ out.2.state.now = c.state.ahead timeout := by
  rw [search_eq, World.checks, settle]
  rcases f.reply selector (c.count .query) c.state.document with fault | _ | number
  · exact ⟨rfl, rfl, rfl⟩
  · have hmax : max c.state.now (c.state.ahead timeout) = c.state.ahead timeout :=
      max_eq_right (World.now_le_ahead _ _)
    dsimp only
    cases subscription with
    | closed =>
      have hturns : World.host.changesAhead .closed c.state = 0 := rfl
      have hnow := World.now_runUntil (c.state.ahead timeout) c.state c.state.pending
      rw [hturns, watch_closed]
      exact ⟨rfl, hnow.trans hmax⟩
    | live id =>
      have hl := h id rfl
      have hturns : World.host.changesAhead (.live id) c.state = c.state.pending.length := by
        change c.state.unread id + c.state.pending.length = _
        rw [hl.unread, Nat.zero_add]
      have hw := watch_settles f selector (c := c.use .query) (c.state.ahead timeout)
        hl (rfl : _ = c.state.pending) (le_refl c.state.pending.length)
      rw [hturns]
      simp only [count_use, state_use] at hw
      revert hw
      rcases (f.apply World.host).watch (.live id) selector (c.state.ahead timeout)
        c.state.pending.length (c.use .query) with ⟨found, c'⟩
      simp only [Subscription.hears, if_true]
      rcases settle (f.reply selector) (c.count .query + 1)
        (changes (c.state.ahead timeout) c.state.document c.state.pending) with _ | ⟨answer, instant, d⟩
      · rintro ⟨rfl, hnow⟩
        exact ⟨rfl, hnow.trans hmax⟩
      · rintro ⟨rfl, hnow, hd⟩
        cases answer <;> exact ⟨rfl, hnow, hd⟩
  · exact ⟨rfl, rfl, rfl⟩

/-! ## What passes while a search goes on -/

theorem elapsed_watch (h : c.state.Orderly) (subscription : Subscription) (deadline turns : Nat) :
    c.state.Elapsed ((f.apply World.host).watch subscription selector deadline turns c).2.state := by
  induction turns generalizing c with
  | zero => exact World.Orderly.elapsed_runUntil deadline h
  | succ turns ih =>
    have he := h.elapsed_nextChange subscription deadline
    rw [watch_succ]
    rcases hn : World.host.nextChange subscription deadline c.state with ⟨_ | _, w⟩ <;> rw [hn] at he
    · exact he
    · dsimp only
      rcases f.reply selector (c.count .query) w.document with fault | _ | number
      · exact he
      · exact he.trans (ih (c := Counted.use { c with state := w } .query) (h.elapsed he))
      · exact he

theorem elapsed_search (h : c.state.Orderly) (subscription : Subscription) (timeout : Nat) :
    c.state.Elapsed ((f.apply World.host).search subscription selector timeout c).2.state := by
  have hw := elapsed_watch f selector (c := c.use .query) h subscription
    (c.state.ahead timeout) (World.host.changesAhead subscription c.state)
  rw [search_eq]
  rcases f.reply selector (c.count .query) c.state.document with fault | _ | number
  · exact h.refl
  · dsimp only
    revert hw
    rcases (f.apply World.host).watch subscription selector (c.state.ahead timeout)
      (World.host.changesAhead subscription c.state) (c.use .query) with ⟨fault | _ | number, c'⟩ <;> exact id
  · exact h.refl

end Host

/-! ## Instants -/

/-- There is something at an instant from a start to a deadline, and nothing at any instant before it. -/
structure Earliest (found : Nat → Option Nat) (start deadline instant number : Nat) : Prop where
  start_le : start ≤ instant
  lt_deadline : instant < deadline
  eq_some : found instant = some number
  before : ∀ t, start ≤ t → t < instant → found t = none

theorem Earliest.unique {found : Nat → Option Nat} {start deadline instant instant' number number' : Nat}
    (h : Earliest found start deadline instant number) (h' : Earliest found start deadline instant' number') :
    instant = instant' ∧ number = number' := by
  have heq : instant = instant' := by
    rcases Nat.lt_trichotomy instant instant' with hlt | heq | hlt
    · have hnone := h'.before instant h.start_le hlt
      rw [h.eq_some] at hnone
      cases hnone
    · exact heq
    · have hnone := h.before instant' h'.start_le hlt
      rw [h'.eq_some] at hnone
      cases hnone
  subst heq
  exact ⟨rfl, Option.some.inj (h.eq_some.symm.trans h'.eq_some)⟩

theorem Earliest.of_later {found found' : Nat → Option Nat} {start later deadline instant number : Nat}
    (h : Earliest found' later deadline instant number) (hs : start ≤ later)
    (hearly : ∀ t < later, found t = none) (heq : ∀ t, later ≤ t → found t = found' t) :
    Earliest found start deadline instant number where
  start_le := hs.trans h.start_le
  lt_deadline := h.lt_deadline
  eq_some := (heq instant h.start_le).trans h.eq_some
  before := by
    intro t _ ht
    rcases Nat.lt_or_ge t later with hlt | hge
    · exact hearly t hlt
    · exact (heq t hge).trans (h.before t hge ht)

section

variable {reply : Nat → Document → Except Fault (Option Nat)} {matching : Document → Option Nat}
  {start deadline earlier : Nat} {d : Document} {ps : List Pending}

/-- If no check fails, the changes to come are settled at the earliest instant at which there is a match. -/
theorem settle_changes (hr : ∀ k, earlier ≤ k → ∀ d, reply k d = .ok (matching d))
    (hps : ps.Pairwise (·.due < ·.due)) (hstart : ∀ p ∈ ps, start ≤ p.due) (hd : matching d = none) :
    match settle reply earlier (changes deadline d ps) with
    | some (answer, instant, d') => d' = d.asOf ps instant ∧ ∃ number, answer = .ok number ∧
        Earliest (fun t => matching (d.asOf ps t)) start deadline instant number
    | none => ∀ t, start ≤ t → t < deadline → matching (d.asOf ps t) = none := by
  induction ps generalizing d earlier start with
  | nil =>
    intro t _ _
    exact hd
  | cons p ps ih =>
    have hlater : ∀ q ∈ ps, p.due < q.due := fun q hq => List.rel_of_pairwise_cons hps hq
    have hearly : ∀ t < p.due, matching (d.asOf (p :: ps) t) = none := by
      intro t ht
      rw [Document.asOf_eq_self (List.forall_mem_cons.mpr ⟨ht, fun q hq => ht.trans (hlater q hq)⟩)]
      exact hd
    have hp : start ≤ p.due := hstart p List.mem_cons_self
    by_cases hdue : p.due < deadline
    · by_cases ha : ∃ d', d.apply p.effect = .ok (some d')
      · obtain ⟨d', ha⟩ := ha
        have hcons : ∀ t, p.due ≤ t → d.asOf (p :: ps) t = d'.asOf ps t := by
          intro t ht
          rw [Document.asOf_of_due ht, Document.undergo_heard ha]
        have hfrom : ∀ q ∈ ps, p.due ≤ q.due := fun q hq => (hlater q hq).le
        have hi := ih (d := d') (fun k hk => hr k (Nat.le_of_succ_le hk)) hps.of_cons hfrom
        rw [changes_heard hdue ha, settle, hr earlier le_rfl]
        cases hm : matching d' with
        | some number =>
          have hat : d.asOf (p :: ps) p.due = d' := (hcons p.due le_rfl).trans (Document.asOf_eq_self hlater)
          exact ⟨hat.symm, number, rfl, hp, hdue, hat.symm ▸ hm, fun t _ ht => hearly t ht⟩
        | none =>
          specialize hi hm
          revert hi
          dsimp only
          rcases settle reply (earlier + 1) (changes deadline d' ps) with _ | ⟨answer, instant, d''⟩
          · intro hi t _ ht
            rcases Nat.lt_or_ge t p.due with hlt | hge
            · exact hearly t hlt
            · rw [hcons t hge]
              exact hi t hge ht
          · rintro ⟨hd'', number, rfl, he⟩
            refine ⟨hd''.trans (hcons instant he.start_le).symm, number, rfl, ?_⟩
            exact he.of_later hp hearly fun t ht => congrArg matching (hcons t ht)
      · have ha := not_exists.mp ha
        have hcons : d.asOf (p :: ps) = d.asOf ps := by
          funext t
          by_cases hpt : p.due ≤ t
          · rw [Document.asOf_of_due hpt, Document.undergo_silent ha]
          · exact Document.asOf_of_not_due hpt
        rw [changes_silent hdue ha, hcons]
        exact ih hr hps.of_cons (fun q hq => hstart q (List.mem_cons_of_mem p hq)) hd
    · rw [changes_late hdue]
      intro t _ ht
      exact hearly t (by omega)

end

/-! ## Waits -/

/-- The first match at an instant, if nothing but pending effects changes the document until then. -/
def World.matchAt (w : World) (selector : String) (instant : Nat) : Option Nat :=
  ((w.documentAt instant).find? selector).map Node.number

/-- No check of a wait fails, and changes are heard of. -/
structure Failures.Spare (f : Failures) (c : Counted World) : Prop where
  checks : ∀ k, c.count .query ≤ k → f.messageAfter .query k = none
  changes : f.messageAfter .observe (c.count .observe) = none

/-- The first check with an answer ends a wait at the instant of that check; without one it ends when the time is up,
and all effects due by then have happened. -/
def Settled (f : Failures) (selector : String) (timeout : Nat) (c : Counted World) (answer : Except Fault Nat)
    (w' : World) : Prop :=
  match settle (f.reply selector) (c.count .query)
      (c.state.checks (f.messageAfter .observe (c.count .observe)).isNone (c.state.ahead timeout)) with
  | some (answer', instant, d) => answer = answer' ∧ w'.now = instant ∧ w'.document = d
  | none => answer = .error (.elementNotFound selector timeout) ∧
      w'.now = c.state.ahead timeout ∧
      w'.document = c.state.documentAt (c.state.ahead timeout)

/-- The answer of a wait for an element and the world in which it ends. -/
structure Awaited (f : Failures) (selector : String) (timeout : Nat) (c : Counted World) (answer : Except Fault Nat)
    (w' : World) : Prop where
  settled : Settled f selector timeout c answer w'
  /-- An invalid selector ends it at once. -/
  invalid : f.messageAfter .query (c.count .query) = none → ∀ fault, Selector.parse selector = .error fault →
    answer = .error fault ∧ w'.now = c.state.now ∧ w'.document = c.state.document
  /-- So does a match. -/
  present : f.messageAfter .query (c.count .query) = none → ∀ n, c.state.document.find? selector = some n →
    answer = .ok n.number ∧ w'.now = c.state.now ∧ w'.document = c.state.document
  /-- Otherwise the first match at the earliest instant is the answer. -/
  later : f.Spare c → ∀ s, Selector.parse selector = .ok s → c.state.document.find? selector = none →
    ∀ instant number,
      Earliest (c.state.matchAt selector) c.state.now (c.state.ahead timeout) instant number →
      answer = .ok number ∧ w'.now = instant ∧ w'.document = c.state.documentAt instant
  /-- The time is up if there is no such instant. -/
  missing : f.Spare c → ∀ s, Selector.parse selector = .ok s → c.state.document.find? selector = none →
    (∀ t, c.state.now ≤ t → t < c.state.ahead timeout → c.state.matchAt selector t = none) →
    answer = .error (.elementNotFound selector timeout) ∧ w'.now = c.state.ahead timeout
  /-- If nothing is heard of, only the first check can find anything. -/
  deaf : f.messageAfter .query (c.count .query) = none → f.messageAfter .observe (c.count .observe) ≠ none →
    ∀ s, Selector.parse selector = .ok s → c.state.document.find? selector = none →
    answer = .error (.elementNotFound selector timeout) ∧ w'.now = c.state.ahead timeout
  /-- Nothing but effects that were due has happened, and the same observers are connected. -/
  elapsed : c.state.Elapsed w'

section

variable {f : Failures} {selector : String} {c : Counted World}

theorem Document.selectFirst_of_parse {s : Selector} (h : Selector.parse selector = .ok s) (d : Document) :
    d.selectFirst selector = .ok (d.find? selector) := by
  rw [find?, selectFirst, selectAll, h]
  rfl

theorem Document.selectFirst_of_find? {d : Document} {n : Node} (h : d.find? selector = some n) :
    d.selectFirst selector = .ok (some n) := by
  rw [find?] at h
  rcases hs : d.selectFirst selector with fault | found <;> rw [hs] at h
  · cases h
  · exact congrArg Except.ok h

theorem Failures.reply_eq {k : Nat} (h : f.messageAfter .query k = none) (d : Document) :
    f.reply selector k d = (d.selectFirst selector).map (·.map Node.number) := by
  rw [reply, h]

theorem Failures.observe_spec (f : Failures) (h : c.state.Orderly) (hp : c.state.pending.Pairwise (·.due < ·.due)) :
    ∃ subscription c', (f.apply World.host).observe c = (subscription, c') ∧
      subscription.hears = (f.messageAfter .observe (c.count .observe)).isNone ∧
      c'.count .query = c.count .query ∧ c'.state.now = c.state.now ∧
      (∀ ms, c'.state.ahead ms = c.state.ahead ms) ∧ c'.state.document = c.state.document ∧
      c'.state.pending = c.state.pending ∧ c'.state.Orderly ∧
      (∀ id, subscription = .live id → c'.state.Listening id) ∧
      ∀ w', c'.state.Elapsed w' → c.state.Elapsed (World.host.unobserve subscription w') := by
  have hcount : (c.use .observe).count .query = c.count .query := Host.count_use_of_ne c (by decide)
  have hobserve : (f.apply World.host).observe c =
      match f.messageAfter .observe (c.count .observe) with
      | some _ => (.closed, c.use .observe)
      | none => (.live c.state.nextObserver, { c.use .observe with state := c.state.observe.2 }) := rfl
  rw [hobserve]
  cases f.messageAfter .observe (c.count .observe) with
  | some message =>
    refine ⟨_, _, rfl, rfl, hcount, rfl, fun _ => rfl, rfl, rfl, h, ?_, fun w' he => he⟩
    intro id hid
    cases hid
  | none =>
    refine ⟨_, _, rfl, rfl, hcount, rfl, fun _ => rfl, rfl, rfl, h.observe, ?_, fun w' he => he.unobserve h⟩
    intro id hid
    cases hid
    exact h.listening hp

theorem settle_checks {s : Selector} (deadline : Nat) (h : c.state.Orderly)
    (hp : c.state.pending.Pairwise (·.due < ·.due))
    (hm : ∀ k, c.count .query ≤ k → f.messageAfter .query k = none)
    (hsel : Selector.parse selector = .ok s) (hnone : c.state.document.find? selector = none) :
    match settle (f.reply selector) (c.count .query) (c.state.checks true deadline) with
    | some (answer, instant, d) => d = c.state.documentAt instant ∧ ∃ number, answer = .ok number ∧
        Earliest (c.state.matchAt selector) c.state.now deadline instant number
    | none => ∀ t, c.state.now ≤ t → t < deadline → c.state.matchAt selector t = none := by
  have hreply : ∀ k, c.count .query ≤ k → ∀ d,
      f.reply selector k d = .ok ((d.find? selector).map Node.number) := by
    intro k hk d
    rw [Failures.reply_eq (hm k hk), Document.selectFirst_of_parse hsel]
    rfl
  rw [World.checks, settle, hreply _ le_rfl, hnone]
  exact settle_changes (fun k hk => hreply k (Nat.le_of_succ_le hk)) hp h.ahead (by rw [hnone]; rfl)

/-- A wait whose checks are settled comes to what is laid down of it. -/
theorem awaited_of_settled {timeout : Nat} {answer : Except Fault Nat} {w' : World} (h : c.state.Orderly)
    (hp : c.state.pending.Pairwise (·.due < ·.due)) (he : c.state.Elapsed w')
    (hs : Settled f selector timeout c answer w') : Awaited f selector timeout c answer w' where
  settled := hs
  elapsed := he
  invalid := by
    intro hm fault hsel
    have hfirst : c.state.document.selectFirst selector = .error fault := by
      rw [Document.selectFirst, Document.selectAll, hsel]
      rfl
    rw [Settled, World.checks, settle, Failures.reply_eq hm, hfirst] at hs
    exact hs
  present := by
    intro hm n hn
    rw [Settled, World.checks, settle, Failures.reply_eq hm, Document.selectFirst_of_find? hn] at hs
    exact hs
  later := by
    intro hf s hsel hnone instant number hearliest
    have hchecks := settle_checks (c.state.ahead timeout) h hp hf.checks hsel hnone
    rw [Settled, hf.changes, Option.isNone_none] at hs
    revert hs hchecks
    rcases settle (f.reply selector) (c.count .query) (c.state.checks true (c.state.ahead timeout))
      with _ | ⟨answer', instant', d⟩
    · intro _ hall
      have hno := hall instant hearliest.start_le hearliest.lt_deadline
      rw [hearliest.eq_some] at hno
      cases hno
    · rintro ⟨rfl, hnow, hd⟩ ⟨rfl, number', rfl, hearliest'⟩
      obtain ⟨rfl, rfl⟩ := hearliest'.unique hearliest
      exact ⟨rfl, hnow, hd⟩
  missing := by
    intro hf s hsel hnone hall
    have hchecks := settle_checks (c.state.ahead timeout) h hp hf.checks hsel hnone
    rw [Settled, hf.changes, Option.isNone_none] at hs
    revert hs hchecks
    rcases settle (f.reply selector) (c.count .query) (c.state.checks true (c.state.ahead timeout))
      with _ | ⟨answer', instant, d⟩
    · rintro ⟨rfl, hnow, -⟩ _
      exact ⟨rfl, hnow⟩
    · rintro - ⟨-, number, -, hearliest⟩
      have hno := hall instant hearliest.start_le hearliest.lt_deadline
      rw [hearliest.eq_some] at hno
      cases hno
  deaf := by
    intro hm hdeaf s hsel hnone
    rw [Settled, World.checks, settle, Failures.reply_eq hm, Document.selectFirst_of_parse hsel, hnone,
      Option.isNone_eq_false_iff.mpr (Option.ne_none_iff_isSome.mp hdeaf)] at hs
    exact ⟨hs.1, hs.2.1⟩

theorem awaited_of_orderly (f : Failures) (selector : String) (timeout : Nat) (h : c.state.Orderly)
    (hdue : (c.state.pending.map Pending.due).Nodup)
    (hend : c.state.ahead timeout ∉ c.state.pending.map Pending.due) :
    let out := (f.apply World.host).await selector timeout c
    Awaited f selector timeout c out.1 out.2.state := by
  have hp := h.apart hdue
  obtain ⟨subscription, c', hobserve, hhears, hcount, hnow, hahead, hdoc, hpend, h', hl, hback⟩ :=
    f.observe_spec h hp
  have hsearch := Host.search_settles f selector hl timeout
  have helapsed := hback _ (Host.elapsed_search f selector h' subscription timeout)
  have hchecks : c'.state.checks subscription.hears (c.state.ahead timeout) =
      c.state.checks (f.messageAfter .observe (c.count .observe)).isNone (c.state.ahead timeout) := by
    rw [World.checks, World.checks, hhears, hnow, hdoc, hpend]
  have hkept : ∀ w, (World.host.unobserve subscription w).now = w.now ∧
      (World.host.unobserve subscription w).document = w.document := by
    intro w
    cases subscription <;> exact ⟨rfl, rfl⟩
  have hlast : ∀ w', c.state.Elapsed w' → w'.now = c.state.ahead timeout →
      w'.document = c.state.documentAt (c.state.ahead timeout) := by
    intro w' he hn
    rw [← hn]
    refine he.document_eq fun p hm heq => hend ?_
    obtain ⟨done, hpending, -⟩ := he.happened
    rw [← hn, ← heq, hpending]
    exact List.mem_map_of_mem (List.mem_append_right done hm)
  rw [hcount, hahead, hchecks] at hsearch
  rw [Host.await, hobserve]
  refine awaited_of_settled h hp helapsed ?_
  rw [Settled]
  revert helapsed hsearch
  dsimp only
  rcases (f.apply World.host).search subscription selector timeout c' with ⟨answer, c''⟩
  obtain ⟨hn, hd⟩ := hkept c''.state
  rcases settle (f.reply selector) (c.count .query) (c.state.checks (f.messageAfter .observe (c.count .observe)).isNone
    (c.state.ahead timeout)) with _ | ⟨answer', instant, d⟩
  · rintro ⟨rfl, hs⟩ helapsed
    have hinstant := hn.trans hs
    exact ⟨rfl, hinstant, hlast _ helapsed hinstant⟩
  · rintro ⟨rfl, hs, rfl⟩ helapsed
    exact ⟨rfl, hn.trans hs, hd⟩

end

/-- In every world that a page comes to, whatever its clock, a wait for an element settles as laid down, if no two
effects are due at the same instant and none at the deadline. -/
theorem await_settles (f : Failures) (page : Page) (longestWait : Nat) (events : List World.Event)
    (uses : List (Operation × Nat)) (selector : String) (timeout : Nat) {w : World}
    (hw : w = World.after { World.ofPage page with longestWait } events)
    (hdue : (w.pending.map Pending.due).Nodup) (hend : w.ahead timeout ∉ w.pending.map Pending.due) :
    let out := (f.apply World.host).await selector timeout ⟨w, uses⟩
    (timeout ≤ longestWait → w.ahead timeout = w.now + timeout) ∧
      Awaited f selector timeout ⟨w, uses⟩ out.1 out.2.state := by
  have h : w.Orderly := hw ▸ World.after_invariant World.orderly_step (World.orderly_ofPage page false longestWait) events
  have hclock : w.longestWait = longestWait := hw ▸ World.longestWait_after _ events
  exact ⟨fun ht => w.ahead_of_le (hclock ▸ ht), awaited_of_orderly f selector timeout h hdue hend⟩

/-- An element that comes after two milliseconds and goes after four is found, although there is a change before it. -/
theorem await_settles_delayed :
    let events : List World.Event := [
      .trigger { target := "body", change := .append { tag := "i" }, delay := 1 },
      .trigger { target := "body", change := .append { tag := "b" }, delay := 2 },
      .trigger { target := "b", change := .remove, delay := 4 }]
    let w := (World.ofPage {}).after events
    let out := (({} : Failures).apply World.host).await "b" 10 { state := w }
    (w.pending.map Pending.due).Nodup ∧ w.ahead 10 ∉ w.pending.map Pending.due ∧
      Awaited {} "b" 10 { state := w } out.1 out.2.state ∧ out.1 = .ok 2 ∧ out.2.state.now = 2 := by
  intro events w
  have hdue : (w.pending.map Pending.due).Nodup := by decide +kernel
  have hend : w.ahead 10 ∉ w.pending.map Pending.due := by decide +kernel
  obtain ⟨-, hawait⟩ := await_settles {} {} thirtyYears events [] "b" 10 (w := w) rfl hdue hend
  refine ⟨hdue, hend, hawait, ?_, ?_⟩
  · decide +kernel
  · decide +kernel

end PageScript
