import PageScript.Proofs.Lockstep
import PageScript.Proofs.Success

/-!
# The pace of a run

Where time changes nothing, neither does waiting. Two runs of one script that differ only in the delays between
commands, and in lines that wait, do the same apart from waiting: they perform the same other steps with the same
results, come to the same end, and leave the same lines undone.
-/
namespace PageScript

/-! ## Journals apart from time -/

/-- The step as if it had begun at once and taken no time. -/
def Executed.timeless (x : Executed) : Executed := { x with began := 0, ended := 0 }

/-- What was done apart from waiting, whenever that was. -/
def doings (journal : List Executed) : List Executed :=
  (journal.filter (!·.step.action.isWait)).map Executed.timeless

/-- Why a run ended early, if it did, by its journal. -/
def abortedBy (strict : Bool) (journal : List Executed) : Option String :=
  journal.findSome? (Executed.reason strict)

section

variable {x : Executed} {journal : List Executed}

theorem abortedBy_cons_of_none {strict : Bool} (h : x.reason strict = none) :
    abortedBy strict (x :: journal) = abortedBy strict journal := by
  rw [abortedBy, List.findSome?_cons, h]
  rfl

theorem doings_cons_of_wait (h : x.step.action.isWait = true) : doings (x :: journal) = doings journal := by
  rw [doings, List.filter_cons_of_neg (by simp [h])]
  rfl

theorem doings_cons (h : x.step.action.isWait = false) :
    doings (x :: journal) = x.timeless :: doings journal := by
  rw [doings, List.filter_cons_of_pos (by simp [h])]
  rfl

theorem abortedBy_append {strict : Bool} (journal later : List Executed) :
    abortedBy strict (journal ++ later) = (abortedBy strict journal).or (abortedBy strict later) :=
  List.findSome?_append

theorem doings_append (journal later : List Executed) :
    doings (journal ++ later) = doings journal ++ doings later := by
  simp [doings]

theorem Executed.plain_of_wait (h : x.step.action.isWait = true) : x.Plain ∧ x.leavesOutcome = false := by
  unfold Plain opens closes leavesOutcome
  cases ha : x.step.action <;> simp_all [Action.isWait]

theorem any_opens_doings (journal : List Executed) :
    (doings journal).any Executed.opens = journal.any Executed.opens := by
  induction journal with
  | nil => rfl
  | cons x journal ih =>
    cases h : x.step.action.isWait with
    | true => rw [doings_cons_of_wait h, ih, List.any_cons, (Executed.plain_of_wait h).1.1, Bool.false_or]
    | false =>
      rw [doings_cons h, List.any_cons, List.any_cons, ih]
      rfl

theorem sinceBeacon_eq_self {journal : List Executed} (h : journal.any Executed.opens = false) :
    sinceBeacon journal = journal := by
  cases journal with
  | nil => rfl
  | cons x journal =>
    rw [List.any_cons, Bool.or_eq_false_iff] at h
    rw [sinceBeacon, if_neg (by simp [h.2])]

theorem sinceBeacon_doings (journal : List Executed) :
    sinceBeacon (doings journal) = doings (sinceBeacon journal) := by
  induction journal with
  | nil => rfl
  | cons x journal ih =>
    rw [sinceBeacon]
    cases ho : journal.any Executed.opens with
    | true =>
      cases h : x.step.action.isWait with
      | true => rw [doings_cons_of_wait h, ih, if_pos rfl]
      | false => rw [doings_cons h, sinceBeacon, any_opens_doings, ho, if_pos rfl, if_pos rfl, ih]
    | false =>
      rw [if_neg Bool.false_ne_true]
      cases h : x.step.action.isWait with
      | true =>
        rw [doings_cons_of_wait h]
        exact sinceBeacon_eq_self ((any_opens_doings journal).trans ho)
      | false => rw [doings_cons h, sinceBeacon, any_opens_doings, ho, if_neg Bool.false_ne_true]

theorem takeWhile_doings (journal : List Executed) :
    (doings journal).takeWhile (!·.closes) = doings (journal.takeWhile (!·.closes)) := by
  induction journal with
  | nil => rfl
  | cons x journal ih =>
    cases h : x.step.action.isWait with
    | true =>
      have hc := (Executed.plain_of_wait h).1.2
      rw [doings_cons_of_wait h, List.takeWhile_cons_of_pos (by simp [hc]), doings_cons_of_wait h, ih]
    | false =>
      have hc : x.timeless.closes = x.closes := rfl
      rw [doings_cons h, List.takeWhile_cons, List.takeWhile_cons, hc]
      cases x.closes with
      | true => rfl
      | false => exact (congrArg _ ih).trans (doings_cons h).symm

theorem outcomes_doings (journal : List Executed) : outcomes (doings journal) = outcomes journal := by
  induction journal with
  | nil => rfl
  | cons x journal ih =>
    rw [← List.singleton_append (l := journal), doings_append, outcomes_append, outcomes_append, ih]
    cases h : x.step.action.isWait with
    | true => rw [doings_cons_of_wait h, outcomes_singleton, (Executed.plain_of_wait h).2]; rfl
    | false =>
      have ht : outcomes [x.timeless] = outcomes [x] := by
        rw [outcomes_singleton, outcomes_singleton]
        rfl
      exact (congrArg (outcomes · ++ outcomes journal) (doings_cons h)).trans (congrArg (· ++ outcomes journal) ht)

/-- What a report holds does not depend on the waits. -/
theorem outcomes_lastWindow_doings (journal : List Executed) :
    outcomes (lastWindow (doings journal)) = outcomes (lastWindow journal) := by
  rw [lastWindow, sinceBeacon_doings, takeWhile_doings, outcomes_doings]
  rfl

end

/-! ## Runs of steps and of lines -/

section

variable {σ : Type} (host : Host σ) (strict : Bool) (keyMap : List (String × Nat)) (timeout : Nat)

/-- Performs steps one after another up to one that ends the run. -/
def performUntil : List Step → σ → List Executed × σ
  | [], s => ([], s)
  | step :: steps, s =>
    let done := step.action.perform host keyMap timeout s
    let x : Executed := ⟨step, done.1, host.now s, host.now done.2⟩
    if (x.reason strict).isSome then ([x], done.2)
    else
      let rest := performUntil steps done.2
      (x :: rest.1, rest.2)

/-- Performs the lines of a script, each with what it stands for, up to one in which a step ends the run; answers also
the lines behind that one. -/
def performLines (delay : Nat) : List Step → σ → List Executed × List Step × σ
  | [], s => ([], [], s)
  | line :: lines, s =>
    let done := performUntil host strict keyMap timeout (line.expand delay) s
    if (abortedBy strict done.1).isSome then (done.1, lines, done.2)
    else
      let rest := performLines delay lines done.2
      (done.1 ++ rest.1, rest.2)

def Step.executed (step : Step) (s : σ) : Executed × σ :=
  let done := step.action.perform host keyMap timeout s
  (⟨step, done.1, host.now s, host.now done.2⟩, done.2)

section

variable {host strict keyMap timeout} {x : Executed} {s s₁ : σ} {step : Step}

theorem performUntil_of_stop (hx : step.executed host keyMap timeout s = (x, s₁)) (h : x.Ends strict)
    (steps : List Step) : performUntil host strict keyMap timeout (step :: steps) s = ([x], s₁) := by
  obtain ⟨rfl, rfl⟩ := Prod.mk.inj hx
  exact if_pos (Executed.isSome_reason.mpr h)

theorem performUntil_of_continue (hx : step.executed host keyMap timeout s = (x, s₁)) (h : ¬ x.Ends strict)
    (steps : List Step) :
    performUntil host strict keyMap timeout (step :: steps) s =
      let rest := performUntil host strict keyMap timeout steps s₁
      (x :: rest.1, rest.2) := by
  obtain ⟨rfl, rfl⟩ := Prod.mk.inj hx
  exact if_neg fun hs => h (Executed.isSome_reason.mp hs)

end

theorem performUntil_append (steps later : List Step) (s : σ) :
    performUntil host strict keyMap timeout (steps ++ later) s =
      let first := performUntil host strict keyMap timeout steps s
      if (abortedBy strict first.1).isSome then first
      else
        let rest := performUntil host strict keyMap timeout later first.2
        (first.1 ++ rest.1, rest.2) := by
  induction steps generalizing s with
  | nil => rfl
  | cons step steps ih =>
    obtain ⟨⟨x, s₁⟩, hx⟩ : ∃ done, step.executed host keyMap timeout s = done := ⟨_, rfl⟩
    rw [List.cons_append]
    by_cases h : x.Ends strict
    · have haborted : (abortedBy strict [x]).isSome = true := by
        simpa [abortedBy] using Executed.isSome_reason.mpr h
      rw [performUntil_of_stop hx h, performUntil_of_stop hx h]
      exact (if_pos haborted).symm
    · rw [performUntil_of_continue hx h, performUntil_of_continue hx h, ih]
      simp only [abortedBy_cons_of_none (Executed.reason_eq_none.mpr h)]
      split <;> rfl

theorem performUntil_cons_steps (step : Step) (steps : List Step) (s : σ) :
    ∃ begun, (performUntil host strict keyMap timeout (step :: steps) s).1.map Executed.step = step :: begun ∧
      begun <+: steps := by
  induction steps generalizing step s with
  | nil =>
    rw [performUntil]
    dsimp only
    split <;> exact ⟨[], rfl, List.prefix_rfl⟩
  | cons next steps ih =>
    obtain ⟨⟨x, s₁⟩, hx⟩ : ∃ done, step.executed host keyMap timeout s = done := ⟨_, rfl⟩
    obtain rfl : x.step = step := (congrArg (fun done => done.1.step) hx).symm
    by_cases h : x.Ends strict
    · rw [performUntil_of_stop hx h]
      exact ⟨[], rfl, List.nil_prefix⟩
    · rw [performUntil_of_continue hx h]
      obtain ⟨begun, hb, hp⟩ := ih next s₁
      exact ⟨next :: begun, congrArg (x.step :: ·) hb, List.cons_prefix_cons.mpr ⟨rfl, hp⟩⟩

theorem scriptTexts_performUntil (delay : Nat) (line : Step) (s : σ) :
    scriptTexts ((performUntil host strict keyMap timeout (line.expand delay) s).1.map Executed.step) =
      scriptTexts [line] := by
  obtain ⟨later, he⟩ : ∃ later, line.expand delay = line :: later := by
    unfold Step.expand
    split <;> exact ⟨_, rfl⟩
  have hlater : scriptTexts later = [] := by
    have ht := scriptTexts_expand delay line
    rw [he, scriptTexts_cons, scriptTexts_cons, List.append_right_inj] at ht
    exact ht
  obtain ⟨begun, hb, hp⟩ := performUntil_cons_steps host strict keyMap timeout line later s
  have hbegun : scriptTexts begun = [] := by simpa [hlater] using scriptTexts_prefix hp
  rw [he, hb, scriptTexts_cons, scriptTexts_cons, hbegun, scriptTexts_nil]

theorem scriptTexts_performLines (delay : Nat) (lines : List Step) (s : σ) :
    let out := performLines host strict keyMap timeout delay lines s
    scriptTexts (out.1.map Executed.step) ++ scriptTexts out.2.1 = scriptTexts lines := by
  induction lines generalizing s with
  | nil => rfl
  | cons line lines ih =>
    have ht := scriptTexts_performUntil host strict keyMap timeout delay line s
    rw [← List.singleton_append (l := lines), scriptTexts_append, ← ht, List.singleton_append, performLines]
    dsimp only
    split
    · rfl
    · rw [List.map_append, scriptTexts_append, List.append_assoc, ih]

/-- Line by line comes to the same as step by step. -/
theorem performUntil_expansion (delay : Nat) (lines : List Step) (s : σ) :
    performUntil host strict keyMap timeout (expansion delay lines) s =
      let out := performLines host strict keyMap timeout delay lines s
      (out.1, out.2.2) := by
  induction lines generalizing s with
  | nil => rfl
  | cons line lines ih =>
    rw [expansion_cons, performUntil_append, performLines]
    dsimp only
    split
    · rfl
    · rw [ih]

end

/-! ## Where time does not matter -/

/-- Whatever is done with related states of a host comes to the same, and letting time pass on one side changes
nothing. -/
structure Timeless {σ : Type} (host : Host σ) (R : σ → σ → Prop) (timeout : Nat) : Prop where
  symm : ∀ {s t}, R s t → R t s
  trans : ∀ {s t u}, R s t → R t u → R s u
  call : ∀ r, Call.Agree (fun _ => False) R (host.ask r) (host.ask r)
  await : ∀ selector, Call.Agree (fun _ => False) R (host.await selector timeout) (host.await selector timeout)
  sleep : ∀ ms {s t}, R s t → R (host.sleep ms s) t

namespace Timeless

variable {σ : Type} {host : Host σ} {R : σ → σ → Prop} {timeout : Nat} (h : Timeless host R timeout)
  {strict : Bool} {keyMap : List (String × Nat)} {s t : σ}

include h

theorem lockstep : Lockstep host host (fun _ => False) R timeout timeout where
  call := h.call
  await := h.await
  sleep ms _ _ hr := h.symm (h.sleep ms (h.symm (h.sleep ms hr)))

theorem perform (keyMap : List (String × Nat)) (a : Action) (hr : R s t) :
    (a.perform host keyMap timeout s).1 = (a.perform host keyMap timeout t).1 ∧
      R (a.perform host keyMap timeout s).2 (a.perform host keyMap timeout t).2 := by
  rcases h.lockstep.perform keyMap a s t hr with ⟨_, _, ⟨⟩⟩ | ha
  exact ha

section

variable {step : Step} {x : Executed} {s₁ : σ}

/-- Related states do not show in what a step comes to, but for the times. -/
theorem executed (strict : Bool) (hx : step.executed host keyMap timeout s = (x, s₁)) (hr : R s t) :
    ∃ y t₁, step.executed host keyMap timeout t = (y, t₁) ∧ x.timeless = y.timeless ∧
      x.reason strict = y.reason strict ∧ R s₁ t₁ := by
  obtain ⟨rfl, rfl⟩ := Prod.mk.inj hx
  obtain ⟨hresult, hr'⟩ := h.perform keyMap step.action hr
  exact ⟨_, _, rfl, congrArg (fun result => (⟨step, result, 0, 0⟩ : Executed)) hresult,
    congrArg (Run.reasonToStop strict step) hresult, hr'⟩

theorem executed_of_wait (hx : step.executed host keyMap timeout s = (x, s₁)) (hw : step.action.isWait = true)
    (hr : R s t) : x.reason strict = none ∧ R s₁ t := by
  obtain ⟨ms, ha⟩ : ∃ ms, step.action = .wait ms := by
    cases ha : step.action <;> simp_all [Action.isWait]
  have hdone : step.action.perform host keyMap timeout s = (.ok s!"Waited for {ms} ms", host.sleep ms s) := by
    rw [ha]
    rfl
  rw [Step.executed, hdone] at hx
  obtain ⟨rfl, rfl⟩ := Prod.mk.inj hx
  exact ⟨rfl, h.sleep ms hr⟩

end

theorem performUntil_filter (strict : Bool) (keyMap : List (String × Nat)) (steps : List Step) (hr : R s t) :
    let out := performUntil host strict keyMap timeout steps s
    let out' := performUntil host strict keyMap timeout (steps.filter (!·.action.isWait)) t
    doings out.1 = doings out'.1 ∧ abortedBy strict out.1 = abortedBy strict out'.1 ∧ R out.2 out'.2 := by
  induction steps generalizing s t with
  | nil => exact ⟨rfl, rfl, hr⟩
  | cons step steps ih =>
    obtain ⟨⟨x, s₁⟩, hx⟩ : ∃ done, step.executed host keyMap timeout s = done := ⟨_, rfl⟩
    obtain rfl : x.step = step := (congrArg (fun done => done.1.step) hx).symm
    cases hw : x.step.action.isWait with
    | true =>
      obtain ⟨hgoes, hr'⟩ := h.executed_of_wait hx hw hr
      obtain ⟨hd, hb, hlast⟩ := ih hr'
      rw [List.filter_cons_of_neg (by simp [hw]),
        performUntil_of_continue hx (Executed.reason_eq_none.mp hgoes)]
      exact ⟨(doings_cons_of_wait hw).trans hd, (abortedBy_cons_of_none hgoes).trans hb, hlast⟩
    | false =>
      obtain ⟨y, t₁, hy, htimeless, hreason, hr'⟩ := h.executed strict hx hr
      have hw' : y.step.action.isWait = false := by
        rwa [show y.step = x.step from (congrArg Executed.step htimeless).symm]
      rw [List.filter_cons_of_pos (by simp [hw])]
      by_cases hends : x.Ends strict
      · have hends' : y.Ends strict := by rwa [← Executed.isSome_reason, ← hreason, Executed.isSome_reason]
        rw [performUntil_of_stop hx hends, performUntil_of_stop hy hends']
        refine ⟨?_, ?_, hr'⟩
        · rw [doings_cons hw, doings_cons hw', htimeless]
        · rw [abortedBy, abortedBy, List.findSome?_cons, List.findSome?_cons, hreason]
      · have hgoes : x.reason strict = none := Executed.reason_eq_none.mpr hends
        have hgoes' : y.reason strict = none := hreason ▸ hgoes
        obtain ⟨hd, hb, hlast⟩ := ih hr'
        rw [performUntil_of_continue hx hends,
          performUntil_of_continue hy (Executed.reason_eq_none.mp hgoes')]
        refine ⟨?_, ?_, hlast⟩
        · rw [doings_cons hw, doings_cons hw', htimeless, hd]
        · rw [abortedBy_cons_of_none hgoes, abortedBy_cons_of_none hgoes', hb]

theorem performUntil_congr (strict : Bool) (keyMap : List (String × Nat)) {steps steps' : List Step}
    (hs : steps.filter (!·.action.isWait) = steps'.filter (!·.action.isWait)) (hr : R s t) :
    let out := performUntil host strict keyMap timeout steps s
    let out' := performUntil host strict keyMap timeout steps' t
    doings out.1 = doings out'.1 ∧ abortedBy strict out.1 = abortedBy strict out'.1 ∧ R out.2 out'.2 := by
  obtain ⟨hd, hb, hw⟩ := h.performUntil_filter strict keyMap steps hr
  obtain ⟨hd', hb', hw'⟩ := h.performUntil_filter strict keyMap steps' (h.trans (h.symm hr) hr)
  rw [hs] at hd hb hw
  exact ⟨hd.trans hd'.symm, hb.trans hb'.symm, h.trans hw (h.symm hw')⟩

end Timeless

theorem filter_pause (delay : Nat) : (pause delay).filter (!·.action.isWait) = [] := by
  unfold pause
  split <;> simp [Action.isWait]

theorem filter_expand_of_wait (delay : Nat) {line : Step} (h : line.action.isWait = true) :
    (line.expand delay).filter (!·.action.isWait) = [] := by
  unfold Step.expand
  cases ha : line.action <;> simp_all [Action.isWait]

/-- What a line stands for is the same with any delay, apart from waits. -/
theorem filter_expand (delay delay' : Nat) (line : Step) :
    (line.expand delay).filter (!·.action.isWait) = (line.expand delay').filter (!·.action.isWait) := by
  unfold Step.expand
  split
  · rfl
  · simp [List.filter_cons, filter_pause]
  · simp [List.filter_cons, filter_pause]

namespace Timeless

variable {σ : Type} {host : Host σ} {R : σ → σ → Prop} {timeout : Nat} (h : Timeless host R timeout) {s t : σ}

include h

theorem performUntil_of_wait (strict : Bool) (keyMap : List (String × Nat)) (delay : Nat) {line : Step}
    (hw : line.action.isWait = true) (hr : R s t) :
    let out := performUntil host strict keyMap timeout (line.expand delay) s
    doings out.1 = [] ∧ abortedBy strict out.1 = none ∧ R out.2 t := by
  have hf := h.performUntil_filter strict keyMap (line.expand delay) hr
  rw [filter_expand_of_wait delay hw] at hf
  exact hf

/-- A script with some of its waits left out, and with another delay between commands, does the same and leaves the
same lines undone, but for those left out. -/
theorem performLines_marked (strict : Bool) (keyMap : List (String × Nat)) (delay delay' : Nat)
    {marked : List (Step × Bool)} (hw : ∀ line ∈ marked, line.2 = false → line.1.action.isWait = true) (hr : R s t) :
    let out := performLines host strict keyMap timeout delay (marked.map Prod.fst) s
    let out' := performLines host strict keyMap timeout delay' ((marked.filter Prod.snd).map Prod.fst) t
    doings out.1 = doings out'.1 ∧ abortedBy strict out.1 = abortedBy strict out'.1 ∧ R out.2.2 out'.2.2 ∧
      ∃ done left, marked = done ++ left ∧ out.2.1 = left.map Prod.fst ∧
        out'.2.1 = (left.filter Prod.snd).map Prod.fst := by
  induction marked generalizing s t with
  | nil => exact ⟨rfl, rfl, hr, [], [], rfl, rfl, rfl⟩
  | cons line marked ih =>
    obtain ⟨hline, hrest⟩ := List.forall_mem_cons.mp hw
    obtain ⟨line, kept⟩ := line
    cases kept with
    | false =>
      obtain ⟨hd, hb, hr'⟩ := h.performUntil_of_wait strict keyMap delay (hline rfl) hr
      obtain ⟨hdoings, haborted, hlast, done, left, hm, hl, hl'⟩ := ih hrest hr'
      rw [List.filter_cons_of_neg Bool.false_ne_true, List.map_cons, performLines]
      dsimp only
      rw [if_neg (by simp [hb])]
      refine ⟨?_, ?_, hlast, (line, false) :: done, left, by rw [hm, List.cons_append], hl, hl'⟩
      · rw [doings_append, hd, List.nil_append, hdoings]
      · rw [abortedBy_append, hb, Option.none_or, haborted]
    | true =>
      obtain ⟨hd, hb, hr'⟩ := h.performUntil_congr strict keyMap (filter_expand delay delay' line) hr
      rw [List.filter_cons_of_pos rfl, List.map_cons, List.map_cons, performLines, performLines]
      dsimp only
      rw [← hb]
      split
      · exact ⟨hd, hb, hr', [(line, true)], marked, rfl, rfl, rfl⟩
      · obtain ⟨hdoings, haborted, hlast, done, left, hm, hl, hl'⟩ := ih hrest hr'
        refine ⟨?_, ?_, hlast, (line, true) :: done, left, by rw [hm, List.cons_append], hl, hl'⟩
        · rw [doings_append, doings_append, hd, hdoings]
        · rw [abortedBy_append, abortedBy_append, hb, haborted]

end Timeless

/-! ## Whole runs -/

section

variable {σ : Type} {host : Host σ} {strict : Bool} {keyMap : List (String × Nat)} {timeout : Nat}

/-- A journal of steps that were performed in order, in which nothing comes behind a step that ends the run, and nothing
is missing unless there is one. -/
theorem performUntil_of_performAll {steps : List Step} {journal : List Executed} {s s₁ : σ}
    (hall : performAll host keyMap timeout (journal.map Executed.step) s = (journal, s₁))
    (hbegun : journal.map Executed.step <+: steps)
    (hwhole : (∀ x ∈ journal, ¬ x.Ends strict) → journal.map Executed.step = steps)
    (hlast : ∀ before x after, journal = before ++ x :: after → x.Ends strict → after = []) :
    performUntil host strict keyMap timeout steps s = (journal, s₁) := by
  induction steps generalizing journal s with
  | nil =>
    obtain rfl : journal = [] := by simpa using hbegun
    exact hall
  | cons step steps ih =>
    cases journal with
    | nil => simp at hwhole
    | cons x journal =>
      obtain ⟨rfl, hrestbegun⟩ := List.cons_prefix_cons.mp hbegun
      obtain ⟨hcons, hrest⟩ := Prod.mk.inj hall
      obtain ⟨hx, hjournal⟩ := List.cons.inj hcons
      have hdone : x.step.executed host keyMap timeout s = (x, _) := Prod.ext hx rfl
      by_cases hends : x.Ends strict
      · obtain rfl := hlast [] x journal rfl hends
        rw [performUntil_of_stop hdone hends]
        exact congrArg (Prod.mk [x]) hrest
      · have hi : performUntil host strict keyMap timeout steps (x.step.executed host keyMap timeout s).2 =
            (journal, s₁) :=
          ih (Prod.ext hjournal hrest) hrestbegun
            (fun hn => (List.cons.inj (hwhole (List.forall_mem_cons.mpr ⟨hends, hn⟩))).2)
            (fun before y after hy => hlast (x :: before) y after (by rw [hy, List.cons_append]))
        rw [performUntil_of_continue hdone hends, hi]

end

/-- If nothing comes behind a step that ends the run, the reason why it was aborted is that of the only such step. -/
theorem Accounted.aborted_eq {strict : Bool} {script : List Step} {journal : List Executed} {r : Run}
    (ha : Accounted strict script journal r)
    (hlast : ∀ before x after, journal = before ++ x :: after → x.Ends strict → after = []) :
    r.aborted = abortedBy strict journal := by
  refine Option.ext fun reason => ?_
  rw [ha.aborted_iff, abortedBy, List.findSome?_eq_some_iff]
  constructor
  · rintro ⟨before, x, rfl, hx⟩
    refine ⟨before, x, [], rfl, Executed.reason_eq_some.mpr hx, ?_⟩
    intro y hy
    rw [Executed.reason_eq_none]
    intro hends
    obtain ⟨first, later, rfl⟩ := List.append_of_mem hy
    have hnil := hlast first y (later ++ [x]) (by simp) hends
    simp at hnil
  · rintro ⟨before, x, after, hj, hx, -⟩
    obtain rfl := hlast before x after hj (Executed.isSome_reason.mp (by rw [hx]; rfl))
    exact ⟨before, x, hj, Executed.reason_eq_some.mp hx⟩

section

variable {σ : Type} (host : Host σ) (settings : Settings) {lines : List String} {script : List Step} {now : Nat}
  {s s₁ : σ} {journal : List Executed} {r : Run}
  (hp : List.Forall₂ (fun line step => Step.parse line = .ok step) lines script)
  (hd : Engine.drain host settings.stopOnFailure (.start settings script now) s = (journal, r, s₁))

include hp hd

/-- A run performs its script line by line. What it gives up are the lines behind the one in which it ended, and its
report is about the whole journal. -/
theorem performLines_of_drain :
    ∃ left, performLines host settings.stopOnFailure settings.keyMap settings.timeout settings.delayBetween script s =
        (journal, left, s₁) ∧
      r.incomplete = scriptTexts left ∧ r.aborted = abortedBy settings.stopOnFailure journal ∧
      r.Whole ∧ Recorded journal r := by
  obtain ⟨hbegun, hwhole, hlast⟩ := drain_expansion host (running_start settings (written_of_parsed hp) now) s
  obtain ⟨ha, hreport⟩ := accounted_of_drain host hp hd
  rw [hd] at hbegun hwhole hlast
  have hu := performUntil_of_performAll (Engine.performAll_of_drain hd) hbegun hwhole hlast
  rw [performUntil_expansion] at hu
  obtain ⟨hj, hs⟩ := Prod.mk.inj hu
  have ht := scriptTexts_performLines host settings.stopOnFailure settings.keyMap settings.timeout
    settings.delayBetween script s
  dsimp only at ht
  rw [hj, ← ha.texts_eq] at ht
  exact ⟨_, Prod.ext hj (Prod.ext rfl hs), (List.append_cancel_left ht).symm, ha.aborted_eq hlast, hreport,
    recorded_of_drain host hd⟩

end

/-! ## Scripts of which lines are left out -/

theorem exists_marked {marked : List (String × Bool)} {script : List Step}
    (hp : List.Forall₂ (fun line step => Step.parse line = .ok step) (marked.map Prod.fst) script) :
    ∃ steps : List (Step × Bool), steps.map Prod.fst = script ∧
      steps.map (fun step => (step.1.text, step.2)) = marked ∧
      (∀ step ∈ steps, Step.parse step.1.text = .ok step.1) ∧
      List.Forall₂ (fun line step => Step.parse line = .ok step) ((marked.filter Prod.snd).map Prod.fst)
        ((steps.filter Prod.snd).map Prod.fst) := by
  induction marked generalizing script with
  | nil =>
    obtain rfl := List.forall₂_nil_left_iff.mp hp
    exact ⟨[], rfl, rfl, by simp, .nil⟩
  | cons line marked ih =>
    obtain ⟨line, kept⟩ := line
    obtain ⟨step, rest, hline, hrest, rfl⟩ := List.forall₂_cons_left_iff.mp hp
    obtain ⟨steps, rfl, rfl, hall, hkept⟩ := ih hrest
    have ht : step.text = line := (Step.text_of_parse hline).1
    subst ht
    refine ⟨(step, kept) :: steps, rfl, rfl, List.forall_mem_cons.mpr ⟨hline, hall⟩, ?_⟩
    cases kept with
    | true => exact .cons hline hkept
    | false => exact hkept

theorem scriptTexts_marked {steps : List (Step × Bool)} (h : ∀ step ∈ steps, step.1.synthetic = false) :
    scriptTexts (steps.map Prod.fst) = (steps.map fun step => (step.1.text, step.2)).map Prod.fst := by
  rw [scriptTexts_of_written (List.forall_mem_map.mpr h), List.map_map, List.map_map]
  rfl

theorem scriptTexts_kept {steps : List (Step × Bool)} (h : ∀ step ∈ steps, step.1.synthetic = false) :
    scriptTexts ((steps.filter Prod.snd).map Prod.fst) =
      ((steps.map fun step => (step.1.text, step.2)).filter Prod.snd).map Prod.fst := by
  rw [scriptTexts_marked fun step hs => h step (List.mem_of_mem_filter hs), List.filter_map]
  rfl

theorem Timeless.conclude {σ : Type} {host : Host σ} {R : σ → σ → Prop} {timeout : Nat} (h : Timeless host R timeout)
    (clears : Bool) (r r' : Run) {s t : σ} (hr : R s t) :
    R (Engine.conclude host clears r s).2 (Engine.conclude host clears r' t).2 := by
  cases clears with
  | false => exact hr
  | true =>
    rcases h.call .clearLocalStorage s t hr with ⟨_, _, ⟨⟩⟩ | hc
    exact hc.2

theorem aborted_finishReport_eq {r : Run} (h : r.Whole) (now : Nat) :
    (r.finishReport now).report.map Report.aborted = (r.finishReport now).report.map fun _ => r.aborted := by
  cases hr : (r.finishReport now).report with
  | none => rfl
  | some rep => exact congrArg some (h.finishReport hr).2

/-- The drains of a script and of the same script without some of its waits, with any two delays between commands. -/
theorem Timeless.drain_marked {σ : Type} {host : Host σ} {R : σ → σ → Prop} {settings : Settings} {delay now now' : Nat}
    (h : Timeless host R settings.timeout) {lines lines' : List String} {marked : List (Step × Bool)}
    (hp : List.Forall₂ (fun line step => Step.parse line = .ok step) lines (marked.map Prod.fst))
    (hp' : List.Forall₂ (fun line step => Step.parse line = .ok step) lines' ((marked.filter Prod.snd).map Prod.fst))
    (hw : ∀ line ∈ marked, line.2 = false → line.1.action.isWait = true) {s t s₁ t₁ : σ} (hr : R s t)
    {journal journal' : List Executed} {r r' : Run}
    (hd : Engine.drain host settings.stopOnFailure (.start settings (marked.map Prod.fst) now) s = (journal, r, s₁))
    (hd' : Engine.drain host settings.stopOnFailure
      (.start { settings with delayBetween := delay } ((marked.filter Prod.snd).map Prod.fst) now') t =
        (journal', r', t₁)) :
    doings journal = doings journal' ∧ R s₁ t₁ ∧ r'.aborted = r.aborted ∧ (r.Whole ∧ r'.Whole) ∧
      (Recorded journal r ∧ Recorded journal' r') ∧
      ∃ done left, marked = done ++ left ∧ r.incomplete = scriptTexts (left.map Prod.fst) ∧
        r'.incomplete = scriptTexts ((left.filter Prod.snd).map Prod.fst) := by
  obtain ⟨left, hlines, hi, ha, hwhole, hrec⟩ := performLines_of_drain host settings hp hd
  obtain ⟨left', hlines', hi', ha', hwhole', hrec'⟩ :=
    performLines_of_drain host { settings with delayBetween := delay } hp' hd'
  obtain ⟨hdoings, haborted, hlast, done, rest, hm, hl, hl'⟩ :=
    h.performLines_marked settings.stopOnFailure settings.keyMap settings.delayBetween delay hw hr
  dsimp only at hlines'
  rw [hlines, hlines'] at hdoings haborted hlast
  rw [hlines] at hl
  rw [hlines'] at hl'
  exact ⟨hdoings, hlast, ha'.trans (haborted.symm.trans ha.symm), ⟨hwhole, hwhole'⟩, ⟨hrec, hrec'⟩, done, rest, hm,
    hi.trans (congrArg scriptTexts hl), hi'.trans (congrArg scriptTexts hl')⟩

/-- On a host to which time does not matter, a script comes to the same with any delay between commands and without
any of its waits. The lines left undone are the same as well, but for those left out. -/
theorem Timeless.execute_marked {σ : Type} {host : Host σ} {R : σ → σ → Prop} {settings : Settings}
    (h : Timeless host R settings.timeout) {s : σ} (hs : R s s) (delay : Nat) {marked : List (String × Bool)}
    (hw : ∀ line ∈ marked, line.2 = false → ∀ step, Step.parse line.1 = .ok step → step.action.isWait = true)
    {n : Nat} {e : Engine} (hload : (Engine.ofSettings settings).load (marked.map Prod.fst) = (.ok n, e)) :
    ∃ n' e' report report' journal journal' e₁ e₁' t t',
      (Engine.ofSettings { settings with delayBetween := delay }).load ((marked.filter Prod.snd).map Prod.fst) =
        (.ok n', e') ∧
      e.execute host s = (.ok (report, journal), e₁, t) ∧
      e'.execute host s = (.ok (report', journal'), e₁', t') ∧
      doings journal = doings journal' ∧ R t t' ∧
      report'.map Report.outcomes = report.map Report.outcomes ∧
      report'.map Report.aborted = report.map Report.aborted ∧
      ∀ rep rep', report = some rep → report' = some rep' →
        ∃ done left, marked = done ++ left ∧ rep.incomplete = left.map Prod.fst ∧
          rep'.incomplete = (left.filter Prod.snd).map Prod.fst := by
  obtain ⟨script, hp, rfl, rfl⟩ := Engine.load_eq_ok_iff.mp hload
  obtain ⟨steps, rfl, rfl, hall, hp'⟩ := exists_marked hp
  have hwait : ∀ step ∈ steps, step.2 = false → step.1.action.isWait = true := by
    intro step hm hkept
    exact hw (step.1.text, step.2) (List.mem_map_of_mem hm) hkept step.1 (hall step hm)
  obtain ⟨⟨journal, r, s₁⟩, hd⟩ : ∃ out, Engine.drain host settings.stopOnFailure
    (.start settings (steps.map Prod.fst) (host.stopwatch s)) s = out := ⟨_, rfl⟩
  obtain ⟨⟨journal', r', t₁⟩, hd'⟩ : ∃ out, Engine.drain host settings.stopOnFailure
    (.start { settings with delayBetween := delay } ((steps.filter Prod.snd).map Prod.fst) (host.stopwatch s)) s = out :=
      ⟨_, rfl⟩
  obtain ⟨hdoings, hr, haborted, ⟨hwhole, hwhole'⟩, ⟨hrec, hrec'⟩, done, rest, hm, hi, hi'⟩ :=
    h.drain_marked hp hp' hwait hs hd hd'
  obtain ⟨e₁, he⟩ := Engine.execute_of_drain settings hd rfl
  obtain ⟨e₁', he'⟩ := Engine.execute_of_drain { settings with delayBetween := delay } hd' rfl
  have hout : outcomes (lastWindow journal') = outcomes (lastWindow journal) := by
    rw [← outcomes_lastWindow_doings, ← hdoings, outcomes_lastWindow_doings]
  have hreport : (Engine.conclude host settings.clearLocalStorage r' t₁).1.report.map Report.outcomes =
      (Engine.conclude host settings.clearLocalStorage r s₁).1.report.map Report.outcomes :=
    (hrec'.finishReport _).trans ((congrArg kept hout).trans (hrec.finishReport _).symm)
  refine ⟨_, _, _, _, _, _, _, _, _, _, Engine.load_of_parsed _ hp', he, he', hdoings, h.conclude _ r r' hr, hreport,
    ?_, ?_⟩
  · have hexists := congrArg (Option.map fun _ => r.aborted) hreport
    rw [Option.map_map, Option.map_map] at hexists
    refine (aborted_finishReport_eq hwhole' _).trans (Eq.trans ?_ (aborted_finishReport_eq hwhole _).symm)
    rw [haborted]
    exact hexists
  · intro rep rep' hrep hrep'
    have hwritten : ∀ step ∈ rest, step.1.synthetic = false := fun step hs =>
      written_of_parsed hp step.1 (List.mem_map_of_mem (hm ▸ List.mem_append_right done hs))
    refine ⟨done.map fun step => (step.1.text, step.2), rest.map fun step => (step.1.text, step.2), ?_, ?_, ?_⟩
    · rw [hm, List.map_append]
    · rw [(hwhole.finishReport hrep).1, hi, scriptTexts_marked hwritten]
    · rw [(hwhole'.finishReport hrep').1, hi', scriptTexts_kept hwritten]

end PageScript
