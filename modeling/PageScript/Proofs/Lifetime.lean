import PageScript.Engine

/-!
# The life of an engine

An engine may be told to load scripts and to run, any number of times and in any order. It loads once and then runs
once. Whatever else it is told fails, and then it is as if it had not been told at all: the engine and its host are
what they were, and all other answers are the same.
-/
namespace PageScript

namespace Engine

variable {σ : Type} (host : Host σ)

inductive Use where
  | load (lines : List String)
  | run
  deriving DecidableEq, Repr

inductive Reply where
  | loaded (steps : Nat)
  | ran (report : Option Report) (journal : List Executed)

def use (e : Engine) (s : σ) : Use → Except Fault Reply × Engine × σ
  | .load lines => ((e.load lines).1.map .loaded, (e.load lines).2, s)
  | .run =>
    let (answer, e, s) := e.execute host s
    (answer.map fun (report, journal) => .ran report journal, e, s)

/-- Does one thing after another; each is listed with its answer. -/
def useAll : List Use → Engine → σ → List (Use × Except Fault Reply) × Engine × σ
  | [], e, s => ([], e, s)
  | u :: uses, e, s =>
    let next := use host e s u
    let rest := useAll uses next.2.1 next.2.2
    ((u, next.1) :: rest.1, rest.2)

theorem useAll_append (uses later : List Use) (e : Engine) (s : σ) :
    useAll host (uses ++ later) e s =
      let first := useAll host uses e s
      let rest := useAll host later first.2.1 first.2.2
      (first.1 ++ rest.1, rest.2) := by
  induction uses generalizing e s with
  | nil => rfl
  | cons u uses ih => simp only [List.cons_append, useAll, ih]

def succeeded (entry : Use × Except Fault Reply) : Bool := entry.2.isOk

/-- What was done without a failure. -/
def achieved (uses : List Use) (e : Engine) (s : σ) : List Use :=
  ((useAll host uses e s).1.filter succeeded).map Prod.fst

theorem achieved_append (uses later : List Use) (e : Engine) (s : σ) :
    achieved host (uses ++ later) e s =
      achieved host uses e s ++ achieved host later (useAll host uses e s).2.1 (useAll host uses e s).2.2 := by
  rw [achieved, useAll_append, List.filter_append, List.map_append]
  rfl

theorem achieved_singleton (u : Use) (e : Engine) (s : σ) :
    achieved host [u] e s = if (use host e s u).1.isOk then [u] else [] := by
  rw [achieved, useAll, useAll, List.filter_cons, succeeded]
  cases (use host e s u).1.isOk <;> rfl

/-! ## A single use -/

section

variable (e : Engine) (s : σ)

/-- All that a use can do: it fails and changes nothing, or it is the load of an idle engine or the run of a loaded
one. -/
theorem use_cases (u : Use) :
    (∃ fault, use host e s u = (.error fault, e, s)) ∨
      (∃ lines steps e', u = .load lines ∧ e.phase = .idle ∧
        use host e s u = (.ok (.loaded steps), e', s) ∧ e'.phase = .loading) ∨
      ∃ report journal e' s', u = .run ∧ e.phase = .loading ∧
        use host e s u = (.ok (.ran report journal), e', s') ∧ e'.phase = .reported := by
  cases u with
  | load lines =>
    by_cases hp : e.phase = .idle
    · cases hl : Step.parseLines 1 lines with
      | error fault => exact .inl ⟨fault, by rw [use, load_of_refused hp hl]; rfl⟩
      | ok steps => exact .inr (.inl ⟨lines, _, _, rfl, hp, by simp only [use, load, hp, hl]; rfl, rfl⟩)
    · exact .inl ⟨_, by rw [use, load, if_pos hp]; rfl⟩
  | run =>
    by_cases hp : e.phase = .loading
    · exact .inr (.inr ⟨_, _, _, _, rfl, hp, by rw [use, execute, if_neg (not_not_intro hp)]; rfl, rfl⟩)
    · exact .inl ⟨_, by rw [use, execute, if_pos hp]; rfl⟩

variable {e s}

theorem use_of_error {u : Use} {fault : Fault} (h : (use host e s u).1 = .error fault) :
    (use host e s u).2 = (e, s) := by
  rcases use_cases host e s u with ⟨fault', hu⟩ | ⟨lines, steps, e', -, -, hu, -⟩ |
    ⟨report, journal, e', s', -, -, hu, -⟩
  · rw [hu]
  · rw [hu] at h
    cases h
  · rw [hu] at h
    cases h

theorem use_of_reported (h : e.phase = .reported) (u : Use) : ∃ fault, use host e s u = (.error fault, e, s) := by
  rcases use_cases host e s u with hf | ⟨lines, steps, e', -, hp, -⟩ | ⟨report, journal, e', s', -, hp, -⟩
  · exact hf
  · rw [h] at hp
    cases hp
  · rw [h] at hp
    cases hp

end

/-! ## Uses one after another -/

/-- What an engine has done by the time it rests in a phase. -/
inductive Rests : Phase → List Use → Prop
  | idle : Rests .idle []
  | loaded (lines : List String) : Rests .loading [.load lines]
  | reported (lines : List String) : Rests .reported [.load lines, .run]

/-- The phases in which an engine rests, in the order in which it goes through them. -/
def restingPhases : List Phase := [.idle, .loading, .reported]

theorem Rests.mem {phase : Phase} {done : List Use} (h : Rests phase done) : phase ∈ restingPhases := by
  cases h <;> decide

theorem Rests.forward {phase phase' : Phase} {done more : List Use} (h : Rests phase done)
    (h' : Rests phase' (done ++ more)) : restingPhases.idxOf phase ≤ restingPhases.idxOf phase' := by
  have hidx : ∀ {phase done}, Rests phase done → restingPhases.idxOf phase = done.length := by
    intro phase done h
    cases h <;> rfl
  rw [hidx h, hidx h', List.length_append]
  exact Nat.le_add_right _ _

theorem Rests.once {phase : Phase} {done : List Use} (h : Rests phase done) :
    ∃ lines, done <+: [.load lines, .run] := by
  cases h with
  | idle => exact ⟨[], List.nil_prefix⟩
  | loaded lines => exact ⟨lines, [.run], rfl⟩
  | reported lines => exact ⟨lines, List.prefix_rfl⟩

theorem Rests.use {e : Engine} {done : List Use} (h : Rests e.phase done) (s : σ) (u : Use) :
    Rests (use host e s u).2.1.phase (done ++ achieved host [u] e s) := by
  rw [achieved_singleton]
  rcases use_cases host e s u with ⟨fault, hu⟩ | ⟨lines, steps, e', rfl, hp, hu, hp'⟩ |
    ⟨report, journal, e', s', rfl, hp, hu, hp'⟩
  · rw [hu]
    simpa [Except.isOk, Except.toBool] using h
  · rw [hu]
    rw [hp] at h
    cases h
    dsimp only
    rw [hp']
    exact .loaded lines
  · rw [hu]
    rw [hp] at h
    cases h
    dsimp only
    rw [hp']
    exact .reported _

theorem rests_useAll (uses : List Use) {e : Engine} {done : List Use} (h : Rests e.phase done) (s : σ) :
    Rests (useAll host uses e s).2.1.phase (done ++ achieved host uses e s) := by
  induction uses generalizing e done s with
  | nil => simpa [useAll, achieved] using h
  | cons u uses ih =>
    have hn := ih (h.use host s u) (Engine.use host e s u).2.2
    rw [List.append_assoc] at hn
    rw [← List.singleton_append, achieved_append]
    exact hn

/-- Leaving out uses that failed changes neither the answers to the others nor what becomes of the engine and the
host. -/
theorem useAll_of_sublist {uses : List Use} {e : Engine} {s : σ} {kept : List (Use × Except Fault Reply)}
    (h : kept.Sublist (useAll host uses e s).1)
    (hk : kept.filter succeeded = (useAll host uses e s).1.filter succeeded) :
    useAll host (kept.map Prod.fst) e s = (kept, (useAll host uses e s).2) := by
  induction uses generalizing e s kept with
  | nil =>
    rw [List.sublist_nil.mp h]
    rfl
  | cons u uses ih =>
    rw [useAll] at h hk ⊢
    cases h with
    | cons _ h =>
      cases hu : (use host e s u).1 with
      | ok reply =>
        -- One that succeeded cannot be missing, since the others are too few.
        have hle := (h.filter succeeded).length_le
        rw [hk, List.filter_cons_of_pos (by rw [succeeded, hu]; rfl), List.length_cons] at hle
        omega
      | error fault =>
        rw [List.filter_cons_of_neg (by rw [succeeded, hu]; exact Bool.false_ne_true)] at hk
        rw [use_of_error host hu] at h hk ⊢
        exact ih h hk
    | cons_cons _ h =>
      rename_i kept
      have hrest : kept.filter succeeded =
          (useAll host uses (use host e s u).2.1 (use host e s u).2.2).1.filter succeeded := by
        rw [List.filter_cons, List.filter_cons] at hk
        split at hk
        · exact List.cons_inj_right _ |>.mp hk
        · exact hk
      rw [List.map_cons, useAll]
      dsimp only
      rw [ih h hrest]

/-! ## The life of an engine -/

/-- What becomes of an engine that is told things one after another, whatever they are. -/
structure Lives (e : Engine) (s : σ) (uses : List Use) : Prop where
  /-- A use that fails leaves the engine and the host as they are. -/
  traceless : ∀ before u after, uses = before ++ u :: after →
    let found := (useAll host before e s).2
    ∀ fault, (use host found.1 found.2 u).1 = .error fault → (use host found.1 found.2 u).2 = found
  /-- If any uses that failed are left out, the others are answered the same and lead to the same end. -/
  spared : ∀ kept, kept.Sublist (useAll host uses e s).1 →
    kept.filter succeeded = (useAll host uses e s).1.filter succeeded →
    useAll host (kept.map Prod.fst) e s = (kept, (useAll host uses e s).2)
  /-- At most one load succeeds, and behind it at most one run. -/
  once : ∃ lines, achieved host uses e s <+: [.load lines, .run]
  rests : (useAll host uses e s).2.1.phase ∈ restingPhases
  forward : ∀ before after, uses = before ++ after →
    restingPhases.idxOf (useAll host before e s).2.1.phase ≤ restingPhases.idxOf (useAll host uses e s).2.1.phase
  /-- Once there was a run, everything fails. -/
  ends : (useAll host uses e s).2.1.phase = .reported →
    ∀ u, ∃ fault, (use host (useAll host uses e s).2.1 (useAll host uses e s).2.2 u).1 = .error fault

/-- Whatever a new engine is told, on any host: uses that fail leave no trace. -/
theorem failed_uses_traceless (settings : Settings) (s : σ) (uses : List Use) :
    Lives host (.ofSettings settings) s uses where
  traceless := fun _ _ _ _ _ h => use_of_error host h
  spared := fun _ => useAll_of_sublist host
  once := (rests_useAll host uses (e := .ofSettings settings) .idle s).once
  rests := (rests_useAll host uses (e := .ofSettings settings) .idle s).mem
  forward := by
    rintro before after rfl
    have hb := rests_useAll host before (e := .ofSettings settings) .idle s
    have ha := rests_useAll host (before ++ after) (e := .ofSettings settings) .idle s
    rw [achieved_append, ← List.append_assoc] at ha
    exact hb.forward ha
  ends := by
    intro h u
    obtain ⟨fault, hu⟩ := use_of_reported host (s := (useAll host uses (.ofSettings settings) s).2.2) h u
    exact ⟨fault, by rw [hu]⟩

end Engine

end PageScript
