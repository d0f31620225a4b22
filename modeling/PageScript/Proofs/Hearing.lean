import PageScript.Proofs.Listening

/-!
# No change goes unheard

Whatever is done with a world, by whomever and in whatever order, its observers are told of each change that a
query or the reading of an element can show. An observer that has not read since then answers at once that there
is a change, however many have come. Only when the document is gone, and all that was left to an observer is read,
does it answer that there will be no more.
-/
namespace PageScript

namespace Observer

variable {o : Observer}

theorem reads_pos_iff : 0 < o.reads ↔ 0 < o.unread := by
  unfold reads capacity
  split <;> omega

theorem reads_read : o.read.reads = o.reads - 1 := by
  unfold reads read capacity
  dsimp only
  split <;> split <;> omega

end Observer

/-- A query or the reading of an element tells two documents apart. -/
def Document.Differs (d d' : Document) : Prop :=
  (∃ selector, (d.selectAll selector).map (·.map Node.number) ≠ (d'.selectAll selector).map (·.map Node.number)) ∨
    (∃ number, d.value number ≠ d'.value number) ∨ ∃ number, d.text number ≠ d'.text number

theorem Document.Differs.body_ne {d d' : Document} (h : d.Differs d') : d'.body ≠ d.body := by
  intro hb
  have hnode : d.node = d'.node := by
    funext number
    rw [node, node, subtree, subtree, hb]
  rcases h with ⟨selector, h⟩ | ⟨number, h⟩ | ⟨number, h⟩
  · exact h (by rw [selectAll, selectAll, hb])
  · exact h (by rw [value, value, hnode])
  · exact h (by rw [text, text, hnode])

namespace World

variable {w w' w'' : World} {id : Nat}

/-! ## What becomes of a world -/

/-- What becomes of a world apart from its observers: a change of which all of them are told, an entry in a record
that shows in no element, or the passing of time. -/
inductive Shift (w : World) : World → Prop
  | tell (d : Document) : Shift w (w.notify d)
  | note (d : Document) (h : d.body = w.document.body) : Shift w { w with document := d }
  | pass (now : Nat) (pending : List Pending) : Shift w { w with now, pending }

abbrev Shifts : World → World → Prop := Relation.ReflTransGen Shift

theorem shifts_apply {e : Effect} (h : w.apply e = .ok w') : w.Shifts w' := by
  obtain ⟨changed, -, rfl⟩ := map_eq_ok.mp h
  cases changed with
  | none => exact .refl
  | some d => exact .single (.tell d)

theorem shifts_trigger {e : Effect} (h : w.trigger e = .ok w') : w.Shifts w' := by
  unfold trigger at h
  split at h
  · exact shifts_apply h
  · cases h
    exact .single (.pass _ _)

theorem shifts_triggerAll (w : World) (effects : List Effect) : w.Shifts (w.triggerAll effects).2 := by
  induction effects generalizing w with
  | nil => exact .refl
  | cons e effects ih =>
    rw [triggerAll]
    cases ht : w.trigger e with
    | error fault => exact .refl
    | ok w' => exact (shifts_trigger ht).trans (ih w')

theorem shifts_happen (w : World) (p : Pending) : w.Shifts (w.happen p) := by
  have hpass : w.Shifts { w with now := max w.now p.due } := .single (.pass _ _)
  rw [happen_eq]
  split
  · exact hpass.tail (.tell _)
  · exact hpass

theorem shifts_runUntil (deadline : Nat) (w : World) (ps : List Pending) : w.Shifts (runUntil deadline w ps) := by
  induction ps generalizing w with
  | nil => exact .single (.pass _ _)
  | cons p ps ih =>
    rw [runUntil]
    split
    · exact (shifts_happen w p).trans (ih _)
    · exact .single (.pass _ _)

/-- An observer that waits for a change lets time pass and reads at most one. -/
theorem shifts_changeUntil (id deadline : Nat) (w : World) (ps : List Pending) :
    ∃ w', w.Shifts w' ∧
      ((changeUntil id deadline w ps).2 = w' ∨ (changeUntil id deadline w ps).2 = w'.read id) := by
  induction ps generalizing w with
  | nil =>
    rw [changeUntil]
    split
    · exact ⟨_, .single (.pass _ _), .inr rfl⟩
    · exact ⟨_, .single (.pass _ _), .inl rfl⟩
  | cons p ps ih =>
    rw [changeUntil]
    split
    · obtain ⟨w', hw, hr⟩ := ih (w.happen p)
      exact ⟨w', (shifts_happen w p).trans hw, hr⟩
    · split
      · exact ⟨_, .single (.pass _ _), .inr rfl⟩
      · exact ⟨_, .single (.pass _ _), .inl rfl⟩

theorem shifts_answer (r : Request) (w : World) : w.Shifts (answer r w).2 := by
  cases r with
  | activate number =>
    rw [answer, activate]
    split
    · exact .refl
    · rename_i effects d h
      obtain ⟨n, -, hd⟩ := map_eq_ok.mp h
      have hbody : d.body = w.document.body := by cases hd; rfl
      exact (Relation.ReflTransGen.single (.note d hbody)).trans (shifts_triggerAll _ effects)
  | setValue number value =>
    rw [answer, setValue]
    split
    · exact .single (.tell _)
    · exact .refl
  | keyDown code =>
    have h := (Relation.ReflTransGen.single (Shift.note (w.document.keyDown code).2 rfl)).trans
      (shifts_triggerAll { w with document := (w.document.keyDown code).2 } (w.document.keyDown code).1)
    rw [answer, keyDown]
    dsimp only
    split <;> rename_i ht <;> rwa [ht] at h
  | clearLocalStorage => exact .single (.note _ rfl)
  | _ => exact .refl

theorem shifts_append (w : World) (selector : String) (element : Element) :
    w.Shifts (w.append selector element).2 := by
  unfold append
  split
  · exact .single (.tell _)
  · exact .refl

theorem Shifts.closed (h : w.Shifts w') : w'.closed = w.closed := by
  induction h with
  | refl => rfl
  | tail _ hs ih => cases hs <;> exact ih

/-! ## What observers are told -/

/-- An observer is told of what becomes of a world: it stays connected, it loses nothing that it could read, and the
elements are as they were unless it has more to read. -/
structure Told (id : Nat) (w w' : World) : Prop where
  connected : id ∈ w'.connected
  unread : w.unread id ≤ w'.unread id
  body : w'.unread id = w.unread id → w'.document.body = w.document.body

theorem Told.trans (h : Told id w w') (h' : Told id w' w'') : Told id w w'' where
  connected := h'.connected
  unread := h.unread.trans h'.unread
  body := by
    intro heq
    have hle := h.unread
    have hle' := h'.unread
    exact (h'.body (by omega)).trans (h.body (by omega))

theorem Told.of_unread (hc : id ∈ w'.connected) (hu : w'.unread id = w.unread id)
    (hb : w'.document.body = w.document.body) : Told id w w' :=
  ⟨hc, hu.ge, fun _ => hb⟩

theorem Shift.told (h : w.Shift w') (hid : id ∈ w.connected) : Told id w w' := by
  cases h with
  | tell d =>
    have hu := unread_notify hid d
    exact ⟨connected_notify w d ▸ hid, by omega, fun heq => by omega⟩
  | note d hd => exact .of_unread hid rfl hd
  | pass now pending => exact .of_unread hid rfl rfl

theorem Shifts.told (h : w.Shifts w') (hid : id ∈ w.connected) : Told id w w' := by
  induction h with
  | refl => exact .of_unread hid rfl rfl
  | tail _ hs ih => exact ih.trans (hs.told ih.connected)

section

variable {f : Observer → Observer} (hf : ∀ o, (f o).id = o.id)

include hf

theorem connected_map : connected { w with observers := w.observers.map f } = w.connected := by
  rw [connected, List.map_map]
  exact List.map_congr_left fun o _ => hf o

theorem Told.map (hid : id ∈ w.connected) (h : ∀ o, o.id = id → f o = o) :
    Told id w { w with observers := w.observers.map f } := by
  refine .of_unread ((connected_map hf).symm ▸ hid) ?_ rfl
  have hcomp : (fun o : Observer => o.id == id) ∘ f = (·.id == id) := by
    funext o
    rw [Function.comp_apply, hf]
  rw [World.unread, World.unread, List.find?_map, hcomp]
  cases ho : w.observers.find? (·.id == id) with
  | none => rfl
  | some o => rw [Option.map_some, h o (by simpa using List.find?_some ho)]

end

theorem told_read {other : Nat} (hid : id ∈ w.connected) (hne : other ≠ id) : Told id w (w.read other) := by
  refine Told.map (fun o => ?_) hid (fun o ho => if_neg (ho ▸ hne.symm))
  split <;> rfl

theorem told_drain {other : Nat} (hid : id ∈ w.connected) (hne : other ≠ id) : Told id w (w.drain other).2 := by
  refine Told.map (fun o => ?_) hid (fun o ho => if_neg (ho ▸ hne.symm))
  split <;> rfl

theorem told_observe (hid : id ∈ w.connected) : Told id w w.observe.2 := by
  obtain ⟨o, ho⟩ : ∃ o, w.observers.find? (·.id == id) = some o := by
    obtain ⟨o, ho, rfl⟩ := List.mem_map.mp hid
    exact Option.isSome_iff_exists.mp (List.find?_isSome.mpr ⟨o, ho, by simp⟩)
  refine .of_unread ?_ ?_ rfl
  · rw [observe, connected, List.map_append]
    exact List.mem_append_left _ hid
  · rw [unread, unread, observe, List.find?_append, ho]
    rfl

theorem told_unobserve {other : Nat} (hid : id ∈ w.connected) (hne : other ≠ id) :
    Told id w (w.unobserve other) := by
  have hcomp : (fun o : Observer => decide (decide (o.id ≠ other) = true ∧ (o.id == id) = true)) = (·.id == id) := by
    funext o
    by_cases ho : o.id = id <;> simp [ho, hne.symm]
  refine .of_unread ?_ ?_ rfl
  · obtain ⟨o, ho, rfl⟩ := List.mem_map.mp hid
    exact List.mem_map_of_mem (List.mem_filter.mpr ⟨ho, by simpa using hne.symm⟩)
  · rw [unread, unread, unobserve, List.find?_filter, hcomp]

/-! ## Interleavings -/

/-- One move of an interleaving: something is done with a world, an effect that waits happens, be it its turn or not,
or an observer asks for the next change without waiting. -/
inductive Move where
  | act (event : Event)
  | happen (place : Nat)
  | ask (observer : Nat)

/-- Whether an observer reads in a move, or is disconnected. -/
def Move.concerns (id : Nat) : Move → Bool
  | act (.unobserve observer) | act (.nextChange observer _) | act (.drain observer) | ask observer => observer = id
  | _ => false

def move (w : World) : Move → World
  | .act event => w.step event
  | .happen place =>
    match w.pending[place]? with
    | some p => { w.happen p with pending := w.pending.eraseIdx place }
    | none => w
  | .ask observer => (w.changed observer).2

def moves (w : World) (ms : List Move) : World := ms.foldl move w

theorem moves_append (w : World) (ms ms' : List Move) : w.moves (ms ++ ms') = (w.moves ms).moves ms' :=
  List.foldl_append

theorem shifts_move_happen (w : World) (place : Nat) : w.Shifts (w.move (.happen place)) := by
  rw [move]
  split
  · exact (shifts_happen w _).tail (.pass _ _)
  · exact .refl

theorem shifts_trigger_getD (w : World) (e : Effect) : w.Shifts ((w.trigger e).toOption.getD w) := by
  cases h : w.trigger e with
  | error fault => exact .refl
  | ok w' => exact shifts_trigger h

/-- Every observer is told of a move in which it does not read itself. -/
theorem told_move {m : Move} (hid : id ∈ w.connected) (hm : m.concerns id = false) : Told id w (w.move m) := by
  cases m with
  | happen place => exact (shifts_move_happen w place).told hid
  | ask observer =>
    have hne : observer ≠ id := by simpa [Move.concerns] using hm
    rw [move, changed]
    split
    · exact told_read hid hne
    · exact .of_unread hid rfl rfl
  | act event =>
    cases event with
    | append selector element => exact (shifts_append w selector element).told hid
    | trigger effect => exact (shifts_trigger_getD w effect).told hid
    | request r => exact (shifts_answer r w).told hid
    | sleepUntil instant => exact (shifts_runUntil instant w w.pending).told hid
    | observe => exact told_observe hid
    | unobserve observer => exact told_unobserve hid (by simpa [Move.concerns] using hm)
    | nextChange observer deadline =>
      have hne : observer ≠ id := by simpa [Move.concerns] using hm
      obtain ⟨w', hs, hr⟩ := shifts_changeUntil observer deadline w w.pending
      have ht := hs.told hid
      change Told id w (changeUntil observer deadline w w.pending).2
      rcases hr with hr | hr <;> rw [hr]
      · exact ht
      · exact ht.trans (told_read ht.connected hne)
    | drain observer => exact told_drain hid (by simpa [Move.concerns] using hm)
    | close => exact .of_unread hid rfl rfl

theorem told_moves {ms : List Move} (hid : id ∈ w.connected) (hm : ∀ m ∈ ms, m.concerns id = false) :
    Told id w (w.moves ms) := by
  induction ms generalizing w with
  | nil => exact .of_unread hid rfl rfl
  | cons m ms ih =>
    obtain ⟨hfirst, hrest⟩ := List.forall_mem_cons.mp hm
    have ht := told_move hid hfirst
    exact ht.trans (ih ht.connected hrest)

theorem closed_move {m : Move} (h : (w.move m).closed = true) : w.closed = true ∨ m = .act .close := by
  cases m with
  | happen place => exact .inl ((shifts_move_happen w place).closed ▸ h)
  | ask observer =>
    rw [move, changed] at h
    left
    split at h <;> exact h
  | act event =>
    cases event with
    | append selector element => exact .inl ((shifts_append w selector element).closed ▸ h)
    | trigger effect => exact .inl ((shifts_trigger_getD w effect).closed ▸ h)
    | request r => exact .inl ((shifts_answer r w).closed ▸ h)
    | sleepUntil instant => exact .inl ((shifts_runUntil instant w w.pending).closed ▸ h)
    | nextChange observer deadline =>
      obtain ⟨w', hs, hr⟩ := shifts_changeUntil observer deadline w w.pending
      left
      rw [← hs.closed]
      rcases hr with hr | hr <;> exact (congrArg closed hr).symm.trans h
    | close => exact .inr rfl
    | _ => exact .inl h

theorem closed_moves {ms : List Move} (h : (w.moves ms).closed = true) : w.closed = true ∨ .act .close ∈ ms := by
  induction ms generalizing w with
  | nil => exact .inl h
  | cons m ms ih =>
    rcases ih h with hm | hm
    · rcases closed_move hm with hw | rfl
      · exact .inl hw
      · exact .inr List.mem_cons_self
    · exact .inr (List.mem_cons_of_mem m hm)

/-! ## What an observer answers -/

theorem changed_of_unread (hu : 0 < w.unread id) : w.changed id = (some true, w.read id) := by
  rw [changed, if_pos hu]

/-- Waiting is no different from asking if there is something to read: no time passes. -/
theorem changeUntil_of_unread (hid : id ∈ w.connected) (hu : 0 < w.unread id) (deadline : Nat) (ps : List Pending) :
    (changeUntil id deadline w ps).1 = true ∧ (changeUntil id deadline w ps).2.now = w.now := by
  induction ps generalizing w with
  | nil =>
    rw [changeUntil, if_pos hu]
    exact ⟨rfl, rfl⟩
  | cons p ps ih =>
    rw [changeUntil]
    by_cases hp : p.due < deadline ∧ (p.due ≤ w.now ∨ w.unread id = 0)
    · have ht := (shifts_happen w p).told hid
      have hnow : (w.happen p).now = w.now := by
        rw [now_happen]
        omega
      rw [if_pos hp]
      exact hnow ▸ ih ht.connected (hu.trans_le ht.unread)
    · rw [if_neg hp, if_pos hu]
      exact ⟨rfl, rfl⟩

theorem unread_pos_iff : 0 < w.unread id ↔ 0 < (w.drain id).1 := by
  rw [unread, drain]
  cases w.observers.find? (·.id == id) with
  | none => exact Iff.rfl
  | some o => exact Observer.reads_pos_iff.symm

theorem drain_read : ((w.read id).drain id).1 = (w.drain id).1 - 1 := by
  rw [drain, drain, find?_read]
  cases w.observers.find? (·.id == id) with
  | none => rfl
  | some o => exact Observer.reads_read

/-- An observer that keeps asking hears of all that is left to it, and then of the end or of nothing. -/
theorem changed_ask (w : World) (id k : Nat) :
    ((w.moves (List.replicate k (.ask id))).changed id).1 =
      if k < (w.drain id).1 then some true else if w.isOver then some false else none := by
  induction k generalizing w with
  | zero =>
    simp only [← unread_pos_iff]
    exact apply_ite Prod.fst ..
  | succ k ih =>
    rw [List.replicate_succ]
    refine (ih (w.changed id).2).trans ?_
    by_cases hu : 0 < w.unread id
    · have hk : k < (w.drain id).1 - 1 ↔ k + 1 < (w.drain id).1 := by omega
      have hover : (w.read id).isOver = w.isOver := rfl
      simp only [changed_of_unread hu, drain_read, hk, hover]
    · have hz : (w.drain id).1 = 0 := Nat.eq_zero_of_not_pos fun h => hu (unread_pos_iff.mpr h)
      have hw : (w.changed id).2 = w := by rw [changed, if_neg hu]
      simp [hw, hz]

/-- If elements have changed since an observer last read, it has something to read. -/
theorem unread_of_differs {before after : List Move} {m : Move} (hid : id ∈ w.connected)
    (hm : ∀ m' ∈ before ++ m :: after, m'.concerns id = false)
    (hd : (w.moves before).document.Differs ((w.moves before).move m).document) :
    id ∈ (w.moves (before ++ m :: after)).connected ∧ 0 < (w.moves (before ++ m :: after)).unread id := by
  obtain ⟨hbefore, hrest⟩ := List.forall_mem_append.mp hm
  obtain ⟨hfirst, hafter⟩ := List.forall_mem_cons.mp hrest
  have ht := told_moves hid hbefore
  have hmove := told_move ht.connected hfirst
  have hlast := told_moves hmove.connected hafter
  have hne : ((w.moves before).move m).unread id ≠ (w.moves before).unread id :=
    fun heq => hd.body_ne (hmove.body heq)
  have hle := hmove.unread
  have hle' := hlast.unread
  rw [moves_append]
  exact ⟨hlast.connected, (show 0 < ((w.moves before).move m).unread id by omega).trans_le hle'⟩

/-- No wake-up is lost. Whatever has been done with a world, in whatever order: once an element has changed that an
observer has not read of, it answers at once that there is a change, be it that it asks or waits. It answers that there
will be no more only when the document is closed, no effect is pending, and it has read everything. Before that it
answers once for each change that it can still read. -/
theorem changed_after_moves (page : Page) (ms : List Move) (id : Nat) :
    let w := (ofPage page).moves ms
    (∀ before m after, id ∈ w.connected → (∀ m' ∈ before ++ m :: after, m'.concerns id = false) →
      (w.moves before).document.Differs (w.moves (before ++ [m])).document →
      let w' := w.moves (before ++ m :: after)
      (w'.changed id).1 = some true ∧
        ∀ deadline, (w'.nextChange id deadline).1 = true ∧ (w'.nextChange id deadline).2.now = w'.now) ∧
    ((w.changed id).1 = some false → .act .close ∈ ms ∧ w.pending = [] ∧ w.unread id = 0) ∧
    ∀ k, ((w.moves (List.replicate k (.ask id))).changed id).1 =
      if k < (w.drain id).1 then some true else if w.isOver then some false else none := by
  intro w
  refine ⟨?_, ?_, changed_ask w id⟩
  · intro before m after hid hm hd w'
    rw [moves_append] at hd
    obtain ⟨hid', hu⟩ := unread_of_differs hid hm hd
    refine ⟨congrArg Prod.fst (changed_of_unread hu), fun deadline => ?_⟩
    exact changeUntil_of_unread hid' hu deadline w'.pending
  · intro hc
    by_cases hu : 0 < w.unread id
    · rw [changed_of_unread hu] at hc
      cases hc
    · by_cases hover : w.isOver = true
      · obtain ⟨hclosed, hpending⟩ : w.closed = true ∧ w.pending = [] := by simpa [isOver] using hover
        rcases closed_moves hclosed with hpage | hm
        · cases hpage
        · exact ⟨hm, hpending, Nat.eq_zero_of_not_pos hu⟩
      · simp [changed, hu, hover] at hc

/-- The text of the body changes between eighty other changes. The observer can read 65 times, and when the document
is closed it answers that there will be no more. -/
theorem changed_after_moves_overflow :
    let other : Move := .act (.trigger { target := "body", change := .addClass "a" })
    let m : Move := .act (.trigger { target := "body", change := .setText "new" })
    let others := List.replicate 40 other
    let w := (ofPage {}).moves [.act .observe]
    let w' := w.moves (others ++ m :: others)
    let gone := (ofPage {}).moves (.act .observe :: (others ++ m :: others) ++ [.act .close])
    0 ∈ w.connected ∧ (∀ m' ∈ others ++ m :: others, m'.concerns 0 = false) ∧
      (w.moves others).document.Differs (w.moves (others ++ [m])).document ∧
      (w'.changed 0).1 = some true ∧
      (∀ k, ((gone.moves (List.replicate k (.ask 0))).changed 0).1 = some (decide (k < 65))) := by
  intro other m others w w' gone
  have hid : 0 ∈ w.connected := by decide +kernel
  have hm : ∀ m' ∈ others ++ m :: others, m'.concerns 0 = false := by
    intro m' hm'
    simp only [others, List.mem_append, List.mem_cons, List.mem_replicate] at hm'
    rcases hm' with ⟨-, rfl⟩ | rfl | ⟨-, rfl⟩ <;> rfl
  have hd : (w.moves others).document.Differs (w.moves (others ++ [m])).document := by
    refine .inr (.inr ⟨0, ?_⟩)
    decide +kernel
  refine ⟨hid, hm, hd, ?_, ?_⟩
  · exact ((changed_after_moves {} [.act .observe] 0).1 others m others hid hm hd).1
  · intro k
    have hk := (changed_after_moves {} (.act .observe :: (others ++ m :: others) ++ [.act .close]) 0).2.2 k
    have hreads : (gone.drain 0).1 = 65 := by decide +kernel
    have hover : gone.isOver = true := by decide +kernel
    change _ = if k < (gone.drain 0).1 then some true else if gone.isOver = true then some false else none at hk
    rw [hreads, if_pos hover] at hk
    by_cases h : k < 65
    · rw [hk, if_pos h, decide_eq_true h]
    · rw [hk, if_neg h, decide_eq_false h]

end World

end PageScript
