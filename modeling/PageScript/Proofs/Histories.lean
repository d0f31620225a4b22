import Mathlib.Logic.Relation
import PageScript.Host.Simulated
import PageScript.Proofs.Numbering

/-!
# Histories of a document

Whatever is done with a world, its document goes through a run of operations, and each of these is an edit of one of
four kinds or none. What an edit keeps holds of every document that a page can come to, whatever became of each
operation.
-/
namespace PageScript

namespace Document

/-- One change of a document: of the value, the text and the classes of an element, by a new subtree, by taking out
one, or of what is stored and recorded. -/
inductive Edit (d : Document) : Document → Prop
  | retouch {change : Node → Node} (number : Nat)
      (h : ∀ n, change n =
        { n with value := (change n).value, text := (change n).text, classes := (change n).classes }) :
      Edit d (d.update number change)
  | insert {parent : Nat} (element : Element) (h : parent ∈ d.body.numbers) : Edit d (d.insert parent element)
  | remove {t : Tree} (h : d.body.find? t.root.number = some t) (hr : t.root.number ≠ d.body.root.number) :
      Edit d (d.remove t)
  | note (localStorage : List (String × String)) (activations keyDowns : List Nat) :
      Edit d { d with localStorage, activations, keyDowns }

abbrev Edits : Document → Document → Prop := Relation.ReflTransGen Edit

theorem Edit.numbered {d d' : Document} (h : Edit d d') (hd : d.Numbered) : d'.Numbered := by
  cases h with
  | retouch number hc => exact hd.update (fun n => by rw [hc n]) number
  | insert element hp => exact hd.insert hp element
  | remove ht hr => exact hd.remove ht (hd.root_eq ▸ hr)
  | note => exact ⟨hd.root_eq, hd.rises, hd.perm⟩

theorem Edits.numbered {d d' : Document} (h : Edits d d') (hd : d.Numbered) : d'.Numbered := by
  induction h with
  | refl => exact hd
  | tail _ he ih => exact he.numbered ih

variable {d d' : Document}

/-! ## The operations of a document -/

theorem subtree_eq_ok {number : Nat} {t : Tree} : d.subtree number = .ok t ↔ d.body.find? number = some t := by
  unfold subtree
  cases d.body.find? number <;> simp

theorem node_eq_ok {number : Nat} {n : Node} :
    d.node number = .ok n ↔ ∃ t, d.body.find? number = some t ∧ t.root = n := by
  rw [node, subtree]
  cases d.body.find? number <;> simp [Except.map]

theorem mem_nodes_of_node {number : Nat} {n : Node} (h : d.node number = .ok n) : n ∈ d.nodes := by
  obtain ⟨t, ht, rfl⟩ := node_eq_ok.mp h
  obtain ⟨⟨path, hplace⟩, -⟩ := Tree.exists_place_of_find? [] ht
  rw [nodes, d.body.nodes_eq []]
  exact List.mem_map_of_mem hplace

theorem mem_numbers_of_selectFirst {selector : String} {n : Node}
    (h : d.selectFirst selector = .ok (some n)) : n.number ∈ d.body.numbers := by
  obtain ⟨found, hall, hhead⟩ := map_eq_ok.mp h
  obtain ⟨s, -, rfl⟩ := map_eq_ok.mp hall
  have hm := List.mem_of_mem_head? hhead
  rw [Selector.select, List.mem_filterMap] at hm
  obtain ⟨path, hpath, hn⟩ := hm
  split at hn
  · rw [Tree.paths_eq, List.mem_map] at hpath
    obtain ⟨place, hplace, rfl⟩ := hpath
    cases hn
    exact Tree.mem_numbers_of_place hplace
  · cases hn

theorem edit_change {n : Node} {c : Change} (hn : n.number ∈ d.body.numbers) (h : d.change n c = .ok d') :
    Edit d d' := by
  cases c with
  | setValue value =>
    cases h
    exact .retouch _ fun _ => rfl
  | setText text =>
    cases h
    exact .retouch _ fun _ => rfl
  | addClass token =>
    cases h
    refine .retouch _ fun m => ?_
    split <;> rfl
  | removeClass token =>
    cases h
    exact .retouch _ fun _ => rfl
  | append element =>
    cases h
    exact .insert element hn
  | remove =>
    rw [change] at h
    split at h
    · cases h
    · obtain ⟨t, ht⟩ := Option.isSome_iff_exists.mp (Tree.isSome_find?.mpr hn)
      have hnum := (Tree.exists_place_of_find? [] ht).2
      rw [subtree_eq_ok.mpr ht] at h
      cases h
      refine .remove ?_ ?_ <;> rw [hnum]
      · exact ht
      · assumption

theorem exists_change_of_apply {e : Effect} (h : d.apply e = .ok (some d')) :
    ∃ n, d.selectFirst e.target = .ok (some n) ∧ d.change n e.change = .ok d' := by
  obtain ⟨found, hs, h⟩ := bind_eq_ok.mp h
  cases found with
  | none => cases h
  | some n =>
    obtain ⟨d'', hc, h⟩ := bind_eq_ok.mp h
    cases h
    exact ⟨n, hs, hc⟩

theorem exists_insert_of_append {selector : String} {element : Element} {number : Nat}
    (h : d.append selector element = .ok (number, d')) :
    ∃ n, d.selectFirst selector = .ok (some n) ∧ number = d.next ∧ d' = d.insert n.number element := by
  obtain ⟨found, hs, h⟩ := bind_eq_ok.mp h
  cases found with
  | none => cases h
  | some n =>
    cases h
    exact ⟨n, hs, rfl, rfl⟩

theorem keyDown_effects (d : Document) (code : Nat) :
    (d.keyDown code).1 = [] ∨ ∃ key ∈ d.onKey, key.2 = (d.keyDown code).1 := by
  rw [keyDown]
  cases h : d.onKey.lookup code with
  | none => exact .inl rfl
  | some effects =>
    obtain ⟨before, after, hkeys, -⟩ := List.lookup_eq_some_iff.mp h
    exact .inr ⟨(code, effects), by simp [hkeys], rfl⟩

theorem edit_apply {e : Effect} (h : d.apply e = .ok (some d')) : Edit d d' := by
  obtain ⟨n, hs, hc⟩ := exists_change_of_apply h
  exact edit_change (mem_numbers_of_selectFirst hs) hc

/-- Documents that differ in their elements only. -/
structure ElementsOnly (d d' : Document) : Prop where
  onKey : d'.onKey = d.onKey
  preventDefault : d'.preventDefault = d.preventDefault
  localStorage : d'.localStorage = d.localStorage
  activations : d'.activations = d.activations
  keyDowns : d'.keyDowns = d.keyDowns

theorem ElementsOnly.refl (d : Document) : d.ElementsOnly d := ⟨rfl, rfl, rfl, rfl, rfl⟩

theorem ElementsOnly.trans {d'' : Document} (h : d.ElementsOnly d') (h' : d'.ElementsOnly d'') :
    d.ElementsOnly d'' where
  onKey := h'.onKey.trans h.onKey
  preventDefault := h'.preventDefault.trans h.preventDefault
  localStorage := h'.localStorage.trans h.localStorage
  activations := h'.activations.trans h.activations
  keyDowns := h'.keyDowns.trans h.keyDowns

theorem elementsOnly_change {n : Node} {c : Change} (h : d.change n c = .ok d') : d.ElementsOnly d' := by
  cases c with
  | remove =>
    rw [change] at h
    split at h
    · cases h
    · obtain ⟨t, -, rfl⟩ := map_eq_ok.mp h
      exact ⟨rfl, rfl, rfl, rfl, rfl⟩
  | _ =>
    cases h
    exact ⟨rfl, rfl, rfl, rfl, rfl⟩

theorem elementsOnly_apply {e : Effect} (h : d.apply e = .ok (some d')) : d.ElementsOnly d' := by
  obtain ⟨n, -, hc⟩ := exists_change_of_apply h
  exact elementsOnly_change hc

theorem edit_setValue {number : Nat} {value : String} (h : d.setValue number value = .ok d') : Edit d d' := by
  obtain ⟨n, -, rfl⟩ := map_eq_ok.mp h
  exact .retouch _ fun _ => rfl

theorem edit_append {selector : String} {element : Element} {number : Nat}
    (h : d.append selector element = .ok (number, d')) : Edit d d' := by
  obtain ⟨n, hs, -, rfl⟩ := exists_insert_of_append h
  exact .insert element (mem_numbers_of_selectFirst hs)

theorem edit_activate {number : Nat} {effects : List Effect} (h : d.activate number = .ok (effects, d')) :
    Edit d d' := by
  obtain ⟨n, -, h⟩ := map_eq_ok.mp h
  cases h
  exact .note _ _ _

theorem edit_keyDown (code : Nat) : Edit d (d.keyDown code).2 := .note _ _ _

theorem edit_clearLocalStorage : Edit d d.clearLocalStorage := .note _ _ _

/-! ## Runs of a document -/

inductive Operation where
  | apply (effect : Effect)
  | setValue (number : Nat) (value : String)
  | append (selector : String) (element : Element)
  | activate (number : Nat)
  | keyDown (code : Nat)
  | clearLocalStorage

/-- The document after an operation. One that fails leaves it as it is. -/
def perform (d : Document) : Operation → Document
  | .apply effect => (d.apply effect).toOption.join.getD d
  | .setValue number value => (d.setValue number value).toOption.getD d
  | .append selector element => ((d.append selector element).toOption.map Prod.snd).getD d
  | .activate number => ((d.activate number).toOption.map Prod.snd).getD d
  | .keyDown code => (d.keyDown code).2
  | .clearLocalStorage => d.clearLocalStorage

def performAll (d : Document) (operations : List Operation) : Document := operations.foldl perform d

@[simp] theorem performAll_cons (d : Document) (operation : Operation) (operations : List Operation) :
    d.performAll (operation :: operations) = (d.perform operation).performAll operations := rfl

/-- A document comes to be another by operations. -/
def Becomes (d d' : Document) : Prop := ∃ operations, d.performAll operations = d'

theorem Becomes.refl (d : Document) : d.Becomes d := ⟨[], rfl⟩

theorem Becomes.single (operation : Operation) (h : d.perform operation = d') : d.Becomes d' := ⟨[operation], h⟩

theorem Becomes.trans {d'' : Document} (h : d.Becomes d') (h' : d'.Becomes d'') : d.Becomes d'' := by
  obtain ⟨first, rfl⟩ := h
  obtain ⟨second, rfl⟩ := h'
  exact ⟨first ++ second, List.foldl_append⟩

section

variable {e : Effect} {number : Nat} {value selector : String} {element : Element} {effects : List Effect}

theorem perform_of_apply (h : d.apply e = .ok (some d')) : d.perform (.apply e) = d' := by
  simp [perform, h, Except.toOption]

theorem perform_of_setValue (h : d.setValue number value = .ok d') : d.perform (.setValue number value) = d' := by
  simp [perform, h, Except.toOption]

theorem perform_of_append (h : d.append selector element = .ok (number, d')) :
    d.perform (.append selector element) = d' := by
  simp [perform, h, Except.toOption]

theorem perform_of_activate (h : d.activate number = .ok (effects, d')) : d.perform (.activate number) = d' := by
  simp [perform, h, Except.toOption]

end

theorem edits_perform (d : Document) (operation : Operation) : Edits d (d.perform operation) := by
  cases operation with
  | apply effect =>
    rw [perform]
    rcases h : d.apply effect with fault | (_ | d')
    · exact .refl
    · exact .refl
    · exact .single (edit_apply h)
  | setValue number value =>
    rw [perform]
    rcases h : d.setValue number value with fault | d'
    · exact .refl
    · exact .single (edit_setValue h)
  | append selector element =>
    rw [perform]
    rcases h : d.append selector element with fault | ⟨number, d'⟩
    · exact .refl
    · exact .single (edit_append h)
  | activate number =>
    rw [perform]
    rcases h : d.activate number with fault | ⟨effects, d'⟩
    · exact .refl
    · exact .single (edit_activate h)
  | keyDown code => exact .single (edit_keyDown code)
  | clearLocalStorage => exact .single edit_clearLocalStorage

theorem Becomes.edits (h : d.Becomes d') : Edits d d' := by
  obtain ⟨operations, rfl⟩ := h
  induction operations generalizing d with
  | nil => exact .refl
  | cons operation operations ih => exact (edits_perform d operation).trans ih

end Document

/-! ## Worlds -/

namespace World

open Document

variable {w w' : World}

theorem becomes_apply {e : Effect} (h : w.apply e = .ok w') : w.document.Becomes w'.document := by
  obtain ⟨changed, hd, rfl⟩ := map_eq_ok.mp h
  cases changed with
  | none => exact .refl _
  | some d => exact .single (.apply e) (perform_of_apply hd)

theorem becomes_trigger {e : Effect} (h : w.trigger e = .ok w') : w.document.Becomes w'.document := by
  unfold trigger at h
  split at h
  · exact becomes_apply h
  · cases h
    exact .refl _

theorem becomes_triggerAll (w : World) (effects : List Effect) :
    w.document.Becomes (w.triggerAll effects).2.document := by
  induction effects generalizing w with
  | nil => exact .refl _
  | cons e effects ih =>
    rw [triggerAll]
    cases ht : w.trigger e with
    | error fault => exact .refl _
    | ok w' => exact (becomes_trigger ht).trans (ih w')

theorem elementsOnly_trigger {e : Effect} (h : w.trigger e = .ok w') : w.document.ElementsOnly w'.document := by
  unfold trigger at h
  split at h
  · obtain ⟨changed, hd, rfl⟩ := map_eq_ok.mp h
    cases changed with
    | none => exact .refl _
    | some d => exact elementsOnly_apply hd
  · cases h
    exact .refl _

/-- Effects change nothing but elements. -/
theorem elementsOnly_triggerAll (w : World) (effects : List Effect) :
    w.document.ElementsOnly (w.triggerAll effects).2.document := by
  induction effects generalizing w with
  | nil => exact .refl _
  | cons e effects ih =>
    rw [triggerAll]
    cases ht : w.trigger e with
    | error fault => exact .refl _
    | ok w' => exact (elementsOnly_trigger ht).trans (ih w')

theorem becomes_happen (w : World) (p : Pending) : w.document.Becomes (w.happen p).document := by
  unfold happen
  dsimp only
  split
  · rename_i w' h
    exact becomes_apply (w := { w with now := max w.now p.due }) h
  · exact .refl _

theorem becomes_runUntil (deadline : Nat) (w : World) (ps : List Pending) :
    w.document.Becomes (runUntil deadline w ps).document := by
  induction ps generalizing w with
  | nil => exact .refl _
  | cons p ps ih =>
    rw [runUntil]
    split
    · exact (becomes_happen w p).trans (ih _)
    · exact .refl _

theorem becomes_changeUntil (id deadline : Nat) (w : World) (ps : List Pending) :
    w.document.Becomes (changeUntil id deadline w ps).2.document := by
  induction ps generalizing w with
  | nil =>
    rw [changeUntil]
    split <;> exact .refl _
  | cons p ps ih =>
    rw [changeUntil]
    split
    · exact (becomes_happen w p).trans (ih _)
    · split <;> exact .refl _

theorem becomes_activate (w : World) (number : Nat) : w.document.Becomes (w.activate number).2.document := by
  unfold activate
  split
  · exact .refl _
  · rename_i effects d h
    have hd := Becomes.single (.activate number) (perform_of_activate h)
    exact hd.trans (becomes_triggerAll { w with document := d } effects)

theorem becomes_keyDown (w : World) (code : Nat) : w.document.Becomes (w.keyDown code).2.document := by
  have h := (Becomes.single (.keyDown code) rfl).trans
    (becomes_triggerAll { w with document := (w.document.keyDown code).2 } (w.document.keyDown code).1)
  unfold keyDown
  dsimp only
  split <;> rename_i ht <;> rwa [ht] at h

theorem becomes_setValue (w : World) (number : Nat) (value : String) :
    w.document.Becomes (w.setValue number value).2.document := by
  unfold setValue
  split
  · rename_i d h
    exact .single (.setValue number value) (perform_of_setValue h)
  · exact .refl _

theorem becomes_append (w : World) (selector : String) (element : Element) :
    w.document.Becomes (w.append selector element).2.document := by
  unfold append
  split
  · rename_i number d h
    exact .single (.append selector element) (perform_of_append h)
  · exact .refl _

theorem becomes_answer (w : World) (r : Request) : w.document.Becomes (answer r w).2.document := by
  cases r with
  | activate number => exact becomes_activate w number
  | setValue number text => exact becomes_setValue w number text
  | keyDown code => exact becomes_keyDown w code
  | clearLocalStorage => exact .single .clearLocalStorage rfl
  | _ => exact .refl _

inductive Event where
  | append (selector : String) (element : Element)
  | trigger (effect : Effect)
  | request (r : Request)
  | sleepUntil (instant : Nat)
  | observe
  | unobserve (observer : Nat)
  | nextChange (observer deadline : Nat)
  | drain (observer : Nat)
  | close

/-- The world after an event, whether the event failed or not. -/
def step (w : World) : Event → World
  | .append selector element => (w.append selector element).2
  | .trigger effect => (w.trigger effect).toOption.getD w
  | .request r => (answer r w).2
  | .sleepUntil instant => w.sleepUntil instant
  | .observe => w.observe.2
  | .unobserve observer => w.unobserve observer
  | .nextChange observer deadline => (w.nextChange observer deadline).2
  | .drain observer => (w.drain observer).2
  | .close => w.close

def after (w : World) (events : List Event) : World := events.foldl step w

theorem becomes_step (w : World) (event : Event) : w.document.Becomes (w.step event).document := by
  cases event with
  | append selector element => exact becomes_append w selector element
  | trigger effect =>
    rw [step]
    cases h : w.trigger effect with
    | error fault => exact .refl _
    | ok w' => exact becomes_trigger h
  | request r => exact becomes_answer w r
  | sleepUntil instant => exact becomes_runUntil instant w w.pending
  | nextChange observer deadline => exact becomes_changeUntil observer deadline w w.pending
  | _ => exact .refl _

/-- Whatever is done with a world, its document changes by operations. -/
theorem becomes_after (w : World) (events : List Event) : w.document.Becomes (w.after events).document := by
  induction events generalizing w with
  | nil => exact .refl _
  | cons event events ih => exact (becomes_step w event).trans (ih _)

/-- What a step keeps holds after any number of events. -/
theorem after_invariant {Inv : World → Prop} (keep : ∀ w event, Inv w → Inv (step w event)) (h : Inv w)
    (events : List Event) : Inv (w.after events) := by
  induction events generalizing w with
  | nil => exact h
  | cons event events ih => exact ih (keep w event h)

theorem numbered_after (page : Page) (events : List Event) :
    ((ofPage page).after events).document.Numbered :=
  (becomes_after (ofPage page) events).edits.numbered (numbered_ofPage page)

end World

end PageScript
