import Mathlib.Data.Option.Basic
import PageScript.Proofs.Slots

/-!
# Arenas that represent documents

An arena represents a document if it has a slot for each element that there ever was: for one in the document with its
parent, for one that was taken out with what was below it then. It answers every request as the document does, and what
is done with both is the same again. So nothing that is said of documents depends on how their elements are stored.
-/
namespace PageScript

namespace Document

/-- The slots of all elements there ever were. -/
def slots (d : Document) : List Slot :=
  d.body.slots none true ++ d.removed.flatMap (Tree.slots none false)

def records (d : Document) := (d.onKey, d.preventDefault, d.localStorage, d.activations, d.keyDowns)

theorem Numbered.disjoint {d : Document} (hd : d.Numbered) {number : Nat} (hn : number ∈ d.body.numbers) {t : Tree}
    (ht : t ∈ d.removed) : number ∉ t.numbers := by
  have hnodup := hd.perm.nodup_iff.mpr List.nodup_range
  exact fun hm => (List.nodup_append.mp hnodup).2.2 number hn number (List.mem_flatMap.mpr ⟨t, ht, hm⟩) rfl

end Document

/-- Results that are the same fault, or values in a relation. -/
inductive Results {α β : Type} (R : α → β → Prop) : Except Fault α → Except Fault β → Prop
  | error (fault : Fault) : Results R (.error fault) (.error fault)
  | ok {x : α} {y : β} (h : R x y) : Results R (.ok x) (.ok y)

section

variable {α β γ δ : Type} {R : α → β → Prop} {S : γ → δ → Prop} {x : Except Fault α} {y : Except Fault β}

theorem Results.elim (h : Results R x y) {f : Except Fault α → γ} {g : Except Fault β → δ}
    (herror : ∀ fault, S (f (.error fault)) (g (.error fault))) (hok : ∀ x y, R x y → S (f (.ok x)) (g (.ok y))) :
    S (f x) (g y) := by
  cases h with
  | error fault => exact herror fault
  | ok h => exact hok _ _ h

theorem Results.map (h : Results R x y) {f : α → γ} {g : β → δ} (hf : ∀ x y, R x y → S (f x) (g y)) :
    Results S (x.map f) (y.map g) := by
  cases h with
  | error fault => exact .error fault
  | ok h => exact .ok (hf _ _ h)

theorem Results.map_eq (h : Results R x y) {f : α → γ} {g : β → γ} (hf : ∀ x y, R x y → f x = g y) :
    x.map f = y.map g := by
  cases h with
  | error fault => rfl
  | ok h => exact congrArg Except.ok (hf _ _ h)

theorem Results.bind (h : Results R x y) {f : α → Except Fault γ} {g : β → Except Fault δ}
    (hf : ∀ x y, R x y → Results S (f x) (g y)) : Results S (x >>= f) (y >>= g) := by
  cases h with
  | error fault => exact .error fault
  | ok h => exact hf _ _ h

end

namespace Arena

structure Represents (a : Arena) (d : Document) : Prop where
  size : a.size = d.next
  holds : a.Holds d.slots
  records : a.records = d.records

variable {a : Arena} {d : Document} {number : Nat} {path : List Node} {t : Tree}

section

variable (h : a.Represents d)

include h

theorem Represents.holds_place (hp : (path, t) ∈ d.body.places []) :
    a.Holds (t.slots (path.head?.map Node.number) true) :=
  h.holds.mono fun _ hs => List.mem_append_left _ (Tree.slots_subset hp hs)

theorem Represents.slots_place (hp : (path, t) ∈ d.body.places []) :
    a.slots[t.root.number]? = some (t.slot (path.head?.map Node.number) true) :=
  h.holds_place hp _ t.slot_mem_slots

theorem Represents.exists_slot_of_removed {s : Tree} (hs : s ∈ d.removed) (hm : number ∈ s.numbers) :
    ∃ slot, a.slots[number]? = some slot ∧ slot ∈ s.slots none false := by
  obtain ⟨slot, hslot, rfl⟩ := Tree.exists_slot_of_mem_numbers none false hm
  exact ⟨slot, h.holds slot (List.mem_append_right _ (List.mem_flatMap.mpr ⟨s, hs, hslot⟩)), hslot⟩

theorem Represents.stored (hd : d.Numbered) (number : Nat) : a.slots[number]?.map Slot.node = d.stored number := by
  cases hs : d.stored number with
  | none =>
    rw [hd.stored_eq_none, ← h.size] at hs
    rw [Array.getElem?_eq_none hs, Option.map_none]
  | some n =>
    obtain ⟨hm, rfl⟩ := hd.stored_eq_some.mp hs
    have hnodes : n ∈ d.slots.map Slot.node := by
      simpa [Document.slots, Document.elements, Document.nodes, List.map_flatMap, Tree.nodes_slots] using hm
    obtain ⟨s, hslot, rfl⟩ := List.mem_map.mp hnodes
    rw [h.holds s hslot, Option.map_some]

theorem Represents.attached_iff (hd : d.Numbered) :
    a.slots[number]?.any Slot.attached = true ↔ d.Attached number := by
  rw [Document.attached_iff]
  constructor
  · intro hs
    obtain ⟨s, hslot, hs⟩ := (Option.any_eq_true _ _).mp hs
    have hlt := lt_size_of_slots hslot
    rw [h.size, ← List.mem_range, ← hd.perm.mem_iff, List.mem_append, List.mem_flatMap] at hlt
    rcases hlt with hm | ⟨t, ht, hm⟩
    · exact hm
    · obtain ⟨s', hslot', hs'⟩ := h.exists_slot_of_removed ht hm
      rw [hslot] at hslot'
      cases hslot'
      rw [Tree.attached_of_mem_slots hs'] at hs
      cases hs
  · intro hm
    obtain ⟨path, t, hp, rfl⟩ : ∃ path t, (path, t) ∈ d.body.places [] ∧ t.root.number = number :=
      Tree.exists_place_of_mem_numbers hm
    rw [h.slots_place hp]
    rfl

/-- The slot of an attached element is that of its subtree, and there is none where there is no subtree. -/
theorem Represents.results_slot (hd : d.Numbered) (number : Nat) :
    Results (fun s t => t.root.number = number ∧ ∃ path, (path, t) ∈ d.body.places [] ∧
      s = t.slot (path.head?.map Node.number) true) (a.slot number) (d.subtree number) := by
  by_cases ha : d.Attached number
  · obtain ⟨path, t, hp, rfl⟩ := Document.exists_place_of_attached ha
    rw [Arena.slot, h.slots_place hp, Document.subtree_of_place hd hp]
    exact .ok ⟨rfl, path, hp, rfl⟩
  · have hs := mt (h.attached_iff hd).mp ha
    rw [Document.subtree_eq_error.mpr ⟨rfl, ha⟩, Arena.slot, Option.filter_eq_none_iff.mpr ?_]
    · exact .error _
    · intro s hslot hattached
      exact hs ((Option.any_eq_true _ _).mpr ⟨s, hslot, hattached⟩)

/-! ## What an arena answers -/

variable (hd : d.Numbered)

include hd

theorem Represents.results_node (number : Nat) :
    Results (fun s n => s.node = n ∧ n.number = number ∧ number ∈ d.body.numbers) (a.slot number) (d.node number) := by
  have hs := (h.results_slot hd number).map (f := id) (g := Tree.root)
    (S := fun s n => s.node = n ∧ n.number = number ∧ number ∈ d.body.numbers) ?_
  · rwa [Except.map_id] at hs
  · rintro _ t ⟨rfl, path, hp, rfl⟩
    exact ⟨rfl, rfl, Tree.mem_numbers_of_place hp⟩

theorem Represents.map_node {α : Type} (f : Node → α) (number : Nat) :
    (a.slot number).map (fun s => f s.node) = (d.node number).map f :=
  (h.results_node hd number).map_eq fun _ _ hn => congrArg f hn.1

theorem Represents.parent (number : Nat) : a.parent number = d.parent number := by
  rw [Document.parent, Document.node, Arena.parent]
  have hparent : (a.slot number).map Slot.parent =
      (d.subtree number).map fun t => (d.body.parent? t.root.number).map Node.number := by
    refine (h.results_slot hd number).map_eq ?_
    rintro _ t ⟨-, path, hp, rfl⟩
    rw [Tree.parent?_of_place hd.nodup hp, Tree.slot]
  rw [hparent]
  cases d.subtree number <;> rfl

theorem Represents.children (number : Nat) : a.children number = d.children number := by
  refine (h.results_slot hd number).map_eq ?_
  rintro _ t ⟨-, path, -, rfl⟩
  rfl

/-! ## Walks -/

omit hd in
theorem Represents.descendants (hp : (path, t) ∈ d.body.places []) :
    a.descendants t.root.number = t.children.flatMap Tree.numbers := by
  have hvisit := visit_tree (h.holds_place hp).lists []
  rw [visit_cons, visit, List.append_nil, List.append_nil, t.numbers_eq_cons] at hvisit
  exact (List.cons.inj hvisit).2

theorem Represents.all : a.all = d.body.numbers := by
  have hroot := h.descendants (Tree.mem_places_self d.body)
  rw [hd.root_eq] at hroot
  rw [Arena.all, hroot, d.body.numbers_eq_cons, hd.root_eq]

omit hd in
theorem Represents.parentOf (hp : (path, t) ∈ d.body.places []) :
    a.parentOf t.root.number = path.head?.map Node.number := by
  rw [Arena.parentOf, h.slots_place hp]
  rfl

omit hd in
theorem Represents.ancestors (hp : (path, t) ∈ d.body.places []) :
    a.ancestors t.root.number = path.map Node.number := by
  induction path generalizing t with
  | nil => exact ancestors_of_none (h.parentOf hp)
  | cons n path ih =>
    rcases Tree.mem_places_parent hp with ⟨hnil, -⟩ | ⟨p, rest, hcons, hp', -⟩
    · cases hnil
    · cases hcons
      rw [ancestors_of_some (h.parentOf hp), ih hp', List.map_cons]

/-! ## Selectors -/

omit hd in
theorem Represents.meets (hp : (path, t) ∈ d.body.places []) (compound : Compound) :
    a.meets compound t.root.number = compound.accepts t.root := by
  rw [Arena.meets, h.slots_place hp]
  rfl

omit hd in
theorem Represents.any_ancestors (hp : (path, t) ∈ d.body.places []) {f : Nat → Bool} {g : Node → List Node → Bool}
    (hf : ∀ above p, (above, p) ∈ d.body.places [] → f p.root.number = g p.root above) :
    (a.ancestors t.root.number).any f = (Selector.climbs path).any fun (node, above) => g node above := by
  rw [h.ancestors hp]
  induction path generalizing t with
  | nil => rfl
  | cons n path ih =>
    rcases Tree.mem_places_parent hp with ⟨hnil, -⟩ | ⟨p, rest, hcons, hp', -⟩
    · cases hnil
    · cases hcons
      rw [List.map_cons, Selector.climbs, List.any_cons, List.any_cons, ih hp', hf path p hp']

omit hd in
theorem Represents.fits (hp : (path, t) ∈ d.body.places []) (links : List (Combinator × Compound)) :
    a.fits links t.root.number = Selector.fits links path := by
  induction links generalizing path t with
  | nil => rw [Arena.fits, Selector.fits]
  | cons link links ih =>
    obtain ⟨combinator, compound⟩ := link
    have hlink : ∀ above p, (above, p) ∈ d.body.places [] →
        (a.meets compound p.root.number && a.fits links p.root.number) =
          (compound.accepts p.root && Selector.fits links above) :=
      fun above p hp => by rw [h.meets hp, ih hp]
    cases combinator with
    | descendant =>
      rw [Arena.fits, Selector.fits]
      exact h.any_ancestors hp (g := fun n above => compound.accepts n && Selector.fits links above) hlink
    | child =>
      rw [Arena.fits, h.parentOf hp]
      rcases Tree.mem_places_parent hp with ⟨rfl, -⟩ | ⟨p, rest, rfl, hp', -⟩
      · rfl
      · exact hlink rest p hp'

omit hd in
theorem Represents.accepts (hp : (path, t) ∈ d.body.places []) (s : Selector) :
    a.accepts s t.root.number = s.acceptsPath (t.root :: path) := by
  rw [Arena.accepts, Selector.acceptsPath, h.meets hp, h.fits hp]

theorem Represents.filter_all (s : Selector) :
    a.all.filter (a.accepts s) = (s.select d.body).map Node.number := by
  rw [h.all hd, Document.select_eq, d.body.numbers_eq [], List.filter_map]
  exact congrArg _ (List.filter_congr fun place hp => h.accepts hp s)

theorem Represents.selectAll (selector : String) :
    a.selectAll selector = (d.selectAll selector).map (·.map Node.number) := by
  rw [Arena.selectAll, Document.selectAll]
  cases Selector.parse selector with
  | error fault => rfl
  | ok s => exact congrArg Except.ok (h.filter_all hd s)

theorem Represents.selectFirst (selector : String) :
    a.selectFirst selector = (d.selectFirst selector).map (·.map Node.number) := by
  rw [Arena.selectFirst, Document.selectFirst, Document.selectAll]
  cases Selector.parse selector with
  | error fault => rfl
  | ok s =>
    have hfind : a.all.find? (a.accepts s) = ((s.select d.body).head?).map Node.number := by
      rw [← List.head?_filter, h.filter_all hd, List.head?_map]
    exact congrArg Except.ok hfind

theorem Represents.elementsByTag (number : Nat) (tag : String) :
    a.elementsByTag number tag = d.elementsByTag number tag := by
  refine (h.results_slot hd number).map_eq ?_
  rintro _ t ⟨rfl, path, hp, rfl⟩
  have hnodes : t.descendants.map Node.number = t.children.flatMap Tree.numbers := by
    rw [Tree.descendants, Tree.nodesAll_eq, List.map_flatMap]
    rfl
  rw [h.descendants hp, ← hnodes, List.filter_map]
  refine congrArg _ (List.filter_congr fun n hn => ?_)
  have hm : n ∈ d.body.nodes := (Tree.nodes_infix hp).subset (by cases t; exact List.mem_cons_of_mem _ hn)
  rw [d.body.nodes_eq []] at hm
  obtain ⟨⟨above, s⟩, hs, rfl⟩ := List.mem_map.mp hm
  rw [Function.comp_apply, hasTag, h.slots_place hs]
  rfl

end

/-! ## What is done with an arena -/

theorem Represents.update (h : a.Represents d) (hd : d.Numbered) {change : Node → Node}
    (hc : ∀ n, (change n).number = n.number) (hn : number ∈ d.body.numbers) :
    (a.update number change).Represents (d.update number change) := by
  have hr := rewrites_modify a number (fun s => { s with node := change s.node }) fun _ h => ⟨h.1, h.2, h.3, h.4⟩
  refine ⟨hr.size.trans h.size, hr.holds h.holds fun s' hs' => ?_, hr.records.trans h.records⟩
  rcases List.mem_append.mp hs' with hs | hs
  · rw [Document.update, Tree.slots_update hc] at hs
    obtain ⟨s, hold, rfl⟩ := List.mem_map.mp hs
    refine ⟨s, List.mem_append_left _ hold, ?_⟩
    by_cases he : s.node.number = number
    · simp [he, hc]
    · simp [he, Ne.symm he]
  · refine ⟨s', List.mem_append_right _ hs, rfl, if_neg ?_⟩
    rintro rfl
    obtain ⟨t, ht, hs⟩ := List.mem_flatMap.mp hs
    exact hd.disjoint hn ht (Tree.mem_numbers_of_mem_slots hs)

theorem Represents.insert (h : a.Represents d) (hd : d.Numbered) {parent : Nat} (hp : parent ∈ d.body.numbers)
    (e : Element) : (a.insert parent e).Represents (d.insert parent e) := by
  have hr := receives_insert a (h.size ▸ hd.lt_next hp) e
  have hold (s : Slot) (hs : s ∈ d.slots) : (a.insert parent e).slots[s.node.number]? = some
      (if s.node.number = parent then { s with children := s.children ++ [d.next] } else s) := by
    rw [hr.slots _ (lt_size_of_slots (h.holds s hs)), h.holds s hs]
    split <;> simp_all [Tree.root_number_ofElement, h.size]
  rw [h.size] at hr
  refine ⟨?_, fun s hs => ?_, hr.records.trans h.records⟩
  · simpa [Document.insert, Tree.numbers_ofElement, h.size] using hr.size
  · rcases List.mem_append.mp hs with hs | hs
    · rcases Tree.mem_slots_append hs with hs | ⟨s', hs', rfl⟩
      · exact hr.holds s (by simpa using hs)
      · have hslot := hold s' (List.mem_append_left _ hs')
        rw [Tree.root_number_ofElement]
        by_cases he : s'.node.number = parent
        · simpa [he] using hslot
        · simpa [he] using hslot
    · have hslot := hold s (List.mem_append_right _ hs)
      rwa [if_neg] at hslot
      rintro rfl
      obtain ⟨t, ht, hs⟩ := List.mem_flatMap.mp hs
      exact hd.disjoint hp ht (Tree.mem_numbers_of_mem_slots hs)

section

variable (h : a.Represents d) (hd : d.Numbered) {p : Tree} {rest : List Node}
  (hp : (p.root :: rest, t) ∈ d.body.places [])

include h hp

theorem Represents.number_eq_of_mem_children {s : Slot} (hs : s ∈ d.body.slots none true)
    (hc : t.root.number ∈ s.children) : s.node.number = p.root.number := by
  obtain ⟨child, hchild, hn, hback⟩ := Tree.exists_slot_of_mem_children hs hc
  have hslot := h.holds child (List.mem_append_left _ hchild)
  rw [hn, h.slots_place hp] at hslot
  cases hslot
  exact (Option.some.inj hback).symm

theorem Represents.ite_filter_children {s : Slot} (hs : s ∈ d.body.slots none true) :
    (if s.node.number = p.root.number then s.children.filter (· ≠ t.root.number) else s.children) =
      s.children.filter (· ≠ t.root.number) := by
  split
  · rfl
  · rename_i hne
    refine (List.filter_eq_self.mpr fun c hc => decide_eq_true ?_).symm
    rintro rfl
    exact hne (h.number_eq_of_mem_children hp hs hc)

include hd

theorem Represents.parent_not_mem : p.root.number ∉ t.numbers := by
  intro hm
  have := (hd.rises.of_place hp).root_le hm
  have := a.parentOf_lt (h.parentOf hp)
  omega

theorem Represents.rewrites_detach :
    a.Rewrites (a.detach t.root.number) fun index s =>
      { s with
        parent := if index = t.root.number then none else s.parent
        children := if index = p.root.number then s.children.filter (· ≠ t.root.number) else s.children
        attached := s.attached && index ∉ t.numbers } := by
  have hcut := rewrites_cut (h.parentOf hp)
  have hlists : (a.cut t.root.number).Lists (t.slots (some p.root.number) true) := by
    intro s hs
    have hne : s.node.number ≠ p.root.number := by
      intro he
      exact h.parent_not_mem hd hp (he ▸ Tree.mem_numbers_of_mem_slots hs)
    simp [childrenOf, hcut.slots, h.holds_place hp s hs, hne]
  exact hcut.trans (detaches_drop hlists) fun _ _ => rfl

end

theorem Represents.detach (h : a.Represents d) (hd : d.Numbered) (ht : d.body.find? t.root.number = some t)
    (hr : t.root.number ≠ 0) : (a.detach t.root.number).Represents (d.remove t) := by
  obtain ⟨⟨path, hp⟩, -⟩ := Tree.exists_place_of_find? [] ht
  obtain ⟨p, rest, rfl, hparent, -⟩ :
      ∃ p rest, path = p.root :: rest ∧ (rest, p) ∈ d.body.places [] ∧ t ∈ p.children := by
    rcases Tree.mem_places_parent hp with ⟨-, rfl⟩ | hparent
    · exact absurd hd.root_eq hr
    · exact hparent
  have hrewrites := h.rewrites_detach hd hp
  refine ⟨hrewrites.size.trans h.size, hrewrites.holds h.holds fun s' hs' => ?_, hrewrites.records.trans h.records⟩
  rw [Document.slots, Document.remove, List.flatMap_cons, List.mem_append, List.mem_append] at hs'
  rcases hs' with hs' | hs' | hs'
  · have hperm := Tree.numbers_remove hd.nodup (hd.root_eq ▸ hr.symm) ht
    have hdisjoint := (List.nodup_append.mp (hperm.nodup_iff.mp hd.nodup)).2.2
    have hstays : s'.node.number ∉ t.numbers := fun hm => hdisjoint _ (Tree.mem_numbers_of_mem_slots hs') _ hm rfl
    obtain ⟨s, hs, rfl⟩ := Tree.mem_slots_remove hs'
    have hne : s.node.number ≠ t.root.number := fun he => hstays (he ▸ t.root_number_mem)
    refine ⟨s, List.mem_append_left _ hs, rfl, ?_⟩
    rw [h.ite_filter_children hp hs]
    simp_all
  · have hn : t.numbers.Nodup := ((Tree.nodes_infix hp).sublist.map _).nodup hd.nodup
    obtain ⟨s, hs, rfl⟩ := Tree.mem_slots_detached (some p.root.number) true hn hs'
    have hm := Tree.mem_numbers_of_mem_slots hs
    have hne : s.node.number ≠ p.root.number := by
      intro he
      exact h.parent_not_mem hd hp (he ▸ hm)
    exact ⟨s, List.mem_append_left _ (Tree.slots_subset hp hs), rfl, by simp [hm, hne]⟩
  · obtain ⟨removed, hremoved, hs⟩ := List.mem_flatMap.mp hs'
    have hgone (number : Nat) (hm : number ∈ d.body.numbers) : s'.node.number ≠ number := by
      rintro rfl
      exact hd.disjoint hm hremoved (Tree.mem_numbers_of_mem_slots hs)
    have hnp := hgone _ (Tree.mem_numbers_of_place hparent)
    have hnt := hgone _ (Tree.mem_numbers_of_place hp)
    refine ⟨s', List.mem_append_right _ hs', rfl, ?_⟩
    have hattached := Tree.attached_of_mem_slots hs
    cases s'
    simp_all

theorem represents_ofPage (page : Page) : (ofPage page).Represents (.ofPage page) := by
  have hr := receives_insertAll bare (by decide : 0 < bare.size) page.body
  have hroot := hr.slots 0 (by decide)
  have hsize : (insertAll bare 0 page.body).size = 1 + Element.sizeAll page.body := by
    rw [hr.size, Tree.numbers_ofElements, List.length_range']
    rfl
  have hrecords := hr.records
  refine ⟨hsize, fun s hs => ?_, ?_⟩
  · rw [Document.slots, Document.ofPage, Tree.slots_node, List.flatMap_nil, List.append_nil, List.mem_cons] at hs
    rcases hs with rfl | hs
    · exact hroot
    · exact hr.holds s hs
  · simp_all [records, Document.records, ofPage, Document.ofPage, bare]

/-! ## Operations -/

section

variable (h : a.Represents d) (hd : d.Numbered)

include h hd

theorem Represents.setValue (number : Nat) (value : String) :
    Results Represents (a.setValue number value) (d.setValue number value) := by
  refine (h.results_node hd number).map ?_
  rintro _ n ⟨-, rfl, hm⟩
  exact h.update hd (fun _ => rfl) hm

theorem Represents.change {n : Node} (hn : n.number ∈ d.body.numbers) (c : Change) :
    Results Represents (a.change n.number c) (d.change n c) := by
  cases c with
  | setValue value =>
    refine .ok ?_
    exact h.update hd (fun _ => rfl) hn
  | setText text =>
    refine .ok ?_
    exact h.update hd (fun _ => rfl) hn
  | addClass token =>
    refine .ok (h.update hd (fun n => ?_) hn)
    split <;> rfl
  | removeClass token =>
    refine .ok ?_
    exact h.update hd (fun _ => rfl) hn
  | append element => exact .ok (h.insert hd hn element)
  | remove =>
    rw [Arena.change, Document.change, hd.root_eq]
    split
    · exact .error _
    · obtain ⟨t, ht⟩ := Option.isSome_iff_exists.mp (Tree.isSome_find?.mpr hn)
      obtain ⟨-, he⟩ := Tree.exists_place_of_find? [] ht
      rw [Document.subtree_eq_ok.mpr ht]
      rw [← he] at ht ⊢
      exact .ok (h.detach hd ht (he ▸ ‹_›))

theorem Represents.results_selectFirst (selector : String) :
    Results (fun target n => target = n.map Node.number ∧ ∀ m, n = some m → m.number ∈ d.body.numbers)
      (a.selectFirst selector) (d.selectFirst selector) := by
  rw [h.selectFirst hd]
  cases hs : d.selectFirst selector with
  | error fault => exact .error fault
  | ok n =>
    refine .ok ⟨rfl, ?_⟩
    rintro m rfl
    exact Document.mem_numbers_of_selectFirst hs

theorem Represents.apply (e : Effect) : Results (Option.Rel Represents) (a.apply e) (d.apply e) := by
  refine (h.results_selectFirst hd e.target).bind ?_
  rintro _ n ⟨rfl, hm⟩
  cases n with
  | none => exact .ok .none
  | some n => exact (h.change hd (hm n rfl) e.change).bind fun a' d' h' => .ok (.some h')

theorem Represents.append (selector : String) (element : Element) :
    Results (fun x y => x.1 = y.1 ∧ x.2.Represents y.2) (a.append selector element) (d.append selector element) := by
  refine (h.results_selectFirst hd selector).bind ?_
  rintro _ n ⟨rfl, hm⟩
  cases n with
  | none => exact .error _
  | some n => exact .ok ⟨h.size, h.insert hd (hm n rfl) element⟩

omit hd in
theorem Represents.note (localStorage : List (String × String)) (activations keyDowns : List Nat) :
    ({ a with localStorage, activations, keyDowns } : Arena).Represents
      { d with localStorage, activations, keyDowns } := by
  refine ⟨h.size, h.holds, ?_⟩
  have hrecords := h.records
  simp_all [Arena.records, Document.records]

theorem Represents.activate (number : Nat) :
    Results (fun x y => x.1 = y.1 ∧ x.2.Represents y.2) (a.activate number) (d.activate number) := by
  refine (h.results_node hd number).map ?_
  rintro s n ⟨rfl, rfl, -⟩
  have hnote := h.note d.localStorage (d.activations ++ [s.node.number]) d.keyDowns
  have hrecords := h.records
  simp_all [Arena.records, Document.records]

omit hd in
theorem Represents.keyDown (code : Nat) :
    (a.keyDown code).1 = (d.keyDown code).1 ∧ (a.keyDown code).2.Represents (d.keyDown code).2 := by
  have hnote := h.note d.localStorage d.activations (d.keyDowns ++ [code])
  have hrecords := h.records
  simp_all [Arena.records, Document.records, Arena.keyDown, Document.keyDown]

omit hd in
theorem Represents.clearLocalStorage : a.clearLocalStorage.Represents d.clearLocalStorage := by
  have hnote := h.note [] d.activations d.keyDowns
  have hrecords := h.records
  simp_all [Arena.records, Document.records, Arena.clearLocalStorage, Document.clearLocalStorage]

end

/-- The arena after an operation. One that fails leaves it as it is. -/
def perform (a : Arena) : Document.Operation → Arena
  | .apply effect => (a.apply effect).toOption.join.getD a
  | .setValue number value => (a.setValue number value).toOption.getD a
  | .append selector element => ((a.append selector element).toOption.map Prod.snd).getD a
  | .activate number => ((a.activate number).toOption.map Prod.snd).getD a
  | .keyDown code => (a.keyDown code).2
  | .clearLocalStorage => a.clearLocalStorage

def performAll (a : Arena) (operations : List Document.Operation) : Arena := operations.foldl perform a

theorem Represents.perform (h : a.Represents d) (hd : d.Numbered) (operation : Document.Operation) :
    (a.perform operation).Represents (d.perform operation) := by
  cases operation with
  | apply effect =>
    refine (h.apply hd effect).elim (S := Represents) (f := fun x => x.toOption.join.getD a)
      (g := fun y => y.toOption.join.getD d) (fun _ => h) fun x y hr => ?_
    cases hr with
    | none => exact h
    | some hr => exact hr
  | setValue number value =>
    exact (h.setValue hd number value).elim (S := Represents) (f := fun x => x.toOption.getD a)
      (g := fun y => y.toOption.getD d) (fun _ => h) fun _ _ hr => hr
  | append selector element =>
    exact (h.append hd selector element).elim (S := Represents) (f := fun x => (x.toOption.map Prod.snd).getD a)
      (g := fun y => (y.toOption.map Prod.snd).getD d) (fun _ => h) fun _ _ hr => hr.2
  | activate number =>
    exact (h.activate hd number).elim (S := Represents) (f := fun x => (x.toOption.map Prod.snd).getD a)
      (g := fun y => (y.toOption.map Prod.snd).getD d) (fun _ => h) fun _ _ hr => hr.2
  | keyDown code => exact (h.keyDown code).2
  | clearLocalStorage => exact h.clearLocalStorage

theorem Represents.performAll (h : a.Represents d) (hd : d.Numbered) (operations : List Document.Operation) :
    (a.performAll operations).Represents (d.performAll operations) := by
  induction operations generalizing a d with
  | nil => exact h
  | cons operation operations ih => exact ih (h.perform hd operation) (hd.perform operation)

/-- An arena represents a document, and no request tells the two apart. -/
structure Simulates (a : Arena) (d : Document) : Prop where
  represents : a.Represents d
  all : a.all = d.body.numbers
  stored : ∀ number, a.slots[number]?.map Slot.node = d.stored number
  attached : ∀ number, a.slots[number]?.any Slot.attached = true ↔ d.Attached number
  selectAll : ∀ selector, a.selectAll selector = (d.selectAll selector).map (·.map Node.number)
  selectFirst : ∀ selector, a.selectFirst selector = (d.selectFirst selector).map (·.map Node.number)
  value : ∀ number, a.value number = d.value number
  text : ∀ number, a.text number = d.text number
  classNames : ∀ number, a.classNames number = d.classNames number
  attr : ∀ number name, a.attr number name = d.attr number name
  parent : ∀ number, a.parent number = d.parent number
  children : ∀ number, a.children number = d.children number
  elementsByTag : ∀ number tag, a.elementsByTag number tag = d.elementsByTag number tag
  setValue : ∀ number value, Results Represents (a.setValue number value) (d.setValue number value)
  append : ∀ selector element,
    Results (fun x y => x.1 = y.1 ∧ x.2.Represents y.2) (a.append selector element) (d.append selector element)
  apply : ∀ e, Results (Option.Rel Represents) (a.apply e) (d.apply e)
  activate : ∀ number,
    Results (fun x y => x.1 = y.1 ∧ x.2.Represents y.2) (a.activate number) (d.activate number)
  keyDown : ∀ code, (a.keyDown code).1 = (d.keyDown code).1 ∧ (a.keyDown code).2.Represents (d.keyDown code).2
  clearLocalStorage : a.clearLocalStorage.Represents d.clearLocalStorage

theorem Represents.simulates (h : a.Represents d) (hd : d.Numbered) : a.Simulates d where
  represents := h
  all := h.all hd
  stored := h.stored hd
  attached _ := h.attached_iff hd
  selectAll := h.selectAll hd
  selectFirst := h.selectFirst hd
  value := h.map_node hd Node.value
  text := h.map_node hd Node.text
  classNames := h.map_node hd Node.classes
  attr number name := h.map_node hd (·.attrs.lookup name) number
  parent := h.parent hd
  children := h.children hd
  elementsByTag := h.elementsByTag hd
  setValue := h.setValue hd
  append := h.append hd
  apply := h.apply hd
  activate := h.activate hd
  keyDown := h.keyDown
  clearLocalStorage := h.clearLocalStorage

end Arena

/-- Whatever was done with a page, its elements can be stored side by side with links between them. -/
theorem arena_simulates_document (page : Page) (operations : List Document.Operation) :
    ((Arena.ofPage page).performAll operations).Simulates ((Document.ofPage page).performAll operations) :=
  have hd := (Document.numbered_ofPage page).performAll operations
  ((Arena.represents_ofPage page).performAll (Document.numbered_ofPage page) operations).simulates hd

theorem World.exists_arena_after (page : Page) (events : List Event) :
    ∃ operations, ((Arena.ofPage page).performAll operations).Simulates ((ofPage page).after events).document := by
  obtain ⟨operations, he⟩ := becomes_after (ofPage page) events
  exact ⟨operations, he ▸ arena_simulates_document page operations⟩

end PageScript
