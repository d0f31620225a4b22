import PageScript.Proofs.Effects
import PageScript.Proofs.Locality

/-!
# Handles

An element is spoken of by its number, and a number is a handle for good. The document hands numbers out in order, so
that none is handed out twice; whatever happens, the tag, the id, the attributes and the click effects behind a number
are those it was handed out with. A handle goes stale when the element, or one above it, is taken out of the tree, and
from then on every request that uses it is turned down and nothing reaches what is stored behind it.
-/
namespace PageScript

/-- What lasts of an element: all but its value, its text and its classes. -/
structure Node.Lasts (n n' : Node) : Prop where
  number : n'.number = n.number
  tag : n'.tag = n.tag
  id : n'.id = n.id
  attrs : n'.attrs = n.attrs
  onClick : n'.onClick = n.onClick

theorem Node.Lasts.refl (n : Node) : n.Lasts n := ⟨rfl, rfl, rfl, rfl, rfl⟩

theorem Node.Lasts.trans {n n' n'' : Node} (h : n.Lasts n') (h' : n'.Lasts n'') : n.Lasts n'' where
  number := h'.number.trans h.number
  tag := h'.tag.trans h.tag
  id := h'.id.trans h.id
  attrs := h'.attrs.trans h.attrs
  onClick := h'.onClick.trans h.onClick

/-- The element that a request speaks of by its number. -/
def Request.handle : Request → Option Nat
  | .activate node | .setValue node _ | .value node | .classNames node | .elementsByTag node _ | .children node
  | .parent node | .text node | .attr node _ => some node
  | .query _ | .queryAll _ | .keyDown _ | .clearLocalStorage => none

namespace Document

section

variable (d : Document)

/-- Every element there ever was, in the document or taken out of it. -/
def elements : List Node := d.nodes ++ d.removed.flatMap Tree.nodes

/-- What is stored of the element of a number, whether it is attached or not. -/
def stored (number : Nat) : Option Node := d.elements.find? (·.number == number)

/-- An operation puts a new element below the first match of a selector. -/
inductive Adds (element : Element) : Operation → Prop
  | append {selector : String} {n : Node} (h : d.selectFirst selector = .ok (some n)) :
      Adds element (.append selector element)
  | effect {selector : String} {n : Node} {delay : Nat} (h : d.selectFirst selector = .ok (some n)) :
      Adds element (.apply ⟨selector, .append element, delay⟩)

/-- An operation takes out the first match of a selector. The body cannot be taken out. -/
inductive Removes (target : Nat) : Operation → Prop
  | effect {selector : String} {n : Node} {delay : Nat} (h : d.selectFirst selector = .ok (some n))
      (hn : n.number = target) (hb : target ≠ 0) : Removes target (.apply ⟨selector, .remove, delay⟩)

structure HandsOut : Prop where
  /-- The numbers handed out so far are those below `next`, and each is that of one element. -/
  numbers : (d.elements.map Node.number).Perm (List.range d.next)
  /-- What the document answers about an element is what is stored of it. -/
  stored : ∀ number n, d.node number = .ok n → d.stored number = some n
  /-- A new subtree gets the next numbers in document order, none of which was handed out before. -/
  added : ∀ operation element, d.Adds element operation →
    (d.perform operation).next = d.next + element.size ∧
      (d.perform operation).walk id element.size [d.next] = some (List.range' d.next element.size) ∧
      ∀ number ∈ List.range' d.next element.size, d.stored number = none
  /-- The number of a new element is the answer to whoever appends it. -/
  answered : ∀ selector element number d', d.append selector element = .ok (number, d') →
    d.Adds element (.append selector element) ∧ number = d.next ∧ d' = d.perform (.append selector element)
  /-- Nothing else hands out numbers. -/
  others : ∀ operation, (∀ element, ¬ d.Adds element operation) → (d.perform operation).next = d.next

/-- What operations leave of the elements of a document. -/
structure Keeps (operations : List Operation) : Prop where
  /-- An element keeps its number, its tag, its id, its attributes and its click effects. -/
  kept : ∀ number n, d.stored number = some n →
    ∃ n', (d.performAll operations).stored number = some n' ∧ n.Lasts n'
  /-- A handle that is stale stays so, and nothing of what is stored behind it changes. -/
  stale : ∀ number, number < d.next → ¬ d.Attached number →
    ¬ (d.performAll operations).Attached number ∧ (d.performAll operations).stored number = d.stored number
  /-- A handle goes stale exactly if one of the operations takes out the element or one above it. -/
  taken : ∀ number, d.Attached number → (¬ (d.performAll operations).Attached number ↔
    ∃ before operation rest target, operations = before ++ operation :: rest ∧
      (d.performAll before).Removes target operation ∧
      Relation.ReflTransGen (d.performAll before).IsParent target number)

end

variable {d d' : Document} {operation : Operation} {number : Nat}

/-! ## What is stored -/

theorem Numbered.elements (hd : d.Numbered) : (d.elements.map Node.number).Perm (List.range d.next) := by
  have he : d.elements.map Node.number = d.body.numbers ++ d.removed.flatMap Tree.numbers := by
    rw [Document.elements, List.map_append, List.map_flatMap]
    rfl
  exact he ▸ hd.perm

theorem Numbered.stored_eq_some (hd : d.Numbered) {n : Node} :
    d.stored number = some n ↔ n ∈ d.elements ∧ n.number = number := by
  unfold stored
  constructor
  · intro h
    exact ⟨List.mem_of_find?_eq_some h, by simpa using List.find?_some h⟩
  · rintro ⟨hm, rfl⟩
    obtain ⟨n', hn'⟩ : ∃ n', d.elements.find? (·.number == n.number) = some n' :=
      Option.isSome_iff_exists.mp (by simpa using ⟨n, hm, rfl⟩)
    have hnumber : n'.number = n.number := by simpa using List.find?_some hn'
    have hnodup := hd.elements.nodup_iff.mpr List.nodup_range
    rw [hn', List.inj_on_of_nodup_map hnodup (List.mem_of_find?_eq_some hn') hm hnumber]

theorem Numbered.stored_eq_none (hd : d.Numbered) : d.stored number = none ↔ d.next ≤ number := by
  have hm : number ∈ d.elements.map Node.number ↔ number < d.next := by rw [hd.elements.mem_iff, List.mem_range]
  rw [← not_lt, ← hm, stored, List.find?_eq_none]
  simp

theorem Numbered.stored_of_node (hd : d.Numbered) {n : Node} (h : d.node number = .ok n) :
    d.stored number = some n := by
  obtain ⟨t, ht, rfl⟩ := node_eq_ok.mp h
  obtain ⟨⟨path, hp⟩, hn⟩ := Tree.exists_place_of_find? [] ht
  refine hd.stored_eq_some.mpr ⟨List.mem_append_left _ ?_, hn⟩
  rw [nodes, d.body.nodes_eq []]
  exact List.mem_map_of_mem hp

end Document

/-! ## Nodes of an edited tree -/

namespace Tree

theorem nodes_node (root : Node) (children : List Tree) :
    (⟨root, children⟩ : Tree).nodes = root :: children.flatMap nodes := by
  rw [nodes, nodesAll_eq]

theorem nodes_update (number : Nat) (change : Node → Node) (t : Tree) :
    (t.update number change).nodes = t.nodes.map fun n => if n.number = number then change n else n := by
  induction t using induct with
  | node root children ih =>
    rw [update_node, nodes_node, nodes_node, List.map_cons, List.flatMap_map, List.map_flatMap]
    exact congrArg _ (List.flatMap_congr ih)

theorem nodes_eq_paths (t : Tree) (above : List Node) : t.nodes = (t.paths above).filterMap List.head? := by
  rw [t.nodes_eq above, t.paths_eq above, List.filterMap_map, ← List.filterMap_eq_map]
  rfl

theorem nodes_append {t : Tree} {number : Nat} (new : Tree) (hn : t.numbers.Nodup) (h : number ∈ t.numbers) :
    (t.append number new).nodes.Perm (t.nodes ++ new.nodes) := by
  obtain ⟨path, p, hplace, rfl⟩ : ∃ path p, (path, p) ∈ t.places [] ∧ p.root.number = number :=
    exists_place_of_mem_numbers h
  obtain ⟨before, after, hpaths, hmodify, -⟩ := exists_paths_eq hn hplace
  have hpaths' := (hmodify fun t => { t with children := t.children ++ [new] }).1
  rw [paths_append_child] at hpaths'
  rw [append, nodes_eq_paths _ [], hpaths', nodes_eq_paths t [], hpaths, nodes_eq_paths new (p.root :: path)]
  simp only [List.filterMap_append, List.append_assoc]
  exact (List.perm_append_comm.append_left _).append_left _

theorem nodes_remove {t s : Tree} {path : List Node} (hn : t.numbers.Nodup) (h : (path, s) ∈ t.places [])
    (hr : t.root.number ≠ s.root.number) : t.nodes.Perm ((t.remove s.root.number).nodes ++ s.nodes) := by
  obtain ⟨before, after, hpaths, -, hremove⟩ := exists_paths_eq hn h
  rw [nodes_eq_paths t [], hpaths, nodes_eq_paths _ [], hremove hr, nodes_eq_paths s path]
  simp only [List.filterMap_append, List.append_assoc]
  exact List.perm_append_comm.append_left _

theorem places_subset {t s : Tree} {above path : List Node} (h : (path, s) ∈ t.places above) :
    s.places path ⊆ t.places above := by
  induction s using induct generalizing path with
  | node root children ih =>
    intro place hm
    rcases mem_places_node.mp hm with rfl | ⟨c, hc, hm⟩
    · exact h
    · exact ih c hc (mem_places_child h hc) hm

end Tree

namespace Document

variable {d d' : Document} {operation : Operation} {number : Nat}

/-! ## Ancestors -/

section

variable (hd : d.Numbered) {t : Tree} {path : List Node} (ht : (path, t) ∈ d.body.places [])

include hd ht

theorem reaches_of_place {s : Tree} {path' : List Node} (hs : (path', s) ∈ t.places path) :
    Relation.ReflTransGen d.IsParent t.root.number s.root.number := by
  induction t using Tree.induct generalizing path with
  | node root children ih =>
    rcases Tree.mem_places_node.mp hs with he | ⟨c, hc, hs⟩
    · cases he
      exact .refl
    · have hchild := Tree.mem_places_child ht hc
      exact .head ((isParent_of_place hd hchild).mpr ⟨_, _, rfl, rfl⟩) (ih c hc hchild hs)

/-- A parent has one place, so that its children in the document are those that it has in the subtree. -/
theorem mem_numbers_of_isParent {parent : Nat} (hm : parent ∈ t.numbers) (hp : d.IsParent parent number) :
    number ∈ t.numbers := by
  obtain ⟨rest, p, hrest, rfl⟩ : ∃ rest p, (rest, p) ∈ t.places path ∧ p.root.number = parent :=
    Tree.exists_place_of_mem_numbers hm
  obtain ⟨above, s, hs, rfl⟩ : ∃ above s, (above, s) ∈ d.body.places [] ∧ s.root.number = number := by
    obtain ⟨n, hn, -⟩ := map_eq_ok.mp hp
    exact exists_place_of_attached ⟨n, hn⟩
  obtain ⟨q, above', rfl, hq⟩ := (isParent_of_place hd hs).mp hp
  rcases Tree.mem_places_parent hs with ⟨hnil, -⟩ | ⟨q', rest', hcons, hq', hc⟩
  · cases hnil
  · cases hcons
    obtain ⟨-, rfl⟩ := Tree.place_unique hd.nodup hq' (Tree.places_subset ht hrest) hq
    exact Tree.mem_numbers_of_place (Tree.mem_places_child hrest hc)

end

theorem Numbered.mem_numbers_iff (hd : d.Numbered) {t : Tree} (ht : d.body.find? t.root.number = some t) :
    number ∈ t.numbers ↔ Relation.ReflTransGen d.IsParent t.root.number number := by
  obtain ⟨⟨path, hplace⟩, -⟩ := Tree.exists_place_of_find? [] ht
  constructor
  · intro hm
    obtain ⟨path', s, hs, rfl⟩ : ∃ path' s, (path', s) ∈ t.places path ∧ s.root.number = number :=
      Tree.exists_place_of_mem_numbers hm
    exact reaches_of_place hd hplace hs
  · intro h
    induction h with
    | refl => exact t.root_number_mem
    | tail _ hp ih => exact mem_numbers_of_isParent hd hplace ih hp

/-! ## What an operation comes to -/

/-- A change of values, texts and classes, or of what is no element. -/
structure Retouches (d d' : Document) : Prop where
  next : d'.next = d.next
  removed : d'.removed = d.removed
  numbers : d'.body.numbers = d.body.numbers
  lasts : ∀ n ∈ d.nodes, ∃ n' ∈ d'.nodes, n.Lasts n'

theorem Retouches.refl (d : Document) : d.Retouches d := ⟨rfl, rfl, rfl, fun n hn => ⟨n, hn, .refl n⟩⟩

theorem retouches_update {change : Node → Node} (hc : ∀ n : Node, n.Lasts (change n)) (number : Nat) :
    d.Retouches (d.update number change) where
  next := rfl
  removed := rfl
  numbers := Tree.numbers_update (fun n => (hc n).number) number d.body
  lasts := by
    intro n hn
    refine ⟨if n.number = number then change n else n, ?_, ?_⟩
    · rw [update, nodes, Tree.nodes_update]
      exact List.mem_map_of_mem hn
    · split
      · exact hc n
      · exact .refl n

theorem Adds.perform_eq {element : Element} (h : d.Adds element operation) :
    ∃ parent ∈ d.body.numbers, d.perform operation = d.insert parent element := by
  cases h with
  | @append selector n h =>
    have happend : d.append selector element = .ok (d.next, d.insert n.number element) := by
      rw [Document.append, h]
      rfl
    exact ⟨n.number, mem_numbers_of_selectFirst h, perform_of_append happend⟩
  | @effect selector n delay h =>
    have happly : d.apply ⟨selector, .append element, delay⟩ = .ok (some (d.insert n.number element)) := by
      rw [Document.apply, h]
      rfl
    exact ⟨n.number, mem_numbers_of_selectFirst h, perform_of_apply happly⟩

theorem Removes.perform_eq {target : Nat} (hd : d.Numbered) (h : d.Removes target operation) :
    ∃ t, d.body.find? t.root.number = some t ∧ t.root.number = target ∧ target ≠ 0 ∧
      d.perform operation = d.remove t := by
  obtain ⟨hs, rfl, hb⟩ := h
  rename_i selector n delay
  obtain ⟨t, ht⟩ := Option.isSome_iff_exists.mp (Tree.isSome_find?.mpr (mem_numbers_of_selectFirst hs))
  obtain ⟨-, hn⟩ := Tree.exists_place_of_find? [] ht
  have hc : d.change n .remove = .ok (d.remove t) := by
    rw [change, if_neg (hd.root_eq ▸ hb), subtree_eq_ok.mpr ht]
    rfl
  have happly : d.apply ⟨selector, .remove, delay⟩ = .ok (some (d.remove t)) := by
    exact bind_eq_ok.mpr ⟨_, hs, bind_eq_ok.mpr ⟨_, hc, rfl⟩⟩
  exact ⟨t, hn ▸ ht, hn, hb, perform_of_apply happly⟩

theorem retouches_change {n : Node} {c : Change} (ha : ∀ element, c ≠ .append element) (hr : c ≠ .remove)
    (h : d.change n c = .ok d') : d.Retouches d' := by
  cases c with
  | setValue value =>
    cases h
    refine retouches_update ?_ n.number
    exact fun _ => ⟨rfl, rfl, rfl, rfl, rfl⟩
  | setText text =>
    cases h
    refine retouches_update ?_ n.number
    exact fun _ => ⟨rfl, rfl, rfl, rfl, rfl⟩
  | addClass token =>
    cases h
    refine retouches_update (fun m => ?_) n.number
    split <;> exact ⟨rfl, rfl, rfl, rfl, rfl⟩
  | removeClass token =>
    cases h
    refine retouches_update ?_ n.number
    exact fun _ => ⟨rfl, rfl, rfl, rfl, rfl⟩
  | append element => exact absurd rfl (ha element)
  | remove => exact absurd rfl hr

/-- What puts no element in and takes none out does little. -/
theorem retouches_perform (hd : d.Numbered) (ha : ∀ element, ¬ d.Adds element operation)
    (hr : ∀ target, ¬ d.Removes target operation) : d.Retouches (d.perform operation) := by
  cases operation with
  | apply e =>
    obtain ⟨target, c, delay⟩ := e
    rcases h : d.apply ⟨target, c, delay⟩ with fault | (_ | d')
    · simp [perform, h, Except.toOption, Retouches.refl]
    · simp [perform, h, Except.toOption, Retouches.refl]
    · rw [perform_of_apply h]
      obtain ⟨n, hs, hc⟩ := exists_change_of_apply h
      refine retouches_change ?_ ?_ hc
      · rintro element rfl
        exact ha element (.effect hs)
      · rintro rfl
        have hb : n.number ≠ 0 := by
          intro hb
          rw [change, if_pos (hd.root_eq ▸ hb)] at hc
          cases hc
        exact hr n.number (.effect hs rfl hb)
  | setValue number value =>
    rcases h : d.setValue number value with fault | d'
    · simp [perform, h, Except.toOption, Retouches.refl]
    · rw [perform_of_setValue h]
      obtain ⟨n, -, rfl⟩ := map_eq_ok.mp h
      refine retouches_update ?_ n.number
      exact fun _ => ⟨rfl, rfl, rfl, rfl, rfl⟩
  | append selector element =>
    rcases h : d.append selector element with fault | ⟨number, d'⟩
    · simp [perform, h, Except.toOption, Retouches.refl]
    · obtain ⟨n, hs, -⟩ := exists_insert_of_append h
      exact absurd (.append hs) (ha element)
  | activate number =>
    rcases h : d.activate number with fault | ⟨effects, d'⟩
    · simp [perform, h, Except.toOption, Retouches.refl]
    · rw [perform_of_activate h]
      obtain ⟨n, -, h⟩ := map_eq_ok.mp h
      cases h
      exact ⟨rfl, rfl, rfl, fun n hn => ⟨n, hn, .refl n⟩⟩
  | keyDown code => exact ⟨rfl, rfl, rfl, fun n hn => ⟨n, hn, .refl n⟩⟩
  | clearLocalStorage => exact ⟨rfl, rfl, rfl, fun n hn => ⟨n, hn, .refl n⟩⟩

/-- All that an operation can do to the tree: put an element in, take one out, or leave it as it is. -/
theorem perform_cases (hd : d.Numbered) (operation : Operation) :
    (∃ element parent, d.Adds element operation ∧ parent ∈ d.body.numbers ∧
      d.perform operation = d.insert parent element) ∨
    (∃ t, d.Removes t.root.number operation ∧ d.body.find? t.root.number = some t ∧ t.root.number ≠ 0 ∧
      d.perform operation = d.remove t) ∨
    ((∀ element, ¬ d.Adds element operation) ∧ (∀ target, ¬ d.Removes target operation) ∧
      d.Retouches (d.perform operation)) := by
  by_cases ha : ∃ element, d.Adds element operation
  · obtain ⟨element, ha⟩ := ha
    obtain ⟨parent, hp, he⟩ := ha.perform_eq
    exact .inl ⟨element, parent, ha, hp, he⟩
  by_cases hr : ∃ target, d.Removes target operation
  · obtain ⟨target, hr⟩ := hr
    obtain ⟨t, ht, rfl, hb, he⟩ := hr.perform_eq hd
    exact .inr (.inl ⟨t, hr, ht, hb, he⟩)
  · have ha' : ∀ element, ¬ d.Adds element operation := fun element h => ha ⟨element, h⟩
    have hr' : ∀ target, ¬ d.Removes target operation := fun target h => hr ⟨target, h⟩
    exact .inr (.inr ⟨ha', hr', retouches_perform hd ha' hr'⟩)

theorem Numbered.perform (hd : d.Numbered) (operation : Operation) : (d.perform operation).Numbered :=
  (edits_perform d operation).numbered hd

theorem Adds.not_removes {element : Element} {target : Nat} (h : d.Adds element operation) :
    ¬ d.Removes target operation := by
  intro h'
  cases h <;> cases h'

theorem Removes.unique {target target' : Nat} (h : d.Removes target operation) (h' : d.Removes target' operation) :
    target = target' := by
  obtain ⟨hs, rfl, -⟩ := h
  cases h' with
  | effect hs' hn' =>
    rw [hs] at hs'
    cases hs'
    exact hn'

/-! ## One operation -/

/-- What is stored of each element lasts, and all of it if the element is not attached. -/
structure Preserves (d d' : Document) : Prop where
  next : d.next ≤ d'.next
  lasts : ∀ n ∈ d.elements, ∃ n' ∈ d'.elements, n.Lasts n'
  frozen : ∀ n ∈ d.elements, ¬ d.Attached n.number → n ∈ d'.elements
  stale : ∀ number, number < d.next → ¬ d.Attached number → ¬ d'.Attached number

theorem preserves_of_subset (hn : d.next ≤ d'.next) (h : d.elements ⊆ d'.elements)
    (hs : ∀ number, number < d.next → ¬ d.Attached number → ¬ d'.Attached number) : d.Preserves d' :=
  ⟨hn, fun n hn => ⟨n, h hn, .refl n⟩, fun _ hn _ => h hn, hs⟩

theorem Retouches.preserves (h : d.Retouches d') : d.Preserves d' where
  next := h.next.ge
  lasts := by
    intro n hn
    rcases List.mem_append.mp hn with hn | hn
    · obtain ⟨n', hn', hl⟩ := h.lasts n hn
      exact ⟨n', List.mem_append_left _ hn', hl⟩
    · refine ⟨n, List.mem_append_right _ ?_, .refl n⟩
      rwa [h.removed]
  frozen := by
    intro n hn ha
    rcases List.mem_append.mp hn with hn | hn
    · exact absurd (attached_iff.mpr (List.mem_map_of_mem hn)) ha
    · refine List.mem_append_right _ ?_
      rwa [h.removed]
  stale := by
    intro number _ ha
    rwa [attached_iff, h.numbers, ← attached_iff]

theorem elements_insert (hd : d.Numbered) {parent : Nat} (hp : parent ∈ d.body.numbers) (e : Element) :
    (d.insert parent e).elements.Perm (d.elements ++ (Tree.ofElement d.next e).nodes) := by
  have hbody := Tree.nodes_append (Tree.ofElement d.next e) hd.nodup hp
  unfold elements
  refine (hbody.append_right _).trans ?_
  simp only [List.append_assoc]
  exact List.perm_append_comm.append_left _

theorem attached_insert (hd : d.Numbered) {parent : Nat} (hp : parent ∈ d.body.numbers) (e : Element) :
    (d.insert parent e).Attached number ↔ d.Attached number ∨ number ∈ List.range' d.next e.size := by
  rw [attached_iff, attached_iff, ← Tree.numbers_ofElement, ← List.mem_append]
  exact (Tree.numbers_append (Tree.ofElement d.next e) hd.nodup hp).mem_iff

theorem preserves_insert (hd : d.Numbered) {parent : Nat} (hp : parent ∈ d.body.numbers) (e : Element) :
    d.Preserves (d.insert parent e) := by
  refine preserves_of_subset (Nat.le_add_right _ _) ?_ fun number hlt ha => ?_
  · exact fun n hn => (elements_insert hd hp e).mem_iff.mpr (List.mem_append_left _ hn)
  · rw [attached_insert hd hp, List.mem_range'_1]
    rintro (h | h)
    · exact ha h
    · omega

theorem elements_remove (hd : d.Numbered) {t : Tree} (ht : d.body.find? t.root.number = some t)
    (hr : t.root.number ≠ 0) : (d.remove t).elements.Perm d.elements := by
  obtain ⟨⟨path, hp⟩, -⟩ := Tree.exists_place_of_find? [] ht
  have hbody := Tree.nodes_remove hd.nodup hp (hd.root_eq ▸ hr.symm)
  unfold elements remove
  rw [List.flatMap_cons, ← List.append_assoc]
  exact hbody.symm.append_right _

theorem attached_remove (hd : d.Numbered) {t : Tree} (ht : d.body.find? t.root.number = some t)
    (hr : t.root.number ≠ 0) : (d.remove t).Attached number ↔ d.Attached number ∧ number ∉ t.numbers := by
  have hperm := Tree.numbers_remove hd.nodup (hd.root_eq ▸ hr.symm) ht
  have hdisjoint := List.nodup_append.mp (hperm.nodup_iff.mp hd.nodup)
  rw [attached_iff, attached_iff, hperm.mem_iff, List.mem_append]
  constructor
  · intro hm
    exact ⟨.inl hm, fun hm' => hdisjoint.2.2 number hm number hm' rfl⟩
  · rintro ⟨hm | hm, hn⟩
    · exact hm
    · exact absurd hm hn

theorem preserves_remove (hd : d.Numbered) {t : Tree} (ht : d.body.find? t.root.number = some t)
    (hr : t.root.number ≠ 0) : d.Preserves (d.remove t) := by
  refine preserves_of_subset le_rfl ?_ fun number _ ha => ?_
  · exact fun n hn => (elements_remove hd ht hr).mem_iff.mpr hn
  · rw [attached_remove hd ht hr]
    exact fun h => ha h.1

theorem preserves_perform (hd : d.Numbered) (operation : Operation) : d.Preserves (d.perform operation) := by
  rcases perform_cases hd operation with ⟨element, parent, -, hp, he⟩ | ⟨t, -, ht, hb, he⟩ | ⟨-, -, h⟩
  · exact he ▸ preserves_insert hd hp element
  · exact he ▸ preserves_remove hd ht hb
  · exact h.preserves

/-- An operation detaches the element that it takes out and those below it, and no other. -/
theorem detached_perform_iff (hd : d.Numbered) (ha : d.Attached number) :
    ¬ (d.perform operation).Attached number ↔
      ∃ target, d.Removes target operation ∧ Relation.ReflTransGen d.IsParent target number := by
  rcases perform_cases hd operation with ⟨element, parent, hadd, hp, he⟩ | ⟨t, hr, ht, hb, he⟩ | ⟨-, hr, h⟩
  · rw [he, attached_insert hd hp]
    exact iff_of_false (not_not.mpr (.inl ha)) fun ⟨target, hr, _⟩ => hadd.not_removes hr
  · rw [he, attached_remove hd ht hb, not_and_not_right, hd.mem_numbers_iff ht]
    constructor
    · exact fun h => ⟨_, hr, h ha⟩
    · rintro ⟨target, hr', h⟩ -
      exact hr.unique hr' ▸ h
  · have hstays : (d.perform operation).Attached number := by rwa [attached_iff, h.numbers, ← attached_iff]
    exact iff_of_false (not_not.mpr hstays) fun ⟨target, h, _⟩ => hr target h

theorem Numbered.handsOut (hd : d.Numbered) : d.HandsOut where
  numbers := hd.elements
  stored _ _ h := hd.stored_of_node h
  added := by
    intro operation element h
    obtain ⟨parent, hp, he⟩ := h.perform_eq
    have hwalk := (hd.insert hp element).wellFormed.descend _ _ (subtree_insert hd hp element)
    rw [Tree.numbers_ofElement, Tree.root_number_ofElement, List.length_range'] at hwalk
    rw [he]
    refine ⟨rfl, hwalk element.size le_rfl, fun number hm => hd.stored_eq_none.mpr ?_⟩
    exact (List.mem_range'_1.mp hm).1
  answered := by
    intro selector element number d' h
    obtain ⟨n, hs, hnumber, -⟩ := exists_insert_of_append h
    exact ⟨.append hs, hnumber, (perform_of_append h).symm⟩
  others := by
    intro operation ha
    rcases perform_cases hd operation with ⟨element, parent, h, -⟩ | ⟨t, -, -, -, he⟩ | ⟨-, -, h⟩
    · exact absurd h (ha element)
    · rw [he]
      rfl
    · exact h.next

/-! ## Runs -/

theorem Preserves.stored (hd : d.Numbered) (hd' : d'.Numbered) (h : d.Preserves d') (hlt : number < d.next)
    (ha : ¬ d.Attached number) : d'.stored number = d.stored number := by
  obtain ⟨n, hn⟩ : ∃ n, d.stored number = some n := by
    rw [← Option.isSome_iff_exists, Option.isSome_iff_ne_none, ne_eq, hd.stored_eq_none]
    omega
  obtain ⟨hm, rfl⟩ := hd.stored_eq_some.mp hn
  rw [hn, hd'.stored_eq_some]
  exact ⟨h.frozen n hm ha, rfl⟩

theorem Numbered.keeps (hd : d.Numbered) (operations : List Operation) : d.Keeps operations := by
  induction operations generalizing d with
  | nil =>
    refine ⟨fun number n h => ⟨n, h, .refl n⟩, fun number _ ha => ⟨ha, rfl⟩, fun number ha => ?_⟩
    refine iff_of_false (not_not.mpr ha) ?_
    rintro ⟨before, operation, rest, target, hnil, -⟩
    simp at hnil
  | cons operation operations ih =>
    have hd' := hd.perform operation
    have hstep := preserves_perform hd operation
    have hrest := ih hd'
    refine ⟨?_, ?_, ?_⟩
    · intro number n h
      obtain ⟨hm, rfl⟩ := hd.stored_eq_some.mp h
      obtain ⟨n', hm', hl⟩ := hstep.lasts n hm
      obtain ⟨n'', hn'', hl'⟩ := hrest.kept n.number n' (hd'.stored_eq_some.mpr ⟨hm', hl.number⟩)
      exact ⟨n'', hn'', hl.trans hl'⟩
    · intro number hlt ha
      obtain ⟨hgone, hsame⟩ := hrest.stale number (hlt.trans_le hstep.next) (hstep.stale number hlt ha)
      exact ⟨hgone, hsame.trans (hstep.stored hd hd' hlt ha)⟩
    · intro number ha
      by_cases hstays : (d.perform operation).Attached number
      · rw [performAll_cons, hrest.taken number hstays]
        constructor
        · rintro ⟨before, later, rest, target, rfl, hr⟩
          exact ⟨operation :: before, later, rest, target, rfl, hr⟩
        · rintro ⟨_ | ⟨first, before⟩, later, rest, target, hcons, hr, hup⟩
          · cases hcons
            exact absurd hstays ((detached_perform_iff hd ha).mpr ⟨target, hr, hup⟩)
          · cases hcons
            exact ⟨before, later, rest, target, rfl, hr, hup⟩
      · have hlt : number < d.next := hd.lt_next (attached_iff.mp ha)
        have hgone := (hrest.stale number (hlt.trans_le hstep.next) hstays).1
        obtain ⟨target, hr, hup⟩ := (detached_perform_iff hd ha).mp hstays
        exact iff_of_true hgone ⟨[], operation, operations, target, rfl, hr, hup⟩

theorem Numbered.performAll (hd : d.Numbered) (operations : List Operation) : (d.performAll operations).Numbered :=
  (Becomes.edits ⟨operations, rfl⟩).numbered hd

/-! ## Stale handles -/

theorem subtree_eq_error {fault : Fault} :
    d.subtree number = .error fault ↔ fault = .staleElement number ∧ ¬ d.Attached number := by
  rw [attached_iff, ← Tree.find?_eq_none, subtree]
  cases d.body.find? number <;> simp [eq_comm]

theorem node_eq_error {fault : Fault} :
    d.node number = .error fault ↔ fault = .staleElement number ∧ ¬ d.Attached number := by
  rw [node, map_eq_error, subtree_eq_error]

theorem change_ne_stale {n : Node} {c : Change} (hn : n.number ∈ d.body.numbers) :
    d.change n c ≠ .error (.staleElement number) := by
  intro h
  cases c with
  | remove =>
    rw [change] at h
    split at h
    · cases h
    · exact (subtree_eq_error.mp (map_eq_error.mp h)).2 (attached_iff.mpr hn)
  | _ => cases h

/-- The target of an effect is looked up when it happens, and so it is never stale. -/
theorem apply_ne_stale (e : Effect) : d.apply e ≠ .error (.staleElement number) := by
  intro h
  rcases bind_eq_error.mp h with h | ⟨found, hs, h⟩
  · obtain ⟨reason, hf⟩ := Selector.parse_eq_error (map_eq_error.mp (map_eq_error.mp h))
    cases hf
  · cases found with
    | none => cases h
    | some n =>
      rcases bind_eq_error.mp h with h | ⟨d', -, ⟨⟩⟩
      exact change_ne_stale (mem_numbers_of_selectFirst hs) h

end Document

namespace World

variable {w : World} {number : Nat}

theorem triggerAll_ne_stale (effects : List Effect) :
    (w.triggerAll effects).1 ≠ .error (.staleElement number) := by
  induction effects generalizing w with
  | nil => simp [triggerAll]
  | cons e effects ih =>
    rw [triggerAll]
    cases ht : w.trigger e with
    | ok w' => exact ih
    | error fault =>
      rintro ⟨⟩
      unfold trigger at ht
      split at ht
      · exact Document.apply_ne_stale e (map_eq_error.mp ht)
      · cases ht

theorem answer_stale_iff {r : Request} (h : r.handle = some number) {stale : Nat} :
    (answer r w).1 = .error (.staleElement stale) ↔ stale = number ∧ ¬ w.document.Attached number := by
  have hnode : w.document.node number = .error (.staleElement stale) ↔ stale = number ∧ ¬ w.document.Attached number := by
    simp [Document.node_eq_error]
  have hsubtree : w.document.subtree number = .error (.staleElement stale) ↔
      stale = number ∧ ¬ w.document.Attached number := by simp [Document.subtree_eq_error]
  cases r with
  | activate =>
    cases h
    rw [← hnode, answer, activate, Document.activate]
    cases hn : w.document.node number with
    | error fault => simp [Except.map]
    | ok n => simp [Except.map, triggerAll_ne_stale]
  | setValue =>
    cases h
    rw [← hnode, answer, setValue, Document.setValue]
    cases hn : w.document.node number <;> simp [Except.map]
  | value | classNames | parent | text | attr => cases h; exact map_eq_error.trans hnode
  | elementsByTag | children => cases h; exact map_eq_error.trans hsubtree
  | _ => cases h

theorem answer_stale_after {r r' : Request} (hr : r.handle = some number) (hr' : r'.handle = some number)
    (hd : w.document.Numbered) (hlt : number < w.document.next) {stale : Nat}
    (h : (answer r w).1 = .error (.staleElement stale)) (events : List Event) :
    (answer r' (w.after events)).1 = .error (.staleElement number) := by
  obtain ⟨operations, he⟩ := becomes_after w events
  rw [answer_stale_iff hr', ← he]
  exact ⟨rfl, ((hd.keeps operations).stale number hlt ((answer_stale_iff hr).mp h).2).1⟩

end World

/-- Handles are permanent. Whatever was done with a document before, it hands out numbers in order, and whatever is done
with it later, a number stands for the element it was given to: its tag, id, attributes and click effects stay, it goes
stale exactly when it or an element above it is taken out, and once it is stale, every request about it is turned down
and what is stored of it no longer changes. What is done with a world is done with its document by operations. -/
theorem handles_permanent (page : Page) (before later : List Document.Operation) :
    ((Document.ofPage page).performAll before).HandsOut ∧
    ((Document.ofPage page).performAll before).Keeps later ∧
    ∀ w : World, w.document = (Document.ofPage page).performAll before →
      ∀ events, w.document.Becomes (w.after events).document ∧
        ∀ (r : Request) (number : Nat), r.handle = some number →
          (∀ stale, (World.answer r w).1 = .error (.staleElement stale) ↔
            stale = number ∧ ¬ w.document.Attached number) ∧
          (number < w.document.next → (World.answer r w).1 = .error (.staleElement number) →
            ∀ r' : Request, r'.handle = some number →
              (World.answer r' (w.after events)).1 = .error (.staleElement number)) := by
  have hd := (Document.numbered_ofPage page).performAll before
  refine ⟨hd.handsOut, hd.keeps later, fun w hw events => ⟨World.becomes_after w events, fun r number hr => ?_⟩⟩
  refine ⟨fun stale => World.answer_stale_iff hr, fun hlt h r' hr' => ?_⟩
  exact World.answer_stale_after hr hr' (hw ▸ hd) hlt h events

/-- An element below one that was taken out is stale, and a new element does not bring it back. -/
theorem handles_permanent_below :
    let page : Page := { body := [{ tag := "div", id := some "a", children := [{ tag := "p" }] }] }
    let before : List Document.Operation := [.apply ⟨"#a", .remove, 0⟩]
    let later : List Document.Operation := [.append "body" { tag := "p" }]
    let d := (Document.ofPage page).performAll before
    let w : World := { document := d }
    (World.answer (.text 2) w).1 = .error (.staleElement 2) ∧
      (World.answer (.value 2) (w.after [.append "body" { tag := "p" }])).1 = .error (.staleElement 2) ∧
      ¬ (d.performAll later).Attached 2 ∧ (d.performAll later).stored 2 = d.stored 2 := by
  intro page before later d w
  obtain ⟨-, hkeeps, hanswers⟩ := handles_permanent page before later
  have hstale : (World.answer (.text 2) w).1 = .error (.staleElement 2) := by decide +kernel
  have hlt : 2 < w.document.next := by decide +kernel
  obtain ⟨-, hrequests⟩ := hanswers w rfl [.append "body" { tag := "p" }]
  obtain ⟨hiff, hlater⟩ := hrequests (.text 2) 2 rfl
  obtain ⟨hgone, hsame⟩ := hkeeps.stale 2 hlt ((hiff 2).mp hstale).2
  exact ⟨hstale, hlater hlt hstale (.value 2) rfl, hgone, hsame⟩

end PageScript
