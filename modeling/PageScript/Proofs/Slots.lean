import PageScript.Arena
import PageScript.Proofs.Handles

/-!
# Slots of trees

The slots in which a tree is stored, and what becomes of them when the tree changes. An arena that holds the slots of a
tree walks through it in document order, and stores a new subtree, or marks one as taken out, in the slots that the
changed tree has.
-/
namespace PageScript

namespace Tree

def slot (parent : Option Nat) (attached : Bool) (t : Tree) : Slot :=
  ⟨t.root, parent, t.children.map (·.root.number), attached⟩

mutual

/-- The slots of a tree whose root has a parent, in document order. -/
def slots (parent : Option Nat) (attached : Bool) : Tree → List Slot
  | ⟨root, children⟩ =>
    ⟨root, parent, children.map (·.root.number), attached⟩ :: slotsAll (some root.number) attached children

def slotsAll (parent : Option Nat) (attached : Bool) : List Tree → List Slot
  | [] => []
  | tree :: trees => tree.slots parent attached ++ slotsAll parent attached trees

end

section

variable {parent : Option Nat} {attached : Bool}

theorem slotsAll_eq (ts : List Tree) : slotsAll parent attached ts = ts.flatMap (slots parent attached) := by
  induction ts with
  | nil => rfl
  | cons t ts ih => simp [slotsAll, ih]

theorem slots_node (root : Node) (children : List Tree) :
    slots parent attached ⟨root, children⟩ =
      ⟨root, parent, children.map (·.root.number), attached⟩ ::
        children.flatMap (slots (some root.number) attached) := by
  simp [slots, slotsAll_eq]

theorem slots_eq_cons (t : Tree) :
    t.slots parent attached =
      t.slot parent attached :: t.children.flatMap (slots (some t.root.number) attached) := by
  cases t
  exact slots_node _ _

theorem slot_mem_slots (t : Tree) : t.slot parent attached ∈ t.slots parent attached := by
  rw [slots_eq_cons]
  exact List.mem_cons_self

theorem nodes_slots (parent : Option Nat) (attached : Bool) (t : Tree) :
    (t.slots parent attached).map Slot.node = t.nodes := by
  induction t using induct generalizing parent with
  | node root children ih =>
    rw [slots_node, nodes_node, List.map_cons, List.map_flatMap]
    exact congrArg _ (List.flatMap_congr fun c hc => ih c hc _)

theorem mem_numbers_of_mem_slots {t : Tree} {s : Slot} (h : s ∈ t.slots parent attached) :
    s.node.number ∈ t.numbers := by
  unfold numbers
  rw [← nodes_slots parent attached t]
  exact List.mem_map_of_mem (List.mem_map_of_mem h)

theorem exists_slot_of_mem_numbers (parent : Option Nat) (attached : Bool) {t : Tree} {number : Nat}
    (h : number ∈ t.numbers) :
    ∃ s ∈ t.slots parent attached, s.node.number = number := by
  unfold numbers at h
  rw [← nodes_slots parent attached t, List.map_map] at h
  exact List.mem_map.mp h

theorem attached_of_mem_slots {t : Tree} {s : Slot} (h : s ∈ t.slots parent attached) : s.attached = attached := by
  induction t using induct generalizing parent with
  | node root children ih =>
    rw [slots_node, List.mem_cons, List.mem_flatMap] at h
    rcases h with rfl | ⟨c, hc, h⟩
    · rfl
    · exact ih c hc h

theorem exists_slot_of_mem_children {t : Tree} {s : Slot} (h : s ∈ t.slots parent attached) {number : Nat}
    (hc : number ∈ s.children) :
    ∃ c ∈ t.slots parent attached, c.node.number = number ∧ c.parent = some s.node.number := by
  induction t using induct generalizing parent with
  | node root children ih =>
    simp only [slots_node, List.mem_cons, List.mem_flatMap] at h ⊢
    rcases h with rfl | ⟨t, ht, hs⟩
    · obtain ⟨t, ht, rfl⟩ := List.mem_map.mp hc
      exact ⟨_, .inr ⟨t, ht, t.slot_mem_slots⟩, rfl, rfl⟩
    · obtain ⟨c, hc, he⟩ := ih t ht hs
      exact ⟨c, .inr ⟨t, ht, hc⟩, he⟩

theorem slots_detached (attached : Bool) (t : Tree) :
    t.slots parent false = (t.slots parent attached).map fun s => { s with attached := false } := by
  induction t using induct generalizing parent with
  | node root children ih =>
    rw [slots_node, slots_node, List.map_cons, List.map_flatMap]
    exact congrArg _ (List.flatMap_congr fun c hc => ih c hc)

/-- The slots of a tree that was taken out differ only in the parent of the root. -/
theorem mem_slots_detached (parent : Option Nat) (attached : Bool) {t : Tree} (hn : t.numbers.Nodup) {s : Slot}
    (h : s ∈ t.slots none false) :
    ∃ s' ∈ t.slots parent attached, s =
      { s' with parent := if s'.node.number = t.root.number then none else s'.parent, attached := false } := by
  obtain ⟨root, children⟩ := t
  simp only [slots_node, List.mem_cons, List.mem_flatMap] at h ⊢
  rcases h with rfl | ⟨c, hc, h⟩
  · exact ⟨_, .inl rfl, by simp⟩
  · obtain ⟨s', hs', rfl⟩ := List.mem_map.mp (slots_detached attached c ▸ h)
    rw [numbers_node, List.nodup_cons] at hn
    have hne : s'.node.number ≠ root.number := by
      intro he
      exact hn.1 (List.mem_flatMap.mpr ⟨c, hc, he ▸ mem_numbers_of_mem_slots hs'⟩)
    exact ⟨s', .inr ⟨c, hc, hs'⟩, by simp [hne]⟩

theorem slots_subset {t s : Tree} {above path : List Node} (h : (path, s) ∈ t.places above) :
    s.slots (path.head?.map Node.number) attached ⊆ t.slots (above.head?.map Node.number) attached := by
  induction t using induct generalizing above with
  | node root children ih =>
    rcases mem_places_node.mp h with he | ⟨c, hc, h⟩
    · cases he
      exact List.Subset.refl _
    · rw [slots_node]
      exact fun x hx => List.mem_cons_of_mem _ (List.mem_flatMap.mpr ⟨c, hc, ih c hc h hx⟩)

/-! ## Changed trees -/

theorem slots_update {change : Node → Node} (h : ∀ n, (change n).number = n.number) (number : Nat) (t : Tree) :
    (t.update number change).slots parent attached = (t.slots parent attached).map fun s =>
      if s.node.number = number then { s with node := change s.node } else s := by
  induction t using induct generalizing parent with
  | node root children ih =>
    have hroot : (if root.number = number then change root else root).number = root.number := by
      split <;> simp [h]
    have hroots : (children.map (update number change)).map (·.root.number) = children.map (·.root.number) := by
      simp [root_number_update h]
    rw [update_node, slots_node, slots_node, hroots, hroot, List.map_cons, List.flatMap_map, List.map_flatMap]
    congr 1
    · split <;> rfl
    · exact List.flatMap_congr fun c hc => ih c hc

theorem mem_slots_append {number : Nat} {t new : Tree} {s : Slot}
    (h : s ∈ (t.append number new).slots parent attached) :
    s ∈ new.slots (some number) attached ∨ ∃ s' ∈ t.slots parent attached,
      s = if s'.node.number = number then { s' with children := s'.children ++ [new.root.number] } else s' := by
  induction t using induct generalizing parent with
  | node root children ih =>
    have hroots : (children.map (append number · new)).map (·.root.number) = children.map (·.root.number) := by
      simp [root_append]
    rw [append_node, slots_node, List.map_append, hroots, List.flatMap_append, List.flatMap_map, List.mem_cons,
      List.mem_append, List.mem_flatMap] at h
    simp only [slots_node, List.mem_cons, List.mem_flatMap]
    rcases h with rfl | ⟨c, hc, hs⟩ | hs
    · refine .inr ⟨_, .inl rfl, ?_⟩
      split <;> simp
    · refine (ih c hc hs).imp_right ?_
      rintro ⟨s', hs', he⟩
      exact ⟨s', .inr ⟨c, hc, hs'⟩, he⟩
    · by_cases he : root.number = number
      · exact .inl (by simpa [he] using hs)
      · simp [he] at hs

theorem mem_slots_remove {number : Nat} {t : Tree} {s : Slot} (h : s ∈ (t.remove number).slots parent attached) :
    ∃ s' ∈ t.slots parent attached, s = { s' with children := s'.children.filter (· ≠ number) } := by
  induction t using induct generalizing parent with
  | node root children ih =>
    have hroots : ((children.filter (·.root.number ≠ number)).map (remove number)).map (·.root.number) =
        (children.map (·.root.number)).filter (· ≠ number) := by
      simp only [List.map_map, List.filter_map, Function.comp_def, root_remove]
    rw [remove, removeAll_eq, slots_node, hroots, List.flatMap_map, List.mem_cons] at h
    simp only [slots_node, List.mem_cons]
    rcases h with rfl | hs
    · exact ⟨_, .inl rfl, rfl⟩
    · obtain ⟨c, hc, hs⟩ := List.mem_flatMap.mp hs
      have hc' := List.mem_of_mem_filter hc
      obtain ⟨s', hs', he⟩ := ih c hc' hs
      exact ⟨s', .inr (List.mem_flatMap.mpr ⟨c, hc', hs'⟩), he⟩

end

end Tree

namespace Arena

/-- An arena has each of the slots at the index that is the number of its element. -/
def Holds (a : Arena) (slots : List Slot) : Prop := ∀ s ∈ slots, a.slots[s.node.number]? = some s

def Lists (a : Arena) (slots : List Slot) : Prop := ∀ s ∈ slots, a.childrenOf s.node.number = s.children

def records (a : Arena) := (a.onKey, a.preventDefault, a.localStorage, a.activations, a.keyDowns)

variable {a a' a'' : Arena} {parent number : Nat} {slots : List Slot}

theorem Holds.mono {more : List Slot} (h : a.Holds more) (hs : slots ⊆ more) : a.Holds slots :=
  fun s hm => h s (hs hm)

theorem Holds.lists (h : a.Holds slots) : a.Lists slots := by
  intro s hs
  simp [childrenOf, h s hs]

theorem lt_size_of_slots {s : Slot} (h : a.slots[number]? = some s) : number < a.size :=
  (Array.getElem?_eq_some_iff.mp h).1

/-! ## Walks -/

theorem ancestors_of_none (h : a.parentOf number = none) : a.ancestors number = [] := by
  rw [ancestors]
  split <;> simp_all

theorem ancestors_of_some (h : a.parentOf number = some parent) :
    a.ancestors number = parent :: a.ancestors parent := by
  rw [ancestors]
  split <;> simp_all

theorem visit_cons (stack : List Nat) :
    a.visit (number :: stack) = number :: a.visit (a.childrenOf number ++ stack) := by
  rw [visit]

theorem visit_roots {ts : List Tree}
    (h : ∀ t ∈ ts, ∀ stack, a.visit (t.root.number :: stack) = t.numbers ++ a.visit stack) (stack : List Nat) : a.visit (ts.map (·.root.number) ++ stack) = ts.flatMap Tree.numbers ++ a.visit stack := by
  induction ts with
  | nil => rfl
  | cons t ts ih =>
    rw [List.forall_mem_cons] at h
    simp [h.1, ih h.2]

/-- A walk meets the elements of a tree in document order. -/
theorem visit_tree {t : Tree} {above : Option Nat} {attached : Bool} (h : a.Lists (t.slots above attached))
    (stack : List Nat) : a.visit (t.root.number :: stack) = t.numbers ++ a.visit stack := by
  induction t using Tree.induct generalizing above stack with
  | node root children ih =>
    rw [Lists, Tree.slots_node, List.forall_mem_cons, List.forall_mem_flatMap] at h
    obtain ⟨hroot, hall⟩ := h
    rw [visit_cons, hroot, visit_roots fun c hc => ih c hc (hall c hc), Tree.numbers_node, List.cons_append]

/-! ## Slots changed in place -/

structure Rewrites (a a' : Arena) (change : Nat → Slot → Slot) : Prop where
  size : a'.size = a.size
  slots : ∀ index, a'.slots[index]? = a.slots[index]?.map (change index)
  records : a'.records = a.records

section

variable {change later both : Nat → Slot → Slot}

theorem Rewrites.trans (h : a.Rewrites a' change) (h' : a'.Rewrites a'' later)
    (hc : ∀ index s, later index (change index s) = both index s) : a.Rewrites a'' both where
  size := h'.size.trans h.size
  slots := by
    intro index
    rw [h'.slots, h.slots, Option.map_map]
    exact congrArg (Option.map · _) (funext (hc index))
  records := h'.records.trans h.records

theorem Rewrites.childrenOf (h : a.Rewrites a' change) (hc : ∀ index s, (change index s).children = s.children) :
    a'.childrenOf number = a.childrenOf number := by
  have hchildren : Slot.children ∘ change number = Slot.children := funext (hc number)
  rw [Arena.childrenOf, h.slots, Option.map_map, hchildren, Arena.childrenOf]

theorem Rewrites.holds (h : a.Rewrites a' change) (ha : a.Holds slots) {slots' : List Slot}
    (hs : ∀ s' ∈ slots', ∃ s ∈ slots, s.node.number = s'.node.number ∧ change s'.node.number s = s') :
    a'.Holds slots' := by
  intro s' hs'
  obtain ⟨s, hm, hn, hc⟩ := hs s' hs'
  rw [h.slots, ← hn, ha s hm, Option.map_some, hn, hc]

end

theorem rewrites_modify (a : Arena) (number : Nat) (change : Slot → Slot) (h) :
    a.Rewrites (a.modify number change h) fun index s => if number = index then change s else s where
  size := a.size_modify number change h
  slots := by
    intro index
    rw [modify, Array.getElem?_modify]
    split <;> simp
  records := rfl

theorem rewrites_cut (h : a.parentOf number = some parent) :
    a.Rewrites (a.cut number) fun index s =>
      { s with
        parent := if index = number then none else s.parent
        children := if index = parent then s.children.filter (· ≠ number) else s.children } := by
  rw [cut, h]
  refine (rewrites_modify _ _ _ _).trans (rewrites_modify _ _ _ _) fun index s => ?_
  simp only [eq_comm (b := index)]
  split_ifs <;> rfl

/-! ## Subtrees that are taken out -/

theorem drop_cons (stack : List Nat) :
    a.drop (number :: stack) = (a.unset number).drop ((a.childrenOf number).reverse ++ stack) := by
  rw [drop]

/-- An arena with some elements no longer attached. -/
def Detaches (a a' : Arena) (numbers : List Nat) : Prop :=
  a.Rewrites a' fun index s => { s with attached := s.attached && index ∉ numbers }

theorem Detaches.trans {numbers later : List Nat} (h : a.Detaches a' numbers) (h' : a'.Detaches a'' later) :
    a.Detaches a'' (numbers ++ later) :=
  Rewrites.trans h h' fun index s => by simp [Bool.and_assoc]

theorem Detaches.lists {numbers : List Nat} (h : a.Detaches a' numbers) (hl : a.Lists slots) : a'.Lists slots :=
  fun s hs => (h.childrenOf fun _ _ => rfl).trans (hl s hs)

theorem detaches_unset (a : Arena) (number : Nat) : a.Detaches (a.unset number) [number] := by
  have h := rewrites_modify a number (fun s => { s with attached := false }) fun _ h => ⟨h.1, h.2, h.3, h.4⟩
  refine ⟨h.size, fun index => ?_, h.records⟩
  rw [unset, h.slots]
  congr 1
  funext s
  by_cases he : number = index <;> simp [he, eq_comm]

theorem exists_drop_roots {ts : List Tree} {above : Option Nat} {attached : Bool}
    (h : ∀ t ∈ ts, ∀ a : Arena, a.Lists (t.slots above attached) →
      ∀ stack, ∃ a', a.drop (t.root.number :: stack) = a'.drop stack ∧ a.Detaches a' t.numbers)
    (hl : a.Lists (ts.flatMap (Tree.slots above attached))) (stack : List Nat) :
    ∃ a', a.drop (ts.map (·.root.number) ++ stack) = a'.drop stack ∧ a.Detaches a' (ts.flatMap Tree.numbers) := by
  induction ts generalizing a with
  | nil => exact ⟨a, rfl, rfl, by simp, rfl⟩
  | cons t ts ih =>
    rw [List.flatMap_cons, Lists, List.forall_mem_append] at hl
    obtain ⟨h, hrest⟩ := List.forall_mem_cons.mp h
    obtain ⟨a₁, hdrop₁, h₁⟩ := h a hl.1 (ts.map (·.root.number) ++ stack)
    obtain ⟨a₂, hdrop₂, h₂⟩ := ih hrest (h₁.lists hl.2)
    exact ⟨a₂, hdrop₁.trans hdrop₂, h₁.trans h₂⟩

/-- Whatever the order in which children are taken, all elements of a tree are marked and no others. -/
theorem exists_drop_tree {t : Tree} {above : Option Nat} {attached : Bool} (h : a.Lists (t.slots above attached))
    (stack : List Nat) : ∃ a', a.drop (t.root.number :: stack) = a'.drop stack ∧ a.Detaches a' t.numbers := by
  induction t using Tree.induct generalizing a above stack with
  | node root children ih =>
    rw [Lists, Tree.slots_node, List.forall_mem_cons] at h
    obtain ⟨hroot, hall⟩ := h
    have hunset := a.detaches_unset root.number
    have hlists : (a.unset root.number).Lists (children.reverse.flatMap (Tree.slots (some root.number) attached)) :=
      hunset.lists fun s hs => hall s (by simpa using hs)
    obtain ⟨a', hdrop, h⟩ := exists_drop_roots (fun c hc a h => ih c (List.mem_reverse.mp hc) h) hlists stack
    refine ⟨a', ?_, ?_⟩
    · rw [drop_cons, hroot, ← List.map_reverse, hdrop]
    · have hboth := hunset.trans h
      refine ⟨hboth.size, fun index => ?_, hboth.records⟩
      rw [hboth.slots]
      simp [Tree.numbers_node]

theorem detaches_drop {t : Tree} {above : Option Nat} {attached : Bool} (h : a.Lists (t.slots above attached)) :
    a.Detaches (a.drop [t.root.number]) t.numbers := by
  obtain ⟨a', hdrop, h⟩ := exists_drop_tree h []
  rwa [hdrop, drop]

/-! ## New subtrees -/

/-- An arena with new trees behind the children of a parent. -/
structure Receives (a a' : Arena) (parent : Nat) (ts : List Tree) : Prop where
  size : a'.size = a.size + (ts.flatMap Tree.numbers).length
  slots : ∀ index < a.size, a'.slots[index]? = a.slots[index]?.map fun s =>
    { s with children := if index = parent then s.children ++ ts.map (·.root.number) else s.children }
  holds : a'.Holds (ts.flatMap (Tree.slots (some parent) true))
  fresh : ∀ number ∈ ts.flatMap Tree.numbers, a.size ≤ number
  records : a'.records = a.records

theorem Receives.trans {ts us : List Tree} (hp : parent < a.size) (h : a.Receives a' parent ts)
    (h' : a'.Receives a'' parent us) : a.Receives a'' parent (ts ++ us) where
  size := by simp [h'.size, h.size, Nat.add_assoc]
  slots := by
    intro index hi
    rw [h'.slots index (by rw [h.size]; omega), h.slots index hi, Option.map_map]
    congr 1
    funext s
    by_cases he : index = parent <;> simp [he]
  holds := by
    rw [List.flatMap_append, Holds, List.forall_mem_append]
    refine ⟨fun s hs => ?_, h'.holds⟩
    have hslot := h.holds s hs
    obtain ⟨t, ht, hm⟩ := List.mem_flatMap.mp hs
    have hfresh := h.fresh _ (List.mem_flatMap.mpr ⟨t, ht, Tree.mem_numbers_of_mem_slots hm⟩)
    rw [h'.slots _ (lt_size_of_slots hslot), hslot]
    have hne : s.node.number ≠ parent := by omega
    simp [hne]
  fresh := by
    rw [List.flatMap_append, List.forall_mem_append]
    refine ⟨h.fresh, fun number hm => ?_⟩
    have := h'.fresh number hm
    have := h.size
    omega
  records := h'.records.trans h.records

theorem push_slots (hp : parent < a.size) (node : Node) (index : Nat) :
    (a.push parent node).slots[index]? =
      if index = a.size then some { node, parent := some parent }
      else a.slots[index]?.map fun s =>
        { s with children := if index = parent then s.children ++ [a.size] else s.children } := by
  rw [push, dif_pos hp, Array.getElem?_push, Array.size_modify, Array.getElem?_modify, ← size]
  by_cases he : index = parent
  · simp [he]
  · simp [he, Ne.symm he]

theorem size_push (hp : parent < a.size) (node : Node) : (a.push parent node).size = a.size + 1 := by
  rw [push, dif_pos hp, size, Array.size_push, Array.size_modify, ← size]

theorem records_push (hp : parent < a.size) (node : Node) : (a.push parent node).records = a.records := by
  rw [push, dif_pos hp]
  rfl

theorem receives_push (hp : parent < a.size) {node : Node} (hn : node.number = a.size) {ts : List Tree}
    (h : (a.push parent node).Receives a' a.size ts) : a.Receives a' parent [⟨node, ts⟩] where
  size := by
    simp [h.size, size_push hp, Tree.numbers_node]
    omega
  slots := by
    intro index hi
    have hne : index ≠ a.size := by omega
    rw [h.slots index (by rw [size_push hp]; omega), push_slots hp, if_neg hne, Option.map_map]
    simp [hne, hn, Function.comp_def]
  holds := by
    rw [List.flatMap_singleton, Tree.slots_node, Holds, List.forall_mem_cons, hn]
    refine ⟨?_, h.holds⟩
    rw [h.slots a.size (by rw [size_push hp]; omega), push_slots hp, if_pos rfl]
    simp
  fresh := by
    rw [List.flatMap_singleton, Tree.numbers_node, List.forall_mem_cons]
    refine ⟨hn.ge, fun number hm => ?_⟩
    have := h.fresh number hm
    rw [size_push hp] at this
    omega
  records := h.records.trans (records_push hp node)

mutual

theorem receives_insert (a : Arena) {parent : Nat} (hp : parent < a.size) (e : Element) :
    a.Receives (a.insert parent e) parent [Tree.ofElement a.size e] := by
  obtain ⟨tag, id, className, value, text, attrs, children, onClick⟩ := e
  let node := Node.ofElement a.size { tag, id, className, value, text, attrs, onClick }
  have hsize := size_push hp node
  have h : Receives _ _ a.size _ := receives_insertAll (a.push parent node) (by omega) children
  rw [hsize] at h
  exact receives_push hp rfl h

theorem receives_insertAll (a : Arena) {parent : Nat} (hp : parent < a.size) (es : List Element) :
    a.Receives (insertAll a parent es) parent (Tree.ofElements a.size es) := by
  cases es with
  | nil =>
    unfold insertAll Tree.ofElements
    exact ⟨rfl, by simp, by simp [Holds], by simp, rfl⟩
  | cons e es =>
    have h := receives_insert a hp e
    have hsize : (a.insert parent e).size = a.size + e.size := by simpa [Tree.numbers_ofElement] using h.size
    unfold insertAll Tree.ofElements
    rw [← hsize]
    exact h.trans hp (receives_insertAll _ (by omega) es)

end

end Arena

end PageScript
