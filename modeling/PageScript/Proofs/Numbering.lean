import Mathlib.Algebra.BigOperators.Group.List.Basic
import Mathlib.Algebra.BigOperators.Ring.List
import Mathlib.Tactic.Ring
import PageScript.Proofs.Places

/-!
# The numbers of elements

Every number that a document has given out is that of one element, which is either in the document or in one of
the subtrees taken out of it. New elements are put below old ones, so that numbers grow on the way down.
-/
namespace PageScript

namespace Tree

theorem modifyAll_eq (number : Nat) (change : Tree → Tree) (ts : List Tree) :
    modifyAll number change ts = ts.map (modify number change) := by
  induction ts with
  | nil => rfl
  | cons t ts ih => rw [modifyAll, ih, List.map_cons]

theorem removeAll_eq (number : Nat) (ts : List Tree) :
    removeAll number ts = (ts.filter (·.root.number ≠ number)).map (remove number) := by
  induction ts with
  | nil => rfl
  | cons t ts ih =>
    rw [removeAll, ih, List.filter_cons]
    by_cases h : t.root.number = number <;> simp [h]

theorem update_node (number : Nat) (change : Node → Node) (root : Node) (children : List Tree) :
    (⟨root, children⟩ : Tree).update number change =
      ⟨if root.number = number then change root else root, children.map (update number change)⟩ := by
  rw [update, modify, modifyAll_eq]
  split <;> rfl

theorem append_node (number : Nat) (root : Node) (children : List Tree) (new : Tree) :
    (⟨root, children⟩ : Tree).append number new =
      ⟨root, children.map (append number · new) ++ if root.number = number then [new] else []⟩ := by
  rw [append, modify, modifyAll_eq]
  split
  · rfl
  · exact congrArg (Tree.mk root) (List.append_nil _).symm

theorem numbers_node (root : Node) (children : List Tree) :
    (⟨root, children⟩ : Tree).numbers = root.number :: children.flatMap numbers := by
  rw [numbers, nodes, nodesAll_eq, List.map_cons, List.map_flatMap]
  rfl

theorem numbers_eq_cons (t : Tree) : t.numbers = t.root.number :: t.children.flatMap numbers := by
  cases t
  exact numbers_node _ _

/-! ## What becomes of the numbers -/

theorem root_number_update {change : Node → Node} (h : ∀ n, (change n).number = n.number) (number : Nat)
    (t : Tree) : (t.update number change).root.number = t.root.number := by
  cases t
  rw [update, modify]
  split
  · exact h _
  · rfl

theorem numbers_update {change : Node → Node} (h : ∀ n, (change n).number = n.number) (number : Nat)
    (t : Tree) : (t.update number change).numbers = t.numbers := by
  induction t using induct with
  | node root children ih =>
    have hroot : (if root.number = number then change root else root).number = root.number := by
      split <;> simp [h]
    rw [update_node, numbers_node, numbers_node, hroot, List.flatMap_map, List.flatMap_congr ih]

theorem root_append (number : Nat) (t new : Tree) : (t.append number new).root = t.root := by
  cases t
  rw [append, modify]
  split <;> rfl

theorem count_numbers_append (number m : Nat) (t new : Tree) :
    (t.append number new).numbers.count m =
      t.numbers.count m + t.numbers.count number * new.numbers.count m := by
  induction t using induct with
  | node root children ih =>
    have hc : ((children.map (append number · new)).flatMap numbers).count m =
        (children.flatMap numbers).count m + (children.flatMap numbers).count number * new.numbers.count m :=
      calc ((children.map (append number · new)).flatMap numbers).count m
        _ = (children.map fun c =>
              c.numbers.count m + c.numbers.count number * new.numbers.count m).sum := by
          rw [List.flatMap_map, List.count_flatMap]
          exact congrArg List.sum (List.map_congr_left ih)
        _ = _ := by
          rw [List.sum_map_add, List.sum_map_mul_right, List.count_flatMap, List.count_flatMap]
          rfl
    rw [append_node]
    simp only [numbers_node, List.flatMap_append, List.count_cons, List.count_append, hc]
    by_cases hn : root.number = number
    · simp [hn]
      ring
    · simp [hn]
      ring

theorem numbers_append {number : Nat} {t : Tree} (new : Tree) (hn : t.numbers.Nodup) (h : number ∈ t.numbers) :
    (t.append number new).numbers.Perm (t.numbers ++ new.numbers) := by
  rw [List.perm_iff_count]
  intro m
  rw [count_numbers_append, List.count_eq_one_of_mem hn h, Nat.one_mul, List.count_append]

theorem root_remove (number : Nat) (t : Tree) : (t.remove number).root = t.root := by
  cases t
  rfl

theorem root_number_mem (t : Tree) : t.root.number ∈ t.numbers := by
  rw [numbers_eq_cons]
  exact List.mem_cons_self

theorem remove_of_not_mem {number : Nat} {t : Tree} (h : number ∉ t.numbers) : t.remove number = t := by
  induction t using induct with
  | node root children ih =>
    rw [numbers_node, List.mem_cons, List.mem_flatMap] at h
    push Not at h
    rw [remove, removeAll_eq, List.filter_eq_self.mpr ?_, List.map_congr_left (g := id) ?_, List.map_id]
    · intro c hc
      exact ih c hc (h.2 c hc)
    · intro c hc
      have hne : c.root.number ≠ number := by
        rintro rfl
        exact h.2 c hc c.root_number_mem
      simpa using hne

theorem removeAll_of_not_mem {number : Nat} {ts : List Tree} (h : number ∉ ts.flatMap numbers) :
    removeAll number ts = ts := by
  have ht : Tree.remove number ⟨{ number := number + 1, tag := "" }, ts⟩ = _ :=
    remove_of_not_mem (by simpa [numbers_node] using h)
  rw [remove] at ht
  exact congrArg children ht

/-- Taking out a subtree splits the numbers into those that stay and those that go. -/
theorem numbers_remove {number : Nat} {t s : Tree} (hn : t.numbers.Nodup) (hr : t.root.number ≠ number)
    (h : t.find? number = some s) : t.numbers.Perm ((t.remove number).numbers ++ s.numbers) := by
  induction t using induct with
  | node root children ih =>
    rw [numbers_node, List.nodup_cons] at hn
    have hf : children.findSome? (find? number) = some s := by
      rw [find?, if_neg hr, findAll?_eq] at h
      exact h
    obtain ⟨before, c, after, rfl, hc, hbefore⟩ := List.findSome?_eq_some_iff.mp hf
    have hb : number ∉ before.flatMap numbers := by
      rw [List.mem_flatMap]
      rintro ⟨d, hd, hm⟩
      exact find?_eq_none.mp (hbefore d hd) hm
    have hm : number ∈ c.numbers := isSome_find?.mp (by rw [hc]; rfl)
    have hnd := hn.2
    rw [List.flatMap_append, List.flatMap_cons, List.nodup_append] at hnd
    have hca := List.nodup_append.mp hnd.2.1
    have ha : number ∉ after.flatMap numbers := fun hm' => hca.2.2 number hm number hm' rfl
    rw [remove, numbers_node, numbers_node, removeAll_eq, List.filter_append, List.map_append, ← removeAll_eq,
      removeAll_of_not_mem hb, List.cons_append, List.perm_cons, ← removeAll_eq, removeAll]
    split
    · have hs : c = s := by
        have hcr := find?_of_place hca.1 (mem_places_self c : ([], c) ∈ c.places [])
        rw [‹c.root.number = number›, hc] at hcr
        exact (Option.some.inj hcr).symm
      rw [removeAll_of_not_mem ha, ← hs]
      simp only [List.flatMap_append, List.flatMap_cons, List.append_assoc]
      exact List.Perm.append_left _ List.perm_append_comm
    · have hp := ih c (by simp) hca.1 ‹_› hc
      rw [removeAll_of_not_mem ha]
      simp only [List.flatMap_append, List.flatMap_cons, List.append_assoc]
      refine List.Perm.append_left _ ((hp.append_right _).trans ?_)
      rw [List.append_assoc]
      exact List.perm_append_comm.append_left _

/-! ## What holds of all nodes of a tree -/

section

variable {P : Node → Prop} {t : Tree}

theorem forall_nodes_node {root : Node} {children : List Tree} :
    (∀ n ∈ (⟨root, children⟩ : Tree).nodes, P n) ↔ P root ∧ ∀ c ∈ children, ∀ n ∈ c.nodes, P n := by
  rw [nodes, nodesAll_eq, List.forall_mem_cons, List.forall_mem_flatMap]

theorem forall_nodes_update (h : ∀ n ∈ t.nodes, P n) {change : Node → Node} (hc : ∀ n, P n → P (change n))
    (number : Nat) : ∀ n ∈ (t.update number change).nodes, P n := by
  induction t using induct with
  | node root children ih =>
    obtain ⟨hroot, hall⟩ := forall_nodes_node.mp h
    have hmap : ∀ c ∈ children.map (update number change), ∀ n ∈ c.nodes, P n :=
      List.forall_mem_map.mpr fun c hm => ih c hm (hall c hm)
    rw [update_node, forall_nodes_node]
    refine ⟨?_, hmap⟩
    split
    · exact hc root hroot
    · exact hroot

theorem forall_nodes_append (h : ∀ n ∈ t.nodes, P n) {new : Tree} (hnew : ∀ n ∈ new.nodes, P n) (number : Nat) :
    ∀ n ∈ (t.append number new).nodes, P n := by
  induction t using induct with
  | node root children ih =>
    obtain ⟨hroot, hall⟩ := forall_nodes_node.mp h
    have hmap : ∀ c ∈ children.map (append number · new), ∀ n ∈ c.nodes, P n :=
      List.forall_mem_map.mpr fun c hm => ih c hm (hall c hm)
    rw [append_node, forall_nodes_node, List.forall_mem_append]
    refine ⟨hroot, hmap, ?_⟩
    split
    · simpa using hnew
    · simp

theorem forall_nodes_remove (h : ∀ n ∈ t.nodes, P n) (number : Nat) : ∀ n ∈ (t.remove number).nodes, P n := by
  induction t using induct with
  | node root children ih =>
    obtain ⟨hroot, hall⟩ := forall_nodes_node.mp h
    rw [remove, removeAll_eq, forall_nodes_node, List.forall_mem_map]
    refine ⟨hroot, fun c hc => ?_⟩
    have hm := List.mem_of_mem_filter hc
    exact ih c hm (hall c hm)

end

/-! ## Numbers that grow on the way down -/

mutual

/-- Every number is at least `bound` and larger than the one above it. -/
def RisesFrom (bound : Nat) : Tree → Prop
  | ⟨root, children⟩ => bound ≤ root.number ∧ AllRiseFrom (root.number + 1) children

def AllRiseFrom (bound : Nat) : List Tree → Prop
  | [] => True
  | tree :: trees => tree.RisesFrom bound ∧ AllRiseFrom bound trees

end

theorem allRiseFrom_iff {bound : Nat} {ts : List Tree} :
    AllRiseFrom bound ts ↔ ∀ t ∈ ts, t.RisesFrom bound := by
  induction ts with
  | nil => simp [AllRiseFrom]
  | cons t ts ih => rw [AllRiseFrom, ih, List.forall_mem_cons]

theorem risesFrom_node {bound : Nat} {root : Node} {children : List Tree} :
    (⟨root, children⟩ : Tree).RisesFrom bound ↔
      bound ≤ root.number ∧ ∀ c ∈ children, c.RisesFrom (root.number + 1) := by
  rw [RisesFrom, allRiseFrom_iff]

section

variable {bound : Nat} {t : Tree}

theorem RisesFrom.le (h : t.RisesFrom bound) : bound ≤ t.root.number := by
  cases t
  exact (risesFrom_node.mp h).1

theorem RisesFrom.mono (h : t.RisesFrom bound) {lower : Nat} (hl : lower ≤ bound) : t.RisesFrom lower := by
  cases t
  rw [risesFrom_node] at h ⊢
  exact ⟨hl.trans h.1, h.2⟩

theorem RisesFrom.lt_child (h : t.RisesFrom bound) {c : Tree} (hc : c ∈ t.children) :
    t.root.number < c.root.number := by
  cases t
  exact ((risesFrom_node.mp h).2 c hc).le

theorem RisesFrom.of_place (h : t.RisesFrom bound) {above path : List Node} {s : Tree}
    (hs : (path, s) ∈ t.places above) : s.RisesFrom bound := by
  induction t using Tree.induct generalizing above bound with
  | node root children ih =>
    rcases mem_places_node.mp hs with he | ⟨c, hc, hs⟩
    · cases he
      exact h
    · obtain ⟨hb, hall⟩ := risesFrom_node.mp h
      exact (ih c hc (hall c hc) hs).mono (by omega)

theorem RisesFrom.root_le (h : t.RisesFrom bound) {number : Nat} (hm : number ∈ t.numbers) :
    t.root.number ≤ number := by
  obtain ⟨root, children⟩ := t
  obtain ⟨path, s, hs, rfl⟩ : ∃ path s, (path, s) ∈ Tree.places [] ⟨root, children⟩ ∧ s.root.number = number :=
    exists_place_of_mem_numbers hm
  have hrises : Tree.RisesFrom root.number ⟨root, children⟩ := risesFrom_node.mpr ⟨le_rfl, (risesFrom_node.mp h).2⟩
  exact (hrises.of_place hs).le

theorem RisesFrom.update (h : t.RisesFrom bound) {change : Node → Node}
    (hc : ∀ n, (change n).number = n.number) (number : Nat) : (t.update number change).RisesFrom bound := by
  induction t using Tree.induct generalizing bound with
  | node root children ih =>
    obtain ⟨hb, hall⟩ := risesFrom_node.mp h
    have hmap : ∀ c ∈ children.map (Tree.update number change), c.RisesFrom (root.number + 1) := by
      rw [List.forall_mem_map]
      exact fun c hm => ih c hm (hall c hm)
    have hroot : (if root.number = number then change root else root).number = root.number := by
      split <;> simp [hc]
    rw [update_node, risesFrom_node, hroot]
    exact ⟨hb, hmap⟩

theorem RisesFrom.append (h : t.RisesFrom bound) {number : Nat} {new : Tree}
    (hnew : new.RisesFrom (number + 1)) : (t.append number new).RisesFrom bound := by
  induction t using Tree.induct generalizing bound with
  | node root children ih =>
    obtain ⟨hb, hall⟩ := risesFrom_node.mp h
    have hmap : ∀ c ∈ children.map (Tree.append number · new), c.RisesFrom (root.number + 1) := by
      rw [List.forall_mem_map]
      exact fun c hm => ih c hm (hall c hm)
    rw [append_node, risesFrom_node, List.forall_mem_append]
    refine ⟨hb, hmap, ?_⟩
    split <;> simp [*]

theorem RisesFrom.remove (h : t.RisesFrom bound) (number : Nat) : (t.remove number).RisesFrom bound := by
  induction t using Tree.induct generalizing bound with
  | node root children ih =>
    obtain ⟨hb, hall⟩ := risesFrom_node.mp h
    rw [Tree.remove, removeAll_eq, risesFrom_node, List.forall_mem_map]
    refine ⟨hb, ?_⟩
    intro c hc
    have hm := (List.mem_filter.mp hc).1
    exact ih c hm (hall c hm)

end

/-! ## New elements -/

theorem root_number_ofElement (next : Nat) (e : Element) : (ofElement next e).root.number = next := by
  cases e
  rfl

mutual

/-- A new subtree has the next numbers, in document order. -/
theorem numbers_ofElement (next : Nat) (e : Element) :
    (ofElement next e).numbers = List.range' next e.size := by
  obtain ⟨tag, id, className, value, text, attrs, children, onClick⟩ := e
  rw [ofElement, numbers_node, numbers_ofElements, Element.size, Nat.add_comm 1, List.range'_succ]
  rfl

theorem numbers_ofElements (next : Nat) (es : List Element) :
    (ofElements next es).flatMap numbers = List.range' next (Element.sizeAll es) := by
  cases es with
  | nil => rfl
  | cons e es =>
    rw [ofElements, List.flatMap_cons, numbers_ofElement, numbers_ofElements, Element.sizeAll,
      List.range'_append_1]

end

mutual

theorem risesFrom_ofElement (next : Nat) (e : Element) : (ofElement next e).RisesFrom next := by
  obtain ⟨tag, id, className, value, text, attrs, children, onClick⟩ := e
  rw [ofElement, RisesFrom]
  exact ⟨le_rfl, allRiseFrom_ofElements _ _⟩

theorem allRiseFrom_ofElements (next : Nat) (es : List Element) : AllRiseFrom next (ofElements next es) := by
  cases es with
  | nil => exact trivial
  | cons e es =>
    rw [ofElements, AllRiseFrom]
    have hall := allRiseFrom_iff.mp (allRiseFrom_ofElements (next + e.size) es)
    exact ⟨risesFrom_ofElement next e, allRiseFrom_iff.mpr fun t ht => (hall t ht).mono (by omega)⟩

end

end Tree

/-! ## Documents -/

namespace Document

/-- The body is number 0, and every number below `next` is that of one element, in the document or out of it. -/
structure Numbered (d : Document) : Prop where
  root_eq : d.body.root.number = 0
  rises : d.body.RisesFrom 0
  perm : (d.body.numbers ++ d.removed.flatMap Tree.numbers).Perm (List.range d.next)

variable {d : Document}

theorem Numbered.nodup (h : d.Numbered) : d.body.numbers.Nodup :=
  (List.nodup_append.mp (h.perm.nodup_iff.mpr List.nodup_range)).1

theorem Numbered.lt_next (h : d.Numbered) {n : Nat} (hn : n ∈ d.body.numbers) : n < d.next :=
  List.mem_range.mp (h.perm.subset (List.mem_append_left _ hn))

theorem Numbered.length_le (h : d.Numbered) : d.body.numbers.length ≤ d.next := by
  have hl := h.perm.length_eq
  rw [List.length_append, List.length_range] at hl
  omega

theorem numbered_ofPage (p : Page) : (ofPage p).Numbered where
  root_eq := rfl
  rises := Tree.risesFrom_node.mpr ⟨le_rfl, Tree.allRiseFrom_iff.mp (Tree.allRiseFrom_ofElements 1 p.body)⟩
  perm := by
    rw [ofPage, Tree.numbers_node, Tree.numbers_ofElements, List.flatMap_nil, List.append_nil,
      List.range_eq_range', Nat.add_comm 1, List.range'_succ]

theorem Numbered.update (h : d.Numbered) {change : Node → Node} (hc : ∀ n, (change n).number = n.number)
    (number : Nat) : (d.update number change).Numbered where
  root_eq := (Tree.root_number_update hc number d.body).trans h.root_eq
  rises := h.rises.update hc number
  perm := by
    rw [Document.update, Tree.numbers_update hc]
    exact h.perm

theorem Numbered.insert (h : d.Numbered) {parent : Nat} (hp : parent ∈ d.body.numbers) (e : Element) :
    (d.insert parent e).Numbered where
  root_eq := by
    rw [Document.insert, Tree.root_append]
    exact h.root_eq
  rises := h.rises.append ((Tree.risesFrom_ofElement d.next e).mono (h.lt_next hp))
  perm := by
    have hn : (List.range (d.next + e.size)).Perm (List.range d.next ++ List.range' d.next e.size) := by
      rw [List.range_eq_range', List.range_eq_range', ← List.range'_append_1, Nat.zero_add]
    have hb := Tree.numbers_append (Tree.ofElement d.next e) h.nodup hp
    rw [Tree.numbers_ofElement] at hb
    refine ((hb.append_right _).trans ?_).trans hn.symm
    rw [List.append_assoc]
    refine (List.perm_append_comm.append_left _).trans ?_
    rw [← List.append_assoc]
    exact h.perm.append_right _

theorem Numbered.remove (h : d.Numbered) {t : Tree} (ht : d.body.find? t.root.number = some t)
    (hr : t.root.number ≠ 0) : (d.remove t).Numbered where
  root_eq := by
    rw [Document.remove, Tree.root_remove]
    exact h.root_eq
  rises := h.rises.remove t.root.number
  perm := by
    have hb := Tree.numbers_remove h.nodup (by rw [h.root_eq]; exact hr.symm) ht
    rw [Document.remove, List.flatMap_cons, ← List.append_assoc]
    exact (hb.append_right _).symm.trans h.perm

end Document

end PageScript
