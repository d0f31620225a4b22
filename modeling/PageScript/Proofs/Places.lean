import Mathlib.Data.List.Nodup
import PageScript.Document

/-!
# Places in a tree

The subtrees of a tree in document order, each with its ancestors. Whatever asks a tree about one of its
elements, be it for the element's subtree, its parent or its path, reads it off this list, and if no number
occurs twice they all speak of the same place.
-/
namespace PageScript

namespace Tree

/-- What passes from the children of a node to the node holds of all trees. -/
@[elab_as_elim]
theorem induct {P : Tree → Prop} (node : ∀ root children, (∀ c ∈ children, P c) → P ⟨root, children⟩)
    (t : Tree) : P t :=
  @Tree.rec P (fun ts => ∀ c ∈ ts, P c) node (by simp)
    (fun _ _ h hs => List.forall_mem_cons.mpr ⟨h, hs⟩) t

mutual

/-- Every subtree with its ancestors, from its parent up to the root. `above` are the ancestors of the whole
tree. -/
def places (above : List Node) : Tree → List (List Node × Tree)
  | ⟨root, children⟩ => (above, ⟨root, children⟩) :: placesAll (root :: above) children

def placesAll (above : List Node) : List Tree → List (List Node × Tree)
  | [] => []
  | tree :: trees => tree.places above ++ placesAll above trees

end

section

variable (above : List Node) (number : Nat)

theorem placesAll_eq (ts : List Tree) : placesAll above ts = ts.flatMap (places above) := by
  induction ts with
  | nil => rfl
  | cons t ts ih => rw [placesAll, ih, List.flatMap_cons]

theorem nodesAll_eq (ts : List Tree) : nodesAll ts = ts.flatMap nodes := by
  induction ts with
  | nil => rfl
  | cons t ts ih => rw [nodesAll, ih, List.flatMap_cons]

theorem pathsAll_eq (ts : List Tree) : pathsAll above ts = ts.flatMap (paths above) := by
  induction ts with
  | nil => rfl
  | cons t ts ih => rw [pathsAll, ih, List.flatMap_cons]

theorem findAll?_eq (ts : List Tree) : findAll? number ts = ts.findSome? (find? number) := by
  induction ts with
  | nil => rfl
  | cons t ts ih =>
    rw [findAll?, ih, List.findSome?_cons]
    cases t.find? number <;> rfl

theorem nodes_eq (t : Tree) : t.nodes = (t.places above).map (·.2.root) := by
  induction t using induct generalizing above with
  | node root children ih =>
    rw [nodes, places, nodesAll_eq, placesAll_eq, List.map_cons, List.map_flatMap]
    exact congrArg (root :: ·) (List.flatMap_congr fun c hc => ih c hc _)

theorem paths_eq (t : Tree) : t.paths above = (t.places above).map fun place => place.2.root :: place.1 := by
  induction t using induct generalizing above with
  | node root children ih =>
    rw [paths, places, pathsAll_eq, placesAll_eq, List.map_cons, List.map_flatMap]
    exact congrArg _ (List.flatMap_congr fun c hc => ih c hc _)

theorem numbers_eq (t : Tree) : t.numbers = (t.places above).map (·.2.root.number) := by
  rw [numbers, t.nodes_eq above, List.map_map]
  rfl

variable {above number}

theorem mem_places_self (t : Tree) : (above, t) ∈ t.places above := by
  cases t
  simp [places]

theorem mem_places_node {root : Node} {children : List Tree} {place : List Node × Tree} :
    place ∈ places above ⟨root, children⟩ ↔
      place = (above, ⟨root, children⟩) ∨ ∃ c ∈ children, place ∈ c.places (root :: above) := by
  rw [places, placesAll_eq, List.mem_cons, List.mem_flatMap]

theorem mem_places_child {t s c : Tree} {path : List Node} (h : (path, s) ∈ t.places above)
    (hc : c ∈ s.children) : (s.root :: path, c) ∈ t.places above := by
  induction t using induct generalizing above with
  | node root children ih =>
    rcases mem_places_node.mp h with he | ⟨child, hchild, h⟩
    · cases he
      exact mem_places_node.mpr (.inr ⟨c, hc, mem_places_self c⟩)
    · exact mem_places_node.mpr (.inr ⟨child, hchild, ih child hchild h⟩)

theorem mem_places_parent {t s : Tree} {path : List Node} (h : (path, s) ∈ t.places above) :
    (path = above ∧ s = t) ∨
      ∃ p rest, path = p.root :: rest ∧ (rest, p) ∈ t.places above ∧ s ∈ p.children := by
  induction t using induct generalizing above with
  | node root children ih =>
    rcases mem_places_node.mp h with he | ⟨child, hchild, h⟩
    · cases he
      exact .inl ⟨rfl, rfl⟩
    · right
      rcases ih child hchild h with ⟨rfl, rfl⟩ | ⟨p, rest, rfl, hp, hs⟩
      · exact ⟨_, above, rfl, mem_places_self _, hchild⟩
      · exact ⟨p, rest, rfl, mem_places_node.mpr (.inr ⟨child, hchild, hp⟩), hs⟩

/-- A subtree is a stretch of document order. -/
theorem nodes_infix {t s : Tree} {path : List Node} (h : (path, s) ∈ t.places above) :
    s.nodes <:+: t.nodes := by
  induction t using induct generalizing above with
  | node root children ih =>
    rcases mem_places_node.mp h with he | ⟨child, hchild, h⟩
    · cases he
      exact List.infix_rfl
    · have hi : child.nodes <:+: (⟨root, children⟩ : Tree).nodes := by
        obtain ⟨before, after, rfl⟩ := List.append_of_mem hchild
        refine ⟨root :: before.flatMap nodes, after.flatMap nodes, ?_⟩
        simp [nodes, nodesAll_eq]
      exact (ih child hchild h).trans hi

theorem exists_place_of_mem_numbers {t : Tree} (h : number ∈ t.numbers) :
    ∃ path s, (path, s) ∈ t.places above ∧ s.root.number = number := by
  rw [t.numbers_eq above, List.mem_map] at h
  obtain ⟨⟨path, s⟩, hs, he⟩ := h
  exact ⟨path, s, hs, he⟩

theorem mem_numbers_of_place {t s : Tree} {path : List Node} (h : (path, s) ∈ t.places above) :
    s.root.number ∈ t.numbers := by
  rw [t.numbers_eq above]
  exact List.mem_map_of_mem h

theorem exists_place_of_find? (above : List Node) {t s : Tree} (h : t.find? number = some s) :
    (∃ path, (path, s) ∈ t.places above) ∧ s.root.number = number := by
  induction t using induct generalizing above with
  | node root children ih =>
    rw [find?] at h
    split at h
    · cases h
      exact ⟨⟨above, mem_places_self _⟩, ‹_›⟩
    · rw [findAll?_eq] at h
      obtain ⟨child, hchild, h⟩ := List.exists_of_findSome?_eq_some h
      obtain ⟨⟨path, hs⟩, hn⟩ := ih child hchild (root :: above) h
      exact ⟨⟨path, mem_places_node.mpr (.inr ⟨child, hchild, hs⟩)⟩, hn⟩

theorem isSome_find? {t : Tree} : (t.find? number).isSome = true ↔ number ∈ t.numbers := by
  induction t using induct with
  | node root children ih =>
    rw [find?, numbers, nodes, nodesAll_eq, List.map_cons, List.mem_cons]
    split
    · simp [*]
    · have hn : ¬ number = root.number := fun he => ‹¬ root.number = number› he.symm
      simp only [findAll?_eq, List.isSome_findSome?, List.any_eq_true, hn, false_or, List.map_flatMap,
        List.mem_flatMap]
      exact exists_congr fun c => and_congr_right fun hc => ih c hc

theorem find?_eq_none {t : Tree} : t.find? number = none ↔ number ∉ t.numbers := by
  rw [← isSome_find?, Bool.not_eq_true, Option.isSome_eq_false_iff, Option.isNone_iff_eq_none]

end

/-! ## Trees in which no number occurs twice -/

section

variable {t s s' : Tree} {above path path' : List Node}

/-- An element has one place. -/
theorem place_unique (hn : t.numbers.Nodup) (h : (path, s) ∈ t.places above) (h' : (path', s') ∈ t.places above)
    (he : s.root.number = s'.root.number) : path = path' ∧ s = s' := by
  rw [t.numbers_eq above] at hn
  exact Prod.mk.injEq .. ▸ List.inj_on_of_nodup_map hn h h' he

theorem find?_of_place (hn : t.numbers.Nodup) (h : (path, s) ∈ t.places above) :
    t.find? s.root.number = some s := by
  obtain ⟨s', hs'⟩ := Option.isSome_iff_exists.mp (isSome_find?.mpr (mem_numbers_of_place h))
  obtain ⟨⟨path', hp'⟩, he⟩ := exists_place_of_find? above hs'
  rw [hs', (place_unique hn h hp' he.symm).2]

theorem parent?_of_place (hn : t.numbers.Nodup) (h : (path, s) ∈ t.places []) :
    t.parent? s.root.number = path.head? := by
  rw [parent?, paths_eq, List.findSome?_map]
  cases path with
  | nil =>
    rw [List.head?_nil, List.findSome?_eq_none_iff]
    rintro ⟨path', s'⟩ h'
    cases path' with
    | nil => rfl
    | cons p path' =>
      have hne : ¬ s'.root.number = s.root.number := by
        intro he
        cases (place_unique hn h' h he).1
      simp [hne]
  | cons p path =>
    cases hf : (t.places []).findSome? _ with
    | none =>
      have hnone := List.findSome?_eq_none_iff.mp hf _ h
      simp at hnone
    | some q =>
      obtain ⟨⟨path', s'⟩, h', hq⟩ := List.exists_of_findSome?_eq_some hf
      cases path' with
      | nil => cases hq
      | cons p' path' =>
        by_cases he : s'.root.number = s.root.number
        · obtain ⟨hp, -⟩ := place_unique hn h' h he
          cases hp
          simpa [he] using hq.symm
        · simp [he] at hq

end

end Tree

end PageScript
