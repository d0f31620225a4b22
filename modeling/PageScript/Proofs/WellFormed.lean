import PageScript.Proofs.Histories

/-!
# Well-formed documents

What a document answers about the parent of an element, about its children and about who is in the document at all
fits together, at all times and whatever was done before: the elements form a tree under the body, and an element
that was taken out has left it with all that was below it. Walks through the tree, upwards or downwards, come to an
end.
-/
namespace PageScript

namespace Document

/-- An element is attached as long as the document answers for it. -/
def Attached (d : Document) (number : Nat) : Prop := ∃ n, d.node number = .ok n

/-- The elements on the way from an element up to the body, if the way ends within a number of turns. -/
def climb (d : Document) : Nat → Nat → Option (List Nat)
  | 0, _ => none
  | turns + 1, number =>
    match d.parent number with
    | .ok (some parent) => (climb d turns parent).map (parent :: ·)
    | _ => some []

/-- The elements met by taking one after another from a stack and putting its children there instead, if the stack
is empty within a number of turns. The children are put on the stack in an order of their own. -/
def walk (d : Document) (arrange : List Nat → List Nat) : Nat → List Nat → Option (List Nat)
  | _, [] => some []
  | 0, _ :: _ => none
  | turns + 1, number :: stack =>
    match d.children number with
    | .ok children => (walk d arrange turns (arrange children ++ stack)).map (number :: ·)
    | .error _ => none

/-- The elements of a document form a tree under its body. -/
structure WellFormed (d : Document) : Prop where
  /-- The body is attached and has no parent. -/
  body : d.Attached 0 ∧ d.parent 0 = .ok none
  /-- Any other element has a parent with a smaller number, which lists it once. -/
  parent : ∀ number, d.Attached number → number ≠ 0 → ∃ parent children,
    d.parent number = .ok (some parent) ∧ parent < number ∧ d.Attached parent ∧
      d.children parent = .ok children ∧ children.count number = 1
  /-- The children of an attached element are attached and point back to it. -/
  child : ∀ number children, d.children number = .ok children →
    ∀ c ∈ children, d.Attached c ∧ d.parent c = .ok (some number)
  /-- An element that is no longer attached is in nobody's list, and what is below it is not attached either. -/
  detached : ∀ number, number < d.next → ¬ d.Attached number →
    (∀ parent children, d.children parent = .ok children → number ∉ children) ∧
      ∃ t ∈ d.removed, ∃ s, t.find? number = some s ∧ ∀ n ∈ s.descendants, ¬ d.Attached n.number
  /-- The way down from the body meets the attached elements, each once, in document order. -/
  enumerated : d.walk id d.next [0] = some d.body.numbers ∧ d.body.numbers.Nodup ∧
    ∀ number, number ∈ d.body.numbers ↔ d.Attached number
  /-- The way up from an element ends at the body. -/
  climb : ∀ number, d.Attached number →
    ∃ above, d.climb (number + 1) number = some above ∧ (number :: above).getLast? = some 0
  /-- The way down visits the subtree of an element in document order. -/
  descend : ∀ number t, d.subtree number = .ok t → ∀ turns, t.numbers.length ≤ turns →
    d.walk id turns [number] = some t.numbers
  /-- In whatever order children are taken, the way down ends when each element of the subtree was visited once. -/
  visit : ∀ number t, d.subtree number = .ok t → ∀ arrange, (∀ children, (arrange children).Perm children) →
    ∀ turns, t.numbers.length ≤ turns → ∃ visited, d.walk arrange turns [number] = some visited ∧
      visited.Perm t.numbers

/-! ## What a document answers about a place -/

section

variable {d : Document} {number : Nat} {path : List Node} {s : Tree}

theorem attached_iff : d.Attached number ↔ number ∈ d.body.numbers := by
  rw [Attached, ← Tree.isSome_find?, Option.isSome_iff_exists]
  simp [node_eq_ok]

theorem exists_place_of_attached (h : d.Attached number) :
    ∃ path s, (path, s) ∈ d.body.places [] ∧ s.root.number = number :=
  Tree.exists_place_of_mem_numbers (attached_iff.mp h)

theorem attached_of_place (h : (path, s) ∈ d.body.places []) : d.Attached s.root.number :=
  attached_iff.mpr (Tree.mem_numbers_of_place h)

theorem exists_place_of_children {children : List Nat} (h : d.children number = .ok children) :
    ∃ path s, (path, s) ∈ d.body.places [] ∧ s.root.number = number ∧
      children = s.children.map (·.root.number) := by
  obtain ⟨s, hs, rfl⟩ := map_eq_ok.mp h
  obtain ⟨⟨path, hp⟩, hn⟩ := Tree.exists_place_of_find? [] (subtree_eq_ok.mp hs)
  exact ⟨path, s, hp, hn, rfl⟩

variable (hd : d.Numbered)

include hd

theorem subtree_of_place (h : (path, s) ∈ d.body.places []) : d.subtree s.root.number = .ok s :=
  subtree_eq_ok.mpr (Tree.find?_of_place hd.nodup h)

theorem node_of_place (h : (path, s) ∈ d.body.places []) : d.node s.root.number = .ok s.root := by
  rw [node, subtree_of_place hd h]
  rfl

theorem node_of_mem_nodes {n : Node} (h : n ∈ d.nodes) : d.node n.number = .ok n := by
  rw [nodes, d.body.nodes_eq []] at h
  obtain ⟨⟨path, t⟩, hplace, rfl⟩ := List.mem_map.mp h
  exact node_of_place hd hplace

theorem children_of_place (h : (path, s) ∈ d.body.places []) :
    d.children s.root.number = .ok (s.children.map (·.root.number)) := by
  rw [children, subtree_of_place hd h]
  rfl

theorem parent_of_place (h : (path, s) ∈ d.body.places []) :
    d.parent s.root.number = .ok (path.head?.map Node.number) := by
  rw [parent, node, subtree_of_place hd h]
  exact congrArg (fun p : Option Node => Except.ok (p.map Node.number)) (Tree.parent?_of_place hd.nodup h)

theorem nodup_children (h : (path, s) ∈ d.body.places []) : (s.children.map (·.root.number)).Nodup := by
  have hs : s.numbers.Sublist d.body.numbers := (Tree.nodes_infix h).sublist.map _
  have hc : (s.children.map (·.root.number)).Sublist s.numbers := by
    obtain ⟨root, children⟩ := s
    rw [Tree.numbers_node]
    refine List.Sublist.cons _ ?_
    clear hs h
    induction children with
    | nil => exact List.Sublist.slnil
    | cons c children ih =>
      rw [List.map_cons, List.flatMap_cons, ← List.singleton_append]
      exact (List.singleton_sublist.mpr c.root_number_mem).append ih
  exact (hc.trans hs).nodup hd.nodup

/-! ## Walks -/

theorem length_path_le (h : (path, s) ∈ d.body.places []) : path.length ≤ s.root.number := by
  induction path generalizing s with
  | nil => exact Nat.zero_le _
  | cons p path ih =>
    rcases Tree.mem_places_parent h with ⟨hp, -⟩ | ⟨q, rest, hp, hq, hs⟩
    · cases hp
    · cases hp
      have hlt := (hd.rises.of_place hq).lt_child hs
      have hle := ih hq
      simp only [List.length_cons]
      omega

theorem climb_of_place (h : (path, s) ∈ d.body.places []) {turns : Nat} (ht : path.length < turns) :
    d.climb turns s.root.number = some (path.map Node.number) := by
  induction path generalizing s turns with
  | nil =>
    obtain ⟨turns, rfl⟩ := Nat.exists_eq_succ_of_ne_zero ht.ne'
    rw [Document.climb, parent_of_place hd h]
    rfl
  | cons p path ih =>
    obtain ⟨turns, rfl⟩ := Nat.exists_eq_succ_of_ne_zero (Nat.ne_of_gt (Nat.zero_lt_of_lt ht))
    rcases Tree.mem_places_parent h with ⟨hp, -⟩ | ⟨q, rest, hp, hq, -⟩
    · cases hp
    · cases hp
      rw [Document.climb, parent_of_place hd h]
      simp only [List.head?_cons, Option.map_some]
      rw [ih hq (Nat.succ_lt_succ_iff.mp ht)]
      rfl

theorem getLast?_of_place (h : (path, s) ∈ d.body.places []) :
    (s.root.number :: path.map Node.number).getLast? = some 0 := by
  induction path generalizing s with
  | nil =>
    rcases Tree.mem_places_parent h with ⟨-, rfl⟩ | ⟨q, rest, hp, -⟩
    · rw [List.map_nil, List.getLast?_singleton, hd.root_eq]
    · cases hp
  | cons p path ih =>
    rcases Tree.mem_places_parent h with ⟨hp, -⟩ | ⟨q, rest, hp, hq, -⟩
    · cases hp
    · cases hp
      rw [List.map_cons, List.getLast?_cons_cons]
      exact ih hq

/-- A walk that takes children in document order goes through its stack of subtrees from first to last. -/
theorem walk_of_places (ts : List Tree) (turns : Nat) (h : ∀ t ∈ ts, ∃ path, (path, t) ∈ d.body.places [])
    (ht : (ts.flatMap Tree.numbers).length ≤ turns) :
    d.walk id turns (ts.map (·.root.number)) = some (ts.flatMap Tree.numbers) := by
  induction turns generalizing ts with
  | zero =>
    cases ts with
    | nil => rfl
    | cons t ts =>
      rw [List.flatMap_cons, t.numbers_eq_cons] at ht
      cases ht
  | succ turns ih =>
    cases ts with
    | nil => rfl
    | cons t ts =>
      obtain ⟨⟨path, hp⟩, hts⟩ := List.forall_mem_cons.mp h
      have hall : ∀ c ∈ t.children ++ ts, ∃ path, (path, c) ∈ d.body.places [] :=
        List.forall_mem_append.mpr ⟨fun c hc => ⟨_, Tree.mem_places_child hp hc⟩, hts⟩
      rw [List.flatMap_cons, t.numbers_eq_cons, List.cons_append, List.length_cons, ← List.flatMap_append] at ht
      rw [List.map_cons, walk, children_of_place hd hp, List.flatMap_cons, t.numbers_eq_cons,
        List.cons_append, ← List.flatMap_append]
      simp only [id_eq, ← List.map_append, ih _ hall (Nat.le_of_succ_le_succ ht), Option.map_some]

/-- In whatever order a walk takes children, it visits what is in the subtrees on its stack. -/
theorem walk_perm {arrange : List Nat → List Nat} (ha : ∀ children, (arrange children).Perm children)
    (ts : List Tree) (turns : Nat) (h : ∀ t ∈ ts, ∃ path, (path, t) ∈ d.body.places [])
    (ht : (ts.flatMap Tree.numbers).length ≤ turns) {stack : List Nat}
    (hs : stack.Perm (ts.map (·.root.number))) :
    ∃ visited, d.walk arrange turns stack = some visited ∧ visited.Perm (ts.flatMap Tree.numbers) := by
  induction turns generalizing ts stack with
  | zero =>
    cases ts with
    | nil =>
      rw [hs.eq_nil]
      exact ⟨[], rfl, List.Perm.nil⟩
    | cons t ts =>
      rw [List.flatMap_cons, t.numbers_eq_cons] at ht
      cases ht
  | succ turns ih =>
    cases stack with
    | nil =>
      rw [List.map_eq_nil_iff.mp hs.symm.eq_nil]
      exact ⟨[], rfl, List.Perm.nil⟩
    | cons number stack =>
      obtain ⟨t, hm, rfl⟩ := List.mem_map.mp (hs.subset List.mem_cons_self)
      obtain ⟨before, after, rfl⟩ := List.append_of_mem hm
      obtain ⟨path, hp⟩ := h t hm
      have hsplit : (before ++ t :: after).Perm (t :: (before ++ after)) := List.perm_middle
      have hall : ∀ c ∈ t.children ++ (before ++ after), ∃ path, (path, c) ∈ d.body.places [] := by
        refine List.forall_mem_append.mpr ⟨fun c hc => ⟨_, Tree.mem_places_child hp hc⟩, ?_⟩
        exact fun c hc => h c (hsplit.symm.subset (List.mem_cons_of_mem t hc))
      have hflat := hsplit.flatMap_right Tree.numbers
      rw [List.flatMap_cons, t.numbers_eq_cons, List.cons_append, ← List.flatMap_append] at hflat
      have hlen := hflat.length_eq
      rw [List.length_cons] at hlen
      have hrest : stack.Perm ((before ++ after).map (·.root.number)) :=
        (hs.trans (hsplit.map _)).cons_inv
      have hstack : (arrange (t.children.map (·.root.number)) ++ stack).Perm
          ((t.children ++ (before ++ after)).map (·.root.number)) := by
        rw [List.map_append]
        exact (ha _).append hrest
      obtain ⟨visited, hv, hperm⟩ := ih _ hall (by omega) hstack
      refine ⟨t.root.number :: visited, ?_, (hperm.cons _).trans hflat.symm⟩
      rw [walk, children_of_place hd hp]
      simp only [hv, Option.map_some]

end

/-! ## Numbered documents are well formed -/

section

variable {d : Document}

/-- A number that was given out and is no longer attached is in one of the subtrees taken out. -/
theorem Numbered.exists_removed (h : d.Numbered) {number : Nat} (hn : number < d.next)
    (ha : ¬ d.Attached number) : ∃ t ∈ d.removed, number ∈ t.numbers := by
  have hm := h.perm.symm.subset (List.mem_range.mpr hn)
  rcases List.mem_append.mp hm with hm | hm
  · exact absurd (attached_iff.mpr hm) ha
  · exact List.mem_flatMap.mp hm

theorem Numbered.not_attached_of_removed (h : d.Numbered) {t : Tree} (ht : t ∈ d.removed) {number : Nat}
    (hn : number ∈ t.numbers) : ¬ d.Attached number := by
  intro ha
  have hnd := List.nodup_append.mp (h.perm.nodup_iff.mpr List.nodup_range)
  exact hnd.2.2 number (attached_iff.mp ha) number (List.mem_flatMap.mpr ⟨t, ht, hn⟩) rfl

theorem Numbered.wellFormed (hd : d.Numbered) : d.WellFormed where
  body := by
    have hp : ([], d.body) ∈ d.body.places [] := Tree.mem_places_self _
    have hparent := parent_of_place hd hp
    have ha := attached_of_place hp
    rw [hd.root_eq] at hparent ha
    exact ⟨ha, hparent⟩
  parent := by
    intro number ha hne
    obtain ⟨path, s, hs, rfl⟩ := exists_place_of_attached ha
    rcases Tree.mem_places_parent hs with ⟨-, rfl⟩ | ⟨p, rest, rfl, hp, hc⟩
    · exact absurd hd.root_eq hne
    · refine ⟨_, _, parent_of_place hd hs, (hd.rises.of_place hp).lt_child hc, attached_of_place hp,
        children_of_place hd hp, ?_⟩
      exact List.count_eq_one_of_mem (nodup_children hd hp) (List.mem_map_of_mem hc)
  child := by
    intro number children h c hc
    obtain ⟨path, s, hs, rfl, rfl⟩ := exists_place_of_children h
    obtain ⟨t, ht, rfl⟩ := List.mem_map.mp hc
    have hplace := Tree.mem_places_child hs ht
    exact ⟨attached_of_place hplace, parent_of_place hd hplace⟩
  detached := by
    intro number hn ha
    constructor
    · intro parent children h hm
      obtain ⟨path, s, hs, rfl, rfl⟩ := exists_place_of_children h
      obtain ⟨t, ht, rfl⟩ := List.mem_map.mp hm
      exact ha (attached_of_place (Tree.mem_places_child hs ht))
    · obtain ⟨t, ht, hm⟩ := hd.exists_removed hn ha
      obtain ⟨s, hs⟩ := Option.isSome_iff_exists.mp (Tree.isSome_find?.mpr hm)
      obtain ⟨⟨path, hp⟩, -⟩ := Tree.exists_place_of_find? [] hs
      refine ⟨t, ht, s, hs, ?_⟩
      intro n hdesc
      refine hd.not_attached_of_removed ht (List.mem_map_of_mem ((Tree.nodes_infix hp).subset ?_))
      obtain ⟨root, children⟩ := s
      exact List.mem_cons_of_mem root hdesc
  enumerated := by
    have hw := walk_of_places hd [d.body] d.next
      (by simpa using ⟨[], Tree.mem_places_self d.body⟩) (by simpa using hd.length_le)
    exact ⟨by simpa [hd.root_eq] using hw, hd.nodup, fun _ => attached_iff.symm⟩
  climb := by
    intro number ha
    obtain ⟨path, s, hs, rfl⟩ := exists_place_of_attached ha
    exact ⟨_, climb_of_place hd hs (Nat.lt_succ_of_le (length_path_le hd hs)), getLast?_of_place hd hs⟩
  descend := by
    intro number t h turns ht
    obtain ⟨hp, rfl⟩ := Tree.exists_place_of_find? [] (subtree_eq_ok.mp h)
    have hw := walk_of_places hd [t] turns (by simpa using hp) (by simpa using ht)
    simpa using hw
  visit := by
    intro number t h arrange ha turns ht
    obtain ⟨hp, rfl⟩ := Tree.exists_place_of_find? [] (subtree_eq_ok.mp h)
    have hw := walk_perm hd ha [t] turns (by simpa using hp) (by simpa using ht)
      (List.Perm.refl _)
    simpa using hw

end

end Document

/-- Every document that a page comes to is well formed, whatever was done with it and whether it failed or not. -/
theorem wellFormed_after (page : Page) (events : List World.Event) :
    ((World.ofPage page).after events).document.WellFormed :=
  (World.numbered_after page events).wellFormed

end PageScript
