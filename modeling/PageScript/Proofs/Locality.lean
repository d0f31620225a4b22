import PageScript.Proofs.Chains

/-!
# Local edits

An edit of a document changes what a selector finds only where it is made. Values and texts are asked for by no
selector, and a class only by those that name it. A new subtree is one stretch of document order, right behind the
subtree of its parent as it was, and a subtree that is taken out was one; on both sides of it everything is found as
before, since an element keeps its ancestors.
-/
namespace PageScript

namespace Tree

/-! ## Paths of an edited tree -/

theorem paths_update (number : Nat) (change : Node → Node) (t : Tree) (above : List Node) :
    let change' := fun n : Node => if n.number = number then change n else n
    (t.update number change).paths (above.map change') = (t.paths above).map (List.map change') := by
  intro change'
  induction t using induct generalizing above with
  | node root children ih =>
    have hchildren : ∀ c ∈ children, (c.update number change).paths ((root :: above).map change') =
        (c.paths (root :: above)).map (List.map change') := fun c hc => ih c hc _
    rw [update_node, paths, paths, pathsAll_eq, pathsAll_eq, List.map_cons, List.map_flatMap, List.flatMap_map]
    exact congrArg _ (List.flatMap_congr hchildren)

theorem modify_of_not_mem {number : Nat} {t : Tree} (h : number ∉ t.numbers) (change : Tree → Tree) :
    t.modify number change = t := by
  induction t using induct with
  | node root children ih =>
    rw [numbers_node, List.mem_cons, List.mem_flatMap] at h
    push Not at h
    rw [modify, if_neg (Ne.symm h.1), modifyAll_eq, List.map_congr_left (g := id) ?_, List.map_id]
    exact fun c hc => ih c hc (h.2 c hc)

theorem modifyAll_of_not_mem {number : Nat} {ts : List Tree} (h : number ∉ ts.flatMap numbers) (change : Tree → Tree) :
    modifyAll number change ts = ts := by
  rw [modifyAll_eq, List.map_congr_left (g := id) ?_, List.map_id]
  exact fun t ht => modify_of_not_mem (fun hm => h (List.mem_flatMap.mpr ⟨t, ht, hm⟩)) change

/-- A number that occurs in one of several trees, and nowhere twice, occurs in none of the others. -/
theorem not_mem_of_nodup {number : Nat} {left right : List Tree} {t : Tree}
    (hn : ((left ++ t :: right).flatMap numbers).Nodup) (h : number ∈ t.numbers) :
    number ∉ left.flatMap numbers ∧ t.numbers.Nodup ∧ number ∉ right.flatMap numbers := by
  rw [List.flatMap_append, List.flatMap_cons, List.nodup_append] at hn
  obtain ⟨-, hright, hleft⟩ := hn
  obtain ⟨ht, -, hright⟩ := List.nodup_append.mp hright
  exact ⟨fun hm => hleft number hm number (List.mem_append_left _ h) rfl, ht,
    fun hm => hright number h number hm rfl⟩

/-- The paths of a tree around those of one of its subtrees stay as they are if the subtree is changed or taken out. -/
theorem exists_paths_eq {t s : Tree} {above path : List Node} (hn : t.numbers.Nodup)
    (h : (path, s) ∈ t.places above) :
    ∃ before after, t.paths above = before ++ s.paths path ++ after ∧
      (∀ change, (t.modify s.root.number change).paths above = before ++ (change s).paths path ++ after ∧
        (path, change s) ∈ (t.modify s.root.number change).places above) ∧
      (t.root.number ≠ s.root.number → (t.remove s.root.number).paths above = before ++ after) := by
  induction t using induct generalizing above with
  | node root children ih =>
    rw [numbers_node, List.nodup_cons] at hn
    rcases mem_places_node.mp h with he | ⟨c, hc, hplace⟩
    · cases he
      refine ⟨[], [], by simp, fun change => ?_, fun hne => absurd rfl hne⟩
      rw [modify, if_pos rfl, modifyAll_of_not_mem hn.1]
      exact ⟨by simp, mem_places_self _⟩
    · obtain ⟨left, right, rfl⟩ := List.append_of_mem hc
      have hm : s.root.number ∈ c.numbers := mem_numbers_of_place hplace
      have hroot : root.number ≠ s.root.number := by
        intro he
        exact hn.1 (List.mem_flatMap.mpr ⟨c, hc, he ▸ hm⟩)
      obtain ⟨hleft, hnc, hright⟩ := not_mem_of_nodup hn.2 hm
      obtain ⟨before, after, hpaths, hmodify, hremove⟩ := ih c hc hnc hplace
      refine ⟨(root :: above) :: (left.flatMap (paths (root :: above)) ++ before),
        after ++ right.flatMap (paths (root :: above)), ?_, fun change => ?_, fun _ => ?_⟩
      · simp [paths, pathsAll_eq, hpaths]
      · rw [modify, if_neg hroot, modifyAll_eq, List.map_append, List.map_cons, ← modifyAll_eq, ← modifyAll_eq,
          modifyAll_of_not_mem hleft, modifyAll_of_not_mem hright]
        refine ⟨by simp [paths, pathsAll_eq, (hmodify change).1], ?_⟩
        refine mem_places_node.mpr (.inr ⟨_, ?_, (hmodify change).2⟩)
        exact List.mem_append_right _ List.mem_cons_self
      · rw [remove, removeAll_eq, List.filter_append, List.map_append, ← removeAll_eq, removeAll_of_not_mem hleft,
          ← removeAll_eq, removeAll, removeAll_of_not_mem hright]
        by_cases hc : c.root.number = s.root.number
        · obtain ⟨rfl, rfl⟩ := place_unique hnc hplace (mem_places_self c) hc.symm
          have hlength := congrArg List.length hpaths
          simp only [List.length_append] at hlength
          obtain rfl : before = [] := List.eq_nil_of_length_eq_zero (by omega)
          obtain rfl : after = [] := List.eq_nil_of_length_eq_zero (by omega)
          rw [if_pos rfl]
          simp [paths, pathsAll_eq]
        · rw [if_neg hc]
          simp [paths, pathsAll_eq, hremove hc]

theorem paths_append_child (t new : Tree) (above : List Node) :
    ({ t with children := t.children ++ [new] } : Tree).paths above = t.paths above ++ new.paths (t.root :: above) := by
  obtain ⟨root, children⟩ := t
  simp [paths, pathsAll_eq]

end Tree

/-! ## Selectors on edited paths -/

namespace Selector

/-- What a selector asks for, of an element and of those above it. -/
def compounds (s : Selector) : List Compound := s.first :: s.rest.map Prod.snd

theorem mem_compounds_of_backwards {s : Selector} {c : Compound}
    (h : c ∈ s.backwards.1 :: s.backwards.2.map Prod.snd) : c ∈ s.compounds := by
  have hfold (first : Compound) (rest links : List (Combinator × Compound)) :
      let last := rest.foldl (fun read link => (link.2, (link.1, read.1) :: read.2)) (first, links)
      c ∈ last.1 :: last.2.map Prod.snd → c ∈ first :: rest.map Prod.snd ++ links.map Prod.snd := by
    induction rest generalizing first links with
    | nil => exact id
    | cons link rest ih =>
      intro last hlast
      have hc := ih link.2 ((link.1, first) :: links) hlast
      simp only [List.map_cons, List.cons_append, List.mem_cons, List.mem_append] at hc ⊢
      tauto
  simpa [compounds] using hfold s.first s.rest [] h

section

variable {change : Node → Node}

theorem climbs_map (path : List Node) :
    climbs (path.map change) = (climbs path).map (Prod.map change (List.map change)) := by
  induction path with
  | nil => rfl
  | cons n path ih => rw [List.map_cons, climbs, climbs, ih, List.map_cons, Prod.map]

theorem fits_map {links : List (Combinator × Compound)}
    (h : ∀ c ∈ links.map Prod.snd, ∀ n, c.accepts (change n) = c.accepts n) (path : List Node) :
    fits links (path.map change) = fits links path := by
  induction links generalizing path with
  | nil => rw [fits, fits]
  | cons link links ih =>
    obtain ⟨combinator, c⟩ := link
    rw [List.map_cons, List.forall_mem_cons] at h
    cases combinator with
    | child =>
      cases path with
      | nil => rfl
      | cons n above => rw [List.map_cons, fits, fits, h.1, ih h.2]
    | descendant =>
      rw [fits, fits, climbs_map, List.any_map]
      refine congrArg (List.any _) (funext fun place => ?_)
      simp [h.1, ih h.2]

/-- A change that no compound of a selector takes notice of makes no difference to what is accepted. -/
theorem acceptsPath_map {s : Selector} (h : ∀ c ∈ s.compounds, ∀ n, c.accepts (change n) = c.accepts n)
    (path : List Node) : s.acceptsPath (path.map change) = s.acceptsPath path := by
  have hback : ∀ c ∈ s.backwards.1 :: s.backwards.2.map Prod.snd, ∀ n, c.accepts (change n) = c.accepts n :=
    fun c hc => h c (mem_compounds_of_backwards hc)
  obtain ⟨hlast, hlinks⟩ := List.forall_mem_cons.mp hback
  cases path with
  | nil => rfl
  | cons n above => rw [List.map_cons, acceptsPath, acceptsPath, hlast, fits_map hlinks]

end

end Selector

namespace Tree

def heads (paths : List (List Node)) : List Nat := paths.filterMap fun path => path.head?.map Node.number

theorem heads_append (paths later : List (List Node)) : heads (paths ++ later) = heads paths ++ heads later :=
  List.filterMap_append

theorem heads_paths (t : Tree) (above : List Node) : heads (t.paths above) = t.numbers := by
  rw [heads, paths_eq, List.filterMap_map, t.numbers_eq above, ← List.filterMap_eq_map]
  rfl

end Tree

namespace Document

open PageScript.Tree (heads heads_append heads_paths)

def found (d : Document) (s : Selector) : List Nat := (s.select d.body).map Node.number

theorem queryAll_eq {text : String} {s : Selector} (h : Selector.parse text = .ok s) (w : World) :
    World.host.call (.queryAll text) w = (.ok (w.document.found s), w) := by
  change ((w.document.selectAll text).map _, w) = _
  rw [selectAll, h]
  rfl

theorem found_eq (d : Document) (s : Selector) : d.found s = heads ((d.body.paths []).filter s.acceptsPath) := by
  rw [found, Selector.select, heads, List.filterMap_filter, List.map_filterMap]
  refine List.filterMap_congr fun path _ => ?_
  split <;> rfl

variable {d d' : Document} {s : Selector}

/-! ## Changed nodes -/

theorem found_update {change : Node → Node} (hn : ∀ n, (change n).number = n.number)
    (h : ∀ c ∈ s.compounds, ∀ n, c.accepts (change n) = c.accepts n) (number : Nat) :
    (d.update number change).found s = d.found s := by
  let change' := fun n : Node => if n.number = number then change n else n
  have hn' (n : Node) : (change' n).number = n.number := by
    dsimp only [change']
    split
    · exact hn n
    · rfl
  have h' : ∀ c ∈ s.compounds, ∀ n, c.accepts (change' n) = c.accepts n := by
    intro c hc n
    dsimp only [change']
    split
    · exact h c hc n
    · rfl
  have hpaths : (d.update number change).body.paths [] = (d.body.paths []).map (List.map change') :=
    Tree.paths_update number change d.body []
  have hcomp : s.acceptsPath ∘ List.map change' = s.acceptsPath := funext (Selector.acceptsPath_map h')
  rw [found_eq, found_eq, hpaths, List.filter_map, hcomp, heads, List.filterMap_map, heads]
  refine List.filterMap_congr fun path _ => ?_
  cases path with
  | nil => rfl
  | cons n above => exact congrArg some (hn' n)

theorem accepts_classes {c : Compound} {n : Node} {classes : List String}
    (h : ∀ token ∈ c.classes, token ∈ classes ↔ token ∈ n.classes) : c.accepts { n with classes } = c.accepts n := by
  rw [Bool.eq_iff_iff, Compound.accepts_iff, Compound.accepts_iff]
  constructor
  · rintro ⟨ht, hi, hc, ha⟩
    exact ⟨ht, hi, fun token hm => (h token hm).mp (hc token hm), ha⟩
  · rintro ⟨ht, hi, hc, ha⟩
    exact ⟨ht, hi, fun token hm => (h token hm).mpr (hc token hm), ha⟩

/-! ## New subtrees and subtrees taken out -/

/-- Of a new subtree a selector finds one block of elements. It stands behind what was found up to the end of the
subtree of the parent, as that was, and before what was found further on. -/
def Grows (d d' : Document) (s : Selector) (parent : Nat) (new : Tree) : Prop :=
  ∃ subtree before after left block right,
    d.subtree parent = .ok subtree ∧ d'.subtree new.root.number = .ok new ∧
      d.body.numbers = before ++ subtree.numbers ++ after ∧
      d'.body.numbers = before ++ subtree.numbers ++ new.numbers ++ after ∧
      d.found s = left ++ right ∧ d'.found s = left ++ block ++ right ∧
      left.Sublist (before ++ subtree.numbers) ∧ block.Sublist new.numbers ∧ right.Sublist after

theorem heads_filter_sublist (accept : List Node → Bool) (paths : List (List Node)) :
    (heads (paths.filter accept)).Sublist (heads paths) := List.filter_sublist.filterMap _

theorem subtree_insert (hd : d.Numbered) {parent : Nat} (hp : parent ∈ d.body.numbers) (e : Element) :
    (d.insert parent e).subtree (Tree.ofElement d.next e).root.number = .ok (Tree.ofElement d.next e) := by
  obtain ⟨path, p, hplace, rfl⟩ := exists_place_of_attached (attached_iff.mpr hp)
  obtain ⟨before, after, -, hmodify, -⟩ := Tree.exists_paths_eq hd.nodup hplace
  have hplace' := (hmodify fun t => { t with children := t.children ++ [Tree.ofElement d.next e] }).2
  have hnew := Tree.mem_places_child hplace' (List.mem_append_right p.children List.mem_cons_self)
  exact subtree_of_place (hd.insert hp e) hnew

theorem grows_insert (hd : d.Numbered) (s : Selector) {parent : Nat} (hp : parent ∈ d.body.numbers)
    (element : Element) : d.Grows (d.insert parent element) s parent (Tree.ofElement d.next element) := by
  obtain ⟨path, p, hplace, rfl⟩ := exists_place_of_attached (attached_iff.mpr hp)
  obtain ⟨before, after, hpaths, hmodify, -⟩ := Tree.exists_paths_eq hd.nodup hplace
  have hpaths' := (hmodify fun t => { t with children := t.children ++ [Tree.ofElement d.next element] }).1
  rw [Tree.paths_append_child] at hpaths'
  refine ⟨p, heads before, heads after, heads ((before ++ p.paths path).filter s.acceptsPath),
    heads (((Tree.ofElement d.next element).paths (p.root :: path)).filter s.acceptsPath),
    heads (after.filter s.acceptsPath), subtree_of_place hd hplace, subtree_insert hd hp element,
    ?_, ?_, ?_, ?_, ?_, ?_, ?_⟩
  · rw [← heads_paths d.body [], hpaths, heads_append, heads_append, heads_paths]
  · rw [← heads_paths (d.insert p.root.number element).body [], insert, Tree.append, hpaths', heads_append,
      heads_append, heads_append, heads_paths, heads_paths]
    simp only [List.append_assoc]
  · rw [found_eq, hpaths, List.filter_append, heads_append]
  · rw [found_eq, insert, Tree.append, hpaths']
    simp [heads_append]
  · rw [← heads_paths p path, ← heads_append]
    exact heads_filter_sublist _ _
  · rw [← heads_paths _ (p.root :: path)]
    exact heads_filter_sublist _ _
  · exact heads_filter_sublist _ _

theorem found_remove (hd : d.Numbered) (s : Selector) {t : Tree} (ht : d.body.find? t.root.number = some t)
    (hr : t.root.number ≠ d.body.root.number) : (d.remove t).found s = (d.found s).filter (· ∉ t.numbers) := by
  obtain ⟨⟨path, hplace⟩, -⟩ := Tree.exists_place_of_find? [] ht
  obtain ⟨before, after, hpaths, -, hremove⟩ := Tree.exists_paths_eq hd.nodup hplace
  have hnumbers : (heads before ++ t.numbers ++ heads after).Nodup := by
    have hn := hd.nodup
    rwa [← heads_paths d.body [], hpaths, heads_append, heads_append, heads_paths] at hn
  have hkeep {paths : List (List Node)} (h : ∀ number ∈ heads paths, number ∉ t.numbers) :
      (heads (paths.filter s.acceptsPath)).filter (· ∉ t.numbers) = heads (paths.filter s.acceptsPath) := by
    rw [List.filter_eq_self]
    exact fun number hm => decide_eq_true (h number ((heads_filter_sublist _ _).subset hm))
  have hdrop : (heads ((t.paths path).filter s.acceptsPath)).filter (· ∉ t.numbers) = [] := by
    rw [List.filter_eq_nil_iff]
    intro number hm
    have hin := (heads_filter_sublist _ _).subset hm
    rw [heads_paths] at hin
    simpa using hin
  have hbefore := List.nodup_append.mp (List.nodup_append.mp hnumbers).1
  have hafter := (List.nodup_append.mp hnumbers).2.2
  rw [found_eq, found_eq, remove, hremove hr.symm, hpaths]
  simp only [List.filter_append, heads_append]
  rw [hkeep fun number hm hin => hbefore.2.2 number hm number hin rfl, hdrop,
    hkeep fun number hm hin => hafter number (List.mem_append_right _ hin) number hm rfl, List.append_nil]

/-! ## Edits -/

/-- What each edit of a document does to what a selector finds. An effect edits the first match of its target, if there
is one. -/
structure EditsLocally (d : Document) (s : Selector) : Prop where
  setValue : ∀ number value d', d.setValue number value = .ok d' → d'.found s = d.found s
  setValueEffect : ∀ target value delay d', d.apply ⟨target, .setValue value, delay⟩ = .ok (some d') →
    d'.found s = d.found s
  setTextEffect : ∀ target text delay d', d.apply ⟨target, .setText text, delay⟩ = .ok (some d') →
    d'.found s = d.found s
  /-- A class matters to a selector only if one of its compounds asks for it. -/
  addClassEffect : ∀ target token delay d', (∀ c ∈ s.compounds, token ∉ c.classes) →
    d.apply ⟨target, .addClass token, delay⟩ = .ok (some d') → d'.found s = d.found s
  removeClassEffect : ∀ target token delay d', (∀ c ∈ s.compounds, token ∉ c.classes) →
    d.apply ⟨target, .removeClass token, delay⟩ = .ok (some d') → d'.found s = d.found s
  append : ∀ target element number d', d.append target element = .ok (number, d') →
    ∃ n, d.selectFirst target = .ok (some n) ∧ d.Grows d' s n.number (Tree.ofElement number element)
  appendEffect : ∀ target element delay d', d.apply ⟨target, .append element, delay⟩ = .ok (some d') →
    ∃ n, d.selectFirst target = .ok (some n) ∧ d.Grows d' s n.number (Tree.ofElement d.next element)
  removeEffect : ∀ target delay d', d.apply ⟨target, .remove, delay⟩ = .ok (some d') →
    ∃ n t, d.selectFirst target = .ok (some n) ∧ d.subtree n.number = .ok t ∧
      d'.found s = (d.found s).filter (· ∉ t.numbers)

theorem Numbered.editsLocally (hd : d.Numbered) (s : Selector) : d.EditsLocally s where
  setValue := by
    intro number value d' h
    obtain ⟨n, -, rfl⟩ := map_eq_ok.mp h
    refine found_update ?_ ?_ n.number
    · exact fun _ => rfl
    · exact fun _ _ _ => rfl
  setValueEffect := by
    intro target value delay d' h
    obtain ⟨n, -, hc⟩ := exists_change_of_apply h
    cases hc
    refine found_update ?_ ?_ n.number
    · exact fun _ => rfl
    · exact fun _ _ _ => rfl
  setTextEffect := by
    intro target text delay d' h
    obtain ⟨n, -, hc⟩ := exists_change_of_apply h
    cases hc
    refine found_update ?_ ?_ n.number
    · exact fun _ => rfl
    · exact fun _ _ _ => rfl
  addClassEffect := by
    intro target token delay d' hs h
    obtain ⟨n, -, hc⟩ := exists_change_of_apply h
    cases hc
    refine found_update (fun m => by split <;> rfl) (fun c hc m => ?_) n.number
    split
    · rfl
    · refine accepts_classes fun other ho => ?_
      have hne : other ≠ token := fun he => hs c hc (he ▸ ho)
      simp [hne]
  removeClassEffect := by
    intro target token delay d' hs h
    obtain ⟨n, -, hc⟩ := exists_change_of_apply h
    cases hc
    refine found_update ?_ ?_ n.number
    · exact fun _ => rfl
    · refine fun c hc m => accepts_classes fun other ho => ?_
      have hne : other ≠ token := fun he => hs c hc (he ▸ ho)
      simp [hne]
  append := by
    intro target element number d' h
    obtain ⟨n, hs, rfl, rfl⟩ := exists_insert_of_append h
    exact ⟨n, hs, grows_insert hd s (mem_numbers_of_selectFirst hs) element⟩
  appendEffect := by
    intro target element delay d' h
    obtain ⟨n, hs, hc⟩ := exists_change_of_apply h
    cases hc
    exact ⟨n, hs, grows_insert hd s (mem_numbers_of_selectFirst hs) element⟩
  removeEffect := by
    intro target delay d' h
    obtain ⟨n, hs, hc⟩ := exists_change_of_apply h
    rw [change] at hc
    split at hc
    · cases hc
    · rename_i hne
      obtain ⟨t, ht, rfl⟩ := map_eq_ok.mp hc
      have hfind := subtree_eq_ok.mp ht
      have hnumber := (Tree.exists_place_of_find? [] hfind).2
      exact ⟨n, t, hs, ht, found_remove hd s (hnumber ▸ hfind) (hnumber ▸ hne)⟩

end Document

/-- Every edit of a document that a page comes to is local: it changes what a query for a selector answers only where it
is made. -/
theorem edits_local_after (page : Page) (events : List World.Event) (s : Selector) :
    (∀ text, Selector.parse text = .ok s → ∀ w : World,
      World.host.call (.queryAll text) w = (.ok (w.document.found s), w)) ∧
    ((World.ofPage page).after events).document.EditsLocally s :=
  ⟨fun _ h w => Document.queryAll_eq h w, (World.numbered_after page events).editsLocally s⟩

end PageScript
