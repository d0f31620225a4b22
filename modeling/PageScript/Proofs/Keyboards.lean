import PageScript.Keyboard
import PageScript.Proofs.Lockstep
import PageScript.Proofs.WellFormed

/-!
# Reading keyboards

The keys of an on-screen keyboard can be told from its tree alone: the key of a glyph is the one around the last label
that stands for it. Reading a keyboard asks for its labels one by one and lets each overrule those before it, which
comes to the same, and it never fails in a document that a page comes to.
-/
namespace PageScript

namespace Tree

mutual

/-- The elements below the root in document order, each behind its parent. -/
def links : Tree → List (Tree × Tree)
  | ⟨root, children⟩ => linksAll ⟨root, children⟩ children

def linksAll (parent : Tree) : List Tree → List (Tree × Tree)
  | [] => []
  | tree :: trees => (parent, tree) :: (tree.links ++ linksAll parent trees)

end

theorem linksAll_eq (parent : Tree) (ts : List Tree) :
    linksAll parent ts = ts.flatMap fun t => (parent, t) :: t.links := by
  induction ts with
  | nil => rfl
  | cons t ts ih => rw [linksAll, ih, List.flatMap_cons, List.cons_append]

theorem descendants_eq (t : Tree) : t.descendants = t.links.map (·.2.root) := by
  induction t using induct with
  | node root children ih =>
    rw [descendants, nodesAll_eq, links, linksAll_eq, List.map_flatMap]
    refine List.flatMap_congr fun c hc => ?_
    rw [List.map_cons, ← ih c hc]
    cases c
    rfl

theorem exists_place_of_mem_links {t s p c : Tree} {above path : List Node} (h : (path, s) ∈ t.places above)
    (hpc : (p, c) ∈ s.links) : c ∈ p.children ∧ ∃ rest, (rest, p) ∈ t.places above := by
  induction s using induct generalizing path with
  | node root children ih =>
    rw [links, linksAll_eq, List.mem_flatMap] at hpc
    obtain ⟨child, hchild, hpc⟩ := hpc
    rcases List.mem_cons.mp hpc with he | hpc
    · cases he
      exact ⟨hchild, path, h⟩
    · exact ih child hchild (mem_places_child h hchild) hpc

end Tree

namespace Keyboard

/-- Whether an element says by its `alt` that its key is shift. -/
def namesShift (n : Node) : Bool := (n.attrs.lookup "alt").any (Text.asciiLowercase · == shift)

/-- The glyph that a label stands for on its key. -/
def glyphOf (key label : Tree) : Option String :=
  if label.root.text = "" then if key.children.any (namesShift ·.root) then some shift else none
  else some (Text.lowercase label.root.text)

/-- The labels of a keyboard in document order, each behind its key. -/
def labels (keyboard : Tree) : List (Tree × Tree) :=
  keyboard.links.filter fun l => Text.asciiLowercase l.2.root.tag == labelTag

/-- The key of a glyph is that of its last label. -/
def keyOf (keyboard : Tree) (glyph : String) : Option Nat :=
  ((labels keyboard).filter fun l => glyphOf l.1 l.2 == some glyph).getLast?.map (·.1.root.number)

/-! ## Reading a keyboard -/

section

variable {w : World} {key : Tree} {above : List Node}

theorem addShift_apply {c : Tree} (hc : w.document.node c.root.number = .ok c.root) (number : Nat) (layout : Layout) :
    addShift World.host number layout c.root.number w =
      (.ok (if namesShift c.root then Assoc.put shift number layout else layout), w) := by
  have hask : World.host.ask (.attr c.root.number "alt") w = (.ok (c.root.attrs.lookup "alt"), w) := by
    change (w.document.attr c.root.number "alt", w) = _
    rw [Document.attr, hc]
    rfl
  rw [addShift, Call.bind_apply, hask]
  rfl

theorem foldlM_addShift {children : List Tree} (h : ∀ c ∈ children, w.document.node c.root.number = .ok c.root)
    (number : Nat) (layout : Layout) :
    ∃ layout', (children.map (·.root.number)).foldlM (addShift World.host number) layout w = (.ok layout', w) ∧
      ∀ glyph, layout'.lookup glyph =
        if shift = glyph ∧ children.any (namesShift ·.root) then some number else layout.lookup glyph := by
  induction children generalizing layout with
  | nil => exact ⟨layout, rfl, by simp⟩
  | cons c children ih =>
    obtain ⟨hc, h⟩ := List.forall_mem_cons.mp h
    obtain ⟨layout', hrun, hlookup⟩ := ih h (if namesShift c.root then Assoc.put shift number layout else layout)
    refine ⟨layout', ?_, fun glyph => ?_⟩
    · rw [List.map_cons, List.foldlM_cons, Call.bind_apply, addShift_apply hc]
      exact hrun
    · rw [hlookup, List.any_cons]
      by_cases hg : shift = glyph
      · subst hg
        cases namesShift c.root <;> cases children.any (namesShift ·.root) <;> simp
      · cases namesShift c.root <;> simp [hg, Assoc.lookup_put_of_ne (Ne.symm hg)]

variable (hd : w.document.Numbered)

include hd

/-- A label overrules the layout for its glyph and leaves the others as they are. -/
theorem addKey_apply (hkey : (above, key) ∈ w.document.body.places []) {label : Tree} (hlabel : label ∈ key.children)
    (layout : Layout) :
    ∃ layout', addKey World.host layout label.root.number w = (.ok layout', w) ∧
      ∀ glyph, layout'.lookup glyph =
        if glyphOf key label = some glyph then some key.root.number else layout.lookup glyph := by
  have hplace := Tree.mem_places_child hkey hlabel
  have hparent : World.host.ask (.parent label.root.number) w = (.ok (some key.root.number), w) := by
    change (w.document.parent label.root.number, w) = _
    rw [Document.parent_of_place hd hplace]
    rfl
  have htext : World.host.ask (.text label.root.number) w = (.ok label.root.text, w) := by
    change (w.document.text label.root.number, w) = _
    rw [Document.text, Document.node_of_place hd hplace]
    rfl
  have hchildren : World.host.ask (.children key.root.number) w =
      (.ok (key.children.map (·.root.number)), w) := by
    change (w.document.children key.root.number, w) = _
    rw [Document.children_of_place hd hkey]
  rw [addKey, Call.bind_apply, hparent]
  dsimp only
  rw [Call.bind_apply, htext]
  dsimp only
  by_cases hempty : label.root.text = ""
  · rw [if_pos hempty, Call.bind_apply, hchildren]
    obtain ⟨layout', hrun, hlookup⟩ := foldlM_addShift
      (fun c hc => Document.node_of_place hd (Tree.mem_places_child hkey hc)) key.root.number layout
    refine ⟨layout', hrun, fun glyph => ?_⟩
    rw [hlookup, glyphOf, if_pos hempty]
    cases key.children.any (namesShift ·.root) <;> simp
  · rw [if_neg hempty]
    refine ⟨_, rfl, fun glyph => ?_⟩
    rw [glyphOf, if_neg hempty]
    by_cases hg : Text.lowercase label.root.text = glyph
    · simp [hg]
    · simp [hg, Assoc.lookup_put_of_ne (Ne.symm hg)]

theorem foldlM_addKey {pairs : List (Tree × Tree)}
    (h : ∀ l ∈ pairs, l.2 ∈ l.1.children ∧ ∃ above, (above, l.1) ∈ w.document.body.places []) (layout : Layout) :
    ∃ layout', (pairs.map (·.2.root.number)).foldlM (addKey World.host) layout w = (.ok layout', w) ∧
      ∀ glyph, layout'.lookup glyph =
        ((pairs.filter fun l => glyphOf l.1 l.2 == some glyph).getLast?.map (·.1.root.number)).or
          (layout.lookup glyph) := by
  induction pairs generalizing layout with
  | nil => exact ⟨layout, rfl, fun glyph => rfl⟩
  | cons l pairs ih =>
    obtain ⟨⟨hlabel, above, hkey⟩, h⟩ := List.forall_mem_cons.mp h
    obtain ⟨next, hadd, hnext⟩ := addKey_apply hd hkey hlabel layout
    obtain ⟨layout', hrun, hlookup⟩ := ih h next
    refine ⟨layout', ?_, fun glyph => ?_⟩
    · rw [List.map_cons, List.foldlM_cons, Call.bind_apply, hadd]
      exact hrun
    · rw [hlookup, hnext, List.filter_cons]
      by_cases hg : glyphOf l.1 l.2 = some glyph
      · rw [if_pos hg, if_pos (beq_iff_eq.mpr hg), List.getLast?_cons]
        cases (pairs.filter fun l => glyphOf l.1 l.2 == some glyph).getLast? <;> rfl
      · rw [if_neg hg, if_neg (mt beq_iff_eq.mp hg)]

/-- Reading a keyboard of the document comes to the keys that its tree says, and does nothing to the document. -/
theorem layout_apply {keyboard : Tree} (h : (above, keyboard) ∈ w.document.body.places []) :
    ∃ layout, Keyboard.layout World.host keyboard.root.number w = (.ok layout, w) ∧
      ∀ glyph, layout.lookup glyph = keyOf keyboard glyph := by
  have hlabels : World.host.ask (.elementsByTag keyboard.root.number labelTag) w =
      (.ok ((labels keyboard).map (·.2.root.number)), w) := by
    change (w.document.elementsByTag keyboard.root.number labelTag, w) = _
    rw [Document.elementsByTag, Document.subtree_of_place hd h]
    simp only [Except.map, keyboard.descendants_eq, labels, List.filter_map, List.map_map]
    rfl
  have hplaces (l : Tree × Tree) (hl : l ∈ labels keyboard) :=
    Tree.exists_place_of_mem_links h (List.mem_of_mem_filter hl)
  obtain ⟨layout, hrun, hlookup⟩ := foldlM_addKey hd hplaces []
  refine ⟨layout, ?_, fun glyph => ?_⟩
  · rw [Keyboard.layout, Call.bind_apply, hlabels]
    exact hrun
  · rw [hlookup, keyOf]
    simp

end

/-! ## What to press -/

theorem presses_eq (layout : Layout) (text : String) :
    layout.presses text =
      match (glyphs text).find? fun glyph => (layout.lookup glyph).isNone with
      | some glyph => .error glyph
      | none => .ok ((glyphs text).filterMap (List.lookup · layout)) := by
  rw [Layout.presses]
  induction glyphs text with
  | nil => rfl
  | cons glyph glyphs ih =>
    rw [List.mapM_cons, ih, List.find?_cons]
    cases hkey : layout.lookup glyph with
    | none => simp [bind, Except.bind]
    | some key =>
      rw [List.filterMap_cons, hkey]
      cases glyphs.find? fun glyph => (List.lookup glyph layout).isNone <;> rfl

end Keyboard

end PageScript
