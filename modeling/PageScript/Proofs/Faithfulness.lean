import PageScript.Proofs.Cutting
import PageScript.Proofs.Locality

/-!
# What a page is read back as

A document answers for its elements one at a time and by number. Put together, the answers of a new document are its
page again: the same elements in the same order, tags in lower case, class tokens one by one, and an empty text where the
page gives none.
-/
namespace PageScript

/-- An element as it is read, with what is below it. -/
structure Reading where
  tag : String
  id : Option String
  classes : List String
  value : String
  text : String
  /-- The answer for each name of an attribute. -/
  attr : String → Except Fault (Option String)
  children : List Reading

mutual

/-- What an element of a page should be read back as. -/
def Element.reading : Element → Reading
  | { tag, id, className, value, text, attrs, children, .. } => {
    tag := tag.toLower
    id
    classes := (((className.getD "").toList.splitOnP Text.isBlank).filter (· ≠ [])).map String.ofList
    value := value.getD ""
    text := text.getD ""
    attr := fun name => .ok (attrs.lookup name)
    children := Element.readingAll children }

def Element.readingAll : List Element → List Reading
  | [] => []
  | element :: elements => element.reading :: Element.readingAll elements

end

/-- Reads an element and what is below it by asking a document about one element after another, if the tree is not deeper
than a number of turns. -/
def Document.readBack (d : Document) : Nat → Nat → Option Reading
  | 0, _ => none
  | turns + 1, number => do
    let stored ← (d.node number).toOption
    let classes ← (d.classNames number).toOption
    let value ← (d.value number).toOption
    let text ← (d.text number).toOption
    let children ← (d.children number).toOption
    let below ← children.mapM (readBack d turns)
    return { tag := stored.tag, id := stored.id, classes, value, text, attr := d.attr number, children := below }

/-! ## The texts of an element -/

theorem asciiLowercase_eq (s : String) : Text.asciiLowercase s = s.toLower := by
  unfold Text.asciiLowercase String.toLower
  rw [← String.toList_map, String.ofList_toList]

theorem classTokens_eq (text : String) :
    classTokens text = ((text.toList.splitOnP Text.isBlank).filter (· ≠ [])).map String.ofList := by
  unfold classTokens Text.words
  rw [Text.splitWhere_eq]
  refine congrArg (List.map String.ofList) (List.filter_congr fun piece _ => ?_)
  cases piece <;> simp

theorem getD_classTokens (className : Option String) :
    (className.map classTokens).getD [] =
      (((className.getD "").toList.splitOnP Text.isBlank).filter (· ≠ [])).map String.ofList := by
  cases className with
  | none => simp
  | some text => simp [classTokens_eq]

/-! ## Reading a new document back -/

namespace Document

variable {d : Document}

theorem readBack_of_place (hd : d.Numbered) {path : List Node} {s : Tree} (h : (path, s) ∈ d.body.places [])
    (turns : Nat) : d.readBack (turns + 1) s.root.number =
      ((s.children.map (·.root.number)).mapM (d.readBack turns)).map fun below => {
        tag := s.root.tag, id := s.root.id, classes := s.root.classes, value := s.root.value, text := s.root.text,
        attr := fun name => .ok (s.root.attrs.lookup name), children := below } := by
  have hattr : d.attr s.root.number = fun name => .ok (s.root.attrs.lookup name) := by
    funext name
    simp [attr, node_of_place hd h, Except.map]
  simp [readBack, node_of_place hd h, children_of_place hd h, classNames, value, text, hattr, Except.map,
    Except.toOption, Option.map_eq_bind, Function.comp_def]

mutual

/-- Where the tree of an element stands in a document, the element is read back. -/
theorem readBack_ofElement (hd : d.Numbered) (next turns : Nat) {path : List Node} (e : Element)
    (h : (path, Tree.ofElement next e) ∈ d.body.places []) (ht : e.size ≤ turns) :
    d.readBack turns next = some e.reading := by
  obtain ⟨tag, id, className, value, text, attrs, children, onClick⟩ := e
  rw [Element.size] at ht
  obtain ⟨turns, rfl⟩ := Nat.exists_eq_add_of_le' (Nat.le_of_add_right_le ht)
  have hread := readBack_of_place hd h turns
  have hbelow := readBack_ofElements hd (next + 1) turns children
    (fun t hm => ⟨_, Tree.mem_places_child h hm⟩) (by omega)
  simp only [Tree.ofElement, hbelow, Option.map_some] at hread
  refine hread.trans ?_
  simp [Element.reading, Node.ofElement, asciiLowercase_eq, getD_classTokens]

theorem readBack_ofElements (hd : d.Numbered) (next turns : Nat) (es : List Element)
    (h : ∀ t ∈ Tree.ofElements next es, ∃ path, (path, t) ∈ d.body.places []) (ht : Element.sizeAll es ≤ turns) :
    ((Tree.ofElements next es).map (·.root.number)).mapM (d.readBack turns) = some (Element.readingAll es) := by
  cases es with
  | nil => rfl
  | cons e es =>
    rw [Tree.ofElements, List.forall_mem_cons] at h
    obtain ⟨⟨path, he⟩, hes⟩ := h
    rw [Element.sizeAll] at ht
    have hfirst := readBack_ofElement hd next turns e he (by omega)
    have hrest := readBack_ofElements hd (next + e.size) turns es hes (by omega)
    simp [Tree.ofElements, Tree.root_number_ofElement, Element.readingAll, List.mapM_cons, hfirst, hrest]

end

theorem found_any (d : Document) : d.found ⟨{}, []⟩ = d.body.numbers := by
  have hall : ∀ path ∈ d.body.paths [], (⟨{}, []⟩ : Selector).acceptsPath path = true := by
    intro path hm
    rw [Tree.paths_eq, List.mem_map] at hm
    obtain ⟨place, -, rfl⟩ := hm
    simp [Selector.acceptsPath, Selector.backwards, Compound.accepts, Selector.fits]
  rw [found_eq, List.filter_eq_self.mpr hall, Tree.heads_paths]

theorem numbers_ofPage (p : Page) : (ofPage p).body.numbers = List.range (1 + Element.sizeAll p.body) := by
  rw [ofPage, Tree.numbers_node, Tree.numbers_ofElements, List.range_eq_range', Nat.add_comm 1, List.range'_succ]

end Document

/-- A page is loaded faithfully. Read back from number 0, the document of a page is the forest of the page's elements under
a bare body. The elements are numbered in document order without a gap, and this is the order in which all of them are
found. -/
theorem ofPage_reads_back (page : Page) :
    (∀ spare, (Document.ofPage page).readBack (1 + Element.sizeAll page.body + spare) 0 =
      some {
        tag := "body", id := none, classes := [], value := "", text := "", attr := fun _ => .ok none,
        children := Element.readingAll page.body }) ∧
    (Document.ofPage page).walk id (Document.ofPage page).next [0] =
      some (List.range (1 + Element.sizeAll page.body)) ∧
    World.host.call (.queryAll "*") (World.ofPage page) =
      (.ok (List.range (1 + Element.sizeAll page.body)), World.ofPage page) := by
  have hd := Document.numbered_ofPage page
  have hbody : ([], (Document.ofPage page).body) ∈ (Document.ofPage page).body.places [] := Tree.mem_places_self _
  refine ⟨fun spare => ?_, ?_, ?_⟩
  · have hread := Document.readBack_of_place hd hbody (Element.sizeAll page.body + spare)
    have hbelow := Document.readBack_ofElements hd 1 (Element.sizeAll page.body + spare) page.body
      (fun t ht => ⟨_, Tree.mem_places_child hbody ht⟩) (by omega)
    have hchildren : (Document.ofPage page).body.children = Tree.ofElements 1 page.body := rfl
    rw [hchildren, hbelow] at hread
    rw [Nat.add_comm 1, Nat.add_right_comm]
    exact hread
  · rw [← Document.numbers_ofPage]
    exact hd.wellFormed.enumerated.1
  · have hany : Selector.parse "*" = .ok ⟨{}, []⟩ := rfl
    rw [Document.queryAll_eq hany, Document.found_any, ← Document.numbers_ofPage]
    rfl

end PageScript
