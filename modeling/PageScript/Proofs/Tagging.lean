import Mathlib
import PageScript.Proofs.Faithfulness
import PageScript.Proofs.Handles
import PageScript.Proofs.Reading

/-!
# Elements by tag

The elements of a tag are found in two ways: by a selector, among all elements, and by a walk through what is below one
element. What is below an element is one stretch of document order, and a selector that asks for a tag alone asks the
same of an element as the walk does. So the walk answers one block of what the selector finds.
-/
namespace PageScript

theorem Text.asciiLowercase_idem (s : String) : asciiLowercase (asciiLowercase s) = asciiLowercase s := by
  simp [asciiLowercase, Function.comp_def]

namespace Selector

open Grammar (Clause)

theorem parse_clause (clause : Clause) : parse (String.ofList clause.text) = .ok ⟨clause.compound, []⟩ := by
  let d : Derivation := ⟨⟨[], nofun⟩, clause, [], ⟨[], nofun⟩⟩
  have htext : d.text = clause.text := by simp [d, Derivation.text]
  rw [parse_eq_ok, String.toList_ofList, ← htext]
  exact parseChars_text d

theorem parse_tag {tag : String} (h : IsName tag.toList) :
    parse tag = .ok ⟨{ tag := some (Text.asciiLowercase tag) }, []⟩ := by
  have hclause := parse_clause ⟨some (.tag ⟨tag.toList, h⟩), [], nofun⟩
  simpa [Clause.text, Grammar.Start.text, Clause.compound, Grammar.Start.tag?] using hclause

theorem acceptsPath_compound (c : Compound) (n : Node) (above : List Node) :
    (⟨c, []⟩ : Selector).acceptsPath (n :: above) = c.accepts n := by
  simp [acceptsPath, backwards, fits]

end Selector

/-- A tag is lowered when it is read and again when it is compared, which makes no difference. -/
theorem Compound.accepts_tag (tag : String) : ({ tag := some (Text.asciiLowercase tag) } : Compound).accepts =
    fun n => Text.asciiLowercase n.tag == Text.asciiLowercase tag := by
  funext n
  simp [accepts, Text.asciiLowercase_idem]

namespace Document

variable {d : Document} {number : Nat}

theorem found_compound (d : Document) (c : Compound) :
    d.found ⟨c, []⟩ = (d.nodes.filter c.accepts).map Node.number := by
  have hplace : ∀ place : List Node × Tree,
      (⟨c, []⟩ : Selector).acceptsPath (place.2.root :: place.1) = c.accepts place.2.root :=
    fun place => Selector.acceptsPath_compound c place.2.root place.1
  simp [found, select_eq, nodes, d.body.nodes_eq [], hplace, List.filter_map, Function.comp_def]

theorem Numbered.mem_found_compound (hd : d.Numbered) {c : Compound} :
    number ∈ d.found ⟨c, []⟩ ↔ ∃ n, d.node number = .ok n ∧ c.accepts n = true := by
  simp only [found_compound, List.mem_map, List.mem_filter]
  constructor
  · rintro ⟨n, ⟨hn, hc⟩, rfl⟩
    exact ⟨n, node_of_mem_nodes hd hn, hc⟩
  · rintro ⟨n, hn, hc⟩
    obtain ⟨t, ht, rfl⟩ := node_eq_ok.mp hn
    exact ⟨t.root, ⟨mem_nodes_of_node hn, hc⟩, (Tree.exists_place_of_find? [] ht).2⟩

/-! ## What is below an element -/

theorem Numbered.lt_of_isParent (hd : d.Numbered) {parent : Nat} (h : d.IsParent parent number) : parent < number := by
  have ha : d.Attached number := by
    obtain ⟨n, hn, -⟩ := map_eq_ok.mp h
    exact ⟨n, hn⟩
  have hne : number ≠ 0 := by
    rintro rfl
    have hbody := hd.wellFormed.body.2
    rw [show d.parent 0 = .ok (some parent) from h] at hbody
    cases hbody
  obtain ⟨p, -, hp, hlt, -⟩ := hd.wellFormed.parent number ha hne
  cases hp.symm.trans h
  exact hlt

theorem Numbered.lt_of_below (hd : d.Numbered) {above : Nat} (h : Relation.TransGen d.IsParent above number) :
    above < number := by
  induction h with
  | single hp => exact hd.lt_of_isParent hp
  | tail _ hp ih => exact ih.trans (hd.lt_of_isParent hp)

theorem Numbered.mem_descendants_iff (hd : d.Numbered) {t : Tree} (ht : d.body.find? t.root.number = some t) :
    number ∈ t.descendants.map Node.number ↔ Relation.TransGen d.IsParent t.root.number number := by
  have hnumbers : t.numbers = t.root.number :: t.descendants.map Node.number := by
    obtain ⟨root, children⟩ := t
    rfl
  obtain ⟨⟨path, hplace⟩, -⟩ := Tree.exists_place_of_find? [] ht
  have hnodup : t.numbers.Nodup := hd.nodup.sublist ((Tree.nodes_infix hplace).map _).sublist
  have hmem : number ∈ t.numbers ↔ Relation.ReflTransGen d.IsParent t.root.number number := hd.mem_numbers_iff ht
  rw [hnumbers, List.mem_cons, Relation.reflTransGen_iff_eq_or_transGen] at hmem
  rw [hnumbers, List.nodup_cons] at hnodup
  constructor
  · intro hm
    refine (hmem.mp (.inr hm)).resolve_left ?_
    rintro rfl
    exact hnodup.1 hm
  · intro hbelow
    exact (hmem.mpr (.inr hbelow)).resolve_left (hd.lt_of_below hbelow).ne'

/-- What a compound alone finds is cut at what is below an element. -/
theorem Numbered.found_cut (hd : d.Numbered) (c : Compound) {t : Tree} (ht : d.body.find? t.root.number = some t) :
    ∃ before after, d.found ⟨c, []⟩ = before ++ (t.descendants.filter c.accepts).map Node.number ++ after ∧
      ∀ m ∈ before ++ after, m ∉ t.descendants.map Node.number := by
  obtain ⟨⟨path, hplace⟩, -⟩ := Tree.exists_place_of_find? [] ht
  obtain ⟨left, right, hnodes⟩ := Tree.nodes_infix hplace
  have hcut : d.nodes = left ++ [t.root] ++ t.descendants ++ right := by
    obtain ⟨root, children⟩ := t
    simp [nodes, ← hnodes, Tree.nodes, Tree.descendants]
  have hnodup : (d.nodes.map Node.number).Nodup := hd.nodup
  rw [hcut, List.map_append, List.map_append, List.nodup_append, List.nodup_append] at hnodup
  obtain ⟨⟨-, -, hleft⟩, -, hright⟩ := hnodup
  refine ⟨((left ++ [t.root]).filter c.accepts).map Node.number, (right.filter c.accepts).map Node.number, ?_, ?_⟩
  · simp only [found_compound, hcut, List.filter_append, List.map_append]
  · intro m hm hbelow
    rcases List.mem_append.mp hm with hm | hm
    · exact hleft m ((List.filter_sublist.map Node.number).subset hm) m hbelow rfl
    · exact hright m (List.mem_append_right _ hbelow) m ((List.filter_sublist.map Node.number).subset hm) rfl

end Document

/-- In every document that a page comes to, a name finds the elements of that tag, and those of them that are below an
element stand in one block, which is what the element answers when it is asked for the tag. Letter case makes no
difference to either, as far as it is ASCII. -/
theorem elementsByTag_block (page : Page) (events : List World.Event) {tag : String} (h : Selector.IsName tag.toList)
    {number : Nat} :
    let w := (World.ofPage page).after events
    w.document.Attached number → ∃ before block after : List Nat,
      World.host.call (.queryAll tag) w = (.ok (before ++ block ++ after), w) ∧
      World.host.call (.elementsByTag number tag) w = (.ok block, w) ∧
      (∀ m ∈ block, Relation.TransGen w.document.IsParent number m) ∧
      (∀ m ∈ before ++ after, ¬Relation.TransGen w.document.IsParent number m) ∧
      ∀ m, m ∈ before ++ block ++ after ↔
        ∃ n, w.document.node m = .ok n ∧ Text.asciiLowercase n.tag = Text.asciiLowercase tag := by
  intro w ha
  have hd : w.document.Numbered := World.numbered_after page events
  obtain ⟨path, t, hplace, rfl⟩ := Document.exists_place_of_attached ha
  have ht : w.document.body.find? t.root.number = some t := Tree.find?_of_place hd.nodup hplace
  obtain ⟨before, after, hfound, hout⟩ := hd.found_cut { tag := some (Text.asciiLowercase tag) } ht
  refine ⟨before, _, after, hfound ▸ Document.queryAll_eq (Selector.parse_tag h) w, ?_, ?_, ?_, ?_⟩
  · change (w.document.elementsByTag t.root.number tag, w) = _
    rw [Document.elementsByTag, Document.subtree_of_place hd hplace, Compound.accepts_tag]
    rfl
  · intro m hm
    exact (hd.mem_descendants_iff ht).mp ((List.filter_sublist.map Node.number).subset hm)
  · intro m hm hbelow
    exact hout m hm ((hd.mem_descendants_iff ht).mpr hbelow)
  · intro m
    rw [← hfound, hd.mem_found_compound, Compound.accepts_tag]
    simp only [beq_iff_eq]

/-- One item was put into an item of a list, and another one behind the list. The items are found in document order, and
those of the list are the block in the middle. -/
theorem elementsByTag_block_appended :
    let item : Element := { tag := "li" }
    let page : Page := { body := [item, { tag := "ul", children := [item, { tag := "LI", id := some "last" }] }] }
    let w := (World.ofPage page).after [.append "#last" item, .append "body" item]
    Selector.IsName "Li".toList ∧ w.document.Attached 2 ∧ ∃ before after : List Nat,
      before ++ [3, 4, 5] ++ after = [1, 3, 4, 5, 6] ∧
      World.host.call (.queryAll "Li") w = (.ok (before ++ [3, 4, 5] ++ after), w) ∧
      World.host.call (.elementsByTag 2 "Li") w = (.ok [3, 4, 5], w) ∧
      (∀ m ∈ [3, 4, 5], Relation.TransGen w.document.IsParent 2 m) ∧
      ∀ m ∈ before ++ after, ¬Relation.TransGen w.document.IsParent 2 m := by
  intro item page w
  have hname : Selector.IsName "Li".toList := ⟨by decide, List.all_eq_true.mp rfl⟩
  have ha : w.document.Attached 2 := by
    rw [Document.attached_iff]
    decide +kernel
  obtain ⟨before, block, after, hall, hbelow, hin, hout, -⟩ := elementsByTag_block page [_, _] hname ha
  have hfound : (World.host.call (.queryAll "Li") w).1 = .ok [1, 3, 4, 5, 6] := by decide +kernel
  have hblock : (World.host.call (.elementsByTag 2 "Li") w).1 = .ok [3, 4, 5] := by decide +kernel
  rw [hall] at hfound
  rw [hbelow] at hblock
  cases hblock
  exact ⟨hname, ha, before, after, Except.ok.inj hfound, hall, hbelow, hin, hout⟩

end PageScript
