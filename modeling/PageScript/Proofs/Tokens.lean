import PageScript.Proofs.Tagging
import PageScript.Proofs.Triggering

/-!
# Class tokens

Classes come into a document in two ways. The class text of an element that a page or an append brings is cut at its
blanks, so that each class is a token. The text of an effect that adds a class is taken as it stands, blanks and all,
and then no selector for one class can name it. So a class is a token or the text of such an effect, and the two ways
come to the same for a text that is one token, and for one that has no name among its tokens.
-/
namespace PageScript

/-- A text that is one class token. -/
def IsToken (text : String) : Prop := text.toList ≠ [] ∧ ∀ c ∈ text.toList, Text.isBlank c = false

/-! ## The tokens of a text -/

theorem isToken_of_mem_classTokens {text token : String} (h : token ∈ classTokens text) : IsToken token := by
  obtain ⟨word, hword, rfl⟩ := List.mem_map.mp h
  obtain ⟨hpiece, hne⟩ := List.mem_filter.mp hword
  rw [IsToken, String.toList_ofList]
  exact ⟨by simpa using hne, fun c hc => (Text.of_mem_splitWhere hpiece c hc).2⟩

theorem IsToken.classTokens_eq {text : String} (h : IsToken text) : classTokens text = [text] := by
  have hsplit : text.toList.splitOnP Text.isBlank = [text.toList] :=
    List.splitOnP_eq_singleton fun c hc => by simp [h.2 c hc]
  simp [PageScript.classTokens_eq, hsplit, h.1]

/-- A new element has the tokens of its class text. No class text is an empty one. -/
theorem Node.classes_ofElement (number : Nat) (e : Element) :
    (ofElement number e).classes = classTokens (e.className.getD "") := by
  cases h : e.className with
  | none => simp [ofElement, h, classTokens_eq]
  | some text => simp [ofElement, h]

theorem Selector.IsName.isToken {name : String} (h : IsName name.toList) : IsToken name := by
  refine ⟨h.1, fun c hc => ?_⟩
  by_contra hblank
  have hchar := not_isNameChar_of_isBlank ((Bool.not_eq_false _).mp hblank)
  rw [h.2 c hc] at hchar
  cases hchar

open Selector (IsName)

/-- As far as names go, a text is the same as its tokens only if it is one or has no name among them. -/
theorem eq_iff_mem_classTokens (text : String) :
    (∀ name : String, IsName name.toList → (name = text ↔ name ∈ classTokens text)) ↔
      IsToken text ∨ ∀ token ∈ classTokens text, ¬IsName token.toList := by
  by_cases ht : IsToken text
  · simp [ht, ht.classTokens_eq]
  · simp only [ht, false_or]
    constructor
    · intro h token hm hname
      have heq := (h token hname).mpr hm
      exact ht (heq ▸ isToken_of_mem_classTokens hm)
    · intro h name hname
      refine iff_of_false ?_ fun hm => h name hm hname
      rintro rfl
      exact ht hname.isToken

/-! ## Selectors for one class -/

theorem Selector.parse_class {name : String} (h : IsName name.toList) :
    parse ("." ++ name) = .ok ⟨{ classes := [name] }, []⟩ := by
  let clause : Grammar.Clause := ⟨none, [.token ⟨name.toList, h⟩], nofun⟩
  have htext : String.ofList clause.text = "." ++ name := by
    simp [clause, Grammar.Clause.text, Grammar.Condition.text]
  rw [← htext, parse_clause]
  simp [clause, Grammar.Clause.compound, Grammar.Condition.id?, Grammar.Condition.token?, Grammar.Condition.attr?]

namespace Document

/-- An element is among those that the selector for a class finds. -/
def Bears (d : Document) (number : Nat) (name : String) : Prop :=
  ∃ found, d.selectAll ("." ++ name) = .ok found ∧ number ∈ found.map Node.number

variable {d d' : Document} {number : Nat} {name : String}

theorem bears_iff (h : IsName name.toList) :
    d.Bears number name ↔ ∃ n ∈ d.nodes, n.number = number ∧ name ∈ n.classes := by
  have hselect : d.Bears number name ↔ number ∈ d.found ⟨{ classes := [name] }, []⟩ := by
    simp [Bears, selectAll, Selector.parse_class h, Except.map, found]
  rw [hselect, found_compound]
  simp [Compound.accepts, and_assoc, and_comm]

theorem Numbered.bears_iff_mem (hd : d.Numbered) (h : IsName name.toList) {n : Node} (hn : n ∈ d.nodes) :
    d.Bears n.number name ↔ name ∈ n.classes := by
  rw [bears_iff h]
  constructor
  · rintro ⟨m, hm, hnumber, hname⟩
    rwa [← List.inj_on_of_nodup_map hd.nodup hm hn hnumber]
  · intro hname
    exact ⟨n, hn, rfl, hname⟩

end Document

/-! ## What an element brings along -/

mutual

/-- An element and all that is below it, in document order. -/
def Element.parts : Element → List Element
  | { tag, id, className, value, text, attrs, children, onClick } =>
    { tag, id, className, value, text, attrs, children, onClick } :: Element.partsAll children

def Element.partsAll : List Element → List Element
  | [] => []
  | element :: elements => element.parts ++ Element.partsAll elements

end

mutual

/-- A text is that of an effect which adds a class and is written somewhere in an element. -/
inductive Element.Carries (text : String) : Element → Prop
  | child {e child : Element} (hm : child ∈ e.children) (h : child.Carries text) : Element.Carries text e
  | onClick {e : Element} {effect : Effect} (hm : effect ∈ e.onClick) (h : effect.Carries text) : Element.Carries text e

/-- The same of an effect, which may append an element. -/
inductive Effect.Carries (text : String) : Effect → Prop
  | addClass (target : String) (delay : Nat) : Effect.Carries text ⟨target, .addClass text, delay⟩
  | append {element : Element} (target : String) (delay : Nat) (h : element.Carries text) :
      Effect.Carries text ⟨target, .append element, delay⟩

end

inductive Page.Carries (p : Page) (text : String) : Prop
  | body {e : Element} (hm : e ∈ p.body) (h : e.Carries text) : Page.Carries p text
  | onKey {key : Nat × List Effect} {effect : Effect} (hk : key ∈ p.onKey) (hm : effect ∈ key.2)
      (h : effect.Carries text) : Page.Carries p text

inductive World.Event.Carries (text : String) : World.Event → Prop
  | append {element : Element} (selector : String) (h : element.Carries text) :
      Event.Carries text (.append selector element)
  | trigger {effect : Effect} (h : effect.Carries text) : Event.Carries text (.trigger effect)

mutual

theorem Element.length_parts (e : Element) : e.parts.length = e.size := by
  obtain ⟨tag, id, className, value, text, attrs, children, onClick⟩ := e
  rw [parts, List.length_cons, length_partsAll, size, Nat.add_comm]

theorem Element.length_partsAll (es : List Element) : (partsAll es).length = sizeAll es := by
  cases es with
  | nil => rfl
  | cons e es => rw [partsAll, List.length_append, length_parts, length_partsAll, sizeAll]

end

mutual

theorem Tree.nodes_ofElement (next : Nat) (e : Element) :
    (ofElement next e).nodes = (e.parts.zipIdx next).map fun part => .ofElement part.2 part.1 := by
  obtain ⟨tag, id, className, value, text, attrs, children, onClick⟩ := e
  rw [ofElement, nodes_node, nodes_ofElements, Element.parts, List.zipIdx_cons, List.map_cons]
  rfl

theorem Tree.nodes_ofElements (next : Nat) (es : List Element) :
    (ofElements next es).flatMap nodes =
      ((Element.partsAll es).zipIdx next).map fun part => .ofElement part.2 part.1 := by
  cases es with
  | nil => rfl
  | cons e es =>
    rw [ofElements, List.flatMap_cons, nodes_ofElement, nodes_ofElements, Element.partsAll, List.zipIdx_append,
      List.map_append, Element.length_parts]

end

mutual

theorem Element.carries_of_part {text : String} {e part : Element} (hm : part ∈ e.parts) (h : part.Carries text) :
    e.Carries text := by
  obtain ⟨tag, id, className, value, text', attrs, children, onClick⟩ := e
  rw [parts, List.mem_cons] at hm
  rcases hm with rfl | hm
  · exact h
  · obtain ⟨child, hchild, hc⟩ := carries_of_part_all hm h
    exact .child hchild hc

theorem Element.carries_of_part_all {text : String} {es : List Element} {part : Element} (hm : part ∈ partsAll es)
    (h : part.Carries text) : ∃ e ∈ es, e.Carries text := by
  cases es with
  | nil => cases hm
  | cons e es =>
    rw [partsAll, List.mem_append] at hm
    rcases hm with hm | hm
    · exact ⟨e, List.mem_cons_self, carries_of_part hm h⟩
    · obtain ⟨e', hm', he'⟩ := carries_of_part_all hm h
      exact ⟨e', List.mem_cons_of_mem e hm', he'⟩

end

/-! ## Where classes come from -/

/-- An effect adds only classes that keep to a condition, and so do those that it brings along. -/
def Effect.Within (P : String → Prop) (e : Effect) : Prop := ∀ text, e.Carries text → P text

/-- All classes of an element keep to a condition, and those that clicking it may add. -/
structure Node.Within (P : String → Prop) (n : Node) : Prop where
  classes : ∀ token ∈ n.classes, P token
  onClick : ∀ e ∈ n.onClick, e.Within P

structure Document.Within (P : String → Prop) (d : Document) : Prop where
  nodes : ∀ n ∈ d.nodes, n.Within P
  onKey : ∀ key ∈ d.onKey, ∀ e ∈ key.2, e.Within P

structure World.Within (P : String → Prop) (w : World) : Prop where
  document : w.document.Within P
  pending : ∀ p ∈ w.pending, p.effect.Within P

section

variable {P : String → Prop} (hP : ∀ token, IsToken token → P token)

include hP

theorem Node.within_ofElement {e : Element} (h : ∀ text, e.Carries text → P text) (number : Nat) :
    (ofElement number e).Within P where
  classes := by
    intro token ht
    rw [classes_ofElement] at ht
    exact hP token (isToken_of_mem_classTokens ht)
  onClick := fun effect hm text ht => h text (.onClick hm ht)

namespace Document

variable {d d' : Document} {e : Effect} {element : Element}

theorem within_ofPage {p : Page} (h : ∀ text, p.Carries text → P text) : (ofPage p).Within P where
  nodes := by
    rw [ofPage, nodes, Tree.nodes_node, List.forall_mem_cons, Tree.nodes_ofElements, List.forall_mem_map]
    refine ⟨⟨by simp, by simp⟩, fun part hm => Node.within_ofElement hP (fun text ht => ?_) part.2⟩
    obtain ⟨e, he, hc⟩ := Element.carries_of_part_all (List.fst_mem_of_mem_zipIdx hm) ht
    exact h text (.body he hc)
  onKey := fun key hk effect hm text ht => h text (.onKey hk hm ht)

omit hP in
theorem Within.update (h : d.Within P) {change : Node → Node} (hc : ∀ n, n.Within P → (change n).Within P)
    (number : Nat) : (d.update number change).Within P :=
  ⟨Tree.forall_nodes_update h.nodes hc number, h.onKey⟩

theorem Within.insert (h : d.Within P) (he : ∀ text, element.Carries text → P text) (parent : Nat) :
    (d.insert parent element).Within P := by
  refine ⟨Tree.forall_nodes_append h.nodes ?_ parent, h.onKey⟩
  rw [Tree.nodes_ofElement, List.forall_mem_map]
  intro part hm
  have hpart : part.1 ∈ element.parts := List.fst_mem_of_mem_zipIdx hm
  exact Node.within_ofElement hP (fun text ht => he text (Element.carries_of_part hpart ht)) part.2

theorem Within.apply (h : d.Within P) (he : e.Within P) (ha : d.apply e = .ok (some d')) : d'.Within P := by
  obtain ⟨target, c, delay⟩ := e
  obtain ⟨n, -, hc⟩ := exists_change_of_apply ha
  cases c with
  | setValue value | setText text =>
    cases hc
    refine h.update (fun m hm => ?_) _
    exact ⟨hm.classes, hm.onClick⟩
  | addClass text =>
    cases hc
    refine h.update (fun m hm => ?_) _
    split
    · exact hm
    · exact ⟨List.forall_mem_append.mpr ⟨hm.classes, by simpa using he text (.addClass target delay)⟩, hm.onClick⟩
  | removeClass text =>
    cases hc
    refine h.update (fun m hm => ?_) _
    exact ⟨fun token ht => hm.classes token (List.mem_of_mem_filter ht), hm.onClick⟩
  | append element =>
    cases hc
    exact h.insert hP (fun text ht => he text (.append target delay ht)) _
  | remove =>
    rw [change] at hc
    split at hc
    · cases hc
    · obtain ⟨t, -, rfl⟩ := map_eq_ok.mp hc
      exact ⟨Tree.forall_nodes_remove h.nodes _, h.onKey⟩

omit hP in
theorem Within.keyDown (h : d.Within P) (code : Nat) : ∀ e ∈ (d.keyDown code).1, e.Within P := by
  rcases d.keyDown_effects code with hnone | ⟨key, hkey, heffects⟩
  · simp [hnone]
  · exact heffects ▸ h.onKey key hkey

theorem Within.undergo (h : d.Within P) (he : e.Within P) : (d.undergo e).Within P := by
  rcases ha : d.apply e with fault | _ | d'
  · rwa [undergo_silent (by simp [ha])]
  · rwa [undergo_silent (by simp [ha])]
  · rw [undergo_heard ha]
    exact h.apply hP he ha

theorem Within.undergoAll (h : d.Within P) {effects : List Effect} (he : ∀ e ∈ effects, e.Within P) :
    (effects.foldl Document.undergo d).Within P := by
  induction effects generalizing d with
  | nil => exact h
  | cons e effects ih =>
    rw [List.forall_mem_cons] at he
    exact ih (h.undergo hP he.1) he.2

end Document

namespace World

variable {w w' : World} {e : Effect} {effects : List Effect}

theorem Within.trigger (h : w.Within P) (he : e.Within P) (ht : w.trigger e = .ok w') : w'.Within P := by
  unfold World.trigger at ht
  split at ht
  · obtain ⟨changed, hd, rfl⟩ := map_eq_ok.mp ht
    cases changed with
    | none => exact h
    | some d => exact ⟨h.document.apply hP he hd, h.pending⟩
  · cases ht
    refine ⟨h.document, fun p hp => ?_⟩
    rcases List.mem_append.mp hp with hp | hp
    · exact h.pending p ((List.takeWhile_sublist _).subset hp)
    · rcases List.mem_cons.mp hp with rfl | hp
      · exact he
      · exact h.pending p ((List.dropWhile_sublist _).subset hp)

theorem Within.triggerAll (h : w.Within P) (he : ∀ e ∈ effects, e.Within P) : (w.triggerAll effects).2.Within P := by
  induction effects generalizing w with
  | nil => exact h
  | cons e effects ih =>
    rw [List.forall_mem_cons] at he
    rw [World.triggerAll]
    cases ht : w.trigger e with
    | error fault => exact h
    | ok w' => exact ih (h.trigger hP he.1 ht) he.2

theorem Within.elapsed (h : w.Within P) (he : w.Elapsed w') : w'.Within P := by
  obtain ⟨done, hp, -, hd⟩ := he.happened
  have hpending := h.pending
  rw [hp, List.forall_mem_append] at hpending
  exact ⟨hd ▸ h.document.undergoAll hP (List.forall_mem_map.mpr hpending.1), hpending.2⟩

theorem Within.answer (h : w.Within P) (r : Request) : (answer r w).2.Within P := by
  cases r with
  | activate number =>
    rw [World.answer, World.activate]
    split
    · exact h
    · rename_i effects d ha
      obtain ⟨n, hn, hd⟩ := map_eq_ok.mp ha
      cases hd
      refine Within.triggerAll hP ⟨⟨h.document.nodes, h.document.onKey⟩, h.pending⟩ ?_
      exact (h.document.nodes n (Document.mem_nodes_of_node hn)).onClick
  | setValue number value =>
    rw [World.answer, World.setValue]
    split
    · rename_i d hs
      obtain ⟨n, -, rfl⟩ := map_eq_ok.mp hs
      refine ⟨h.document.update (fun m hm => ?_) _, h.pending⟩
      exact ⟨hm.classes, hm.onClick⟩
    · exact h
  | keyDown code =>
    have hkeyed : Within P { w with document := (w.document.keyDown code).2 } :=
      ⟨⟨h.document.nodes, h.document.onKey⟩, h.pending⟩
    have ht := hkeyed.triggerAll hP (h.document.keyDown code)
    rw [World.answer, World.keyDown]
    dsimp only
    split <;> rename_i heq <;> rwa [heq] at ht
  | clearLocalStorage => exact ⟨⟨h.document.nodes, h.document.onKey⟩, h.pending⟩
  | _ => exact h

theorem Within.step (h : w.Within P) (ho : w.Orderly) {event : Event} (he : ∀ text, event.Carries text → P text) :
    (w.step event).Within P := by
  cases event with
  | append selector element =>
    rw [World.step, World.append]
    split
    · rename_i number d ha
      obtain ⟨n, -, -, rfl⟩ := Document.exists_insert_of_append ha
      exact ⟨h.document.insert hP (fun text ht => he text (.append selector ht)) _, h.pending⟩
    · exact h
  | trigger effect =>
    rw [World.step]
    cases ht : w.trigger effect with
    | error fault => exact h
    | ok w' => exact h.trigger hP (fun text hc => he text (.trigger hc)) ht
  | request r => exact h.answer hP r
  | sleepUntil instant => exact h.elapsed hP (Orderly.elapsed_runUntil instant ho)
  | nextChange observer deadline => exact h.elapsed hP (Orderly.elapsed_changeUntil observer deadline ho)
  | _ => exact ⟨h.document, h.pending⟩

theorem Within.after (h : w.Within P) (ho : w.Orderly) {events : List Event}
    (he : ∀ event ∈ events, ∀ text, event.Carries text → P text) : (w.after events).Within P := by
  induction events generalizing w with
  | nil => exact h
  | cons event events ih =>
    rw [List.forall_mem_cons] at he
    exact ih (h.step hP ho he.1) (orderly_step w event ho) he.2

end World

end

/-- In every world that a page comes to, a class is a token or the text of an effect that was written somewhere. -/
theorem World.within_after (page : Page) (events : List World.Event) : ((ofPage page).after events).Within
    fun token => IsToken token ∨ page.Carries token ∨ ∃ event ∈ events, event.Carries token := by
  let P : String → Prop := fun token => IsToken token ∨ page.Carries token ∨ ∃ event ∈ events, event.Carries token
  have hP : ∀ token, IsToken token → P token := fun token => .inl
  have hpage : (ofPage page).Within P := by
    refine ⟨Document.within_ofPage hP fun text hc => ?_, by simp [ofPage]⟩
    exact .inr (.inl hc)
  refine hpage.after hP (orderly_ofPage page false thirtyYears) fun event he text hc => ?_
  exact .inr (.inr ⟨event, he, hc⟩)

/-! ## What elements are found by -/

theorem Node.ofElement_mem {parts : List Element} {part : Element} {next i : Nat} (h : parts[i]? = some part) :
    ofElement (next + i) part ∈ (parts.zipIdx next).map fun part => ofElement part.2 part.1 := by
  refine List.mem_map.mpr ⟨(part, next + i), ?_, rfl⟩
  exact List.mem_of_getElem? (i := i) (by simp [h])

namespace Document

/-- What adding elements, adding a class and removing one do to the classes that elements are found by. An element that
is added is found by the tokens of its class text. A class is added as it stands to those by which the first match of a
target is found. -/
structure ClassesLocally (d : Document) : Prop where
  adds : ∀ element operation, d.Adds element operation → ∀ i part, element.parts[i]? = some part →
    ∀ name : String, IsName name.toList →
      ((d.perform operation).Bears (d.next + i) name ↔ name ∈ classTokens (part.className.getD ""))
  addClass : ∀ target text delay d', d.apply ⟨target, .addClass text, delay⟩ = .ok (some d') →
    ∃ n, d.Finds target (some n) ∧
      d'.classNames n.number = .ok (if text ∈ n.classes then n.classes else n.classes ++ [text]) ∧
      ∀ number name, IsName name.toList →
        (d'.Bears number name ↔ d.Bears number name ∨ number = n.number ∧ name = text)
  removeClass : ∀ target text delay d', d.apply ⟨target, .removeClass text, delay⟩ = .ok (some d') →
    ∃ n, d.Finds target (some n) ∧ d'.classNames n.number = .ok (n.classes.filter (· ≠ text)) ∧
      ∀ number name, IsName name.toList →
        (d'.Bears number name ↔ d.Bears number name ∧ ¬(number = n.number ∧ name = text))

variable {d d' : Document} {n : Node} {number : Nat} {name : String}

theorem Numbered.bears_ofElement (hd : d.Numbered) {e : Element} (hm : .ofElement number e ∈ d.nodes)
    (h : IsName name.toList) : d.Bears number name ↔ name ∈ classTokens (e.className.getD "") := by
  have hb := hd.bears_iff_mem h hm
  rwa [Node.classes_ofElement] at hb

/-- An element is given other classes, and it is the only one that is found by others than before. -/
theorem Numbered.retouch_classes (hd : d.Numbered) (hn : n ∈ d.nodes) (classes : List String) :
    let d' := d.update n.number ({ · with classes })
    d'.classNames n.number = .ok classes ∧ ∀ number (name : String), IsName name.toList →
      (d'.Bears number name ↔ if number = n.number then name ∈ classes else d.Bears number name) := by
  intro d'
  have hd' : d'.Numbered := by
    refine hd.update (fun _ => ?_) n.number
    rfl
  have hnodes : d'.nodes = d.nodes.map fun m => if m.number = n.number then { m with classes } else m :=
    Tree.nodes_update n.number ({ · with classes }) d.body
  have hm : { n with classes } ∈ d'.nodes := by
    rw [hnodes]
    exact List.mem_map.mpr ⟨n, hn, if_pos rfl⟩
  refine ⟨by rw [classNames, node_of_mem_nodes hd' hm]; rfl, fun number name hname => ?_⟩
  split
  · subst number
    exact hd'.bears_iff_mem hname hm
  · rename_i hne
    simp only [bears_iff hname, hnodes, List.mem_map, exists_exists_and_eq_and]
    refine exists_congr fun m => and_congr_right fun _ => ?_
    split
    · rename_i heq
      exact iff_of_false (fun h => hne (h.1 ▸ heq)) (fun h => hne (h.1 ▸ heq))
    · rfl

theorem Numbered.classesLocally (hd : d.Numbered) : d.ClassesLocally where
  adds := by
    intro element operation ha i part hpart name hname
    obtain ⟨parent, hp, heq⟩ := ha.perform_eq
    have hd' := hd.insert hp element
    rw [heq]
    refine hd'.bears_ofElement ?_ hname
    refine (Tree.nodes_append _ hd.nodup hp).mem_iff.mpr (List.mem_append_right _ ?_)
    rw [Tree.nodes_ofElement]
    exact Node.ofElement_mem hpart
  addClass := by
    intro target text delay d' ha
    obtain ⟨n, hs, hc⟩ := exists_change_of_apply ha
    have hf := (selectFirst_eq_ok hd).mp hs
    have hbears {name : String} (hname : IsName name.toList) := hd.bears_iff_mem hname hf.mem_nodes
    refine ⟨n, hf, ?_⟩
    cases (change_eq_ok hd hf.mem_nodes).mp hc with
    | addClass hnew =>
      obtain ⟨hnames, hfound⟩ := hd.retouch_classes hf.mem_nodes (n.classes ++ [text])
      refine ⟨by rw [if_neg hnew, hnames], fun number name hname => ?_⟩
      rw [hfound number name hname]
      by_cases heq : number = n.number
      · simp [heq, hbears hname]
      · simp [heq]
    | keepClass hold =>
      refine ⟨by rw [if_pos hold, classNames, node_of_mem_nodes hd hf.mem_nodes]; rfl, fun number name hname => ?_⟩
      refine (or_iff_left_of_imp ?_).symm
      rintro ⟨rfl, rfl⟩
      exact (hbears hname).mpr hold
  removeClass := by
    intro target text delay d' ha
    obtain ⟨n, hs, hc⟩ := exists_change_of_apply ha
    have hf := (selectFirst_eq_ok hd).mp hs
    cases (change_eq_ok hd hf.mem_nodes).mp hc with
    | removeClass =>
      obtain ⟨hnames, hfound⟩ := hd.retouch_classes hf.mem_nodes (n.classes.filter (· ≠ text))
      refine ⟨n, hf, hnames, fun number name hname => ?_⟩
      rw [hfound number name hname]
      by_cases heq : number = n.number
      · simp [heq, hd.bears_iff_mem hname hf.mem_nodes]
      · simp [heq]

end Document

/-- In every document that a page comes to, a class of an element is a token or the text of an effect which adds it and is
written in the page or in what was done. Elements are found by the tokens of their class text, and by what effects add to
them as it stands, so that the two ways agree for a text which is a token or has no name among its tokens, and for no
other one. -/
theorem classes_in_two_ways (page : Page) (events : List World.Event) :
    let d := ((World.ofPage page).after events).document
    (∀ number classes, d.classNames number = .ok classes → ∀ token ∈ classes,
      IsToken token ∨ page.Carries token ∨ ∃ event ∈ events, event.Carries token) ∧
    (∀ i part, (Element.partsAll page.body)[i]? = some part → ∀ name : String, IsName name.toList →
      ((Document.ofPage page).Bears (1 + i) name ↔ name ∈ classTokens (part.className.getD ""))) ∧
    d.ClassesLocally ∧
    ∀ text, (∀ name : String, IsName name.toList → (name = text ↔ name ∈ classTokens text)) ↔
      IsToken text ∨ ∀ token ∈ classTokens text, ¬IsName token.toList := by
  intro d
  have hd : d.Numbered := World.numbered_after page events
  refine ⟨fun number classes hclasses token ht => ?_, fun i part hpart name hname => ?_, hd.classesLocally,
    eq_iff_mem_classTokens⟩
  · obtain ⟨n, hn, rfl⟩ := map_eq_ok.mp hclasses
    exact ((World.within_after page events).document.nodes n (Document.mem_nodes_of_node hn)).classes token ht
  · refine (Document.numbered_ofPage page).bears_ofElement ?_ hname
    rw [Document.ofPage, Document.nodes, Tree.nodes_node, Tree.nodes_ofElements]
    exact List.mem_cons_of_mem _ (Node.ofElement_mem hpart)

/-- A class text of two tokens. Written in the page it is two classes, and added by an effect a single one, which is no
token and which neither name finds. -/
theorem classes_in_two_ways_apart :
    let paragraph : Element := { tag := "p", id := some "a" }
    let plain : Page := { body := [paragraph] }
    let written : Page := { body := [{ paragraph with className := some "y z" }] }
    let d := (Document.ofPage plain).perform (.apply ⟨"#a", .addClass "y z", 0⟩)
    d.classNames 1 = .ok ["y z"] ∧ ¬IsToken "y z" ∧
      ∀ name ∈ ["y", "z"], ¬d.Bears 1 name ∧ (Document.ofPage written).Bears 1 name := by
  intro paragraph plain written d
  obtain ⟨d', happly⟩ : ∃ d', (Document.ofPage plain).apply ⟨"#a", .addClass "y z", 0⟩ = .ok (some d') := by
    have hsome : ((Document.ofPage plain).apply ⟨"#a", .addClass "y z", 0⟩).toOption.join.isSome = true := by
      decide +kernel
    rcases h : (Document.ofPage plain).apply ⟨"#a", .addClass "y z", 0⟩ with fault | _ | d'
    · rw [h] at hsome
      cases hsome
    · rw [h] at hsome
      cases hsome
    · exact ⟨d', rfl⟩
  have hd : d = d' := Document.perform_of_apply happly
  obtain ⟨-, hplain, hlocal, -⟩ := classes_in_two_ways plain []
  obtain ⟨-, hwritten, -⟩ := classes_in_two_ways written []
  obtain ⟨n, -, -, hadded⟩ := hlocal.addClass "#a" "y z" 0 d' happly
  have hnames : ∀ name ∈ ["y", "z"], IsName name.toList :=
    List.forall_mem_cons.mpr ⟨⟨by decide, List.all_eq_true.mp rfl⟩, List.forall_mem_singleton.mpr
      ⟨by decide, List.all_eq_true.mp rfl⟩⟩
  have htokens : ∀ name ∈ ["y", "z"], name ∉ classTokens "" ∧ name ≠ "y z" ∧ name ∈ classTokens "y z" := by
    decide +kernel
  refine ⟨by decide +kernel, fun h => absurd (h.2 ' ' (by decide)) (by decide), fun name hm => ?_⟩
  obtain ⟨hnone, hne, hmem⟩ := htokens name hm
  refine ⟨?_, (hwritten 0 _ rfl name (hnames name hm)).mpr hmem⟩
  rw [hd, hadded 1 name (hnames name hm)]
  rintro (hbears | ⟨-, heq⟩)
  · exact hnone ((hplain 0 _ rfl name (hnames name hm)).mp hbears)
  · exact hne heq

end PageScript
