import PageScript.Proofs.Chains
import PageScript.Proofs.Reading

/-!
# Conditions behind a selector

A condition that is written directly behind a selector belongs to its last compound, and so to what the selector asks of
the element itself. Classes and attributes join those that are there. An id takes the place of the one that is there,
so a selector with a second id can match what the selector without it does not.
-/
namespace PageScript.Selector

open Grammar

/-! ## The last of several pieces -/

section

variable {α β α' β' : Type}

/-- Changes the last of some pieces that stand behind each other. -/
def onLast (f : β → β) : β → List (α × β) → β × List (α × β)
  | first, [] => (f first, [])
  | first, (a, b) :: rest => (first, (a, (onLast f b rest).1) :: (onLast f b rest).2)

theorem onLast_map {f : β → β} (f' : β' → β') (g : α → α') (h : β → β') (hf : ∀ b, h (f b) = f' (h b)) (first : β)
    (rest : List (α × β)) :
    onLast f' (h first) (rest.map (Prod.map g h)) =
      (h (onLast f first rest).1, (onLast f first rest).2.map (Prod.map g h)) := by
  induction rest generalizing first with
  | nil => simp [onLast, hf]
  | cons ab rest ih => simp [onLast, ih]

/-- One more piece behind the others, which then stand in front of it from the last to the first. -/
def behind (front : β × List (α × β)) (piece : α × β) : β × List (α × β) :=
  (piece.2, (piece.1, front.1) :: front.2)

theorem foldl_behind_onLast (f : β → β) (first : β) (rest links : List (α × β)) :
    (onLast f first rest).2.foldl behind ((onLast f first rest).1, links) =
      (f (rest.foldl behind (first, links)).1, (rest.foldl behind (first, links)).2) := by
  induction rest generalizing first links with
  | nil => rfl
  | cons piece rest ih => exact ih _ _

end

def withLast (s : Selector) (f : Compound → Compound) : Selector :=
  ⟨(onLast f s.first s.rest).1, (onLast f s.first s.rest).2⟩

def last (s : Selector) : Compound := s.backwards.1

theorem backwards_eq (s : Selector) : s.backwards = s.rest.foldl behind (s.first, []) := rfl

theorem backwards_withLast (s : Selector) (f : Compound → Compound) :
    (s.withLast f).backwards = (f s.last, s.backwards.2) := by
  rw [last, backwards_eq, backwards_eq]
  exact foldl_behind_onLast f s.first s.rest []

theorem acceptsPath_withLast (s : Selector) (f : Compound → Compound) (n : Node) (above : List Node) :
    (s.withLast f).acceptsPath (n :: above) = ((f s.last).accepts n && fits s.backwards.2 above) := by
  rw [acceptsPath, backwards_withLast]

namespace Grammar

/-! ## Conditions and nodes -/

def Condition.Holds : Condition → Node → Prop
  | id name, n => n.id = some (String.ofList name.text)
  | token name, n => String.ofList name.text ∈ n.classes
  | attr body, n => ∃ actual, n.attrs.lookup (String.ofList (keyOf body.text)) = some actual ∧
      ∀ value, valueOf body.text = some value → actual = value

/-- What is left of a compound for a condition to join. -/
def Condition.room : Condition → Compound → Compound
  | id _, c => { c with id := none }
  | token _, c => c
  | attr _, c => c

/-- A condition is an id other than the one that a compound has. -/
def Condition.Replaces (x : Condition) (c : Compound) : Prop :=
  ∃ name id, x = .id name ∧ c.id = some id ∧ id ≠ String.ofList name.text

theorem Condition.holds_addTo (x : Condition) (c : Compound) (n : Node) :
    (x.addTo c).Holds n ↔ x.Holds n ∧ (x.room c).Holds n := by
  cases x with
  | id name =>
    constructor
    · rintro ⟨ht, hi, hc, ha⟩
      exact ⟨hi _ rfl, ht, nofun, hc, ha⟩
    · rintro ⟨hx, ht, -, hc, ha⟩
      exact ⟨ht, by rintro _ ⟨⟩; exact hx, hc, ha⟩
  | token name =>
    constructor
    · rintro ⟨ht, hi, hc, ha⟩
      exact ⟨hc _ (List.mem_append_right _ List.mem_cons_self), ht, hi,
        fun token hm => hc token (List.mem_append_left _ hm), ha⟩
    · rintro ⟨hx, ht, hi, hc, ha⟩
      refine ⟨ht, hi, fun token hm => ?_, ha⟩
      rcases List.mem_append.mp hm with hm | hm
      · exact hc token hm
      · rw [List.mem_singleton.mp hm]
        exact hx
  | attr body =>
    constructor
    · rintro ⟨ht, hi, hc, ha⟩
      exact ⟨ha _ _ (List.mem_append_right _ List.mem_cons_self), ht, hi, hc,
        fun name expected hm => ha name expected (List.mem_append_left _ hm)⟩
    · rintro ⟨hx, ht, hi, hc, ha⟩
      refine ⟨ht, hi, hc, fun name expected hm => ?_⟩
      rcases List.mem_append.mp hm with hm | hm
      · exact ha name expected hm
      · cases List.mem_singleton.mp hm
        exact hx

/-- Unless an id is replaced, a compound asks for nothing less than before. -/
theorem Condition.holds_of_addTo {x : Condition} {c : Compound} {n : Node} (hr : ¬x.Replaces c)
    (h : (x.addTo c).Holds n) : c.Holds n := by
  obtain ⟨hx, ht, hi, hc, ha⟩ := (x.holds_addTo c n).mp h
  cases x with
  | id name =>
    refine ⟨ht, fun id hid => ?_, hc, ha⟩
    have hsame : id = String.ofList name.text := by
      by_contra hne
      exact hr ⟨name, id, rfl, hid, hne⟩
    rw [hsame]
    exact hx
  | token name => exact ⟨ht, hi, hc, ha⟩
  | attr body => exact ⟨ht, hi, hc, ha⟩

/-! ## Conditions and texts -/

def Clause.add (x : Condition) (clause : Clause) : Clause where
  start := clause.start
  conditions := clause.conditions ++ [x]
  ne_nil _ := by simp

theorem Clause.text_add (x : Condition) (clause : Clause) : (clause.add x).text = clause.text ++ x.text := by
  simp [add, text]

theorem Clause.compound_add (x : Condition) (clause : Clause) :
    (clause.add x).compound = x.addTo clause.compound := by
  rw [compound_eq, compound_eq, add, List.foldl_append]
  rfl

end Grammar

/-- The derivation with a condition behind its last clause. -/
def Derivation.add (x : Condition) (d : Derivation) : Derivation where
  before := d.before
  first := (onLast (Clause.add x) d.first d.rest).1
  rest := (onLast (Clause.add x) d.first d.rest).2
  after := d.after

theorem Derivation.text_add (x : Condition) {d : Derivation} (h : d.after.text = []) :
    (d.add x).text = d.text ++ x.text := by
  have honLast (first : Clause) (rest : List (Separator × Clause)) :
      (onLast (Clause.add x) first rest).1.text ++ (onLast (Clause.add x) first rest).2.flatMap linkText =
        first.text ++ rest.flatMap linkText ++ x.text := by
    induction rest generalizing first with
    | nil => simp [onLast, Clause.text_add]
    | cons l rest ih =>
      have := ih l.2
      simp [onLast, linkText, this]
  have htext := honLast d.first d.rest
  rw [text, text, add, h, List.append_nil, List.append_nil, htext]
  simp

theorem Derivation.selector_add (x : Condition) (d : Derivation) :
    (d.add x).selector = d.selector.withLast x.addTo := by
  have hlink := onLast_map x.addTo Separator.combinator Clause.compound (Clause.compound_add x) d.first d.rest
  have hselector : d.selector.withLast x.addTo =
      ⟨(onLast x.addTo d.first.compound (d.rest.map (Prod.map Separator.combinator Clause.compound))).1,
        (onLast x.addTo d.first.compound (d.rest.map (Prod.map Separator.combinator Clause.compound))).2⟩ := rfl
  rw [hselector, hlink]
  rfl

/-! ## Trees -/

theorem select_sublist_select {s s' : Selector}
    (h : ∀ n above, s'.acceptsPath (n :: above) = true → s.acceptsPath (n :: above) = true) (t : Tree) :
    (s'.select t).Sublist (s.select t) := by
  rw [select, select]
  induction t.paths [] with
  | nil => exact .slnil
  | cons path paths ih =>
    cases path with
    | nil => simpa [acceptsPath] using ih
    | cons n above =>
      rw [List.filterMap_cons, List.filterMap_cons]
      by_cases hs' : s'.acceptsPath (n :: above) = true
      · simpa [hs', h n above hs'] using ih
      · by_cases hs : s.acceptsPath (n :: above) = true
        · simpa [hs', hs] using ih.cons n
        · simpa [hs', hs] using ih

theorem exists_path_of_mem_select {s : Selector} {t : Tree} {n : Node} (h : n ∈ s.select t) :
    ∃ above, s.acceptsPath (n :: above) = true := by
  obtain ⟨path, -, hn⟩ := List.mem_filterMap.mp h
  split_ifs at hn with hpath
  obtain ⟨above, rfl⟩ := List.head?_eq_some_iff.mp hn
  exact ⟨above, hpath⟩

/-- A condition directly behind a selector is read as part of it, and is asked of the element itself. It narrows what
is selected unless it is an id that replaces another one; then nothing is selected that was before. -/
theorem appended_condition_narrows {text : String} {s : Selector} (h : parse text = .ok s)
    (hend : ∀ c ∈ text.toList.getLast?, Text.isBlank c = false) (x : Condition) :
    ∃ s' : Selector, parse (text ++ String.ofList x.text) = .ok s' ∧
      (∀ n above, s'.acceptsPath (n :: above) = true ↔
        x.Holds n ∧ (s.withLast x.room).acceptsPath (n :: above) = true) ∧
      (¬x.Replaces s.last → ∀ t, (s'.select t).Sublist (s.select t)) ∧
      (x.Replaces s.last → ∀ t, ∀ n ∈ s'.select t, n ∉ s.select t) := by
  obtain ⟨d, htext, rfl⟩ := exists_text_of_parseChars (parse_eq_ok.mp h)
  have hafter : d.after.text = [] := by
    refine (List.eq_nil_or_concat' _).resolve_right ?_
    rintro ⟨rest, c, hc⟩
    have hblank := d.after.blank c (by simp [hc])
    rw [hend c (by simp [← htext, Derivation.text, hc])] at hblank
    cases hblank
  have haccepts (n : Node) (above : List Node) : (d.selector.withLast x.addTo).acceptsPath (n :: above) = true ↔
      (x.addTo d.selector.last).Holds n ∧ fits d.selector.backwards.2 above = true := by
    rw [acceptsPath_withLast, Bool.and_eq_true, Compound.accepts_iff]
  have hbefore (n : Node) (above : List Node) : d.selector.acceptsPath (n :: above) = true ↔
      d.selector.last.Holds n ∧ fits d.selector.backwards.2 above = true := by
    rw [acceptsPath, Bool.and_eq_true, Compound.accepts_iff, last]
  refine ⟨d.selector.withLast x.addTo, ?_, ?_, ?_, ?_⟩
  · rw [parse_eq_ok, String.toList_append, String.toList_ofList, ← htext, ← d.text_add x hafter, ← d.selector_add]
    exact parseChars_text _
  · intro n above
    rw [haccepts, x.holds_addTo, acceptsPath_withLast, Bool.and_eq_true, Compound.accepts_iff, and_assoc]
  · intro hr
    refine select_sublist_select fun n above hn => ?_
    obtain ⟨hx, hfits⟩ := (haccepts n above).mp hn
    exact (hbefore n above).mpr ⟨x.holds_of_addTo hr hx, hfits⟩
  · rintro ⟨name, id, rfl, hid, hne⟩ t n hn hmem
    obtain ⟨above, hn⟩ := exists_path_of_mem_select hn
    obtain ⟨above', hmem⟩ := exists_path_of_mem_select hmem
    have hnew := ((haccepts n above).mp hn).1.id _ rfl
    have hold := ((hbefore n above').mp hmem).1.id id hid
    rw [hnew] at hold
    exact hne (Option.some.inj hold).symm

/-- With a second id, a selector finds an element that it did not find before. -/
theorem appended_condition_narrows_replaced :
    let s : Selector := ⟨{ id := some "a" }, []⟩
    let t : Tree := ⟨{ number := 0, tag := "body" }, [⟨{ number := 1, tag := "p", id := some "b" }, []⟩]⟩
    parse "#a" = .ok s ∧ (∀ c ∈ "#a".toList.getLast?, Text.isBlank c = false) ∧
      ∃ s' : Selector, parse "#a#b" = .ok s' ∧ (s'.select t).map Node.number = [1] ∧
        ∀ n ∈ s'.select t, n ∉ s.select t := by
  intro s t
  let name : Name := ⟨['b'], nofun, fun c hc => by rw [List.mem_singleton.mp hc]; decide +kernel⟩
  have h : parse "#a" = .ok s := by rfl
  have hend : ∀ c ∈ "#a".toList.getLast?, Text.isBlank c = false := by
    have hlast : "#a".toList.getLast? = some 'a' := by rfl
    rw [hlast]
    rintro _ ⟨⟩
    decide
  obtain ⟨s', hs', -, -, hreplaced⟩ := appended_condition_narrows h hend (.id name)
  have hread : parse "#a#b" = .ok ⟨{ id := some "b" }, []⟩ := by rfl
  have hsame : s' = ⟨{ id := some "b" }, []⟩ := Except.ok.inj (hs'.symm.trans hread)
  subst hsame
  exact ⟨h, hend, _, hread, by decide +kernel, hreplaced ⟨name, "a", rfl, rfl, by decide⟩ t⟩

end PageScript.Selector
