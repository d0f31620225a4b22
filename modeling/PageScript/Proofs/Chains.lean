import PageScript.Proofs.WellFormed

/-!
# Chains of elements

An element matches a selector if there is a chain of elements that ends with it, one for each compound from left to
right, in which each stands to the next as the combinator between their compounds says. The search goes the other
way, from the element up along its ancestors, and finds such a chain whenever there is one.
-/
namespace PageScript

structure Compound.Holds (c : Compound) (n : Node) : Prop where
  tag : ∀ tag, c.tag = some tag → Text.asciiLowercase n.tag = Text.asciiLowercase tag
  id : ∀ id, c.id = some id → n.id = some id
  classes : ∀ token ∈ c.classes, token ∈ n.classes
  attributes : ∀ name expected, (name, expected) ∈ c.attributes →
    ∃ actual, n.attrs.lookup name = some actual ∧ ∀ value, expected = some value → actual = value

theorem Compound.accepts_iff {c : Compound} {n : Node} : c.accepts n = true ↔ c.Holds n := by
  have htag : c.tag.all (Text.asciiLowercase n.tag == Text.asciiLowercase ·) = true ↔
      ∀ tag, c.tag = some tag → Text.asciiLowercase n.tag = Text.asciiLowercase tag := by
    cases c.tag <;> simp
  have hid : c.id.all (n.id == some ·) = true ↔ ∀ id, c.id = some id → n.id = some id := by
    cases c.id <;> simp
  rw [accepts, Bool.and_eq_true, Bool.and_eq_true, Bool.and_eq_true, htag, hid, List.all_eq_true,
    List.all_eq_true]
  constructor
  · rintro ⟨⟨⟨ht, hi⟩, hc⟩, ha⟩
    refine ⟨ht, hi, fun token hm => by simpa using hc token hm, ?_⟩
    intro name expected hm
    have h := ha (name, expected) hm
    revert h
    dsimp only
    cases n.attrs.lookup name <;> cases expected <;> simp
  · rintro ⟨ht, hi, hc, ha⟩
    refine ⟨⟨⟨ht, hi⟩, fun token hm => by simpa using hc token hm⟩, ?_⟩
    rintro ⟨name, expected⟩ hm
    obtain ⟨actual, hl, hv⟩ := ha name expected hm
    dsimp only
    rw [hl]
    cases expected with
    | none => rfl
    | some value => simpa using hv value rfl

namespace Document

variable (d : Document)

def IsParent (parent number : Nat) : Prop := d.parent number = .ok (some parent)

/-- How the element of one compound stands to that of the next. -/
def Stands : Combinator → Nat → Nat → Prop
  | .child => d.IsParent
  | .descendant => Relation.TransGen d.IsParent

/-- A chain of attached elements that fits a line of compounds. -/
inductive Chain : Compound → List (Combinator × Compound) → List Nat → Prop
  | last {c : Compound} {number : Nat} {n : Node} (hn : d.node number = .ok n) (hc : c.Holds n) :
      Chain c [] [number]
  | link {c next : Compound} {combinator : Combinator} {rest : List (Combinator × Compound)}
      {number below : Nat} {chain : List Nat} {n : Node} (hn : d.node number = .ok n) (hc : c.Holds n)
      (hs : d.Stands combinator number below) (h : Chain next rest (below :: chain)) :
      Chain c ((combinator, next) :: rest) (number :: below :: chain)

/-- Some chain leads from one element to another. -/
def Leads (c : Compound) (rest : List (Combinator × Compound)) (first last : Nat) : Prop :=
  ∃ chain, d.Chain c rest (first :: chain) ∧ (first :: chain).getLast? = some last

variable {d} {c next : Compound} {combinator : Combinator} {rest : List (Combinator × Compound)}

theorem leads_nil {first last : Nat} :
    d.Leads c [] first last ↔ first = last ∧ ∃ n, d.node first = .ok n ∧ c.Holds n := by
  constructor
  · rintro ⟨chain, h, hl⟩
    cases h with
    | last hn hc => exact ⟨Option.some.inj hl, _, hn, hc⟩
  · rintro ⟨rfl, n, hn, hc⟩
    exact ⟨[], .last hn hc, rfl⟩

theorem leads_cons {first last : Nat} :
    d.Leads c ((combinator, next) :: rest) first last ↔
      (∃ n, d.node first = .ok n ∧ c.Holds n) ∧
        ∃ below, d.Stands combinator first below ∧ d.Leads next rest below last := by
  constructor
  · rintro ⟨chain, h, hl⟩
    cases h with
    | @link _ _ _ _ _ below chain n hn hc hs h =>
      rw [List.getLast?_cons_cons] at hl
      exact ⟨⟨n, hn, hc⟩, below, hs, chain, h, hl⟩
  · rintro ⟨⟨n, hn, hc⟩, below, hs, chain, h, hl⟩
    refine ⟨below :: chain, .link hn hc hs h, ?_⟩
    rwa [List.getLast?_cons_cons]

theorem exists_leads_iff {number : Nat} :
    (∃ first, d.Leads c rest first number) ↔ ∃ chain, d.Chain c rest chain ∧ chain.getLast? = some number := by
  constructor
  · rintro ⟨first, chain, h, hl⟩
    exact ⟨first :: chain, h, hl⟩
  · rintro ⟨chain, h, hl⟩
    cases chain with
    | nil => cases hl
    | cons first chain => exact ⟨first, chain, h, hl⟩

theorem Chain.attached {chain : List Nat} (h : d.Chain c rest chain) : ∀ number ∈ chain, d.Attached number := by
  induction h with
  | last hn hc =>
    intro number hm
    rw [List.mem_singleton.mp hm]
    exact ⟨_, hn⟩
  | link hn hc hs h ih =>
    intro number hm
    rcases List.mem_cons.mp hm with rfl | hm
    · exact ⟨_, hn⟩
    · exact ih number hm

theorem attached_of_leads {first last : Nat} (h : d.Leads c rest first last) : d.Attached first := by
  obtain ⟨chain, h, -⟩ := h
  exact h.attached first List.mem_cons_self

/-! ## The search -/

theorem select_eq (selector : Selector) (t : Tree) :
    (selector.select t).map Node.number =
      ((t.places []).filter fun place => selector.acceptsPath (place.2.root :: place.1)).map (·.2.root.number) := by
  rw [Selector.select, Tree.paths_eq, List.filterMap_map]
  induction t.places [] with
  | nil => rfl
  | cons place places ih =>
    rw [List.filterMap_cons, List.filter_cons]
    by_cases hp : selector.acceptsPath (place.2.root :: place.1) = true
    · simpa [hp] using ih
    · simpa [hp] using ih

theorem select_sublist (selector : Selector) (t : Tree) :
    ((selector.select t).map Node.number).Sublist t.numbers := by
  rw [select_eq, t.numbers_eq []]
  exact List.filter_sublist.map _

section

variable (hd : d.Numbered) {path path' : List Node} {s s' : Tree}

include hd

theorem isParent_of_place (h : (path, s) ∈ d.body.places []) {parent : Nat} :
    d.IsParent parent s.root.number ↔ ∃ p rest, path = p :: rest ∧ p.number = parent := by
  rw [IsParent, parent_of_place hd h]
  cases path <;> simp

/-- Going up along a path meets the ancestors, each with the path above it. -/
theorem mem_climbs_iff (h : (path, s) ∈ d.body.places []) {n : Node} {above : List Node} :
    (n, above) ∈ Selector.climbs path ↔
      ∃ t, (above, t) ∈ d.body.places [] ∧ t.root = n ∧
        Relation.TransGen d.IsParent n.number s.root.number := by
  induction path generalizing s with
  | nil =>
    refine ⟨fun hm => (List.not_mem_nil hm).elim, ?_⟩
    rintro ⟨t, -, -, hup⟩
    obtain ⟨parent, -, hp⟩ := Relation.TransGen.tail'_iff.mp hup
    obtain ⟨p, rest, hnil, -⟩ := (isParent_of_place hd h).mp hp
    cases hnil
  | cons p path ih =>
    rcases Tree.mem_places_parent h with ⟨hnil, -⟩ | ⟨q, rest, hcons, hq, -⟩
    · cases hnil
    · cases hcons
      have hstep : d.IsParent q.root.number s.root.number := (isParent_of_place hd h).mpr ⟨_, _, rfl, rfl⟩
      rw [Selector.climbs, List.mem_cons, ih hq]
      constructor
      · rintro (he | ⟨t, ht, rfl, hup⟩)
        · cases he
          exact ⟨q, hq, rfl, .single hstep⟩
        · exact ⟨t, ht, rfl, hup.tail hstep⟩
      · rintro ⟨t, ht, rfl, hup⟩
        obtain ⟨parent, hup, hp⟩ := Relation.TransGen.tail'_iff.mp hup
        obtain ⟨p, rest, he, rfl⟩ := (isParent_of_place hd h).mp hp
        cases he
        rcases Relation.reflTransGen_iff_eq_or_transGen.mp hup with heq | hup
        · obtain ⟨rfl, rfl⟩ := Tree.place_unique hd.nodup ht hq heq.symm
          exact .inl rfl
        · exact .inr ⟨t, ht, rfl, hup⟩

theorem fits_cons_iff (h : (path, s) ∈ d.body.places []) {links : List (Combinator × Compound)} :
    Selector.fits ((combinator, c) :: links) path = true ↔
      ∃ above t, (above, t) ∈ d.body.places [] ∧ d.Stands combinator t.root.number s.root.number ∧
        c.Holds t.root ∧ Selector.fits links above = true := by
  cases combinator with
  | child =>
    cases path with
    | nil =>
      refine ⟨fun hf => Bool.noConfusion hf, ?_⟩
      rintro ⟨above, t, -, hp, -⟩
      obtain ⟨p, rest, hnil, -⟩ := (isParent_of_place hd h).mp hp
      cases hnil
    | cons p path =>
      rcases Tree.mem_places_parent h with ⟨hnil, -⟩ | ⟨q, rest, hcons, hq, -⟩
      · cases hnil
      · cases hcons
        rw [Selector.fits, Bool.and_eq_true, Compound.accepts_iff]
        constructor
        · rintro ⟨hc, hf⟩
          exact ⟨path, q, hq, (isParent_of_place hd h).mpr ⟨_, _, rfl, rfl⟩, hc, hf⟩
        · rintro ⟨above, t, ht, hp, hc, hf⟩
          obtain ⟨p, rest, he, hpt⟩ := (isParent_of_place hd h).mp hp
          cases he
          obtain ⟨rfl, rfl⟩ := Tree.place_unique hd.nodup ht hq hpt.symm
          exact ⟨hc, hf⟩
  | descendant =>
    rw [Selector.fits, List.any_eq_true]
    constructor
    · rintro ⟨⟨n, above⟩, hm, hf⟩
      obtain ⟨t, ht, rfl, hup⟩ := (mem_climbs_iff hd h).mp hm
      rw [Bool.and_eq_true, Compound.accepts_iff] at hf
      exact ⟨above, t, ht, hup, hf⟩
    · rintro ⟨above, t, ht, hup, hc, hf⟩
      refine ⟨(t.root, above), (mem_climbs_iff hd h).mpr ⟨t, ht, rfl, hup⟩, ?_⟩
      rw [Bool.and_eq_true, Compound.accepts_iff]
      exact ⟨hc, hf⟩

/-- The search from right to left with compounds `links` still to come, when `c` and `rest` have been read, finds a
chain for these that starts below whatever fits the others. -/
theorem fits_foldl_iff (h : (path, s) ∈ d.body.places []) (links : List (Combinator × Compound)) :
    let search := rest.foldl (fun (last, links) (combinator, compound) => (compound, (combinator, last) :: links))
      (c, links)
    (search.1.accepts s.root = true ∧ Selector.fits search.2 path = true) ↔
      ∃ above t, (above, t) ∈ d.body.places [] ∧ Selector.fits links above = true ∧
        d.Leads c rest t.root.number s.root.number := by
  induction rest generalizing c links with
  | nil =>
    simp only [List.foldl_nil, Compound.accepts_iff, leads_nil]
    constructor
    · rintro ⟨hc, hf⟩
      exact ⟨path, s, h, hf, rfl, s.root, node_of_place hd h, hc⟩
    · rintro ⟨above, t, ht, hf, he, n, hn, hc⟩
      obtain ⟨rfl, rfl⟩ := Tree.place_unique hd.nodup ht h he
      rw [node_of_place hd h] at hn
      cases hn
      exact ⟨hc, hf⟩
  | cons link rest ih =>
    obtain ⟨combinator, next⟩ := link
    simp only [List.foldl_cons, ih, leads_cons]
    constructor
    · rintro ⟨above, t, ht, hf, hl⟩
      obtain ⟨above', t', ht', hs, hc, hf'⟩ := (fits_cons_iff hd ht).mp hf
      exact ⟨above', t', ht', hf', ⟨t'.root, node_of_place hd ht', hc⟩, t.root.number, hs, hl⟩
    · rintro ⟨above', t', ht', hf', ⟨n, hn, hc⟩, below, hs, hl⟩
      rw [node_of_place hd ht'] at hn
      cases hn
      obtain ⟨above, t, ht, rfl⟩ := exists_place_of_attached (attached_of_leads hl)
      exact ⟨above, t, ht, (fits_cons_iff hd ht).mpr ⟨above', t', ht', hs, hc, hf'⟩, hl⟩

/-- An element is accepted exactly if a chain ends with it. -/
theorem acceptsPath_iff (h : (path, s) ∈ d.body.places []) {selector : Selector} :
    selector.acceptsPath (s.root :: path) = true ↔
      ∃ chain, d.Chain selector.first selector.rest chain ∧ chain.getLast? = some s.root.number := by
  rw [Selector.acceptsPath, Bool.and_eq_true, ← exists_leads_iff]
  refine (fits_foldl_iff hd h []).trans ?_
  constructor
  · rintro ⟨above, t, -, -, hl⟩
    exact ⟨_, hl⟩
  · rintro ⟨first, hl⟩
    obtain ⟨above, t, ht, rfl⟩ := exists_place_of_attached (attached_of_leads hl)
    exact ⟨above, t, ht, rfl, hl⟩

theorem mem_select_iff {selector : Selector} {number : Nat} :
    number ∈ (selector.select d.body).map Node.number ↔
      ∃ chain, d.Chain selector.first selector.rest chain ∧ chain.getLast? = some number := by
  rw [select_eq, List.mem_map]
  constructor
  · rintro ⟨⟨path, s⟩, hm, rfl⟩
    obtain ⟨hp, ha⟩ := List.mem_filter.mp hm
    exact (acceptsPath_iff hd hp).mp ha
  · rintro ⟨chain, h, hl⟩
    obtain ⟨path, s, hp, rfl⟩ := exists_place_of_attached (h.attached number (List.mem_of_getLast? hl))
    exact ⟨(path, s), List.mem_filter.mpr ⟨hp, (acceptsPath_iff hd hp).mpr ⟨chain, h, hl⟩⟩, rfl⟩

end

end Document

/-- In every document that a page comes to, a query answers the elements with which a chain for its selector ends,
each once and in document order, and a query for one element answers the first of them. -/
theorem query_finds_chains (page : Page) (events : List World.Event) {text : String} {selector : Selector}
    (h : Selector.parse text = .ok selector) :
    let w := (World.ofPage page).after events
    ∃ found : List Nat,
      World.host.call (.queryAll text) w = (.ok found, w) ∧ found.Nodup ∧
      found.Sublist w.document.body.numbers ∧
      (∀ number, number ∈ found ↔
        ∃ chain, w.document.Chain selector.first selector.rest chain ∧ chain.getLast? = some number) ∧
      World.host.call (.query text) w = (.ok found.head?, w) ∧
      (w.document.find? text).map Node.number = found.head? := by
  intro w
  have hd : w.document.Numbered := World.numbered_after page events
  have hall : w.document.selectAll text = .ok (selector.select w.document.body) := by
    rw [Document.selectAll, h]
    rfl
  have hfirst : w.document.selectFirst text = .ok (selector.select w.document.body).head? := by
    rw [Document.selectFirst, hall]
    rfl
  have hsub := Document.select_sublist selector w.document.body
  refine ⟨(selector.select w.document.body).map Node.number, ?_, hsub.nodup hd.nodup, hsub,
    fun number => Document.mem_select_iff hd, ?_, ?_⟩
  · change ((w.document.selectAll text).map _, w) = _
    rw [hall]
    rfl
  · change ((w.document.selectFirst text).map _, w) = _
    rw [hfirst, List.head?_map]
    rfl
  · rw [Document.find?, hfirst, List.head?_map]
    rfl

/-- An item that was added to a list is found behind the one that was there, with the list above it. -/
theorem query_finds_chains_appended :
    let item : Element := { tag := "li", className := some "item" }
    let page : Page := { body := [{ tag := "ul", children := [item] }, item] }
    let w := (World.ofPage page).after [.append "ul" item]
    let selector : Selector := ⟨{ tag := some "ul" }, [(.descendant, { classes := ["item"] })]⟩
    Selector.parse "ul .item" = .ok selector ∧ World.host.call (.queryAll "ul .item") w = (.ok [2, 4], w) ∧
      ∃ chain, w.document.Chain selector.first selector.rest chain ∧ chain.getLast? = some 4 := by
  intro item page w selector
  have h : Selector.parse "ul .item" = .ok selector := by rfl
  obtain ⟨found, hall, -, -, hchain, -⟩ := query_finds_chains page [.append "ul" item] h
  have hfound : (World.host.call (.queryAll "ul .item") w).1 = .ok [2, 4] := by decide +kernel
  have heq : found = [2, 4] := by
    rw [hall] at hfound
    exact Except.ok.inj hfound
  subst heq
  exact ⟨h, hall, (hchain 4).mp (by decide)⟩

end PageScript
