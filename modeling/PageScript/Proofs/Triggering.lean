import PageScript.Proofs.Handles
import PageScript.Proofs.Timeline

/-!
# Effects one after another

A click or a key-down is recorded, and then it has its effects, one after another, each on the document that the one
before it left. An effect with a delay is only put among those still to come. One without a delay looks for its target
at once, and is skipped if there is none. The first effect that fails is the last: what was done before it stays, and
neither it nor anything behind it is done or put off.
-/
namespace PageScript

namespace Tree

variable {t : Tree} {number : Nat} {change change' : Node → Node}

theorem update_congr (h : ∀ n ∈ t.nodes, n.number = number → change n = change' n) :
    t.update number change = t.update number change' := by
  induction t using induct with
  | node root children ih =>
    rw [nodes_node, List.forall_mem_cons] at h
    have hchildren : ∀ c ∈ children, c.update number change = c.update number change' :=
      fun c hc => ih c hc fun n hn => h.2 n (List.mem_flatMap.mpr ⟨c, hc, hn⟩)
    simp only [update_node, List.map_congr_left hchildren, Tree.mk.injEq, and_true]
    split
    · exact h.1 ‹_›
    · rfl

theorem update_id (number : Nat) (t : Tree) : t.update number id = t := by
  induction t using induct with
  | node root children ih => simp [update_node, List.map_congr_left ih]

end Tree

namespace Document

/-- What the first look for a target comes to: no element, or the first of those that are found. -/
inductive Finds (d : Document) (target : String) : Option Node → Prop
  | nothing {s : Selector} (hs : Selector.parse target = .ok s) (hf : d.found s = []) : Finds d target none
  | first {s : Selector} {n : Node} {others : List Nat} (hs : Selector.parse target = .ok s)
      (hf : d.found s = n.number :: others) (hn : d.node n.number = .ok n) : Finds d target (some n)

/-- What a change makes of a document if it is made to a node. The body cannot be taken out. -/
inductive Makes (d : Document) (n : Node) : Change → Document → Prop
  | setValue (value : String) : Makes d n (.setValue value) (d.update n.number ({ · with value }))
  | setText (text : String) : Makes d n (.setText text) (d.update n.number ({ · with text }))
  | addClass {token : String} (h : token ∉ n.classes) :
      Makes d n (.addClass token) (d.update n.number ({ · with classes := n.classes ++ [token] }))
  | keepClass {token : String} (h : token ∈ n.classes) : Makes d n (.addClass token) d
  | removeClass (token : String) :
      Makes d n (.removeClass token) (d.update n.number ({ · with classes := n.classes.filter (· ≠ token) }))
  | append (element : Element) : Makes d n (.append element) (d.insert n.number element)
  | remove {t : Tree} (hb : n.number ≠ 0) (ht : d.subtree n.number = .ok t) : Makes d n .remove (d.remove t)

variable {d d' : Document} {n : Node} {c : Change}

theorem Makes.records (h : d.Makes n c d') : d'.activations = d.activations ∧ d'.keyDowns = d.keyDowns := by
  cases h <;> exact ⟨rfl, rfl⟩

theorem mem_nodes_of_select {s : Selector} (h : n ∈ s.select d.body) : n ∈ d.nodes := by
  obtain ⟨path, hpath, hn⟩ := List.mem_filterMap.mp h
  split at hn
  · rw [nodes, Tree.nodes_eq_paths d.body []]
    exact List.mem_filterMap.mpr ⟨path, hpath, hn⟩
  · cases hn

theorem selectFirst_eq_ok (hd : d.Numbered) {target : String} {first : Option Node} :
    d.selectFirst target = .ok first ↔ d.Finds target first := by
  have hselect : d.selectFirst target = .ok first ↔
      ∃ s, Selector.parse target = .ok s ∧ (s.select d.body).head? = first := by
    simp [selectFirst, selectAll, map_eq_ok]
  rw [hselect]
  constructor
  · rintro ⟨s, hs, rfl⟩
    cases hselected : s.select d.body with
    | nil => exact .nothing hs (by simp [found, hselected])
    | cons n others =>
      have hn : n ∈ d.nodes := mem_nodes_of_select (s := s) (by simp [hselected])
      have hf : d.found s = n.number :: others.map Node.number := by simp [found, hselected]
      exact .first hs hf (node_of_mem_nodes hd hn)
  · rintro (⟨hs, hf⟩ | ⟨hs, hf, hn⟩)
    · exact ⟨_, hs, by simpa [found] using hf⟩
    · rename_i s n others
      refine ⟨s, hs, ?_⟩
      cases hselected : s.select d.body with
      | nil => simp [found, hselected] at hf
      | cons m ms =>
        have hm : m ∈ d.nodes := mem_nodes_of_select (s := s) (by simp [hselected])
        have hnumber : m.number = n.number := by
          rw [found, hselected] at hf
          exact (List.cons.inj hf).1
        rw [List.head?_cons, List.inj_on_of_nodup_map hd.nodup hm (mem_nodes_of_node hn) hnumber]

theorem Finds.mem_nodes {target : String} (h : d.Finds target (some n)) : n ∈ d.nodes := by
  cases h with
  | first hs hf hn => exact mem_nodes_of_node hn

/-- A number stands for one node, so what is done to all nodes of the number is done to that one. -/
theorem Numbered.update_congr (hd : d.Numbered) (hn : n ∈ d.nodes) {change change' : Node → Node}
    (h : change n = change' n) : d.update n.number change = d.update n.number change' := by
  have hbody : d.body.update n.number change = d.body.update n.number change' := by
    refine Tree.update_congr fun m hm he => ?_
    rwa [List.inj_on_of_nodup_map hd.nodup hm hn he]
  simp only [Document.update, hbody]

theorem update_id (number : Nat) (d : Document) : d.update number id = d := by
  simp only [update, Tree.update_id]

theorem change_eq_ok (hd : d.Numbered) (hn : n ∈ d.nodes) : d.change n c = .ok d' ↔ d.Makes n c d' := by
  cases c with
  | setValue value => exact ⟨by rintro ⟨⟩; exact .setValue value, by rintro ⟨⟩; rfl⟩
  | setText text => exact ⟨by rintro ⟨⟩; exact .setText text, by rintro ⟨⟩; rfl⟩
  | addClass token =>
    have hkeep (h : token ∈ n.classes) : d.change n (.addClass token) = .ok d := by
      refine congrArg Except.ok (Eq.trans ?_ (update_id n.number d))
      exact hd.update_congr hn (by simp [h])
    have hadd (h : token ∉ n.classes) : d.change n (.addClass token) =
        .ok (d.update n.number ({ · with classes := n.classes ++ [token] })) :=
      congrArg Except.ok (hd.update_congr hn (by simp [h]))
    by_cases h : token ∈ n.classes
    · rw [hkeep h]
      exact ⟨by rintro ⟨⟩; exact .keepClass h, by rintro ⟨⟩ <;> trivial⟩
    · rw [hadd h]
      exact ⟨by rintro ⟨⟩; exact .addClass h, by rintro ⟨⟩ <;> trivial⟩
  | removeClass token =>
    have hremove : d.change n (.removeClass token) =
        .ok (d.update n.number ({ · with classes := n.classes.filter (· ≠ token) })) :=
      congrArg Except.ok (hd.update_congr hn (by simp [bne, beq_eq_decide]))
    rw [hremove]
    exact ⟨by rintro ⟨⟩; exact .removeClass token, by rintro ⟨⟩; rfl⟩
  | append element => exact ⟨by rintro ⟨⟩; exact .append element, by rintro ⟨⟩; rfl⟩
  | remove =>
    rw [change, hd.root_eq]
    constructor
    · intro h
      split at h
      · cases h
      · obtain ⟨t, ht, rfl⟩ := map_eq_ok.mp h
        exact .remove ‹_› ht
    · rintro ⟨⟩
      rename_i t hb ht
      rw [if_neg hb, ht]
      rfl

theorem change_eq_error (hd : d.Numbered) (hn : n ∈ d.nodes) {fault : Fault} :
    d.change n c = .error fault ↔
      c = .remove ∧ n.number = 0 ∧ fault = .driver "cannot remove the document body" := by
  cases c with
  | remove =>
    obtain ⟨t, ht⟩ : ∃ t, d.subtree n.number = .ok t := by
      obtain ⟨t, ht⟩ := Option.isSome_iff_exists.mp (Tree.isSome_find?.mpr (List.mem_map_of_mem hn))
      exact ⟨t, subtree_eq_ok.mpr ht⟩
    rw [change, hd.root_eq, ht]
    by_cases hb : n.number = 0 <;> simp [hb, Except.map, eq_comm]
  | _ => simp [change]

end Document

namespace World

def clicked (w : World) (number : Nat) : World :=
  { w with document := { w.document with activations := w.document.activations ++ [number] } }

def keyed (w : World) (code : Nat) : World :=
  { w with document := { w.document with keyDowns := w.document.keyDowns ++ [code] } }

/-- What an effect that does not fail makes of a world. -/
inductive Takes (w : World) (e : Effect) : World → Prop
  /-- It will happen later, behind everything that is due by then. -/
  | scheduled {earlier later : List Pending} (hd : e.delay ≠ 0) (hp : w.pending = earlier ++ later)
      (he : ∀ p ∈ earlier, p.due ≤ w.ahead e.delay)
      (hl : ∀ p ∈ later, w.ahead e.delay < p.due) :
      Takes w e { w with pending := earlier ++ ⟨w.ahead e.delay, e⟩ :: later }
  | skipped (hd : e.delay = 0) (hf : w.document.Finds e.target none) : Takes w e w
  | applied {n : Node} {d : Document} (hd : e.delay = 0) (hf : w.document.Finds e.target (some n))
      (hc : w.document.Makes n e.change d) : Takes w e (w.notify d)

/-- How an effect fails. One with a delay does not, whatever its target. -/
inductive Fails (w : World) (e : Effect) : Fault → Prop
  | target {reason : String} (hd : e.delay = 0)
      (hs : Selector.parse e.target = .error (.invalidSelector e.target reason)) :
      Fails w e (.invalidSelector e.target reason)
  | body {n : Node} (hd : e.delay = 0) (hf : w.document.Finds e.target (some n)) (hb : n.number = 0)
      (hc : e.change = .remove) : Fails w e (.driver "cannot remove the document body")

/-- Effects one after another, none of which fails. -/
inductive TakesAll : World → List Effect → World → Prop
  | nil (w : World) : TakesAll w [] w
  | cons {w w' w'' : World} {e : Effect} {effects : List Effect} (h : w.Takes e w') (hs : TakesAll w' effects w'') :
      TakesAll w (e :: effects) w''

/-- Effects one after another, up to the first that fails. -/
inductive SetsOff (w : World) (effects : List Effect) : Except Fault Unit → World → Prop
  | all {w' : World} (h : TakesAll w effects w') : SetsOff w effects (.ok ()) w'
  | failed {taken rest : List Effect} {e : Effect} {w' : World} {fault : Fault} (he : effects = taken ++ e :: rest)
      (h : TakesAll w taken w') (hf : w'.Fails e fault) : SetsOff w effects (.error fault) w'

/-- What effects leave as it was: the clock and the records. Of what is to come they add those of them that have a
delay. -/
structure Leaves (w : World) (taken : List Effect) (w' : World) : Prop where
  now : w'.now = w.now
  longestWait : w'.longestWait = w.longestWait
  activations : w'.document.activations = w.document.activations
  keyDowns : w'.document.keyDowns = w.document.keyDowns
  pending : w'.pending.Perm
    (w.pending ++ (taken.filter (·.delay ≠ 0)).map fun e => ⟨w.ahead e.delay, e⟩)

variable {w w' w'' : World} {e : Effect} {effects : List Effect} {result : Except Fault Unit} {fault : Fault}

/-! ## One effect -/

theorem schedule_eq_iff (h : w.Orderly) (hd : e.delay ≠ 0) : w.schedule e = w' ↔ w.Takes e w' := by
  constructor
  · rintro rfl
    refine .scheduled hd List.takeWhile_append_dropWhile.symm (fun p hp => ?_) (fun p hp => ?_)
    · simpa using List.all_eq_true.mp List.all_takeWhile p hp
    · exact lt_of_mem_dropWhile _ h.sorted p hp
  · rintro (⟨-, hp, he, hl⟩ | ⟨h0, -⟩ | ⟨h0, -, -⟩)
    · rename_i earlier later
      have hspan : w.pending.takeWhile (·.due ≤ w.ahead e.delay) = earlier ∧
          w.pending.dropWhile (·.due ≤ w.ahead e.delay) = later := by
        have he' : ∀ p ∈ earlier, decide (p.due ≤ w.ahead e.delay) = true := by simpa using he
        rw [hp, List.takeWhile_append_of_pos he', List.dropWhile_append_of_pos he']
        cases later with
        | nil => simp
        | cons p later => simp [hl p List.mem_cons_self]
      simp only [schedule, hspan.1, hspan.2]
    · exact absurd h0 hd
    · exact absurd h0 hd

theorem trigger_eq_ok (h : w.Orderly) (hd : w.document.Numbered) : w.trigger e = .ok w' ↔ w.Takes e w' := by
  by_cases h0 : e.delay = 0
  · rw [trigger, if_pos h0]
    constructor
    · intro ht
      obtain ⟨changed, ha, rfl⟩ := map_eq_ok.mp ht
      obtain ⟨found, hs, ha⟩ := bind_eq_ok.mp ha
      cases found with
      | none =>
        cases ha
        exact .skipped h0 ((Document.selectFirst_eq_ok hd).mp hs)
      | some n =>
        obtain ⟨d, hc, ha⟩ := bind_eq_ok.mp ha
        cases ha
        have hf := (Document.selectFirst_eq_ok hd).mp hs
        exact .applied h0 hf ((Document.change_eq_ok hd hf.mem_nodes).mp hc)
    · rintro (⟨hdelay, -⟩ | ⟨-, hf⟩ | ⟨-, hf, hc⟩)
      · exact absurd h0 hdelay
      · rw [apply, Document.apply, (Document.selectFirst_eq_ok hd).mpr hf]
        rfl
      · rw [apply, Document.apply, (Document.selectFirst_eq_ok hd).mpr hf]
        have hchange := (Document.change_eq_ok hd hf.mem_nodes).mpr hc
        simp [bind, Except.bind, hchange, pure, Except.pure, Except.map]
  · rw [trigger, if_neg h0, ← schedule_eq_iff h h0]
    simp

theorem trigger_eq_error (hd : w.document.Numbered) : w.trigger e = .error fault ↔ w.Fails e fault := by
  rw [trigger]
  split
  · rename_i h0
    refine map_eq_error.trans (bind_eq_error.trans ⟨?_, ?_⟩)
    · rintro (hs | ⟨found, hs, ha⟩)
      · have hp := map_eq_error.mp (map_eq_error.mp hs)
        obtain ⟨reason, rfl⟩ := Selector.parse_eq_error hp
        exact .target h0 hp
      · cases found with
        | none => cases ha
        | some n =>
          rcases bind_eq_error.mp ha with hc | ⟨d, -, ⟨⟩⟩
          have hf := (Document.selectFirst_eq_ok hd).mp hs
          obtain ⟨hremove, hb, rfl⟩ := (Document.change_eq_error hd hf.mem_nodes).mp hc
          exact .body h0 hf hb hremove
    · rintro (⟨-, hs⟩ | ⟨-, hf, hb, hc⟩)
      · exact .inl (map_eq_error.mpr (map_eq_error.mpr hs))
      · refine .inr ⟨_, (Document.selectFirst_eq_ok hd).mpr hf, bind_eq_error.mpr (.inl ?_)⟩
        exact (Document.change_eq_error hd hf.mem_nodes).mpr ⟨hc, hb, rfl⟩
  · rename_i h0
    constructor
    · rintro ⟨⟩
    · rintro (⟨hdelay, -⟩ | ⟨hdelay, -⟩) <;> exact absurd hdelay h0

/-! ## One after another -/

theorem setsOff_nil : w.SetsOff [] result w' ↔ result = .ok () ∧ w' = w := by
  constructor
  · rintro (⟨⟨⟩⟩ | ⟨he, -, -⟩)
    · exact ⟨rfl, rfl⟩
    · simp at he
  · rintro ⟨rfl, rfl⟩
    exact .all (.nil _)

theorem setsOff_cons : w.SetsOff (e :: effects) result w'' ↔
    (∃ w', w.Takes e w' ∧ w'.SetsOff effects result w'') ∨
      ∃ fault, w.Fails e fault ∧ result = .error fault ∧ w'' = w := by
  constructor
  · rintro (⟨⟨⟩⟩ | ⟨he, h, hf⟩)
    · rename_i w' h hs
      exact .inl ⟨w', h, .all hs⟩
    · cases h with
      | nil =>
        cases he
        exact .inr ⟨_, hf, rfl, rfl⟩
      | cons h hs =>
        cases he
        exact .inl ⟨_, h, .failed rfl hs hf⟩
  · rintro (⟨w', h, hs | ⟨rfl, hs, hf⟩⟩ | ⟨fault, hf, rfl, rfl⟩)
    · exact .all (.cons h ‹_›)
    · exact .failed (List.cons_append ..).symm (.cons h hs) hf
    · exact .failed (List.nil_append _).symm (.nil _) hf

/-- Triggering effects comes to what they set off. -/
theorem triggerAll_eq_iff (h : w.Orderly) (hd : w.document.Numbered) :
    w.triggerAll effects = (result, w') ↔ w.SetsOff effects result w' := by
  induction effects generalizing w with
  | nil => rw [triggerAll, setsOff_nil, Prod.mk.injEq, eq_comm, @eq_comm _ w]
  | cons e effects ih =>
    rw [triggerAll, setsOff_cons]
    cases ht : w.trigger e with
    | ok w₁ =>
      have hnext := ih (h.trigger ht) ((becomes_trigger ht).edits.numbered hd)
      have hfails : ∀ fault, ¬w.Fails e fault := by
        intro fault hf
        cases ht.symm.trans ((trigger_eq_error hd).mpr hf)
      refine hnext.trans ⟨fun hs => .inl ⟨w₁, (trigger_eq_ok h hd).mp ht, hs⟩, ?_⟩
      rintro (⟨w₂, htakes, hs⟩ | ⟨fault, hf, -⟩)
      · cases ht.symm.trans ((trigger_eq_ok h hd).mpr htakes)
        exact hs
      · exact absurd hf (hfails fault)
    | error fault =>
      have hf := (trigger_eq_error hd).mp ht
      constructor
      · rintro ⟨⟩
        exact .inr ⟨fault, hf, rfl, rfl⟩
      · rintro (⟨w₂, htakes, -⟩ | ⟨fault', hf', rfl, rfl⟩)
        · cases ht.symm.trans ((trigger_eq_ok h hd).mpr htakes)
        · cases ht.symm.trans ((trigger_eq_error hd).mpr hf')
          rfl

theorem activate_eq {number : Nat} {n : Node} (h : w.document.node number = .ok n) :
    w.activate number = (w.clicked number).triggerAll n.onClick := by
  obtain ⟨t, ht, rfl⟩ := Document.node_eq_ok.mp h
  have hnumber : t.root.number = number := (Tree.exists_place_of_find? [] ht).2
  simp only [activate, Document.activate, h, Except.map, hnumber, clicked]

theorem keyDown_eq (w : World) (code : Nat) :
    w.keyDown code =
      let after := (w.keyed code).triggerAll ((w.document.onKey.lookup code).getD [])
      (after.1.map fun _ => decide (code ∉ w.document.preventDefault), after.2) := by
  unfold World.keyDown Document.keyDown
  dsimp only
  split <;> rename_i heq <;> change (w.keyed code).triggerAll _ = _ at heq
  · simp [heq, Except.map]
  · simp [heq, Except.map]

/-- A click on an element sets off the element's effects. -/
theorem activate_eq_iff (h : w.Orderly) (hd : w.document.Numbered) {number : Nat} {n : Node}
    (hn : w.document.node number = .ok n) :
    w.activate number = (result, w') ↔ (w.clicked number).SetsOff n.onClick result w' := by
  rw [activate_eq hn]
  exact triggerAll_eq_iff ⟨h.sorted, h.ahead, h.known⟩ ⟨hd.root_eq, hd.rises, hd.perm⟩

theorem keyDown_eq_iff (h : w.Orderly) (hd : w.document.Numbered) {code : Nat} {passes : Except Fault Bool} :
    w.keyDown code = (passes, w') ↔
      ∃ done, (w.keyed code).SetsOff ((w.document.onKey.lookup code).getD []) done w' ∧
        passes = done.map fun _ => decide (code ∉ w.document.preventDefault) := by
  have hkeyed : (w.keyed code).Orderly := ⟨h.sorted, h.ahead, h.known⟩
  have hnumbered : (w.keyed code).document.Numbered := ⟨hd.root_eq, hd.rises, hd.perm⟩
  simp only [keyDown_eq, ← triggerAll_eq_iff hkeyed hnumbered, Prod.mk.injEq]
  constructor
  · rintro ⟨rfl, rfl⟩
    exact ⟨_, rfl, rfl⟩
  · rintro ⟨done, heq, rfl⟩
    simp [heq]

theorem Takes.leaves (h : w.Takes e w') : w.Leaves [e] w' := by
  cases h with
  | scheduled hd hp he hl =>
    refine ⟨rfl, rfl, rfl, rfl, ?_⟩
    simp only [hp, hd, ne_eq, not_false_eq_true, decide_true, List.filter_cons_of_pos, List.filter_nil, List.map_cons,
      List.map_nil]
    exact List.perm_middle.trans (List.perm_append_singleton _ _).symm
  | skipped hd hf => exact ⟨rfl, rfl, rfl, rfl, by simp [hd]⟩
  | applied hd hf hc =>
    obtain ⟨hactivations, hkeys⟩ := hc.records
    exact ⟨rfl, rfl, hactivations, hkeys, by simp [hd, notify]⟩

theorem TakesAll.leaves (h : TakesAll w effects w') : w.Leaves effects w' := by
  induction h with
  | nil w => exact ⟨rfl, rfl, rfl, rfl, by simp⟩
  | cons h hs ih =>
    have hfirst := h.leaves
    refine ⟨ih.now.trans hfirst.now, ih.longestWait.trans hfirst.longestWait,
      ih.activations.trans hfirst.activations, ih.keyDowns.trans hfirst.keyDowns, ?_⟩
    have hpending := ih.pending.trans (hfirst.pending.append_right _)
    simp only [ahead, hfirst.now, hfirst.longestWait] at hpending
    rw [List.append_assoc, ← List.map_append, ← List.filter_append] at hpending
    exact hpending

end World

/-! ## What a page lays down -/

namespace Document

variable {d d' : Document}

theorem Edit.keys (h : Edit d d') : d'.onKey = d.onKey ∧ d'.preventDefault = d.preventDefault := by
  cases h <;> exact ⟨rfl, rfl⟩

theorem Edits.keys (h : Edits d d') : d'.onKey = d.onKey ∧ d'.preventDefault = d.preventDefault := by
  induction h with
  | refl => exact ⟨rfl, rfl⟩
  | tail _ he ih => exact ⟨he.keys.1.trans ih.1, he.keys.2.trans ih.2⟩

end Document

/-- In every world that a page comes to, a click on an element is recorded and sets off the click effects of the element,
and one on an element that is gone changes nothing. A key-down is recorded and sets off the effects that the page lays
down for the key; if none fails, the answer is whether the page lets the key pass. Effects that are set off are taken one
after another up to the first that fails; they leave no record, take no time, and only those taken are ever due. -/
theorem effects_in_turn (page : Page) (events : List World.Event) :
    let w := (World.ofPage page).after events
    (∀ number, ¬w.document.Attached number →
      World.host.call (.activate number) w = (.error (.staleElement number), w)) ∧
    (∀ number n, w.document.node number = .ok n → ∀ result w',
      World.host.call (.activate number) w = (result, w') ↔ (w.clicked number).SetsOff n.onClick result w') ∧
    (∀ code result w', World.host.call (.keyDown code) w = (result, w') ↔
      ∃ done, (w.keyed code).SetsOff ((page.onKey.lookup code).getD []) done w' ∧
        result = done.map fun _ => decide (code ∉ page.preventDefault)) ∧
    ∀ (w₁ w₂ : World) (taken : List Effect), w₁.TakesAll taken w₂ → w₁.Leaves taken w₂ := by
  intro w
  have hd : w.document.Numbered := World.numbered_after page events
  have ho : w.Orderly := World.orderly_after page events
  refine ⟨fun number hn => ?_, fun number n hn result w' => ?_, fun code result w' => ?_, fun w₁ w₂ taken h => h.leaves⟩
  · have hstale : w.document.activate number = .error (.staleElement number) :=
      map_eq_error.mpr (Document.node_eq_error.mpr ⟨rfl, hn⟩)
    change w.activate number = _
    rw [World.activate, hstale]
  · exact World.activate_eq_iff ho hd hn
  · obtain ⟨hkeys, hprevent⟩ := (World.becomes_after (World.ofPage page) events).edits.keys
    have hiff : w.keyDown code = (result, w') ↔ _ := World.keyDown_eq_iff ho hd
    rw [hkeys, hprevent] at hiff
    exact hiff

/-- A click takes its element out, finds the next target missing, puts an effect off and fails at the body. The effects
behind that come to nothing, and a second click finds the element gone. -/
theorem effects_in_turn_cut :
    let effects : List Effect := [⟨"#go", .remove, 0⟩, ⟨"#go", .setText "gone", 0⟩, ⟨"#go", .remove, 5⟩,
      ⟨"p", .addClass "on", 0⟩, ⟨"body", .remove, 0⟩, ⟨"p", .setText "late", 0⟩, ⟨"p", .remove, 7⟩]
    let button : Element := { tag := "button", id := some "go", onClick := effects }
    let page : Page := { body := [button, { tag := "p" }] }
    let click : World.Event := .request (.activate 1)
    let w := (World.ofPage page).after []
    let w' := (World.ofPage page).after [click]
    w.document.node 1 = .ok (.ofElement 1 button) ∧
      (w.clicked 1).SetsOff effects (.error (.driver "cannot remove the document body")) w' ∧
      w'.document.activations = [1] ∧ w'.pending.map Pending.due = [5] ∧ w'.document.classNames 2 = .ok ["on"] ∧
      w'.document.text 2 = .ok "" ∧ ¬w'.document.Attached 1 ∧
      World.host.call (.activate 1) w' = (.error (.staleElement 1), w') := by
  intro effects button page click w w'
  obtain ⟨-, hclick, -⟩ := effects_in_turn page []
  obtain ⟨hstale, -⟩ := effects_in_turn page [click]
  have hn : w.document.node 1 = .ok (.ofElement 1 button) := rfl
  have hresult : (World.host.call (.activate 1) w).1 = .error (.driver "cannot remove the document body") := by
    decide +kernel
  have hsetsOff := (hclick 1 _ hn _ w').mp (Prod.ext hresult rfl)
  have hgone : ¬w'.document.Attached 1 := by
    rw [Document.attached_iff]
    decide +kernel
  exact ⟨hn, hsetsOff, by decide +kernel, by decide +kernel, by decide +kernel, by decide +kernel, hgone,
    hstale 1 hgone⟩

end PageScript
