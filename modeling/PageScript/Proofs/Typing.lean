import PageScript.Proofs.Effects
import PageScript.Proofs.Keyboards
import PageScript.Proofs.Listening

/-!
# Typing on keyboards

Before the first key is pressed, every key is looked up, so a text with a missing key presses none. Otherwise the keys
are pressed in order, up to the first that has gone or whose effects fail. Nothing but a press leaves a record of one:
neither waiting for the keyboard, nor reading it, nor the effects of keys.
-/
namespace PageScript

/-- A fault says that a keyboard has no key for a glyph. -/
def Fault.NamesGlyph (fault : Fault) : Prop := ∃ selector glyph, fault = .unknownKeyGlyph selector glyph

theorem Fault.OfEffect.not_namesGlyph {fault : Fault} (h : fault.OfEffect) : ¬fault.NamesGlyph := by
  rintro ⟨_, _, rfl⟩
  cases h

namespace World

variable {w w' : World}

/-! ## Presses -/

/-- A click on an element is recorded, whatever becomes of its effects, unless the element is gone. -/
theorem activate_records (w : World) (number : Nat) :
    (w.activate number).2.document.activations = w.document.activations ++ [number] ∨
      (w.activate number).1 ≠ .ok () ∧ (w.activate number).2 = w := by
  cases hf : w.document.body.find? number with
  | none =>
    have hactivate : w.activate number = (.error (.staleElement number), w) := by
      rw [activate, Document.activate, Document.node, Document.subtree, hf]
      rfl
    rw [hactivate]
    refine .inr ⟨fun h => ?_, rfl⟩
    cases h
  | some t =>
    have hnumber : t.root.number = number := (Tree.exists_place_of_find? [] hf).2
    let d := { w.document with activations := w.document.activations ++ [number] }
    have hactivate : w.activate number = { w with document := d }.triggerAll t.root.onClick := by
      rw [activate, Document.activate, Document.node, Document.subtree, hf]
      simp only [Except.map, hnumber, d]
    rw [hactivate]
    exact .inl (elementsOnly_triggerAll { w with document := d } t.root.onClick).activations

/-- Of some keys the first ones are pressed, and all of them if no press fails. -/
theorem press_records (keys : List Nat) (w : World) :
    (∀ fault, (Keyboard.press host keys w).1 = .error fault → ¬fault.NamesGlyph) ∧
      ∃ pressed, pressed <+: keys ∧
        (Keyboard.press host keys w).2.document.activations = w.document.activations ++ pressed ∧
        ((Keyboard.press host keys w).1 = .ok () → pressed = keys) := by
  refine ⟨fun fault h => (ofEffect_press h).not_namesGlyph, ?_⟩
  induction keys generalizing w with
  | nil => exact ⟨[], List.prefix_rfl, (List.append_nil _).symm, fun _ => rfl⟩
  | cons key keys ih =>
    have hrecord := activate_records w key
    have hask : host.ask (.activate key) w = w.activate key := rfl
    rw [Keyboard.press, Call.bind_apply, hask]
    rcases hactivate : w.activate key with ⟨fault | _, w'⟩ <;> rw [hactivate] at hrecord
    · rcases hrecord with hrecord | ⟨-, rfl⟩
      · exact ⟨[key], ⟨keys, rfl⟩, hrecord, fun h => by cases h⟩
      · exact ⟨[], List.nil_prefix, (List.append_nil _).symm, fun h => by cases h⟩
    · have hkey : w'.document.activations = w.document.activations ++ [key] :=
        hrecord.resolve_right fun h => h.1 rfl
      obtain ⟨pressed, hprefix, hactivations, hall⟩ := ih w'
      refine ⟨key :: pressed, (List.prefix_cons_inj key).mpr hprefix, ?_, fun h => by rw [hall h]⟩
      rw [hactivations, hkey, List.append_assoc]
      rfl

/-! ## Waiting for the keyboard -/

theorem Elapsed.document_keeps (h : w.Elapsed w') (hd : w.document.Numbered) :
    w'.document.Numbered ∧ w'.document.activations = w.document.activations := by
  obtain ⟨done, -, -, hdocument⟩ := h.happened
  rw [hdocument]
  refine Document.undergo_invariant (P := fun d => d.Numbered ∧ d.activations = w.document.activations) ?_ ⟨hd, rfl⟩ _
  rintro d d' e ⟨hd, ha⟩ he
  exact ⟨(Document.edit_apply he).numbered hd, (Document.elementsOnly_apply he).activations.trans ha⟩

theorem mem_numbers_of_await {selector : String} {timeout number : Nat}
    (h : host.await selector timeout w = (.ok number, w')) : number ∈ w'.document.body.numbers := by
  obtain ⟨found, hs, hfound⟩ := map_eq_ok.mp ((await_answers h).resolve_left nofun)
  obtain ⟨n, rfl, rfl⟩ := Option.map_eq_some_iff.mp hfound
  exact Document.mem_numbers_of_selectFirst hs

end World

open Keyboard (glyphs keyOf)

/-- Typing looks up all keys before it presses the first. -/
theorem typeWithKeyboard_apply (keyMap : List (String × Nat)) {selector : String} (text : String)
    {timeout container : Nat} {w w' : World} {layout : Keyboard.Layout}
    (h : World.host.await selector timeout w = (.ok container, w'))
    (hl : Keyboard.layout World.host container w' = (.ok layout, w')) :
    (Action.typeWithKeyboard selector text).perform World.host keyMap timeout w =
      match layout.presses text with
      | .ok keys => ((Keyboard.press World.host keys w').1.map fun _ => s!"Typed {text} using on-screen keyboard",
          (Keyboard.press World.host keys w').2)
      | .error glyph => (.error (.unknownKeyGlyph selector glyph), w') := by
  have hkeys : Action.typeOnKeyboard World.host timeout selector text w =
      match layout.presses text with
      | .ok keys => Keyboard.press World.host keys w'
      | .error glyph => (.error (.unknownKeyGlyph selector glyph), w') := by
    rw [Action.typeOnKeyboard, Call.bind_apply, h]
    dsimp only
    rw [Call.bind_apply, hl]
    dsimp only
    cases layout.presses text <;> rfl
  rw [Action.perform, Call.bind_apply, hkeys]
  cases layout.presses text with
  | error glyph => rfl
  | ok keys =>
    dsimp only
    rcases Keyboard.press World.host keys w' with ⟨fault | _, w''⟩ <;> rfl

/-- Typing on the keyboard that a selector finds fails for a missing key exactly if there is one, and then names the
first glyph without a key and presses none. Otherwise the first keys of the text are pressed, and all of them if typing
does not fail. -/
theorem typing_presses_keys (page : Page) (events : List World.Event) (keyMap : List (String × Nat))
    {selector : String} (text : String) {timeout container : Nat} {w' : World}
    (h : World.host.await selector timeout ((World.ofPage page).after events) = (.ok container, w')) :
    let w := (World.ofPage page).after events
    let typed := (Action.typeWithKeyboard selector text).perform World.host keyMap timeout w
    ∃ keyboard, w'.document.subtree container = .ok keyboard ∧
      (∀ selector' glyph, typed.1 = .error (.unknownKeyGlyph selector' glyph) ↔
        selector' = selector ∧ (glyphs text).find? (fun glyph => (keyOf keyboard glyph).isNone) = some glyph) ∧
      ((∃ glyph ∈ glyphs text, keyOf keyboard glyph = none) →
        typed.2.document.activations = w.document.activations) ∧
      ((∀ glyph ∈ glyphs text, keyOf keyboard glyph ≠ none) →
        ∃ pressed, pressed <+: (glyphs text).filterMap (keyOf keyboard) ∧
          typed.2.document.activations = w.document.activations ++ pressed ∧
          ∀ message, typed.1 = .ok message → pressed = (glyphs text).filterMap (keyOf keyboard)) := by
  intro w typed
  have hw : w.Elapsed w' := by
    have he := (World.orderly_after page events).elapsed_await selector timeout
    rwa [h] at he
  obtain ⟨hd, hactivations⟩ := hw.document_keeps (World.numbered_after page events)
  obtain ⟨above, keyboard, hplace, rfl⟩ := Tree.exists_place_of_mem_numbers (World.mem_numbers_of_await h)
  obtain ⟨layout, hlayout, hlookup⟩ := Keyboard.layout_apply hd hplace
  have htyped := typeWithKeyboard_apply keyMap text h hlayout
  rw [Keyboard.presses_eq] at htyped
  simp only [hlookup] at htyped
  refine ⟨keyboard, Document.subtree_of_place hd hplace, ?_⟩
  cases hmissing : (glyphs text).find? fun glyph => (keyOf keyboard glyph).isNone with
  | some glyph =>
    have hfailed : typed = (.error (.unknownKeyGlyph selector glyph), w') := htyped.trans (by rw [hmissing])
    refine ⟨fun selector' glyph' => ?_, fun _ => by rw [hfailed, hactivations], fun hall => ?_⟩
    · rw [hfailed]
      simp [eq_comm]
    · have hnone := List.find?_some hmissing
      exact absurd (Option.isNone_iff_eq_none.mp hnone) (hall glyph (List.mem_of_find?_eq_some hmissing))
  | none =>
    let keys := (glyphs text).filterMap (keyOf keyboard)
    have hpressed : typed =
        ((Keyboard.press World.host keys w').1.map fun _ => s!"Typed {text} using on-screen keyboard",
          (Keyboard.press World.host keys w').2) := htyped.trans (by rw [hmissing])
    obtain ⟨hfault, pressed, hprefix, hrecord, hall⟩ := World.press_records keys w'
    refine ⟨fun selector' glyph' => ?_, ?_, fun _ => ⟨pressed, hprefix, ?_, ?_⟩⟩
    · refine ⟨fun he => ?_, fun he => by cases he.2⟩
      rw [hpressed] at he
      cases hp : (Keyboard.press World.host keys w').1 with
      | error fault =>
        rw [hp] at he
        exact absurd ⟨_, _, Except.error.inj he⟩ (hfault fault hp)
      | ok =>
        rw [hp] at he
        cases he
    · rintro ⟨glyph, hglyph, hnone⟩
      have := List.find?_eq_none.mp hmissing glyph hglyph
      simp [hnone] at this
    · rw [hpressed, ← hactivations]
      exact hrecord
    · intro message hok
      rw [hpressed] at hok
      obtain ⟨_, hok, -⟩ := map_eq_ok.mp hok
      exact hall hok

/-- A capital is written by pressing shift before its letter, and the label of a letter may be in either case. -/
theorem typing_presses_keys_shift :
    let key (label : String) : Element := { tag := "div", children := [{ tag := "span", text := some label }] }
    let shift : Element :=
      { tag := "div", children := [{ tag := "img", attrs := [("alt", "Shift")] }, { tag := "span" }] }
    let page : Page :=
      { body := [{ tag := "div", id := some "keyboard", children := [key "a", key "B", shift] }] }
    let w := (World.ofPage page).after []
    let w' := (World.host.await "#keyboard" 0 w).2
    World.host.await "#keyboard" 0 w = (.ok 1, w') ∧
      ∃ keyboard, w'.document.subtree 1 = .ok keyboard ∧
        (glyphs "Ab").filterMap (keyOf keyboard) = [6, 2, 4] ∧
        ((Action.typeWithKeyboard "#keyboard" "Ab").perform World.host [] 0 w).2.document.activations = [6, 2, 4] := by
  intro key shift page w w'
  have h : World.host.await "#keyboard" 0 w = (.ok 1, w') := Prod.ext (by decide +kernel) rfl
  obtain ⟨keyboard, hkeyboard, -, -, hpressed⟩ := typing_presses_keys page [] [] "Ab" h
  have hfound : (w'.document.subtree 1).toOption.map (fun t =>
      ((glyphs "Ab").all fun glyph => (keyOf t glyph).isSome, (glyphs "Ab").filterMap (keyOf t))) =
      some (true, [6, 2, 4]) := by decide +kernel
  rw [hkeyboard] at hfound
  obtain ⟨hall, hpresses⟩ := Prod.mk.inj (Option.some.inj hfound)
  have hkeys : ∀ glyph ∈ glyphs "Ab", keyOf keyboard glyph ≠ none := fun glyph hglyph =>
    Option.isSome_iff_ne_none.mp (List.all_eq_true.mp hall glyph hglyph)
  obtain ⟨pressed, -, hactivations, hok⟩ := hpressed hkeys
  have htyped : ((Action.typeWithKeyboard "#keyboard" "Ab").perform World.host [] 0 w).1 =
      .ok "Typed Ab using on-screen keyboard" := by decide +kernel
  refine ⟨h, keyboard, hkeyboard, hpresses, ?_⟩
  rw [hactivations, hok _ htyped, hpresses]
  rfl

end PageScript
