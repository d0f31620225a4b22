import PageScript.Proofs.Loading
import PageScript.Proofs.Writing

/-!
# Resolving commands

A line may call a verb by an alias, leave blanks, write a number in many ways and go on behind its closing bracket. The
action that is read of it has one canonical line, which says its name and its arguments and nothing else and is read as
the same action. Once the arguments have been counted, each that is asked for is there.
-/
namespace PageScript

namespace Text

/-! ## Numbers in decimal -/

theorem digitValue_of_isDigit {c : Char} (h : c.isDigit = true) : digitValue c = some (c.toNat - '0'.toNat) := by
  simp only [Char.isDigit, Bool.and_eq_true, decide_eq_true_eq] at h
  rw [digitValue, if_pos ⟨h.1, h.2⟩]

theorem digitsAfter_of_isDigit {s : List Char} (h : ∀ c ∈ s, c.isDigit = true) (n : Nat) :
    digitsAfter 10 n s = some (Nat.ofDigitChars 10 s n) := by
  induction s generalizing n with
  | nil => rfl
  | cons c s ih =>
    obtain ⟨hc, hs⟩ := List.forall_mem_cons.mp h
    have hten : c.toNat - '0'.toNat < 10 := by
      simp only [Char.isDigit, Bool.and_eq_true, decide_eq_true_eq] at hc
      have hle : c.toNat ≤ '9'.toNat := hc.2
      have hnine : '9'.toNat = 57 := rfl
      have hzero : '0'.toNat = 48 := rfl
      omega
    rw [digitsAfter, digitValue_of_isDigit hc]
    dsimp only
    rw [if_pos hten, ih hs, Nat.ofDigitChars_cons, Nat.mul_comm]

theorem isDigit_of_mem_toString {n : Nat} {c : Char} (h : c ∈ (toString n).toList) : c.isDigit = true := by
  rw [Nat.toString_eq_repr, Nat.toList_repr] at h
  exact Nat.isDigit_of_mem_toDigits (by decide) (by decide) h

/-- A number of 64 bits is read as it is written in decimal. -/
theorem natural64?_toString {n : Nat} (h : n < bound64) : natural64? (toString n).toList = some n := by
  have hdigits : ∀ c ∈ (toString n).toList, c.isDigit = true := fun _ => isDigit_of_mem_toString
  have hvalue : Nat.ofDigitChars 10 (toString n).toList 0 = n := by
    rw [Nat.toString_eq_repr, Nat.toList_repr, Nat.ofDigitChars_ten_toDigits]
  have hne : (toString n).toList ≠ [] := by
    rw [Nat.toString_eq_repr, Nat.toList_repr]
    exact Nat.toDigits_ne_nil
  cases hs : (toString n).toList with
  | nil => exact absurd hs hne
  | cons c s =>
    rw [hs] at hdigits hvalue
    have hplus : dropPlus (c :: s) = c :: s := by
      unfold dropPlus
      split
      · rename_i heq
        cases heq
        exact absurd (hdigits '+' List.mem_cons_self) (by decide)
      · rfl
    rw [natural64?, hplus, digits?, digitsAfter_of_isDigit hdigits, hvalue]
    · simpa using h
    · simp

theorem lt_of_natural64? {s : List Char} {n : Nat} (h : natural64? s = some n) : n < bound64 := by
  simpa using (Option.filter_eq_some_iff.mp h).2

/-! ## Texts without blanks -/

theorem isBlank_of_isDigit {c : Char} (h : c.isDigit = true) : isBlank c = false := by
  have hcases : ∀ n < 58, 48 ≤ n → inRanges blankRanges n = false := by decide
  simp only [Char.isDigit, Bool.and_eq_true, decide_eq_true_eq] at h
  have hlow : '0'.toNat ≤ c.toNat := h.1
  have hhigh : c.toNat ≤ '9'.toNat := h.2
  exact hcases c.toNat (Nat.lt_succ_of_le hhigh) hlow

theorem bare_of_forall {s : List Char} (h : ∀ c ∈ s, isBlank c = false) : Bare s where
  first := fun c hc => by simp [h c (List.mem_of_mem_head? hc)]
  last := fun c hc => by simp [h c (List.mem_reverse.mp (List.mem_of_mem_head? hc))]

end Text

/-! ## The table of verbs -/

namespace Verb

theorem find?_name (v : Verb) : find? v.name = some v :=
  find?_eq_some.mpr (by simp [answersTo, name])

theorem writable_name (v : Verb) : v.name ≠ "" ∧ Text.Bare v.name.toList ∧ '(' ∉ v.name.toList := by
  have htrim : Text.trim v.name.toList = v.name.toList := by cases v <;> decide
  refine ⟨by cases v <;> decide, htrim ▸ Text.bare_trim _, by cases v <;> decide⟩

end Verb

namespace Action

/-! ## Actions and their commands -/

/-- A wait is of a number of milliseconds of 64 bits. -/
def InRange : Action → Prop
  | wait ms => ms < Text.bound64
  | _ => True

theorem ofVerb_eq_ok {v : Verb} {args : List String} {a : Action} (h : ofVerb v args = .ok a) :
    a.verb = v ∧ a.InRange ∧ (a.args = args ∨ ∃ ms, a = .wait ms) := by
  unfold ofVerb at h
  split at h
  case h_7 =>
    split at h
    · rename_i hms
      cases h
      exact ⟨rfl, Text.lt_of_natural64? hms, .inr ⟨_, rfl⟩⟩
    · cases h
  all_goals cases h
  all_goals exact ⟨rfl, trivial, .inl rfl⟩

theorem resolve_eq_ok {c : Command} {a : Action} :
    resolve c = .ok a ↔
      ∃ v, Verb.find? c.name = some v ∧ c.args.length = v.info.params.length ∧ ofVerb v c.args = .ok a := by
  rw [resolve]
  cases Verb.find? c.name with
  | none => simp
  | some v => simp [ite_eq_iff]

/-- The canonical command of an action resolves to it. -/
theorem InRange.resolve_command {a : Action} (h : a.InRange) : resolve a.command = .ok a := by
  refine resolve_eq_ok.mpr ⟨a.verb, Verb.find?_name a.verb, ?_, ?_⟩
  · cases a <;> rfl
  · cases a with
    | wait ms =>
      simp only [command, verb, args, ofVerb]
      rw [Text.natural64?_toString h]
    | _ => rfl

theorem InRange.parse_command {a : Action} (h : a.InRange) (hw : a.command.Writable) :
    Step.parse a.command.render = .ok ⟨a.command.render, a.command, a, false⟩ := by
  rw [Step.parse, hw.parse_render]
  change (resolve a.command >>= _) = _
  rw [h.resolve_command]
  rfl

theorem writable_call {c : Command} (h : c.Writable) (v : Verb) : (⟨v.name, c.args⟩ : Command).Writable where
  name_ne := v.writable_name.1
  name_bare := v.writable_name.2.1
  name_open := v.writable_name.2.2
  args_bare := h.args_bare
  args_comma := h.args_comma
  args_close := h.args_close
  args_ne := h.args_ne

theorem writable_wait (ms : Nat) : (wait ms).command.Writable := by
  have hdigits : ∀ c ∈ (toString ms).toList, c.isDigit = true := fun _ => Text.isDigit_of_mem_toString
  have hno {c : Char} (hc : c.isDigit = false) : c ∉ (toString ms).toList := by
    intro hm
    rw [hdigits c hm] at hc
    cases hc
  exact {
    name_ne := Verb.wait.writable_name.1
    name_bare := Verb.wait.writable_name.2.1
    name_open := Verb.wait.writable_name.2.2
    args_bare := List.forall_mem_singleton.mpr
      (Text.bare_of_forall fun c hm => Text.isBlank_of_isDigit (hdigits c hm))
    args_comma := List.forall_mem_singleton.mpr (hno rfl)
    args_close := List.forall_mem_singleton.mpr (hno rfl)
    args_ne := fun hargs => Nat.repr_ne_empty (List.singleton_injective hargs) }

/-- The canonical command of an action can be written if the command that it was read of can. -/
theorem writable_command {c : Command} {a : Action} (hc : c.Writable) (h : resolve c = .ok a) :
    a.InRange ∧ a.command.Writable := by
  obtain ⟨v, -, -, hv⟩ := resolve_eq_ok.mp h
  obtain ⟨-, hrange, hargs⟩ := ofVerb_eq_ok hv
  refine ⟨hrange, ?_⟩
  rcases hargs with hargs | ⟨ms, rfl⟩
  · rw [command, hargs]
    exact writable_call hc a.verb
  · exact writable_wait ms

/-! ## Arguments taken by position -/

/-- The action of an entry of the table, which is told by its name, with arguments that are taken by position. Nothing is
answered if an argument is asked for that is not there. -/
def byPosition (info : Verb.Info) (args : List String) : Option (Except Fault Action) :=
  match info.name with
  | "waitForElement" => args[0]?.map fun selector => .ok (.waitForElement selector)
  | "click" => args[0]?.map fun selector => .ok (.click selector)
  | "type" => args[0]?.bind fun selector => args[1]?.map fun text => .ok (.type selector text)
  | "typeWithKeyboard" =>
    args[0]?.bind fun selector => args[1]?.map fun text => .ok (.typeWithKeyboard selector text)
  | "keyPress" => args[0]?.map fun key => .ok (.keyPress key)
  | "assertEquals" =>
    args[0]?.bind fun selector => args[1]?.map fun expected => .ok (.assertEquals selector expected)
  | "wait" =>
    args[0]?.map fun ms =>
      match Text.natural64? ms.toList with
      | some n => .ok (.wait n)
      | none => .error (.invalidArguments info.name s!"'{ms}' is not a number of milliseconds")
  | "checkFocus" => args[0]?.map fun key => .ok (.checkFocus key)
  | "beaconStart" => some (.ok .beaconStart)
  | "generateReport" => some (.ok .generateReport)
  | other => some (.error (.internal s!"unhandled command '{other}'"))

/-- With as many arguments as the table asks for, each that is taken is there, and no name of the table is left out. -/
theorem byPosition_eq {v : Verb} {args : List String} (h : args.length = v.info.params.length) :
    byPosition v.info args = some (ofVerb v args) := by
  cases v with
  | beaconStart | generateReport =>
    rw [List.length_eq_zero_iff.mp h]
    rfl
  | type | typeWithKeyboard | assertEquals =>
    obtain ⟨first, second, rfl⟩ := List.length_eq_two.mp h
    rfl
  | waitForElement | click | keyPress | wait | checkFocus =>
    obtain ⟨arg, rfl⟩ := List.length_eq_one_iff.mp h
    rfl

theorem ofVerb_ne_internal {v : Verb} {args : List String} (h : args.length = v.info.params.length) (reason : String) :
    ofVerb v args ≠ .error (.internal reason) := by
  cases v with
  | beaconStart | generateReport =>
    rw [List.length_eq_zero_iff.mp h]
    exact nofun
  | type | typeWithKeyboard | assertEquals =>
    obtain ⟨first, second, rfl⟩ := List.length_eq_two.mp h
    exact nofun
  | waitForElement | click | keyPress | checkFocus =>
    obtain ⟨arg, rfl⟩ := List.length_eq_one_iff.mp h
    exact nofun
  | wait =>
    obtain ⟨ms, rfl⟩ := List.length_eq_one_iff.mp h
    rw [ofVerb]
    cases Text.natural64? ms.toList <;> exact nofun

/-- A command is checked against the table before its arguments are taken by position. -/
def resolveByPosition (c : Command) : Option (Except Fault Action) :=
  match Verb.find? c.name with
  | none => some (.error (.unknownCommand c.name))
  | some v =>
    if c.args.length ≠ v.info.params.length then
      some (.error (.invalidArguments v.name (wrongCount v.info.params c.args.length)))
    else byPosition v.info c.args

theorem resolveByPosition_eq (c : Command) : resolveByPosition c = some (resolve c) := by
  rw [resolveByPosition, resolve]
  cases Verb.find? c.name with
  | none => rfl
  | some v =>
    dsimp only
    split
    · rfl
    · exact byPosition_eq (not_not.mp ‹_›)

theorem resolve_ne_internal (c : Command) (reason : String) : resolve c ≠ .error (.internal reason) := by
  rw [resolve]
  cases Verb.find? c.name with
  | none => exact nofun
  | some v =>
    dsimp only
    split
    · exact nofun
    · exact ofVerb_ne_internal (not_not.mp ‹_›) reason

end Action

namespace Step

theorem parse_eq_ok {line : String} {step : Step} :
    parse line = .ok step ↔ ∃ c a, Command.parse line = .ok c ∧ Action.resolve c = .ok a ∧ step = ⟨line, c, a, false⟩ := by
  simp only [parse, bind_eq_ok]
  constructor
  · rintro ⟨c, hc, a, ha, ⟨⟩⟩
    exact ⟨c, a, hc, ha, rfl⟩
  · rintro ⟨c, a, hc, ha, rfl⟩
    exact ⟨c, hc, a, ha, rfl⟩

theorem parse_ne_internal (line reason : String) : parse line ≠ .error (.internal reason) := by
  intro h
  rcases bind_eq_error.mp h with hc | ⟨c, -, h⟩
  · rw [Command.parse] at hc
    split at hc <;> cases hc
  · rcases bind_eq_error.mp h with ha | ⟨a, -, ⟨⟩⟩
    exact Action.resolve_ne_internal c reason ha

/-- Every line that is accepted has a canonical form: the command of its action, in writing, is accepted as well and has
the same action. So is the text of the focus check that is injected behind a key press. No line at all makes the table ask
for an argument that is not there, or for a verb that it does not know. -/
theorem parse_canonical (line : String) :
    (∀ step, parse line = .ok step →
      parse step.action.command.render = .ok ⟨step.action.command.render, step.action.command, step.action, false⟩ ∧
      ∀ key, step.action = .keyPress key →
        parse (focusCheck key).text = .ok ⟨(focusCheck key).text, ⟨"checkFocus", [key]⟩, .checkFocus key, false⟩) ∧
    (∀ c, Command.parse line = .ok c → Action.resolveByPosition c = some (Action.resolve c)) ∧
    ∀ reason, parse line ≠ .error (.internal reason) := by
  refine ⟨fun step h => ?_, fun c _ => Action.resolveByPosition_eq c, parse_ne_internal line⟩
  obtain ⟨c, a, hc, ha, rfl⟩ := parse_eq_ok.mp h
  obtain ⟨hrange, hwritable⟩ := Action.writable_command (Command.writable_of_parse hc) ha
  refine ⟨hrange.parse_command hwritable, ?_⟩
  rintro key rfl
  have hcheck : (Action.checkFocus key).InRange := trivial
  exact hcheck.parse_command (Action.writable_call hwritable .checkFocus)

/-- An alias with blanks, an empty argument and more behind the bracket; a number with a sign and zeros. -/
theorem parse_canonical_asserts :
    let asserts : Step := ⟨" asserts( #a , ) twice", ⟨"asserts", ["#a", ""]⟩, .assertEquals "#a" "", false⟩
    let wait : Step := ⟨"wait(+007", ⟨"wait", ["+007"]⟩, .wait 7, false⟩
    (parse asserts.text = .ok asserts ∧
      parse "assertEquals(#a,)" = .ok ⟨"assertEquals(#a,)", asserts.action.command, asserts.action, false⟩) ∧
    (parse wait.text = .ok wait ∧
      parse "wait(7)" = .ok ⟨"wait(7)", wait.action.command, wait.action, false⟩) := by
  intro asserts wait
  have hasserts : parse asserts.text = .ok asserts := by decide +kernel
  have hwait : parse wait.text = .ok wait := by decide +kernel
  have hassertsRender : asserts.action.command.render = "assertEquals(#a,)" := by decide +kernel
  have hwaitRender : wait.action.command.render = "wait(7)" := by decide +kernel
  refine ⟨⟨hasserts, ?_⟩, hwait, ?_⟩
  · rw [← hassertsRender]
    exact ((parse_canonical asserts.text).1 asserts hasserts).1
  · rw [← hwaitRender]
    exact ((parse_canonical wait.text).1 wait hwait).1

end Step

end PageScript
