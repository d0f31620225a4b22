import PageScript.Command
import PageScript.Proofs.Cutting

/-!
# Commands in writing

A line of a script says more than its command, since blanks and whatever stands behind the closing bracket do not count.
So the written form of a command is one line of many that are read as it. Some names and arguments cannot be written at
all, and these are just the ones that are never read.
-/
namespace PageScript

open Text (Bare)

namespace Command

/-- A command that can be written. An empty argument can be written beside another one but not alone, for then there
would be nothing between the brackets. -/
structure Writable (c : Command) : Prop where
  name_ne : c.name ≠ ""
  name_bare : Bare c.name.toList
  /-- The first opening bracket ends the name. -/
  name_open : '(' ∉ c.name.toList
  args_bare : ∀ arg ∈ c.args, Bare arg.toList
  args_comma : ∀ arg ∈ c.args, ',' ∉ arg.toList
  args_close : ∀ arg ∈ c.args, ')' ∉ arg.toList
  args_ne : c.args ≠ [""]

/-! ## Arguments -/

theorem trim_intercalate_ne_nil {args : List (List Char)} (hne : args ≠ []) (h : ∀ arg ∈ args, Bare arg)
    (hs : args ≠ [[]]) : Text.trim ([','].intercalate args) ≠ [] := by
  intro htrim
  have hblank := Text.blank_of_trim_eq_nil htrim
  match args with
  | [] => exact hne rfl
  | [arg] =>
    have harg : Text.trim arg = [] := by simpa using htrim
    rw [(h arg List.mem_cons_self).trim_eq] at harg
    exact hs (by rw [harg])
  | first :: second :: args =>
    have hcomma := hblank ',' (by simp [List.intercalate_cons_cons])
    exact absurd hcomma (by decide)

theorem argsOf_intercalate {args : List (List Char)} (h : ∀ arg ∈ args, Bare arg) (hc : ∀ arg ∈ args, ',' ∉ arg)
    (hs : args ≠ [[]]) : argsOf ([','].intercalate args) = args := by
  by_cases hne : args = []
  · rw [hne]
    rfl
  · rw [argsOf, if_neg (trim_intercalate_ne_nil hne h hs), Text.splitWhere_intercalate hne hc]
    exact (List.map_congr_left fun arg harg => (h arg harg).trim_eq).trans (List.map_id args)

theorem argsOf_ne (inner : List Char) : argsOf inner ≠ [[]] := by
  intro h
  rw [argsOf] at h
  split at h
  · cases h
  · rename_i hne
    obtain ⟨piece, hpiece, htrim⟩ := List.map_eq_singleton_iff.mp h
    have hinner := Text.intercalate_splitWhere ',' inner
    rw [hpiece, List.intercalate_singleton] at hinner
    exact hne (hinner ▸ htrim)

theorem of_mem_argsOf {inner arg : List Char} (h : arg ∈ argsOf inner) :
    Bare arg ∧ ∀ c ∈ arg, c ∈ inner ∧ c ≠ ',' := by
  rw [argsOf] at h
  split at h
  · cases h
  · obtain ⟨piece, hpiece, rfl⟩ := List.mem_map.mp h
    refine ⟨Text.bare_trim piece, fun c hc => ?_⟩
    simpa using Text.of_mem_splitWhere hpiece c (Text.trim_subset piece hc)

/-! ## Lines -/

/-- What is read of a line with both brackets; whatever stands behind them does not count. -/
theorem partsOf_call {name inner rest : List Char} (hname : '(' ∉ name) (hinner : ')' ∉ inner) :
    partsOf (name ++ '(' :: (inner ++ ')' :: rest)) = (Text.trim name, argsOf inner) := by
  have hsplit : Text.splitFirst '(' (name ++ '(' :: (inner ++ ')' :: rest)) = some (name, inner ++ ')' :: rest) :=
    Text.splitFirst_eq_some.mpr ⟨rfl, hname⟩
  have htake : (inner ++ ')' :: rest).takeWhile (· ≠ ')') = inner := by
    refine (Text.span_append (q := (· ≠ ')')) (fun c hc => ?_) (by simp)).1
    have hne : c ≠ ')' := fun he => hinner (he ▸ hc)
    simpa using hne
  rw [partsOf, hsplit]
  dsimp only
  rw [htake]

/-- What is read of a line keeps to the form of names and arguments. -/
theorem partsOf_bare (line : List Char) :
    (Bare (partsOf line).1 ∧ '(' ∉ (partsOf line).1) ∧ (partsOf line).2 ≠ [[]] ∧
      ∀ arg ∈ (partsOf line).2, Bare arg ∧ ',' ∉ arg ∧ ')' ∉ arg := by
  rw [partsOf]
  cases hsplit : Text.splitFirst '(' line with
  | none =>
    have hopen : '(' ∉ line := by
      rw [Text.splitFirst_eq] at hsplit
      simpa using hsplit
    exact ⟨⟨Text.bare_trim line, fun h => hopen (Text.trim_subset line h)⟩, nofun, nofun⟩
  | some split =>
    obtain ⟨name, rest⟩ := split
    obtain ⟨-, hopen⟩ := Text.splitFirst_eq_some.mp hsplit
    refine ⟨⟨Text.bare_trim name, fun h => hopen (Text.trim_subset name h)⟩, argsOf_ne _, fun arg harg => ?_⟩
    obtain ⟨hbare, hchars⟩ := of_mem_argsOf harg
    refine ⟨hbare, fun h => (hchars _ h).2 rfl, fun h => ?_⟩
    simpa using List.mem_takeWhile_imp (hchars _ h).1

theorem parse_eq_ok {line : String} {c : Command} :
    parse line = .ok c ↔ c.name ≠ "" ∧ partsOf line.toList = (c.name.toList, c.args.map String.toList) := by
  obtain ⟨name, args⟩ := c
  rw [parse]
  rcases partsOf line.toList with ⟨first, rest⟩
  dsimp only
  constructor
  · intro h
    split at h
    · cases h
    · cases h
      simp_all [List.map_map, Function.comp_def]
  · rintro ⟨hne, hparts⟩
    cases hparts
    have hfirst : name.toList ≠ [] := by simpa using hne
    rw [if_neg hfirst]
    simp [List.map_map, Function.comp_def]

theorem writable_of_parse {line : String} {c : Command} (h : parse line = .ok c) : c.Writable := by
  obtain ⟨hne, hparts⟩ := parse_eq_ok.mp h
  obtain ⟨⟨hbare, hopen⟩, hsingle, hargs⟩ := partsOf_bare line.toList
  rw [hparts] at hbare hopen hsingle hargs
  have harg : ∀ arg ∈ c.args, Bare arg.toList ∧ ',' ∉ arg.toList ∧ ')' ∉ arg.toList :=
    List.forall_mem_map.mp hargs
  exact {
    name_ne := hne
    name_bare := hbare
    name_open := hopen
    args_bare := fun arg h => (harg arg h).1
    args_comma := fun arg h => (harg arg h).2.1
    args_close := fun arg h => (harg arg h).2.2
    args_ne := fun h => hsingle (by rw [h]; rfl) }

theorem Writable.parse_render {c : Command} (h : c.Writable) : parse c.render = .ok c := by
  have hbare : ∀ arg ∈ c.args.map String.toList, Bare arg := List.forall_mem_map.mpr h.args_bare
  have hcomma : ∀ arg ∈ c.args.map String.toList, ',' ∉ arg := List.forall_mem_map.mpr h.args_comma
  have hsingle : c.args.map String.toList ≠ [[]] := by
    intro hargs
    obtain ⟨arg, harg, hnil⟩ := List.map_eq_singleton_iff.mp hargs
    exact h.args_ne (by rw [harg, String.toList_eq_nil_iff.mp hnil])
  have hclose : ')' ∉ [','].intercalate (c.args.map String.toList) :=
    Text.not_mem_intercalate (by decide) (List.forall_mem_map.mpr h.args_close)
  have hline : c.render.toList =
      c.name.toList ++ '(' :: ([','].intercalate (c.args.map String.toList) ++ ')' :: []) := by
    simp [render]
  rw [parse_eq_ok, hline, partsOf_call h.name_open hclose, h.name_bare.trim_eq, argsOf_intercalate hbare hcomma hsingle]
  exact ⟨h.name_ne, rfl⟩

/-- The written form of a command is read as the command exactly if the command can be written; and every command that
is read of a line can, so that writing it and reading it again changes nothing. -/
theorem parse_render_iff_writable (c : Command) :
    (parse c.render = .ok c ↔ c.Writable) ∧
      ∀ line, parse line = .ok c → c.Writable ∧ parse c.render = .ok c := by
  refine ⟨⟨writable_of_parse, Writable.parse_render⟩, fun line h => ?_⟩
  exact ⟨writable_of_parse h, (writable_of_parse h).parse_render⟩

/-- An empty argument that stands alone is lost in writing; an opening bracket in an argument is not. -/
example : parse (render ⟨"click", [""]⟩) = .ok ⟨"click", []⟩ ∧
    parse (render ⟨"click", ["p:not(.x", ""]⟩) = .ok ⟨"click", ["p:not(.x", ""]⟩ := by decide +kernel

end Command

end PageScript
