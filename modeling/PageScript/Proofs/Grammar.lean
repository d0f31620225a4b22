import Mathlib.Tactic.ByContra
import PageScript.Proofs.Cutting
import PageScript.Selector

/-!
# The grammar of selectors

A selector is written as clauses, one for each compound, with separators between them and blanks around them. A clause
is a start, which is `*` or the name of a tag, with conditions behind it, or conditions alone. A separator is `>` with
any blanks around it, or blanks alone. A derivation takes a text apart in this way. Its pieces carry the proofs that
they have the characters they may have, so that every derivation is that of a selector; and a text has one at most.
-/
namespace PageScript

namespace Text

theorem length_le_flatMap {α : Type} {f : α → List Char} (h : ∀ a, f a ≠ []) (l : List α) :
    l.length ≤ (l.flatMap f).length := by
  induction l with
  | nil => exact Nat.zero_le _
  | cons a l ih =>
    have ha := List.length_pos_iff.mpr (h a)
    rw [List.flatMap_cons, List.length_append, List.length_cons]
    omega

theorem not_isAlphanumeric_of_isBlank {c : Char} (h : isBlank c = true) : isAlphanumeric c = false := by
  have hall : ∀ r ∈ blankRanges, ∀ n ∈ List.range' r.1 (r.2 + 1 - r.1),
      inRanges alphanumericRanges n = false := by decide +kernel
  obtain ⟨r, hr, hle⟩ := exists_mem_of_inRanges h
  refine hall r hr c.toNat (List.mem_range'_1.mpr ?_)
  omega

end Text

namespace Selector

open Text (Begins)

/-! ## Classes of characters -/

/-- Characters that end a clause. -/
def isCut (c : Char) : Bool := Text.isBlank c || c == '>'

/-- Characters with which a condition begins. -/
def isSign (c : Char) : Bool := c == '#' || c == '.' || c == '['

theorem not_isNameChar_of_isBlank {c : Char} (h : Text.isBlank c = true) : isNameChar c = false := by
  have hdash : c ≠ '-' := by
    rintro rfl
    exact absurd h (by decide)
  have hbar : c ≠ '_' := by
    rintro rfl
    exact absurd h (by decide)
  simp [isNameChar, Text.not_isAlphanumeric_of_isBlank h, hdash, hbar]

theorem not_isNameChar_of_isCut {c : Char} (h : isCut c = true) : isNameChar c = false := by
  rw [isCut, Bool.or_eq_true, beq_iff_eq] at h
  rcases h with h | rfl
  · exact not_isNameChar_of_isBlank h
  · decide +kernel

theorem not_isCut_of_isSign {c : Char} (h : isSign c = true) : isCut c = false := by
  simp only [isSign, Bool.or_eq_true, beq_iff_eq] at h
  rcases h with (rfl | rfl) | rfl <;> decide

/-- Characters that make the start of a clause. -/
def isStartChar (c : Char) : Bool := isNameChar c || c == '*'

theorem not_isStartChar_of_isSign {c : Char} (h : isSign c = true) : isStartChar c = false := by
  simp only [isSign, Bool.or_eq_true, beq_iff_eq] at h
  rcases h with (rfl | rfl) | rfl <;> decide +kernel

theorem not_isStartChar_of_isCut {c : Char} (h : isCut c = true) : isStartChar c = false := by
  have hstar : c ≠ '*' := by
    rintro rfl
    exact absurd h (by decide)
  simp [isStartChar, not_isNameChar_of_isCut h, hstar]

theorem not_isCut_of_isNameChar {c : Char} (h : isNameChar c = true) : isCut c = false := by
  by_contra hc
  rw [Bool.not_eq_false] at hc
  rw [not_isNameChar_of_isCut hc] at h
  cases h

/-! ## Derivations -/

def IsName (s : List Char) : Prop := s ≠ [] ∧ ∀ c ∈ s, isNameChar c = true

namespace Grammar

@[ext] structure Blanks where
  text : List Char
  blank : ∀ c ∈ text, Text.isBlank c = true

@[ext] structure Name where
  text : List Char
  isName : IsName text

/-- The part of an attribute condition before the first `=`, or all of it, without the blanks around it. -/
def keyOf (s : List Char) : List Char := Text.trim (s.takeWhile (· ≠ '='))

/-- What follows the first `=`, without the blanks around it and then without quotes. -/
def valueOf (s : List Char) : Option String :=
  if '=' ∈ s then some (String.ofList (Text.trimWhere isQuote (Text.trim (s.dropWhile (· ≠ '=')).tail))) else none

@[ext] structure Body where
  text : List Char
  closed : ']' ∉ text
  isName : IsName (keyOf text)

inductive Condition where
  | id (name : Name)
  | token (name : Name)
  | attr (body : Body)

def Condition.text : Condition → List Char
  | id name => '#' :: name.text
  | token name => '.' :: name.text
  | attr body => '[' :: (body.text ++ [']'])

inductive Start where
  | any
  | tag (name : Name)

def Start.text : Start → List Char
  | any => ['*']
  | tag name => name.text

@[ext] structure Clause where
  start : Option Start
  conditions : List Condition
  ne_nil : start = none → conditions ≠ []

def Clause.text (clause : Clause) : List Char :=
  clause.start.elim [] Start.text ++ clause.conditions.flatMap Condition.text

inductive Separator where
  | gap (blanks : Blanks) (ne_nil : blanks.text ≠ [])
  | child (before after : Blanks)

def Separator.text : Separator → List Char
  | gap blanks _ => blanks.text
  | child before after => before.text ++ '>' :: after.text

end Grammar

open Grammar

@[ext] structure Derivation where
  before : Blanks
  first : Clause
  rest : List (Separator × Clause)
  after : Blanks

namespace Grammar

def linkText (link : Separator × Clause) : List Char := link.1.text ++ link.2.text

end Grammar

def Derivation.text (d : Derivation) : List Char :=
  d.before.text ++ (d.first.text ++ (d.rest.flatMap linkText ++ d.after.text))

/-! ## What is written -/

namespace Grammar

def Condition.id? : Condition → Option String
  | id name => some (String.ofList name.text)
  | _ => none

def Condition.token? : Condition → Option String
  | token name => some (String.ofList name.text)
  | _ => none

def Condition.attr? : Condition → Option (String × Option String)
  | attr body => some (String.ofList (keyOf body.text), valueOf body.text)
  | _ => none

def Start.tag? : Start → Option String
  | any => none
  | tag name => some (Text.asciiLowercase (String.ofList name.text))

/-- The compound that is written: of several ids the last one, and all classes and attributes in order. -/
def Clause.compound (clause : Clause) : Compound where
  tag := clause.start.bind Start.tag?
  id := (clause.conditions.filterMap Condition.id?).getLast?
  classes := clause.conditions.filterMap Condition.token?
  attributes := clause.conditions.filterMap Condition.attr?

def Separator.combinator (separator : Separator) : Combinator :=
  if '>' ∈ separator.text then .child else .descendant

def link (l : Separator × Clause) : Combinator × Compound := (l.1.combinator, l.2.compound)

end Grammar

def Derivation.selector (d : Derivation) : Selector := ⟨d.first.compound, d.rest.map link⟩

/-- A derivation but for the blanks that separate its clauses and surround them. -/
def Derivation.bare (d : Derivation) : Clause × List (Combinator × Clause) :=
  (d.first, d.rest.map fun l => (l.1.combinator, l.2))

/-! ## The ends of a clause -/

namespace Grammar

variable {s t : List Char}

theorem Condition.exists_text_cons (x : Condition) : ∃ c rest, x.text = c :: rest ∧ isSign c = true := by
  cases x <;> exact ⟨_, _, rfl, rfl⟩

theorem Condition.text_ne_nil (x : Condition) : x.text ≠ [] := by
  obtain ⟨c, rest, h, -⟩ := x.exists_text_cons
  exact h ▸ List.cons_ne_nil c rest

theorem Clause.exists_text_cons (clause : Clause) : ∃ c rest, clause.text = c :: rest ∧ isCut c = false := by
  obtain ⟨start, conditions, hne⟩ := clause
  match start with
  | none =>
    obtain ⟨x, conditions, rfl⟩ := List.exists_cons_of_ne_nil (hne rfl)
    obtain ⟨c, rest, h, hc⟩ := x.exists_text_cons
    exact ⟨c, rest ++ conditions.flatMap Condition.text, by simp [text, h], not_isCut_of_isSign hc⟩
  | some .any => exact ⟨'*', _, rfl, by decide⟩
  | some (.tag name) =>
    obtain ⟨c, rest, h⟩ := List.exists_cons_of_ne_nil name.isName.1
    have hc := name.isName.2 c (h ▸ List.mem_cons_self)
    exact ⟨c, rest ++ conditions.flatMap Condition.text, by simp [text, Start.text, h], not_isCut_of_isNameChar hc⟩

theorem Clause.begins (clause : Clause) (s : List Char) : Begins (!isCut ·) (clause.text ++ s) := by
  obtain ⟨c, rest, h, hc⟩ := clause.exists_text_cons
  simp [h, hc]

theorem begins_not_blank (hs : Begins (!isCut ·) s) : Begins (!Text.isBlank ·) s :=
  hs.mono fun c hc => by
    rw [isCut, Bool.not_or, Bool.and_eq_true] at hc
    exact hc.1

theorem Name.exists_text_concat (name : Name) : ∃ rest c, name.text = rest ++ [c] ∧ Text.isBlank c = false := by
  obtain ⟨rest, c, h⟩ := (List.eq_nil_or_concat' name.text).resolve_left name.isName.1
  have hc := name.isName.2 c (by simp [h])
  refine ⟨rest, c, h, ?_⟩
  by_contra hblank
  rw [Bool.not_eq_false] at hblank
  rw [not_isNameChar_of_isBlank hblank] at hc
  cases hc

theorem Condition.exists_text_concat (x : Condition) :
    ∃ rest c, x.text = rest ++ [c] ∧ Text.isBlank c = false := by
  cases x with
  | id name =>
    obtain ⟨rest, c, h, hc⟩ := name.exists_text_concat
    exact ⟨'#' :: rest, c, by rw [text, h]; rfl, hc⟩
  | token name =>
    obtain ⟨rest, c, h, hc⟩ := name.exists_text_concat
    exact ⟨'.' :: rest, c, by rw [text, h]; rfl, hc⟩
  | attr body => exact ⟨'[' :: body.text, ']', rfl, by decide⟩

theorem Clause.exists_text_concat (clause : Clause) :
    ∃ rest c, clause.text = rest ++ [c] ∧ Text.isBlank c = false := by
  obtain ⟨start, conditions, hne⟩ := clause
  obtain rfl | ⟨conditions, x, rfl⟩ := List.eq_nil_or_concat' conditions
  · match start with
    | none => exact absurd rfl (hne rfl)
    | some .any => exact ⟨[], '*', rfl, by decide⟩
    | some (.tag name) =>
      obtain ⟨rest, c, h, hc⟩ := name.exists_text_concat
      exact ⟨rest, c, by simp [text, Start.text, h], hc⟩
  · obtain ⟨rest, c, h, hc⟩ := x.exists_text_concat
    exact ⟨start.elim [] Start.text ++ (conditions.flatMap Condition.text ++ rest), c, by simp [text, h], hc⟩

/-! ## A text has one derivation at most -/

theorem name_unique {name name' : Name} (hs : Begins (!isNameChar ·) s) (ht : Begins (!isNameChar ·) t)
    (h : name.text ++ s = name'.text ++ t) : name = name' ∧ s = t := by
  obtain ⟨htext, hst⟩ := Text.span_unique name.isName.2 hs name'.isName.2 ht h
  exact ⟨Name.ext htext, hst⟩

theorem body_unique {body body' : Body} (h : body.text ++ ']' :: s = body'.text ++ ']' :: t) :
    body = body' ∧ s = t := by
  have hne (b : Body) : ∀ c ∈ b.text, decide (c ≠ ']') = true := by
    rintro c hc
    rw [decide_eq_true_iff]
    rintro rfl
    exact b.closed hc
  obtain ⟨htext, hst⟩ := Text.span_unique (hne body) (by simp) (hne body') (by simp) h
  exact ⟨Body.ext htext, (List.cons.inj hst).2⟩

theorem condition_unique {x x' : Condition} (hs : Begins (!isNameChar ·) s) (ht : Begins (!isNameChar ·) t)
    (h : x.text ++ s = x'.text ++ t) : x = x' ∧ s = t := by
  cases x <;> cases x' <;> try exact absurd (List.cons.inj h).1 (by decide)
  case id.id name name' =>
    obtain ⟨rfl, hst⟩ := name_unique hs ht (List.cons.inj h).2
    exact ⟨rfl, hst⟩
  case token.token name name' =>
    obtain ⟨rfl, hst⟩ := name_unique hs ht (List.cons.inj h).2
    exact ⟨rfl, hst⟩
  case attr.attr body body' =>
    obtain ⟨rfl, hst⟩ := body_unique (s := s) (t := t) (by simpa [Condition.text] using h)
    exact ⟨rfl, hst⟩

theorem not_begins_isCut (x : Condition) : ¬Begins isCut (x.text ++ s) := by
  obtain ⟨c, rest, h, hc⟩ := x.exists_text_cons
  simp [h, not_isCut_of_isSign hc]

theorem conditions_begin (conditions : List Condition) (hs : Begins isCut s) :
    Begins (!isStartChar ·) (conditions.flatMap Condition.text ++ s) := by
  cases conditions with
  | nil => exact hs.mono fun c hc => by rw [not_isStartChar_of_isCut hc]; rfl
  | cons x conditions =>
    obtain ⟨c, rest, h, hc⟩ := x.exists_text_cons
    simp [h, not_isStartChar_of_isSign hc]

theorem conditions_begin_name (conditions : List Condition) (hs : Begins isCut s) :
    Begins (!isNameChar ·) (conditions.flatMap Condition.text ++ s) :=
  (conditions_begin conditions hs).mono fun c hc => by
    rw [isStartChar, Bool.not_or, Bool.and_eq_true] at hc
    exact hc.1

theorem conditions_unique {conditions conditions' : List Condition} (hs : Begins isCut s) (ht : Begins isCut t)
    (h : conditions.flatMap Condition.text ++ s = conditions'.flatMap Condition.text ++ t) :
    conditions = conditions' ∧ s = t := by
  induction conditions generalizing conditions' with
  | nil =>
    cases conditions' with
    | nil => exact ⟨rfl, h⟩
    | cons x conditions' =>
      rw [List.flatMap_nil, List.nil_append, List.flatMap_cons, List.append_assoc] at h
      exact absurd (h ▸ hs) (not_begins_isCut x)
  | cons x conditions ih =>
    rw [List.flatMap_cons, List.append_assoc] at h
    cases conditions' with
    | nil =>
      rw [List.flatMap_nil, List.nil_append] at h
      exact absurd (h ▸ ht) (not_begins_isCut x)
    | cons x' conditions' =>
      rw [List.flatMap_cons, List.append_assoc] at h
      obtain ⟨rfl, hrest⟩ := condition_unique (conditions_begin_name _ hs) (conditions_begin_name _ ht) h
      obtain ⟨rfl, hst⟩ := ih hrest
      exact ⟨rfl, hst⟩

theorem start_chars (start : Option Start) : ∀ c ∈ start.elim [] Start.text, isStartChar c = true := by
  intro c hc
  match start with
  | none => cases hc
  | some .any =>
    rw [List.mem_singleton.mp hc]
    decide +kernel
  | some (.tag name) => simp [isStartChar, name.isName.2 c hc]

theorem start_unique {start start' : Option Start} (h : start.elim [] Start.text = start'.elim [] Start.text) :
    start = start' := by
  have hstar (name : Name) : ['*'] ≠ name.text := by
    intro he
    have hc := name.isName.2 '*' (he ▸ List.mem_singleton_self _)
    exact absurd hc (by decide +kernel)
  match start, start' with
  | none, none => rfl
  | none, some .any => cases h
  | none, some (.tag name) => exact absurd h.symm name.isName.1
  | some .any, none => cases h
  | some .any, some .any => rfl
  | some .any, some (.tag name) => exact absurd h (hstar name)
  | some (.tag name), none => exact absurd h name.isName.1
  | some (.tag name), some .any => exact absurd h.symm (hstar name)
  | some (.tag name), some (.tag name') => rw [Name.ext (x := name) (y := name') h]

theorem clause_unique {clause clause' : Clause} (hs : Begins isCut s) (ht : Begins isCut t)
    (h : clause.text ++ s = clause'.text ++ t) : clause = clause' ∧ s = t := by
  rw [Clause.text, Clause.text, List.append_assoc, List.append_assoc] at h
  obtain ⟨hstart, h⟩ := Text.span_unique (start_chars _) (conditions_begin _ hs) (start_chars _)
    (conditions_begin _ ht) h
  obtain ⟨hconditions, hst⟩ := conditions_unique hs ht h
  exact ⟨Clause.ext (start_unique hstart) hconditions, hst⟩

theorem separator_chars (separator : Separator) : ∀ c ∈ separator.text, isCut c = true := by
  have hb (blanks : Blanks) : ∀ c ∈ blanks.text, isCut c = true := fun c hc => by simp [isCut, blanks.blank c hc]
  cases separator with
  | gap blanks _ => exact hb blanks
  | child before after =>
    intro c hc
    rcases List.mem_append.mp hc with hc | hc
    · exact hb before c hc
    · rcases List.mem_cons.mp hc with rfl | hc
      · decide
      · exact hb after c hc

theorem child_not_mem (blanks : Blanks) : '>' ∉ blanks.text := by
  intro hm
  exact absurd (blanks.blank _ hm) (by decide)

theorem gap_ne_child (blanks before after : Blanks) : blanks.text ≠ before.text ++ '>' :: after.text := by
  intro h
  refine child_not_mem blanks ?_
  simp [h]

theorem separator_unique {separator separator' : Separator} (h : separator.text = separator'.text) :
    separator = separator' := by
  cases separator with
  | gap blanks hne =>
    cases separator' with
    | gap blanks' hne' =>
      obtain rfl := Blanks.ext (x := blanks) (y := blanks') h
      rfl
    | child before after => exact absurd h (gap_ne_child blanks before after)
  | child before after =>
    cases separator' with
    | gap blanks hne => exact absurd h.symm (gap_ne_child blanks before after)
    | child before' after' =>
      obtain ⟨hbefore, hafter⟩ := Text.span_unique before.blank (by simp; decide) before'.blank
        (by simp; decide) h
      rw [Blanks.ext hbefore, Blanks.ext (List.cons.inj hafter).2]

theorem Separator.text_ne_nil (separator : Separator) : separator.text ≠ [] := by
  cases separator with
  | gap _ hne => exact hne
  | child _ _ => simp [text]

theorem separator_begins (separator : Separator) (s : List Char) : Begins isCut (separator.text ++ s) := by
  have hc := separator_chars separator
  obtain ⟨c, rest, h⟩ := List.exists_cons_of_ne_nil separator.text_ne_nil
  rw [h] at hc ⊢
  exact Text.begins_cons.mpr (hc c List.mem_cons_self)

theorem links_begin (links : List (Separator × Clause)) (blanks : Blanks) :
    Begins isCut (links.flatMap linkText ++ blanks.text) := by
  cases links with
  | nil =>
    intro c hc
    simp [isCut, blanks.blank c (List.mem_of_mem_head? hc)]
  | cons l links =>
    rw [List.flatMap_cons, linkText, List.append_assoc, List.append_assoc]
    exact separator_begins _ _

theorem links_begin_bare (links : List (Separator × Clause)) : Begins isCut (links.flatMap linkText) := by
  simpa using links_begin links ⟨[], by simp⟩

theorem blanks_ne_link {blanks : Blanks} (l : Separator × Clause) : blanks.text ≠ linkText l ++ s := by
  intro h
  obtain ⟨c, rest, hclause, hc⟩ := l.2.exists_text_cons
  have hm : c ∈ blanks.text := by simp [h, linkText, hclause]
  simp [isCut, blanks.blank c hm] at hc

theorem links_unique {links links' : List (Separator × Clause)} {blanks blanks' : Blanks}
    (h : links.flatMap linkText ++ blanks.text = links'.flatMap linkText ++ blanks'.text) :
    links = links' ∧ blanks = blanks' := by
  induction links generalizing links' with
  | nil =>
    cases links' with
    | nil => exact ⟨rfl, Blanks.ext h⟩
    | cons l links' =>
      rw [List.flatMap_nil, List.nil_append, List.flatMap_cons, List.append_assoc] at h
      exact absurd h (blanks_ne_link l)
  | cons l links ih =>
    rw [List.flatMap_cons, List.append_assoc] at h
    cases links' with
    | nil =>
      rw [List.flatMap_nil, List.nil_append] at h
      exact absurd h.symm (blanks_ne_link l)
    | cons l' links' =>
      rw [List.flatMap_cons, List.append_assoc, linkText, linkText, List.append_assoc, List.append_assoc] at h
      obtain ⟨hseparator, hbehind⟩ := Text.span_unique (separator_chars _) (l.2.begins _) (separator_chars _)
        (l'.2.begins _) h
      obtain ⟨hclause, hrest⟩ := clause_unique (links_begin links _) (links_begin links' _) hbehind
      obtain ⟨rfl, hblanks⟩ := ih hrest
      rw [Prod.ext (separator_unique hseparator) hclause]
      exact ⟨rfl, hblanks⟩

end Grammar

/-- A text has one derivation at most. -/
theorem Derivation.text_injective {d d' : Derivation} (h : d.text = d'.text) : d = d' := by
  obtain ⟨hbefore, h⟩ := Text.span_unique d.before.blank (begins_not_blank (d.first.begins _)) d'.before.blank
    (begins_not_blank (d'.first.begins _)) h
  obtain ⟨hfirst, h⟩ := clause_unique (links_begin _ _) (links_begin _ _) h
  obtain ⟨hrest, hafter⟩ := links_unique h
  exact Derivation.ext (Blanks.ext hbefore) hfirst hrest hafter

end Selector

end PageScript
