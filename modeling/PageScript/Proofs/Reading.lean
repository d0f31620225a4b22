import PageScript.Proofs.Grammar

/-!
# Reading selectors

The reader accepts the texts that have a derivation, and answers the selector that is written there. Each of its
functions takes one piece off a text. Where a piece ends is settled by the characters that may follow it, so that the
piece taken is that of the derivation, and conversely what was taken is a piece.
-/
namespace PageScript.Selector

open Text (Begins)

namespace Grammar

variable {s rest : List Char} {n : Nat} {c c' : Compound}

/-! ## Names and attributes -/

theorem nameAt_eq_ok {text : String} :
    nameAt s = .ok (text, rest) ↔
      ∃ name : Name, s = name.text ++ rest ∧ String.ofList name.text = text ∧ Begins (!isNameChar ·) rest := by
  constructor
  · intro h
    have hne : s.takeWhile isNameChar ≠ [] := by
      intro hnil
      simp [nameAt, hnil] at h
    have hok : nameAt s = .ok (String.ofList (s.takeWhile isNameChar), s.dropWhile isNameChar) := by
      rw [nameAt]
      split
      · contradiction
      · rfl
    rw [hok] at h
    cases h
    exact ⟨⟨_, hne, fun c => List.mem_takeWhile_imp⟩, List.takeWhile_append_dropWhile.symm, rfl,
      Text.begins_dropWhile isNameChar s⟩
  · rintro ⟨name, rfl, rfl, hrest⟩
    obtain ⟨htake, hdrop⟩ := Text.span_append name.isName.2 hrest
    rw [nameAt, htake, hdrop]
    split
    · exact absurd ‹_› name.isName.1
    · rfl

theorem attributeOf_eq (s : List Char) :
    attributeOf s =
      if keyOf s ≠ [] ∧ (keyOf s).all isNameChar then .ok (String.ofList (keyOf s), valueOf s)
      else .error .invalidAttribute := by
  rw [attributeOf, Text.splitFirst_eq, keyOf, valueOf]
  by_cases hs : '=' ∈ s
  · rw [if_pos hs, if_pos hs]
  · have hself : s.takeWhile (· ≠ '=') = s := by
      rw [List.takeWhile_eq_self_iff]
      intro c hc
      rw [decide_eq_true_iff]
      rintro rfl
      exact hs hc
    rw [if_neg hs, if_neg hs, hself]

theorem attributeOf_eq_ok {p : String × Option String} (hs : ']' ∉ s) :
    attributeOf s = .ok p ↔
      ∃ body : Body, body.text = s ∧ (String.ofList (keyOf body.text), valueOf body.text) = p := by
  have hname : keyOf s ≠ [] ∧ (keyOf s).all isNameChar = true ↔ IsName (keyOf s) := by
    rw [IsName, List.all_eq_true]
  rw [attributeOf_eq]
  constructor
  · intro h
    split_ifs at h with hkey
    exact ⟨⟨s, hs, hname.mp hkey⟩, rfl, Except.ok.inj h⟩
  · rintro ⟨body, rfl, rfl⟩
    exact if_pos (hname.mpr body.isName)

/-! ## Conditions -/

/-- A compound with one more condition, which is the last one that is written. -/
def Condition.addTo (c : Compound) : Condition → Compound
  | id name => { c with id := some (String.ofList name.text) }
  | token name => { c with classes := c.classes ++ [String.ofList name.text] }
  | attr body => { c with attributes := c.attributes ++ [(String.ofList (keyOf body.text), valueOf body.text)] }

theorem foldl_addTo (conditions : List Condition) (c : Compound) :
    conditions.foldl Condition.addTo c =
      { tag := c.tag
        id := (conditions.filterMap Condition.id?).getLast?.or c.id
        classes := c.classes ++ conditions.filterMap Condition.token?
        attributes := c.attributes ++ conditions.filterMap Condition.attr? } := by
  induction conditions generalizing c with
  | nil => simp
  | cons x conditions ih =>
    rw [List.foldl_cons, ih]
    cases x with
    | id name =>
      simp [Condition.addTo, List.filterMap_cons, Condition.id?, Condition.token?, Condition.attr?,
        List.getLast?_cons]
    | token name =>
      simp [Condition.addTo, List.filterMap_cons, Condition.id?, Condition.token?, Condition.attr?]
    | attr body =>
      simp [Condition.addTo, List.filterMap_cons, Condition.id?, Condition.token?, Condition.attr?]

theorem Clause.compound_eq (clause : Clause) :
    clause.compound = clause.conditions.foldl Condition.addTo { tag := clause.start.bind Start.tag? } := by
  rw [foldl_addTo, compound]
  simp

theorem conditionsAt_text (x : Condition) (hs : Begins (!isNameChar ·) s) :
    conditionsAt (n + 1) c (x.text ++ s) = conditionsAt n (x.addTo c) s := by
  cases x with
  | id name =>
    have h : nameAt (name.text ++ s) = .ok (String.ofList name.text, s) := nameAt_eq_ok.mpr ⟨name, rfl, rfl, hs⟩
    simp [Condition.text, conditionsAt, Condition.addTo, h, bind, Except.bind]
  | token name =>
    have h : nameAt (name.text ++ s) = .ok (String.ofList name.text, s) := nameAt_eq_ok.mpr ⟨name, rfl, rfl, hs⟩
    simp [Condition.text, conditionsAt, Condition.addTo, h, bind, Except.bind]
  | attr body =>
    have h : Text.splitFirst ']' (body.text ++ ']' :: s) = some (body.text, s) :=
      Text.splitFirst_eq_some.mpr ⟨rfl, body.closed⟩
    have hattr := (attributeOf_eq_ok body.closed).mpr ⟨body, rfl, rfl⟩
    simp [Condition.text, conditionsAt, Condition.addTo, h, hattr, bind, Except.bind]

theorem conditionsAt_cut (hs : Begins isCut s) : conditionsAt n c s = .ok (c, s) := by
  cases n with
  | zero => rfl
  | succ n =>
    cases s with
    | nil => rfl
    | cons a s =>
      have ha : isCut a = true := Text.begins_cons.mp hs
      have hsign : isSign a = false := by
        by_contra hsign
        rw [not_isCut_of_isSign ((Bool.not_eq_false _).mp hsign)] at ha
        cases ha
      simp only [isSign, Bool.or_eq_false_iff, beq_eq_false_iff_ne] at hsign
      rw [conditionsAt, if_neg hsign.1.1, if_neg hsign.1.2, if_neg hsign.2]
      exact if_pos ha

theorem conditionsAt_complete {conditions : List Condition} (hrest : Begins isCut rest)
    (hn : conditions.length ≤ n) :
    conditionsAt n c (conditions.flatMap Condition.text ++ rest) = .ok (conditions.foldl Condition.addTo c, rest) := by
  induction conditions generalizing n c with
  | nil => exact conditionsAt_cut hrest
  | cons x conditions ih =>
    obtain ⟨n, rfl⟩ := Nat.exists_eq_add_of_le' (Nat.lt_of_lt_of_le (Nat.succ_pos _) hn)
    rw [List.flatMap_cons, List.append_assoc, conditionsAt_text x (conditions_begin_name _ hrest)]
    exact ih (Nat.le_of_succ_le_succ hn)

theorem conditionsAt_sound (hn : s.length ≤ n) (h : conditionsAt n c s = .ok (c', rest)) :
    ∃ conditions : List Condition, s = conditions.flatMap Condition.text ++ rest ∧
      conditions.foldl Condition.addTo c = c' ∧ Begins isCut rest := by
  induction n generalizing c s with
  | zero =>
    obtain rfl := List.length_eq_zero_iff.mp (Nat.le_zero.mp hn)
    cases h
    exact ⟨[], rfl, rfl, Text.begins_nil⟩
  | succ n ih =>
    have hadd (x : Condition) {s' : List Char} (hs : s = x.text ++ s')
        (h : conditionsAt n (x.addTo c) s' = .ok (c', rest)) :
        ∃ conditions : List Condition, s = conditions.flatMap Condition.text ++ rest ∧
          conditions.foldl Condition.addTo c = c' ∧ Begins isCut rest := by
      have hlen : s'.length ≤ n := by
        have hx : 0 < x.text.length := by cases x <;> simp [Condition.text]
        have := congrArg List.length hs
        rw [List.length_append] at this
        omega
      obtain ⟨conditions, rfl, hc, hrest⟩ := ih hlen h
      exact ⟨x :: conditions, by rw [hs, List.flatMap_cons, List.append_assoc], hc, hrest⟩
    cases s with
    | nil =>
      cases h
      exact ⟨[], rfl, rfl, Text.begins_nil⟩
    | cons a s =>
      rw [conditionsAt] at h
      split_ifs at h with hid htoken hattr hcut
      · obtain ⟨⟨text, s'⟩, hname, h⟩ := bind_eq_ok.mp h
        obtain ⟨name, rfl, rfl, -⟩ := nameAt_eq_ok.mp hname
        exact hadd (.id name) (by rw [hid]; rfl) h
      · obtain ⟨⟨text, s'⟩, hname, h⟩ := bind_eq_ok.mp h
        obtain ⟨name, rfl, rfl, -⟩ := nameAt_eq_ok.mp hname
        exact hadd (.token name) (by rw [htoken]; rfl) h
      · split at h
        · cases h
        · rename_i text s' hsplit
          obtain ⟨rfl, hclosed⟩ := Text.splitFirst_eq_some.mp hsplit
          obtain ⟨p, hp, h⟩ := bind_eq_ok.mp h
          obtain ⟨body, rfl, rfl⟩ := (attributeOf_eq_ok hclosed).mp hp
          exact hadd (.attr body) (by rw [hattr]; simp [Condition.text]) h
      · cases h
        exact ⟨[], rfl, rfl, Text.begins_cons.mpr hcut⟩

/-! ## Clauses -/

theorem compoundAt_tag (name : Name) (hs : Begins (!isNameChar ·) s) :
    compoundAt (name.text ++ s) =
      conditionsAt s.length { tag := some (Text.asciiLowercase (String.ofList name.text)) } s := by
  obtain ⟨htake, hdrop⟩ := Text.span_append name.isName.2 hs
  obtain ⟨a, rest, hname⟩ := List.exists_cons_of_ne_nil name.isName.1
  have ha := name.isName.2 a (hname ▸ List.mem_cons_self)
  have hstar : a ≠ '*' := by
    rintro rfl
    exact absurd ha (by decide +kernel)
  rw [hname, List.cons_append] at htake hdrop
  rw [hname, List.cons_append, compoundAt, if_neg hstar, if_pos ha, htake, hdrop]

theorem compoundAt_conditions {a : Char} (ha : isStartChar a = false) :
    compoundAt (a :: s) = conditionsAt (a :: s).length {} (a :: s) := by
  simp only [isStartChar, Bool.or_eq_false_iff, beq_eq_false_iff_ne] at ha
  rw [compoundAt, if_neg ha.2, if_neg (by rw [ha.1]; exact Bool.false_ne_true)]

theorem compoundAt_complete (clause : Clause) (hrest : Begins isCut rest) :
    compoundAt (clause.text ++ rest) = .ok (clause.compound, rest) := by
  have hlen : clause.conditions.length ≤ (clause.conditions.flatMap Condition.text ++ rest).length := by
    rw [List.length_append]
    exact Nat.le_add_right_of_le (Text.length_le_flatMap Condition.text_ne_nil _)
  have hread (c : Compound) := conditionsAt_complete (c := c) hrest hlen
  rw [clause.compound_eq, Clause.text, List.append_assoc]
  obtain ⟨start, conditions, hne⟩ := clause
  cases start with
  | none =>
    obtain ⟨x, conditions, rfl⟩ := List.exists_cons_of_ne_nil (hne rfl)
    obtain ⟨a, s, hx, ha⟩ := x.exists_text_cons
    refine Eq.trans ?_ (hread {})
    rw [Option.elim_none, List.nil_append, List.flatMap_cons, hx]
    exact compoundAt_conditions (not_isStartChar_of_isSign ha)
  | some start =>
    cases start with
    | any => exact hread {}
    | tag name => exact (compoundAt_tag name (conditions_begin_name conditions hrest)).trans (hread _)

theorem compoundAt_sound (hs : Begins (!isCut ·) s) (h : compoundAt s = .ok (c, rest)) :
    ∃ clause : Clause, s = clause.text ++ rest ∧ clause.compound = c ∧ Begins isCut rest := by
  cases s with
  | nil => cases h
  | cons a s =>
    by_cases hstar : a = '*'
    · subst hstar
      obtain ⟨conditions, rfl, rfl, hrest⟩ := conditionsAt_sound le_rfl (show conditionsAt s.length {} s = _ from h)
      exact ⟨⟨some .any, conditions, nofun⟩, rfl, Clause.compound_eq _, hrest⟩
    · by_cases hname : isNameChar a = true
      · let name : Name := ⟨(a :: s).takeWhile isNameChar, by simp [hname], fun c => List.mem_takeWhile_imp⟩
        have hsplit : a :: s = name.text ++ (a :: s).dropWhile isNameChar := List.takeWhile_append_dropWhile.symm
        rw [hsplit, compoundAt_tag name (Text.begins_dropWhile isNameChar _)] at h
        obtain ⟨conditions, hdrop, rfl, hrest⟩ := conditionsAt_sound le_rfl h
        refine ⟨⟨some (.tag name), conditions, nofun⟩, ?_, Clause.compound_eq _, hrest⟩
        rw [hsplit, hdrop]
        exact (List.append_assoc ..).symm
      · rw [compoundAt_conditions (by simp [isStartChar, hname, hstar])] at h
        obtain ⟨conditions, htext, rfl, hrest⟩ := conditionsAt_sound le_rfl h
        refine ⟨⟨none, conditions, ?_⟩, htext, Clause.compound_eq _, hrest⟩
        rintro - rfl
        rw [List.flatMap_nil, List.nil_append] at htext
        rw [← htext, Text.begins_cons] at hrest
        simp [hrest] at hs

/-! ## Links -/

theorem trimStart_append (blanks : Blanks) (hs : Begins (!isCut ·) s) : Text.trimStart (blanks.text ++ s) = s :=
  (Text.span_append blanks.blank (begins_not_blank hs)).2

/-- What the reader does with a compound that it has found behind a separator. -/
def follow (n : Nat) (combinator : Combinator) (s : List Char) : Except Flaw (List (Combinator × Compound)) := do
  let (compound, s) ← compoundAt s
  return (combinator, compound) :: (← restAt n s)

theorem restAt_blank (h : Text.trimStart s = []) : restAt n s = .ok [] := by
  cases n with
  | zero => rfl
  | succ n => simp [restAt, h]

theorem restAt_gap {a : Char} {t : List Char} (h : Text.trimStart s = a :: t) (ha : a ≠ '>') :
    restAt (n + 1) s = follow n .descendant (a :: t) := by
  rw [restAt, h]
  split
  · contradiction
  · rename_i heq
    cases heq
    contradiction
  · rfl

theorem restAt_child {a : Char} {s' t : List Char} (h : Text.trimStart s = '>' :: s')
    (h' : Text.trimStart s' = a :: t) (ha : a ≠ '>') : restAt (n + 1) s = follow n .child (a :: t) := by
  simp only [restAt, h, h']
  split
  · contradiction
  · rename_i heq
    cases heq
    contradiction
  · rfl

theorem follow_eq_ok {combinator : Combinator} {links : List (Combinator × Compound)} :
    follow n combinator s = .ok links ↔
      ∃ c rest tail, compoundAt s = .ok (c, rest) ∧ restAt n rest = .ok tail ∧ (combinator, c) :: tail = links := by
  rw [follow, bind_eq_ok]
  constructor
  · rintro ⟨⟨c, rest⟩, hc, h⟩
    obtain ⟨tail, htail, h⟩ := bind_eq_ok.mp h
    exact ⟨c, rest, tail, hc, htail, Except.ok.inj h⟩
  · rintro ⟨c, rest, tail, hc, htail, rfl⟩
    exact ⟨(c, rest), hc, bind_eq_ok.mpr ⟨tail, htail, rfl⟩⟩

theorem combinator_gap (blanks : Blanks) (hne : blanks.text ≠ []) :
    (Separator.gap blanks hne).combinator = .descendant :=
  if_neg (child_not_mem blanks)

theorem combinator_child (before after : Blanks) : (Separator.child before after).combinator = .child :=
  if_pos (List.mem_append_right _ List.mem_cons_self)

theorem restAt_text (l : Separator × Clause) (s : List Char) :
    restAt (n + 1) (linkText l ++ s) = follow n l.1.combinator (l.2.text ++ s) := by
  obtain ⟨separator, clause⟩ := l
  have hbegins := clause.begins s
  obtain ⟨a, t, htext, ha⟩ := clause.exists_text_cons
  have hgt : a ≠ '>' := by
    rintro rfl
    exact absurd ha (by decide)
  rw [htext, List.cons_append] at hbegins ⊢
  cases separator with
  | gap blanks hne =>
    rw [combinator_gap]
    refine restAt_gap ?_ hgt
    rw [linkText, htext, List.append_assoc, List.cons_append]
    exact trimStart_append blanks hbegins
  | child before after =>
    have hmark : Begins (!Text.isBlank ·) ('>' :: (after.text ++ a :: (t ++ s))) := Text.begins_cons.mpr (by decide)
    have htrim : Text.trimStart (linkText (.child before after, clause) ++ s) =
        '>' :: (after.text ++ a :: (t ++ s)) := by
      rw [linkText, htext, Separator.text, Text.trimStart]
      simpa using (Text.span_append before.blank hmark).2
    rw [combinator_child]
    exact restAt_child htrim (trimStart_append after hbegins) hgt

theorem restAt_complete {links : List (Separator × Clause)} (hn : links.length ≤ n) :
    restAt n (links.flatMap linkText) = .ok (links.map link) := by
  induction links generalizing n with
  | nil => exact restAt_blank rfl
  | cons l links ih =>
    obtain ⟨n, rfl⟩ := Nat.exists_eq_add_of_le' (Nat.lt_of_lt_of_le (Nat.succ_pos _) hn)
    rw [List.flatMap_cons, restAt_text]
    exact follow_eq_ok.mpr ⟨_, _, _, compoundAt_complete l.2 (links_begin_bare links), ih (Nat.le_of_succ_le_succ hn), rfl⟩

theorem begins_trimStart {a : Char} {t : List Char} (h : Text.trimStart s = a :: t) (ha : a ≠ '>') :
    Begins (!isCut ·) (a :: t) := by
  have hblank := Text.begins_dropWhile Text.isBlank s
  rw [← Text.trimStart, h] at hblank
  simpa [isCut, ha] using hblank

theorem restAt_sound {found : List (Combinator × Compound)} (hs : Begins isCut s) (hn : s.length ≤ n)
    (h : restAt n s = .ok found) :
    ∃ (links : List (Separator × Clause)) (blanks : Blanks),
      s = links.flatMap linkText ++ blanks.text ∧ links.map link = found := by
  induction n generalizing s found with
  | zero =>
    obtain rfl := List.length_eq_zero_iff.mp (Nat.le_zero.mp hn)
    cases h
    exact ⟨[], ⟨[], nofun⟩, rfl, rfl⟩
  | succ n ih =>
    let blanks : Blanks := ⟨s.takeWhile Text.isBlank, fun c => List.mem_takeWhile_imp⟩
    have hsplit : s = blanks.text ++ Text.trimStart s := List.takeWhile_append_dropWhile.symm
    have hlink (separator : Separator) {below : List Char} (hsep : s = separator.text ++ below)
        (hbelow : Begins (!isCut ·) below) (h : follow n separator.combinator below = .ok found) :
        ∃ (links : List (Separator × Clause)) (blanks : Blanks),
          s = links.flatMap linkText ++ blanks.text ∧ links.map link = found := by
      obtain ⟨c, rest, tail, hclause, hrest, rfl⟩ := follow_eq_ok.mp h
      obtain ⟨clause, rfl, rfl, hcut⟩ := compoundAt_sound hbelow hclause
      have hlen : rest.length ≤ n := by
        obtain ⟨a, t, htext, -⟩ := clause.exists_text_cons
        have := congrArg List.length hsep
        rw [htext] at this
        simp only [List.length_append, List.length_cons] at this
        omega
      obtain ⟨links, blanks, rfl, rfl⟩ := ih hcut hlen hrest
      refine ⟨(separator, clause) :: links, blanks, ?_, rfl⟩
      rw [hsep, List.flatMap_cons, linkText]
      simp
    cases htrim : Text.trimStart s with
    | nil =>
      rw [restAt_blank htrim] at h
      cases h
      exact ⟨[], blanks, by rw [hsplit, htrim]; simp, rfl⟩
    | cons a t =>
      by_cases ha : a = '>'
      · subst ha
        let blanks' : Blanks := ⟨t.takeWhile Text.isBlank, fun c => List.mem_takeWhile_imp⟩
        have hsplit' : t = blanks'.text ++ Text.trimStart t := List.takeWhile_append_dropWhile.symm
        cases htrim' : Text.trimStart t with
        | nil => simp [restAt, htrim, htrim'] at h
        | cons b t' =>
          by_cases hb : b = '>'
          · subst hb
            simp [restAt, htrim, htrim'] at h
          · rw [restAt_child htrim htrim' hb] at h
            refine hlink (.child blanks blanks') ?_ (begins_trimStart htrim' hb) (by rwa [combinator_child])
            rw [hsplit, htrim, hsplit', htrim']
            simp [Separator.text, blanks']
      · rw [restAt_gap htrim ha] at h
        have hbegins := begins_trimStart htrim ha
        have hne : blanks.text ≠ [] := by
          intro hnil
          rw [hnil, List.nil_append, htrim] at hsplit
          rw [hsplit, Text.begins_cons] at hs
          simp [hs] at hbegins
        exact hlink (.gap blanks hne) (by rw [hsplit, htrim]; rfl) hbegins (by rwa [combinator_gap])

/-! ## The loops end -/

/-- More rounds than characters make no difference: every condition takes a character. -/
theorem conditionsAt_bound {m : Nat} (hn : s.length ≤ n) (hm : s.length ≤ m) :
    conditionsAt n c s = conditionsAt m c s := by
  induction n generalizing m c s with
  | zero =>
    obtain rfl := List.length_eq_zero_iff.mp (Nat.le_zero.mp hn)
    rw [conditionsAt_cut Text.begins_nil, conditionsAt_cut Text.begins_nil]
  | succ n ih =>
    cases s with
    | nil => rw [conditionsAt_cut Text.begins_nil, conditionsAt_cut Text.begins_nil]
    | cons a s =>
      obtain ⟨m, rfl⟩ := Nat.exists_eq_add_of_le' (Nat.lt_of_lt_of_le (Nat.succ_pos _) hm)
      have hname (f : String → Compound) :
          (nameAt s >>= fun p => conditionsAt n (f p.1) p.2) = nameAt s >>= fun p => conditionsAt m (f p.1) p.2 := by
        cases h : nameAt s with
        | error => rfl
        | ok p =>
          obtain ⟨name, rfl, -⟩ := nameAt_eq_ok.mp h
          simp only [List.length_cons, List.length_append] at hn hm
          exact ih (by omega) (by omega)
      have hbody {body rest : List Char} (h : Text.splitFirst ']' s = some (body, rest)) (c : Compound) :
          conditionsAt n c rest = conditionsAt m c rest := by
        obtain ⟨rfl, -⟩ := Text.splitFirst_eq_some.mp h
        simp only [List.length_cons, List.length_append] at hn hm
        exact ih (by omega) (by omega)
      rw [conditionsAt, conditionsAt]
      split_ifs
      · exact hname fun id => { c with id := some id }
      · exact hname fun token => { c with classes := c.classes ++ [token] }
      · split
        · rfl
        · rename_i body rest h
          cases attributeOf body with
          | error => rfl
          | ok p => exact hbody h _
      · rfl
      · rfl

theorem follow_bound {m : Nat} {combinator : Combinator} (hs : Begins (!isCut ·) s)
    (h : ∀ rest : List Char, rest.length < s.length → restAt n rest = restAt m rest) :
    follow n combinator s = follow m combinator s := by
  rw [follow, follow]
  cases hc : compoundAt s with
  | error => rfl
  | ok p =>
    obtain ⟨clause, rfl, -, -⟩ := compoundAt_sound hs hc
    obtain ⟨a, t, htext, -⟩ := clause.exists_text_cons
    have hrest := h p.2 (by
      rw [htext, List.length_append, List.length_cons]
      omega)
    simp only [bind, Except.bind, hrest]

theorem restAt_bound {m : Nat} (hn : s.length ≤ n) (hm : s.length ≤ m) : restAt n s = restAt m s := by
  induction n generalizing m s with
  | zero =>
    obtain rfl := List.length_eq_zero_iff.mp (Nat.le_zero.mp hn)
    rw [restAt_blank rfl, restAt_blank rfl]
  | succ n ih =>
    cases m with
    | zero =>
      obtain rfl := List.length_eq_zero_iff.mp (Nat.le_zero.mp hm)
      rw [restAt_blank rfl, restAt_blank rfl]
    | succ m =>
      have hle (u : List Char) : (Text.trimStart u).length ≤ u.length := (List.dropWhile_suffix _).length_le
      have hlen := hle s
      cases h : Text.trimStart s with
      | nil => rw [restAt_blank h, restAt_blank h]
      | cons a t =>
        rw [h, List.length_cons] at hlen
        by_cases ha : a = '>'
        · subst ha
          have hlen' := hle t
          cases h' : Text.trimStart t with
          | nil => simp [restAt, h, h']
          | cons b t' =>
            rw [h', List.length_cons] at hlen'
            by_cases hb : b = '>'
            · subst hb
              simp [restAt, h, h']
            · rw [restAt_child h h' hb, restAt_child h h' hb]
              exact follow_bound (begins_trimStart h' hb) fun rest hrest => by
                rw [List.length_cons] at hrest
                exact ih (by omega) (by omega)
        · rw [restAt_gap h ha, restAt_gap h ha]
          exact follow_bound (begins_trimStart h ha) fun rest hrest => by
            rw [List.length_cons] at hrest
            exact ih (by omega) (by omega)

end Grammar

/-! ## Whole selectors -/

open Grammar

theorem Derivation.trim_text (d : Derivation) : Text.trim d.text = d.first.text ++ d.rest.flatMap linkText := by
  have hlast : ∃ core c, d.first.text ++ d.rest.flatMap linkText = core ++ [c] ∧ Text.isBlank c = false := by
    obtain hnil | ⟨links, l, hlinks⟩ := List.eq_nil_or_concat' d.rest
    · obtain ⟨core, c, h, hc⟩ := d.first.exists_text_concat
      exact ⟨core, c, by rw [hnil, List.flatMap_nil, List.append_nil, h], hc⟩
    · obtain ⟨core, c, h, hc⟩ := l.2.exists_text_concat
      exact ⟨d.first.text ++ (links.flatMap linkText ++ (l.1.text ++ core)), c, by simp [hlinks, linkText, h], hc⟩
  obtain ⟨core, c, h, hc⟩ := hlast
  have hbegins := begins_not_blank (d.first.begins (d.rest.flatMap linkText))
  rw [text, ← List.append_assoc d.first.text, h]
  rw [h] at hbegins
  exact Text.trim_append d.before.blank hbegins hc d.after.blank

/-- A text that begins with a clause, without the blanks around it, is read from there. -/
theorem parseChars_eq {s : List Char} {selector : Selector} (hs : Begins (!isCut ·) (Text.trim s))
    (hne : Text.trim s ≠ []) :
    parseChars s = .ok selector ↔
      ∃ c rest links, compoundAt (Text.trim s) = .ok (c, rest) ∧ restAt (rest.length + 1) rest = .ok links ∧
        ⟨c, links⟩ = selector := by
  have hread : parseChars s = (compoundAt (Text.trim s) >>= fun p =>
      restAt (p.2.length + 1) p.2 >>= fun links => pure ⟨p.1, links⟩) := by
    rw [parseChars]
    split
    · contradiction
    · rename_i heq
      rw [heq, Text.begins_cons] at hs
      cases hs
    · rfl
  rw [hread, bind_eq_ok]
  constructor
  · rintro ⟨⟨c, rest⟩, hc, h⟩
    obtain ⟨links, hlinks, h⟩ := bind_eq_ok.mp h
    exact ⟨c, rest, links, hc, hlinks, Except.ok.inj h⟩
  · rintro ⟨c, rest, links, hc, hlinks, rfl⟩
    exact ⟨(c, rest), hc, bind_eq_ok.mpr ⟨links, hlinks, rfl⟩⟩

theorem parseChars_text (d : Derivation) : parseChars d.text = .ok d.selector := by
  have hlen : d.rest.length ≤ (d.rest.flatMap linkText).length + 1 :=
    Nat.le_succ_of_le (Text.length_le_flatMap (fun l => by simp [linkText, l.1.text_ne_nil]) _)
  obtain ⟨a, t, htext, -⟩ := d.first.exists_text_cons
  have hbegins := d.first.begins (d.rest.flatMap linkText)
  have hne : d.first.text ++ d.rest.flatMap linkText ≠ [] := htext ▸ List.cons_ne_nil _ _
  rw [← d.trim_text] at hbegins hne
  refine (parseChars_eq hbegins hne).mpr ⟨_, _, _, ?_, restAt_complete hlen, rfl⟩
  rw [d.trim_text]
  exact compoundAt_complete d.first (links_begin_bare d.rest)

theorem exists_text_of_parseChars {s : List Char} {selector : Selector} (h : parseChars s = .ok selector) :
    ∃ d : Derivation, d.text = s ∧ d.selector = selector := by
  obtain ⟨before, after, hs, hbefore, hafter⟩ := Text.exists_blanks_trim s
  have hblank := Text.begins_trim s
  have hne : Text.trim s ≠ [] := by
    intro hnil
    simp [parseChars, hnil] at h
  have hbegins : Begins (!isCut ·) (Text.trim s) := by
    cases ht : Text.trim s with
    | nil => exact absurd ht hne
    | cons a t =>
      have ha : a ≠ '>' := by
        rintro rfl
        simp [parseChars, ht] at h
      simpa [ht, isCut, ha] using hblank
  obtain ⟨c, rest, found, hc, hfound, rfl⟩ := (parseChars_eq hbegins hne).mp h
  obtain ⟨clause, htrim, rfl, hcut⟩ := compoundAt_sound hbegins hc
  obtain ⟨links, blanks, rfl, rfl⟩ := restAt_sound hcut (Nat.le_succ _) hfound
  have hafter' : ∀ c ∈ blanks.text ++ after, Text.isBlank c = true := by
    intro c hc
    exact (List.mem_append.mp hc).elim (blanks.blank c) (hafter c)
  refine ⟨⟨⟨before, hbefore⟩, clause, links, ⟨blanks.text ++ after, hafter'⟩⟩, ?_, rfl⟩
  rw [hs, htrim, Derivation.text]
  simp

theorem Derivation.selector_eq (d : Derivation) :
    d.selector = ⟨d.bare.1.compound, d.bare.2.map fun l => (l.1, l.2.compound)⟩ := by
  rw [selector, bare, List.map_map]
  rfl

theorem parse_eq_ok {text : String} {selector : Selector} :
    parse text = .ok selector ↔ parseChars text.toList = .ok selector := by
  rw [parse]
  cases parseChars text.toList <;> simp

/-- A text is read as a selector exactly if it has a derivation, which then is the only one, and the selector is the
one written there. Blanks around a separator or more of them make no difference, and no loop is cut off. -/
theorem parse_follows_grammar (text : String) :
    (∀ selector, parse text = .ok selector ↔ ∃ d : Derivation, d.text = text.toList ∧ d.selector = selector) ∧
    (∀ d d' : Derivation, d.text = text.toList → d'.text = text.toList → d = d') ∧
    (∀ d d' : Derivation, d.text = text.toList → d'.bare = d.bare →
      parse (String.ofList d'.text) = parse text) ∧
    (∀ n compound s, s.length ≤ n → conditionsAt n compound s = conditionsAt s.length compound s) ∧
    ∀ n s, s.length ≤ n → restAt n s = restAt s.length s := by
  have hparse (d : Derivation) (text : String) (h : d.text = text.toList) : parse text = .ok d.selector := by
    rw [parse_eq_ok, ← h]
    exact parseChars_text d
  refine ⟨fun selector => ⟨fun h => exists_text_of_parseChars (parse_eq_ok.mp h), ?_⟩, ?_, ?_, ?_, ?_⟩
  · rintro ⟨d, h, rfl⟩
    exact hparse d text h
  · intro d d' h h'
    exact Derivation.text_injective (h.trans h'.symm)
  · intro d d' h hbare
    have hselector : d'.selector = d.selector := by
      rw [d'.selector_eq, d.selector_eq, hbare]
    rw [hparse d text h, hparse d' _ String.toList_ofList.symm, hselector]
  · exact fun n c s hn => conditionsAt_bound hn le_rfl
  · exact fun n s hn => restAt_bound hn le_rfl

example : parse " ul  >li.a#b#c[ x = 'y' ] " = .ok
    ⟨{ tag := some "ul" },
      [(.child, { tag := some "li", id := some "c", classes := ["a"], attributes := [("x", some "y")] })]⟩ := by
  rfl

example : parse "ul>>li" = .error (.invalidSelector "ul>>li" "unexpected '>'") := by rfl

end PageScript.Selector
