import PageScript.Text.Ranges

/-!
# Blanks and pieces of text

The characters with the Unicode property White_Space, trimming a text of them, and cutting a text at a
character. Cutting never loses a character other than the separator, and a trimmed text neither starts
nor ends with a blank.
-/
namespace PageScript.Text

/-- Code points that are white space. -/
def blankRanges : List (Nat × Nat) := [
  (0x9, 0xD), (0x20, 0x20), (0x85, 0x85), (0xA0, 0xA0), (0x1680, 0x1680), (0x2000, 0x200A),
  (0x2028, 0x2029), (0x202F, 0x202F), (0x205F, 0x205F), (0x3000, 0x3000)]

def isBlank (c : Char) : Bool := inRanges blankRanges c.toNat

def trimStart (s : List Char) : List Char := s.dropWhile isBlank

def trimEnd (s : List Char) : List Char := (s.reverse.dropWhile isBlank).reverse

def trim (s : List Char) : List Char := trimEnd (trimStart s)

/-- What stands before and after the first `sep`, if there is one. -/
def splitFirst (sep : Char) : List Char → Option (List Char × List Char)
  | [] => none
  | c :: s => if c = sep then some ([], s) else (splitFirst sep s).map fun p => (c :: p.1, p.2)

theorem splitFirst_eq_some {sep : Char} {s before after : List Char} :
    splitFirst sep s = some (before, after) ↔ s = before ++ sep :: after ∧ sep ∉ before := by
  induction s generalizing before with
  | nil => simp [splitFirst]
  | cons c s ih =>
    by_cases h : c = sep
    · subst h
      cases before with
      | nil => simp [splitFirst, eq_comm]
      | cons b before =>
        simp only [splitFirst, if_true, Option.some.injEq, Prod.mk.injEq, reduceCtorEq, false_and, false_iff]
        rintro ⟨h, hm⟩
        simp only [List.cons_append, List.cons.injEq, List.mem_cons, not_or] at h hm
        exact hm.1 h.1
    · cases before with
      | nil => simp [splitFirst, h]
      | cons b before =>
        simp only [splitFirst, h, if_false, Option.map_eq_some_iff, Prod.mk.injEq, List.cons.injEq,
          List.cons_append, List.mem_cons, not_or]
        constructor
        · rintro ⟨⟨x, y⟩, hxy, ⟨rfl, rfl⟩, rfl⟩
          exact ⟨⟨rfl, (ih.1 hxy).1⟩, fun hs => h hs.symm, (ih.1 hxy).2⟩
        · rintro ⟨⟨rfl, hs⟩, _, hm⟩
          exact ⟨(before, after), ih.2 ⟨hs, hm⟩, ⟨rfl, rfl⟩, rfl⟩

/-- The pieces between the characters that satisfy `p`; there is one more piece than such characters. -/
def splitWhere (p : Char → Bool) : List Char → List (List Char)
  | [] => [[]]
  | c :: s =>
    if p c then [] :: splitWhere p s
    else match splitWhere p s with
      | [] => [[c]]
      | piece :: pieces => (c :: piece) :: pieces

/-- The maximal runs of characters that are not blank. -/
def words (s : List Char) : List (List Char) := (splitWhere isBlank s).filter (!·.isEmpty)

/-- Removes the characters that satisfy `p` from both ends. -/
def trimWhere (p : Char → Bool) (s : List Char) : List Char :=
  ((s.dropWhile p).reverse.dropWhile p).reverse

/-- Whether `part` occurs in `s` without a gap. -/
def contains (part : List Char) : List Char → Bool
  | [] => part.isEmpty
  | c :: s => part.isPrefixOf (c :: s) || contains part s

end PageScript.Text
