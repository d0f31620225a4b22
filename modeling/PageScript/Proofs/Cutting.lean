import Mathlib.Data.List.Basic
import Mathlib.Data.List.TakeWhile
import PageScript.Text.Blank

/-!
# Cutting texts

What is cut off a text, and where. Blanks are trimmed from both ends of a text, which is bare when it has none there;
a run of characters of one class ends where the next class begins; and the pieces between separators, put together again
with the separators, are the text.
-/
namespace PageScript

namespace Text

variable {q : Char → Bool} {s t u v : List Char}

/-- A text begins with a character of a class, unless it is empty. -/
def Begins (q : Char → Bool) (s : List Char) : Prop := ∀ c ∈ s.head?, q c = true

@[simp] theorem begins_nil : Begins q [] := by simp [Begins]

@[simp] theorem begins_cons {c : Char} : Begins q (c :: s) ↔ q c = true := by simp [Begins]

theorem Begins.mono {q' : Char → Bool} (h : Begins q s) (hq : ∀ c, q c = true → q' c = true) : Begins q' s :=
  fun c hc => hq c (h c hc)

theorem span_append (hs : ∀ c ∈ s, q c = true) (ht : Begins (!q ·) t) :
    (s ++ t).takeWhile q = s ∧ (s ++ t).dropWhile q = t := by
  rw [List.takeWhile_append_of_pos hs, List.dropWhile_append_of_pos hs]
  cases t with
  | nil => simp
  | cons c t =>
    have hc : q c = false := by simpa using ht
    simp [hc]

theorem span_unique (hs : ∀ c ∈ s, q c = true) (ht : Begins (!q ·) t) (hu : ∀ c ∈ u, q c = true)
    (hv : Begins (!q ·) v) (h : s ++ t = u ++ v) : s = u ∧ t = v := by
  have hst := span_append hs ht
  have huv := span_append hu hv
  rw [h] at hst
  exact ⟨hst.1.symm.trans huv.1, hst.2.symm.trans huv.2⟩

theorem begins_dropWhile (q : Char → Bool) (s : List Char) : Begins (!q ·) (s.dropWhile q) := by
  intro c hc
  have h := List.head?_dropWhile_not q s
  rw [Option.mem_def.mp hc] at h
  simpa using h

theorem trimStart_eq (s : List Char) : ∃ after, trimStart s = trim s ++ after ∧ ∀ c ∈ after, isBlank c = true := by
  refine ⟨((trimStart s).reverse.takeWhile isBlank).reverse, ?_,
    fun c hc => List.mem_takeWhile_imp (List.mem_reverse.mp hc)⟩
  rw [trim, trimEnd, ← List.reverse_append, List.takeWhile_append_dropWhile, List.reverse_reverse]

/-- A text with and without the blanks around it. -/
theorem exists_blanks_trim (s : List Char) :
    ∃ before after, s = before ++ (trim s ++ after) ∧ (∀ c ∈ before, isBlank c = true) ∧
      ∀ c ∈ after, isBlank c = true := by
  obtain ⟨after, h, hafter⟩ := trimStart_eq s
  exact ⟨s.takeWhile isBlank, after, by rw [← h, trimStart, List.takeWhile_append_dropWhile],
    fun c => List.mem_takeWhile_imp, hafter⟩

theorem begins_trim (s : List Char) : Begins (!isBlank ·) (trim s) := by
  obtain ⟨after, h, -⟩ := trimStart_eq s
  have hbegins := begins_dropWhile isBlank s
  rw [← trimStart, h] at hbegins
  cases ht : trim s with
  | nil => exact begins_nil
  | cons c t => simpa [ht] using hbegins

/-- Blanks around a text that neither begins nor ends with one are all that is trimmed. -/
theorem trim_append {before after : List Char} {c : Char} (hb : ∀ c ∈ before, isBlank c = true)
    (hs : Begins (!isBlank ·) (s ++ [c])) (hc : isBlank c = false) (ha : ∀ c ∈ after, isBlank c = true) :
    trim (before ++ (s ++ [c] ++ after)) = s ++ [c] := by
  have hbegins : Begins (!isBlank ·) (s ++ [c] ++ after) := by
    cases s <;> simpa using hs
  rw [trim, trimStart, (span_append hb hbegins).2, trimEnd, List.reverse_append,
    (span_append (by simpa using ha) (by simpa using hc)).2, List.reverse_reverse]

theorem splitFirst_eq (sep : Char) (s : List Char) :
    splitFirst sep s =
      if sep ∈ s then some (s.takeWhile (· ≠ sep), (s.dropWhile (· ≠ sep)).tail) else none := by
  induction s with
  | nil => rfl
  | cons c s ih =>
    rw [splitFirst, ih]
    by_cases hc : c = sep
    · simp [hc]
    · have hne : sep ≠ c := fun h => hc h.symm
      by_cases hs : sep ∈ s <;> simp [hc, hne, hs]

/-! ## Bare texts -/

/-- A text without blanks around it. -/
structure Bare (s : List Char) : Prop where
  first : Begins (!isBlank ·) s
  last : Begins (!isBlank ·) s.reverse

theorem bare_trim (s : List Char) : Bare (trim s) where
  first := begins_trim s
  last := by
    rw [trim, trimEnd, List.reverse_reverse]
    exact begins_dropWhile isBlank _

theorem Bare.trim_eq (h : Bare s) : trim s = s := by
  rcases s.eq_nil_or_concat' with rfl | ⟨init, c, rfl⟩
  · rfl
  · have hc : isBlank c = false := by simpa using h.last
    have hnil : ∀ c ∈ ([] : List Char), isBlank c = true := nofun
    simpa using trim_append hnil h.first hc hnil

theorem trim_subset (s : List Char) : trim s ⊆ s := by
  obtain ⟨before, after, h, -⟩ := exists_blanks_trim s
  intro c hc
  rw [h]
  exact List.mem_append_right before (List.mem_append_left after hc)

theorem blank_of_trim_eq_nil (h : trim s = []) : ∀ c ∈ s, isBlank c = true := by
  obtain ⟨before, after, hs, hbefore, hafter⟩ := exists_blanks_trim s
  rw [h, List.nil_append] at hs
  rw [hs]
  exact List.forall_mem_append.mpr ⟨hbefore, hafter⟩

/-! ## Pieces between separators -/

theorem splitWhere_eq (p : Char → Bool) (s : List Char) : splitWhere p s = s.splitOnP p := by
  induction s with
  | nil => simp [splitWhere]
  | cons c s ih =>
    rw [splitWhere, List.splitOnP_cons_eq_if_modifyHead, ← ih]
    have hne : splitWhere p s ≠ [] := ih ▸ List.splitOnP_ne_nil p s
    cases h : splitWhere p s with
    | nil => exact absurd h hne
    | cons piece pieces => rfl

theorem of_mem_splitWhere {p : Char → Bool} {piece : List Char} (h : piece ∈ splitWhere p s) :
    ∀ c ∈ piece, c ∈ s ∧ p c = false := by
  induction s generalizing piece with
  | nil =>
    rw [splitWhere, List.mem_singleton] at h
    simp [h]
  | cons a s ih =>
    have hrest {piece : List Char} (h : piece ∈ splitWhere p s) : ∀ c ∈ piece, c ∈ a :: s ∧ p c = false :=
      fun c hc => ⟨List.mem_cons_of_mem a (ih h c hc).1, (ih h c hc).2⟩
    rw [splitWhere] at h
    split at h
    · rcases List.mem_cons.mp h with rfl | h
      · simp
      · exact hrest h
    · have ha : p a = false := by simpa using ‹¬p a = true›
      cases hs : splitWhere p s with
      | nil =>
        rw [hs] at h
        simp_all
      | cons first pieces =>
        rw [hs] at h hrest
        rcases List.mem_cons.mp h with rfl | h
        · exact List.forall_mem_cons.mpr ⟨⟨List.mem_cons_self, ha⟩, hrest List.mem_cons_self⟩
        · exact hrest (List.mem_cons_of_mem first h)

section

variable {sep : Char}

theorem splitWhere_intercalate {pieces : List (List Char)} (hne : pieces ≠ [])
    (h : ∀ piece ∈ pieces, sep ∉ piece) : splitWhere (· = sep) ([sep].intercalate pieces) = pieces := by
  have hsplit := List.splitOn_intercalate sep h hne
  rwa [List.splitOn_eq_splitOnP, ← splitWhere_eq] at hsplit

theorem not_mem_intercalate {c : Char} {pieces : List (List Char)} (hc : c ≠ sep) (h : ∀ piece ∈ pieces, c ∉ piece) :
    c ∉ [sep].intercalate pieces := by
  induction pieces with
  | nil => simp
  | cons first pieces ih =>
    obtain ⟨hfirst, h⟩ := List.forall_mem_cons.mp h
    cases pieces with
    | nil => simpa using hfirst
    | cons second pieces => simp [List.intercalate_cons_cons, hfirst, hc, ih h]

theorem intercalate_splitWhere (sep : Char) (s : List Char) : [sep].intercalate (splitWhere (· = sep) s) = s := by
  rw [splitWhere_eq]
  exact List.intercalate_splitOn sep

end

end Text

end PageScript
