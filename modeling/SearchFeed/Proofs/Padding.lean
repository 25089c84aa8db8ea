import Mathlib.Data.List.TakeWhile
import SearchFeed.Text.Blank

/-! # Blanks around words

A text without the blanks at its ends is the word that it pads with blanks, if
there are none in the word itself.
-/

namespace SearchFeed.Text

theorem not_isAlpha_of_isBlank {c : Char} (hblank : isBlank c = true) :
    c.isAlpha = false := by
  rw [Bool.eq_false_iff]
  intro halpha
  simp only [isBlank, Bool.or_eq_true, Bool.and_eq_true, decide_eq_true_eq, beq_iff_eq]
    at hblank
  change (decide (65 ≤ c.val ∧ c.val ≤ 90) || (decide (97 ≤ c.val) && decide (c.val ≤ 122))) = true
    at halpha
  simp only [Bool.or_eq_true, Bool.and_eq_true, decide_eq_true_eq, UInt32.le_iff_toNat_le] at halpha
  change (65 ≤ c.toNat ∧ c.toNat ≤ 90) ∨ (97 ≤ c.toNat ∧ c.toNat ≤ 122) at halpha
  omega

/-- A word of a certain kind with blanks around it, or without. -/
def Padded (isWord : List Char → Prop) (text : List Char) : Prop :=
  ∃ before word after, (∀ c ∈ before, isBlank c = true) ∧ isWord word ∧
    (∀ c ∈ after, isBlank c = true) ∧ text = before ++ word ++ after

/-- A text is its trimmed form with blanks on both sides. -/
theorem exists_trimChars (text : List Char) :
    ∃ before after, (∀ c ∈ before, isBlank c = true) ∧ (∀ c ∈ after, isBlank c = true) ∧
      text = before ++ trimChars text ++ after := by
  let rest := text.dropWhile isBlank
  refine ⟨text.takeWhile isBlank, (rest.reverse.takeWhile isBlank).reverse, ?_, ?_, ?_⟩
  · exact fun c hc => List.mem_takeWhile_imp hc
  · exact fun c hc => List.mem_takeWhile_imp (List.mem_reverse.mp hc)
  · have hrest : trimChars text ++ (rest.reverse.takeWhile isBlank).reverse = rest := by
      rw [trimChars, ← List.reverse_append, List.takeWhile_append_dropWhile, List.reverse_reverse]
    rw [List.append_assoc, hrest, List.takeWhile_append_dropWhile]

theorem dropWhile_isBlank_of_none {text : List Char} (hnone : ∀ c ∈ text, isBlank c = false) :
    text.dropWhile isBlank = text := by
  cases text with
  | nil => rfl
  | cons c rest => exact List.dropWhile_cons_of_neg (by rw [hnone c List.mem_cons_self]; decide)

/-- Trimming a padded word gives the word. -/
theorem trimChars_padded {before word after : List Char} (hbefore : ∀ c ∈ before, isBlank c = true)
    (hword : ∀ c ∈ word, isBlank c = false) (hafter : ∀ c ∈ after, isBlank c = true) :
    trimChars (before ++ word ++ after) = word := by
  have hblanks : ∀ c ∈ after.reverse, isBlank c = true := fun c hc =>
    hafter c (List.mem_reverse.mp hc)
  have hback : (after.reverse ++ word.reverse).dropWhile isBlank = word.reverse := by
    rw [List.dropWhile_append_of_pos hblanks]
    exact dropWhile_isBlank_of_none fun c hc => hword c (List.mem_reverse.mp hc)
  rw [trimChars, List.append_assoc, List.dropWhile_append_of_pos hbefore]
  cases word with
  | nil =>
      rw [List.nil_append, List.dropWhile_eq_nil_iff.mpr hafter]
      rfl
  | cons c rest =>
      have hfront : (c :: rest ++ after).dropWhile isBlank = c :: rest ++ after :=
        List.dropWhile_cons_of_neg (by rw [hword c List.mem_cons_self]; decide)
      rw [hfront, List.reverse_append, hback, List.reverse_reverse]

theorem trimChars_eq_nil_iff {text : List Char} :
    trimChars text = [] ↔ ∀ c ∈ text, isBlank c = true := by
  constructor
  · intro hnil
    obtain ⟨before, after, hbefore, hafter, htext⟩ := exists_trimChars text
    rw [htext, hnil, List.append_nil]
    exact fun c hc => (List.mem_append.mp hc).elim (hbefore c) (hafter c)
  · intro hblank
    have hpadded : trimChars (text ++ [] ++ []) = [] :=
      trimChars_padded hblank (List.forall_mem_nil _) (List.forall_mem_nil _)
    rwa [List.append_nil, List.append_nil] at hpadded

section Padded

variable {isWord : List Char → Prop}

/-- For words without blanks, a text is a padded word exactly when its trimmed form is a word. -/
theorem padded_iff (hword : ∀ word, isWord word → ∀ c ∈ word, isBlank c = false)
    (text : List Char) : Padded isWord text ↔ isWord (trimChars text) := by
  constructor
  · rintro ⟨before, word, after, hbefore, hisWord, hafter, rfl⟩
    rwa [trimChars_padded hbefore (hword word hisWord) hafter]
  · intro hisWord
    obtain ⟨before, after, hbefore, hafter, htext⟩ := exists_trimChars text
    exact ⟨before, _, after, hbefore, hisWord, hafter, htext⟩

theorem padded_trimChars (hword : ∀ word, isWord word → ∀ c ∈ word, isBlank c = false)
    (text : List Char) : Padded isWord (trimChars text) ↔ Padded isWord text := by
  obtain ⟨front, back, hfront, hback, htext⟩ := exists_trimChars text
  constructor
  · rintro ⟨before, word, after, hbefore, hisWord, hafter, htrimmed⟩
    refine ⟨front ++ before, word, after ++ back, ?_, hisWord, ?_, ?_⟩
    · exact fun c hc => (List.mem_append.mp hc).elim (hfront c) (hbefore c)
    · exact fun c hc => (List.mem_append.mp hc).elim (hafter c) (hback c)
    · rw [htext, htrimmed]
      simp only [List.append_assoc]
  · intro hpadded
    have hisWord := (padded_iff hword text).mp hpadded
    exact ⟨[], _, [], by simp, hisWord, by simp, by simp⟩

end Padded

end SearchFeed.Text
