import SearchFeed.Proofs.Spelling
import SearchFeed.Text.Whole

/-! # Whole numbers in decimal digits

What is read as an unsigned number of 64 bits is a numeral: decimal digits, at
least one, with a plus sign in front or not, that write a number below 2^64.
-/

namespace SearchFeed.Text

/-- The word writes the number, which fits into 64 bits, in decimal digits. A plus sign may stand in
front of them. -/
def IsNumeral (n : Nat) (word : List Char) : Prop :=
  n < 2 ^ 64 ∧ ∃ digits, (word = digits ∨ word = '+' :: digits) ∧ digits ≠ [] ∧
    (∀ c ∈ digits, c.isDigit = true) ∧ decimal digits = n

theorem le_foldl_decimal (digits : List Char) (number : Nat) :
    number ≤ digits.foldl (fun number c => number * 10 + decimalDigit c) number := by
  induction digits generalizing number with
  | nil => exact Nat.le_refl number
  | cons c rest ih => exact (by omega : number ≤ number * 10 + decimalDigit c).trans (ih _)

/-- Digits are read exactly when they are digits and their value fits into 64 bits. -/
theorem readDigits_eq_ok_iff {digits : List Char} {number n : Nat} (hnumber : number < 2 ^ 64) :
    readDigits number digits = .ok n ↔
      (∀ c ∈ digits, c.isDigit = true) ∧
        digits.foldl (fun number c => number * 10 + decimalDigit c) number = n ∧ n < 2 ^ 64 := by
  induction digits generalizing number with
  | nil =>
      rw [readDigits, Except.ok.injEq, List.foldl_nil]
      exact ⟨fun h => ⟨List.forall_mem_nil _, h, h ▸ hnumber⟩, fun h => h.2.1⟩
  | cons c rest ih =>
      rw [readDigits, List.forall_mem_cons, List.foldl_cons]
      cases hdigit : c.isDigit with
      | false => simp
      | true =>
          simp only [Bool.not_true, Bool.false_eq_true, if_false, true_and]
          split
          next hfits => exact ih hfits
          next hlarge =>
            -- The number only grows with the digits that are left.
            have hgrown := le_foldl_decimal rest (number * 10 + decimalDigit c)
            refine iff_of_false (by simp) ?_
            rintro ⟨-, rfl, hfits⟩
            exact hlarge (Nat.lt_of_le_of_lt hgrown hfits)

theorem not_isBlank_of_isDigit {c : Char} (hdigit : c.isDigit = true) : isBlank c = false := by
  have hrange := Char.isDigit_iff_toNat.mp hdigit
  rw [Bool.eq_false_iff]
  intro hblank
  simp only [isBlank, Bool.or_eq_true, Bool.and_eq_true, decide_eq_true_eq, beq_iff_eq] at hblank
  change 48 ≤ c.toNat ∧ c.toNat ≤ 57 at hrange
  omega

theorem IsNumeral.not_isBlank {n : Nat} {word : List Char} (hword : IsNumeral n word) :
    ∀ c ∈ word, isBlank c = false := by
  obtain ⟨-, digits, rfl | rfl, -, hdigits, -⟩ := hword
  · exact fun c hc => not_isBlank_of_isDigit (hdigits c hc)
  · exact List.forall_mem_cons.mpr
      ⟨by decide, fun c hc => not_isBlank_of_isDigit (hdigits c hc)⟩

/-- A numeral is a run of digits, with or without a plus, that can be read. -/
theorem isNumeral_iff {n : Nat} {word : List Char} :
    IsNumeral n word ↔ ∃ digits, (word = digits ∨ word = '+' :: digits) ∧ digits ≠ [] ∧
      readDigits 0 digits = .ok n := by
  simp only [readDigits_eq_ok_iff (by decide : 0 < 2 ^ 64), IsNumeral, decimal]
  constructor
  · rintro ⟨hfits, digits, hword, hsome, hdigits, hvalue⟩
    exact ⟨digits, hword, hsome, hdigits, hvalue, hfits⟩
  · rintro ⟨digits, hword, hsome, hdigits, hvalue, hfits⟩
    exact ⟨hfits, digits, hword, hsome, hdigits, hvalue⟩

theorem readDigits_plus (number : Nat) (rest : List Char) :
    readDigits number ('+' :: rest) = .error .invalidDigit := rfl

/-- A text is read as a whole number exactly when it is a numeral for it. -/
theorem readWhole_eq_ok_iff {text : String} {n : Nat} :
    readWhole text = .ok n ↔ IsNumeral n text.toList := by
  rw [isNumeral_iff]
  unfold readWhole
  split
  next hempty =>
    refine iff_of_false (by simp) ?_
    rintro ⟨digits, hword | hword, hsome, -⟩
    · exact hsome (hword.symm.trans hempty)
    · cases hempty.symm.trans hword
  next hplus =>
    refine iff_of_false (by simp) ?_
    rintro ⟨digits, hword | hword, hsome, hread⟩
    · rw [← hword, hplus, readDigits_plus] at hread
      cases hread
    · exact hsome (List.cons.inj (hplus.symm.trans hword)).2.symm
  next rest hplus hrest =>
    constructor
    · exact fun hread => ⟨rest, .inr hrest, hplus, hread⟩
    · rintro ⟨digits, hword | hword, hsome, hread⟩
      · rw [← hword, hrest, readDigits_plus] at hread
        cases hread
      · rwa [(List.cons.inj (hrest.symm.trans hword)).2]
  next hempty _ hplus =>
    constructor
    · exact fun hread => ⟨_, .inl rfl, hempty, hread⟩
    · rintro ⟨digits, hword | hword, hsome, hread⟩
      · rwa [hword]
      · exact absurd hword (hplus digits)

/-- With the blanks trimmed, exactly when it is a padded numeral for it. -/
theorem readWhole_trim_eq_ok_iff {text : String} {n : Nat} :
    readWhole (trim text) = .ok n ↔ Padded (IsNumeral n) text.toList := by
  rw [readWhole_eq_ok_iff, trim, String.toList_ofList, padded_iff fun _ hword => hword.not_isBlank]

def truthWord (value : Bool) : String := if value then "true" else "false"

/-- Only the two words are truth values, in lower case. -/
theorem readTruth?_eq_some_iff {text : String} {value : Bool} :
    readTruth? text = some value ↔ text = truthWord value := by
  unfold readTruth?
  split
  next htrue =>
    rw [htrue]
    cases value <;> decide
  next htrue =>
    split
    next hfalse =>
      rw [hfalse]
      cases value <;> decide
    next hfalse => cases value <;> simp [truthWord, htrue, hfalse]

theorem isName_truthWord (value : Bool) : isName (truthWord value) = true := by
  cases value <;> simp only [truthWord, Bool.false_eq_true, if_false, if_true] <;>
    rw [isName, String.toList_ofList] <;> decide

theorem readTruth?_trim_eq_some_iff {text : String} {value : Bool} :
    readTruth? (trim text) = some value ↔ Padded (· = (truthWord value).toList) text.toList := by
  rw [readTruth?_eq_some_iff, trim, ← String.toList_inj, String.toList_ofList, padded_iff]
  rintro word rfl c hc
  have hname := isNameChar_of_mem (isName_truthWord value) hc
  exact not_isBlank_of_isWordChar (isWordChar_of_stands (.inl (.inl rfl)) hname)

end SearchFeed.Text
