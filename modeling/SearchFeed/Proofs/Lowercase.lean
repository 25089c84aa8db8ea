import Mathlib
import SearchFeed.Unicode.Lowercase

/-! # Lower case and ASCII

On ASCII characters the lower-case form is the usual one. Of all other
characters only the kelvin sign is lowered to an ASCII character, a `k`, so that
a text whose lower-case form is ASCII and has no `k` is ASCII itself.
-/

namespace SearchFeed

namespace Unicode

theorem CodeRun.image?_eq_some_iff {run : CodeRun} {n m : Nat} :
    run.image? n = some m ↔
      (run.first ≤ n ∧ n ≤ run.last ∧ (n - run.first) % run.stride = 0) ∧
        run.target + (n - run.first) = m := by
  rw [image?, Option.ite_none_right_eq_some, Option.some.injEq]

/-- The only run of the table that covers ASCII characters is that of the capitals. The only other
one that reaches an ASCII character sends the kelvin sign to a `k`. -/
theorem lowercaseMap_runs :
    (∃ run ∈ lowercaseMap.runs, run.first = 0x41) ∧
    ∀ run ∈ lowercaseMap.runs,
      run.first = 0x41 ∧ run.last = 0x5a ∧ run.stride = 1 ∧ run.target = 0x61 ∨
      0x80 ≤ run.first ∧
        (run.first = run.last ∧ run.target = 0x6b ∨
          0x80 ≤ run.target ∧ run.target + (run.last - run.first) < 0xd800 ∨
          0xe000 ≤ run.target ∧ run.target + (run.last - run.first) < 0x110000) := by
  -- The lines of the table are opened first, so that only lists are left to evaluate.
  simp only [lowercaseMap, CodeMap.ofLines, List.flatMap_cons, List.flatMap_nil]
  repeat rw [String.toList_ofList]
  decide +kernel

/-- On ASCII the table is the lowercase of ASCII. -/
theorem lowercaseMap_apply_ascii {c : Char} (hascii : c.toNat < 0x80) :
    lowercaseMap.apply c = c.toLower := by
  obtain ⟨⟨capitals, hmem, hfirst⟩, hruns⟩ := lowercaseMap_runs
  by_cases hupper : c.isUpper
  · have hrange : 0x41 ≤ c.toNat ∧ c.toNat ≤ 0x5a := by
      simpa [Char.isUpper, UInt32.le_iff_toNat_le] using hupper
    have hcovered : ∃ m, capitals.image? c.toNat = some m := by
      refine ⟨_, CodeRun.image?_eq_some_iff.mpr ⟨?_, rfl⟩⟩
      rcases hruns capitals hmem with ⟨-, hlast, hstride, -⟩ | ⟨hbeyond, -⟩
      · rw [hfirst, hlast, hstride]
        omega
      · omega
    obtain ⟨m, hcovered⟩ := hcovered
    have hfound : (lowercaseMap.runs.findSome? fun run => run.image? c.toNat).isSome := by
      rw [List.isSome_findSome?, List.any_eq_true]
      exact ⟨capitals, hmem, by rw [hcovered]; rfl⟩
    obtain ⟨image, himage⟩ := Option.isSome_iff_exists.mp hfound
    obtain ⟨run, hrun, hcovers⟩ := List.exists_of_findSome?_eq_some himage
    obtain ⟨⟨hlow, -, -⟩, hvalue⟩ := CodeRun.image?_eq_some_iff.mp hcovers
    rcases hruns run hrun with ⟨hfirst, -, -, htarget⟩ | ⟨hbeyond, -⟩
    · rw [CodeMap.apply, CodeMap.get?, himage, Char.toLower_eq_of_isUpper hupper]
      exact congrArg Char.ofNat (by omega)
    · omega
  · have hnone : (lowercaseMap.runs.findSome? fun run => run.image? c.toNat) = none := by
      rw [List.findSome?_eq_none_iff]
      intro run hrun
      rw [Option.eq_none_iff_forall_ne_some]
      intro m hm
      obtain ⟨⟨hlow, hhigh, -⟩, -⟩ := CodeRun.image?_eq_some_iff.mp hm
      rcases hruns run hrun with ⟨hfirst, hlast, -, -⟩ | ⟨hbeyond, -⟩
      · refine hupper ?_
        rw [hfirst] at hlow
        rw [hlast] at hhigh
        simpa [Char.isUpper, UInt32.le_iff_toNat_le] using And.intro hlow hhigh
      · omega
    rw [CodeMap.apply, CodeMap.get?, hnone, Char.toLower_eq_of_not_isUpper hupper]
    rfl

/-- Whether no character but itself and its capital becomes this one in lower case. -/
def IsPlain (c : Char) : Prop := c.toNat < 0x80 ∧ c.isUpper = false ∧ c ≠ 'k'

instance (c : Char) : Decidable (IsPlain c) := inferInstanceAs (Decidable (_ ∧ _ ∧ _))

/-- No character outside ASCII is lowercased to a plain one. -/
theorem ascii_of_isPlain_apply {c : Char} (hplain : IsPlain (lowercaseMap.apply c)) :
    c.toNat < 0x80 := by
  obtain ⟨hascii, -, hk⟩ := hplain
  rw [CodeMap.apply, CodeMap.get?] at hascii hk
  cases himage : lowercaseMap.runs.findSome? fun run => run.image? c.toNat with
  | none =>
      rw [himage] at hascii
      exact hascii
  | some image =>
      rw [himage] at hascii hk
      change (Char.ofNat image).toNat < 0x80 at hascii
      change Char.ofNat image ≠ 'k' at hk
      obtain ⟨run, hrun, hcovers⟩ := List.exists_of_findSome?_eq_some himage
      obtain ⟨⟨hlow, hhigh, -⟩, hvalue⟩ := CodeRun.image?_eq_some_iff.mp hcovers
      rcases lowercaseMap_runs.2 run hrun with
        ⟨-, hlast, -, -⟩ | ⟨-, ⟨hsingle, htarget⟩ | ⟨hbeyond, hvalid⟩ | ⟨hbeyond, hvalid⟩⟩
      · omega
      · exact absurd (congrArg Char.ofNat (by omega : image = 0x6b)) hk
      · rw [Char.toNat_ofNat, if_pos (Or.inl (by omega))] at hascii
        omega
      · rw [Char.toNat_ofNat, if_pos (Or.inr (by omega))] at hascii
        omega

/-- An ASCII text is lowercased character by character; the sigma rule has nothing to do. -/
theorem lowercaseFrom_ascii (before : List Char) {text : List Char}
    (hascii : ∀ c ∈ text, c.toNat < 0x80) : lowercaseFrom before text = text.map Char.toLower := by
  induction text generalizing before with
  | nil => rfl
  | cons c rest ih =>
      have hc := hascii c List.mem_cons_self
      have hsigma : c ≠ 'Σ' := fun heq => absurd hc (by rw [heq]; decide)
      have hdotted : c ≠ '\u0130' := fun heq => absurd hc (by rw [heq]; decide)
      rw [lowercaseFrom, ih _ fun d hd => hascii d (List.mem_cons_of_mem c hd)]
      simp only [if_neg hsigma, lowercaseChar, if_neg hdotted, lowercaseMap_apply_ascii hc,
        List.singleton_append, List.map_cons]

/-- A text whose lowercase is plain was ASCII to begin with. -/
theorem ascii_of_lowercaseFrom {before text : List Char}
    (hplain : ∀ d ∈ lowercaseFrom before text, IsPlain d) : ∀ c ∈ text, c.toNat < 0x80 := by
  induction text generalizing before with
  | nil => exact fun c hc => absurd hc List.not_mem_nil
  | cons first rest ih =>
      rw [lowercaseFrom] at hplain
      refine List.forall_mem_cons.mpr ⟨?_, ih fun d hd => hplain d (List.mem_append_right _ hd)⟩
      have hfirst := fun d hd => hplain d (List.mem_append_left _ hd)
      by_cases hsigma : first = 'Σ'
      · -- Neither form of a lowered sigma is an ASCII character.
        simp only [if_pos hsigma] at hfirst
        split at hfirst
        · exact absurd (hfirst 'ς' List.mem_cons_self) (by decide)
        · exact absurd (hfirst 'σ' List.mem_cons_self) (by decide)
      · simp only [if_neg hsigma, lowercaseChar] at hfirst
        split at hfirst
        · exact absurd (hfirst '\u0307' (by decide)) (by decide)
        · exact ascii_of_isPlain_apply (hfirst _ List.mem_cons_self)

end Unicode

end SearchFeed
