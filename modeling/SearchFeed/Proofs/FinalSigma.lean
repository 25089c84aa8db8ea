import SearchFeed.Proofs.Lowercase

/-! # Parts of a text in lower case

All characters but the capital sigma are lowered one by one. A sigma becomes a
final sigma where it ends a word, and whether it does depends on the nearest
characters on both sides that are not passed over. So the lower-case form of a
text holds the lower-case form of each of its parts, unless a part begins or
ends so close to a sigma that what stands around the part comes in.
-/

namespace SearchFeed

namespace Unicode

/-- Whether a sigma between two texts ends a word. The text before it is given in reverse. -/
def endsWord (before rest : List Char) : Bool := nextIsCased before && !nextIsCased rest

/-- The lower-case form of a part of a text, at its place between two others. The one before it is
given in reverse. -/
def lowercaseWithin (before after : List Char) : List Char → List Char
  | [] => []
  | c :: rest =>
    (if c = 'Σ' then if endsWord before (rest ++ after) then ['ς'] else ['σ']
      else lowercaseChar c) ++ lowercaseWithin (c :: before) after rest

/-- Whether the sigmas of a part end words in the text that it is taken from just if they do so in
the part alone. -/
def KeepsSigmas (before part after : List Char) : Prop :=
  ∀ lead rest, part = lead ++ 'Σ' :: rest →
    endsWord (lead.reverse ++ before.reverse) (rest ++ after) = endsWord lead.reverse rest

/-- Whether a part settles alone which of its sigmas end words, whatever stands around it. A sigma
that nothing comes before, but for characters that are passed over, has to come before a character
with case; and one that nothing comes after must not come after a character with case. -/
def SettlesSigmas (part : List Char) : Prop :=
  ∀ lead rest, part = lead ++ 'Σ' :: rest →
    (lead.all isCaseIgnorable = true → nextIsCased rest = true) ∧
      (rest.all isCaseIgnorable = true → nextIsCased lead.reverse = false)

section Neighbours

theorem isCased_small_a : isCased 'a' = true := by
  have hletter : Category.lowercaseLetter.codes.contains 'a' = true := by
    -- The lines of the tables are opened first, here and below, so that only lists are evaluated.
    conv in Category.codes _ => whnf
    simp only [List.flatMap_cons, List.flatMap_nil]
    repeat rw [String.toList_ofList]
    decide +kernel
  rw [isCased, isLowercase, Category.holds, hletter]
  rfl

/-- Neither of the two letters is passed over. -/
theorem not_isCaseIgnorable {c : Char} (hc : c = 'Σ' ∨ c = 'a') : isCaseIgnorable c = false := by
  simp only [isCaseIgnorable, hasCategory, List.any_cons, List.any_nil, Category.holds]
  conv in Category.codes .nonspacingMark => whnf
  conv in Category.codes .enclosingMark => whnf
  conv in Category.codes .format => whnf
  conv in Category.codes .modifierLetter => whnf
  conv in Category.codes .modifierSymbol => whnf
  simp only [midWord, CodeSet.ofLines, CodeSet.ofWords, List.flatMap_cons, List.flatMap_nil]
  repeat rw [String.toList_ofList]
  rcases hc with rfl | rfl
  · decide +kernel
  · decide +kernel

theorem isCaseIgnorable_dot : isCaseIgnorable '.' = true := by
  have hsign : midWord.contains '.' = true := by
    simp only [midWord, CodeSet.ofLines, List.flatMap_cons, List.flatMap_nil]
    repeat rw [String.toList_ofList]
    decide +kernel
  rw [isCaseIgnorable, hsign, Bool.or_true]

/-- What is passed over hides nothing: the next case of a text is that of its first part, unless all
of it is passed over. -/
theorem nextIsCased_append (first second : List Char) : nextIsCased (first ++ second) =
    if first.all isCaseIgnorable then nextIsCased second else nextIsCased first := by
  induction first with
  | nil => rw [List.nil_append, List.all_nil, if_pos rfl]
  | cons c rest ih =>
      rw [List.cons_append, nextIsCased, nextIsCased, ih, List.all_cons]
      cases isCaseIgnorable c with
      | true => simp only [if_true, Bool.true_and]
      | false => simp only [Bool.false_eq_true, if_false, Bool.false_and]

/-- Where all is passed over, there is no case. -/
theorem nextIsCased_of_passed {text : List Char} (hpassed : text.all isCaseIgnorable = true) :
    nextIsCased text = false := by
  have hnil := nextIsCased_append text []
  rwa [if_pos hpassed, List.append_nil] at hnil

/-- A text decides alone if no character with case comes next after it. -/
theorem nextIsCased_append_of_not {second : List Char} (hsecond : nextIsCased second = false)
    (first : List Char) : nextIsCased (first ++ second) = nextIsCased first := by
  rw [nextIsCased_append, hsecond]
  split
  next hpassed => exact (nextIsCased_of_passed hpassed).symm
  next => rfl

theorem nextIsCased_cons_of_not {c : Char} (hc : isCaseIgnorable c = false) (rest : List Char) :
    nextIsCased (c :: rest) = isCased c := by
  rw [nextIsCased, hc]
  rfl

/-- Nothing beyond a sigma makes a difference. -/
theorem nextIsCased_sigma (first second second' : List Char) :
    nextIsCased (first ++ 'Σ' :: second) = nextIsCased (first ++ 'Σ' :: second') := by
  have hsigma := nextIsCased_cons_of_not (not_isCaseIgnorable (.inl rfl))
  rw [nextIsCased_append, nextIsCased_append, hsigma, hsigma]

/-- A capital sigma is never passed over. -/
theorem sigma_not_mem {text : List Char} (hpassed : text.all isCaseIgnorable = true) :
    'Σ' ∉ text := by
  intro hmem
  have hsigma := List.all_eq_true.mp hpassed 'Σ' hmem
  rw [not_isCaseIgnorable (.inl rfl)] at hsigma
  cases hsigma

end Neighbours

section Places

variable {before before' after after' part : List Char}

theorem lowercaseWithin_nil (before text : List Char) :
    lowercaseWithin before [] text = lowercaseFrom before text := by
  induction text generalizing before with
  | nil => rfl
  | cons c rest ih =>
      rw [lowercaseWithin, ih, List.append_nil]
      rfl

/-- Each part of a text is lowercased within what stands around it. -/
theorem lowercaseWithin_append (before after first second : List Char) :
    lowercaseWithin before after (first ++ second) =
      lowercaseWithin before (second ++ after) first ++
        lowercaseWithin (first.reverse ++ before) after second := by
  induction first generalizing before with
  | nil => rfl
  | cons c rest ih =>
      simp only [List.cons_append, lowercaseWithin, ih, List.append_assoc, List.reverse_cons,
        List.nil_append]

/-- The lower-case form of a text from those of three parts at their places. -/
theorem lowercaseFrom_parts (before part after : List Char) :
    lowercaseFrom [] (before ++ part ++ after) =
      lowercaseWithin [] (part ++ after) before ++ lowercaseWithin before.reverse after part ++
        lowercaseWithin (part.reverse ++ before.reverse) [] after := by
  rw [← lowercaseWithin_nil, lowercaseWithin_append, lowercaseWithin_append, List.append_nil,
    List.append_nil, List.append_nil, List.reverse_append]

/-- A capital sigma becomes a final one where it ends a word, and a plain one elsewhere. -/
theorem lowercaseWithin_sigma (before after lead rest : List Char) :
    lowercaseWithin before after (lead ++ 'Σ' :: rest) =
      lowercaseWithin before ('Σ' :: rest ++ after) lead ++
        (if endsWord (lead.reverse ++ before) (rest ++ after) then 'ς' else 'σ') ::
          lowercaseWithin ('Σ' :: (lead.reverse ++ before)) after rest := by
  rw [lowercaseWithin_append, lowercaseWithin, if_pos rfl]
  split <;> rfl

/-- What stands around a part matters only as far as it decides which sigmas of the part end
words. -/
theorem lowercaseWithin_congr (hsame : ∀ lead rest, part = lead ++ 'Σ' :: rest →
      endsWord (lead.reverse ++ before) (rest ++ after) =
        endsWord (lead.reverse ++ before') (rest ++ after')) :
    lowercaseWithin before after part = lowercaseWithin before' after' part := by
  -- What is read of the part so far counts as standing before the rest of it.
  induction part generalizing before before' with
  | nil => rfl
  | cons c rest ih =>
      rw [lowercaseWithin, lowercaseWithin]
      congr 1
      · by_cases hsigma : c = 'Σ'
        · have hfirst : endsWord before (rest ++ after) = endsWord before' (rest ++ after') :=
            hsame [] rest (by rw [hsigma, List.nil_append])
          rw [hfirst]
        · rw [if_neg hsigma, if_neg hsigma]
      · refine ih fun lead rest' hrest => ?_
        have hlater := hsame (c :: lead) rest' (by rw [hrest, List.cons_append])
        simpa only [List.reverse_cons, List.append_assoc, List.singleton_append] using hlater

/-- Without a capital sigma, it makes no difference what stands around a part. -/
theorem lowercaseWithin_of_not_mem (hsigma : 'Σ' ∉ part) :
    lowercaseWithin before after part = lowercaseWithin before' after' part := by
  refine lowercaseWithin_congr fun lead rest hpart => absurd ?_ hsigma
  rw [hpart]
  exact List.mem_append_right lead List.mem_cons_self

/-- Plain characters are their own lower-case forms. -/
theorem lowercaseWithin_plain (hplain : ∀ c ∈ part, IsPlain c) :
    lowercaseWithin before after part = part := by
  have hsigma : 'Σ' ∉ part := fun hmem => absurd (hplain 'Σ' hmem) (by decide)
  have hlower : part.map Char.toLower = part.map id :=
    List.map_congr_left fun c hc =>
      Char.toLower_eq_of_not_isUpper (Bool.eq_false_iff.mp (hplain c hc).2.1)
  have halone : lowercaseWithin before after part = lowercaseWithin [] [] part :=
    lowercaseWithin_of_not_mem hsigma
  rw [halone, lowercaseWithin_nil, lowercaseFrom_ascii [] fun c hc => (hplain c hc).1, hlower,
    List.map_id]

/-- A part whose sigmas are kept occurs after lowercasing where it occurred before. -/
theorem KeepsSigmas.lowercase_infix (hkeeps : KeepsSigmas before part after) :
    lowercaseFrom [] part <:+: lowercaseFrom [] (before ++ part ++ after) := by
  have hsame : lowercaseWithin before.reverse after part = lowercaseFrom [] part := by
    rw [← lowercaseWithin_nil]
    refine lowercaseWithin_congr fun lead rest hpart => ?_
    rw [hkeeps lead rest hpart, List.append_nil, List.append_nil]
  rw [lowercaseFrom_parts, hsame]
  exact List.infix_append ..

/-- A part that settles its sigmas keeps them wherever it stands. -/
theorem SettlesSigmas.keepsSigmas (hsettles : SettlesSigmas part) (before after : List Char) :
    KeepsSigmas before part after := by
  intro lead rest hpart
  obtain ⟨hstart, hend⟩ := hsettles lead rest hpart
  rw [endsWord, endsWord, nextIsCased_append, nextIsCased_append]
  by_cases hlead : lead.all isCaseIgnorable = true
  · have hcased := hstart hlead
    have hrest : ¬ rest.all isCaseIgnorable = true := fun hpassed => by
      rw [nextIsCased_of_passed hpassed] at hcased
      cases hcased
    rw [if_neg hrest, hcased, Bool.not_true, Bool.and_false, Bool.and_false]
  · rw [if_neg (by rwa [List.all_reverse])]
    by_cases hrest : rest.all isCaseIgnorable = true
    · rw [hend hrest, Bool.false_and, Bool.false_and]
    · rw [if_neg hrest]

end Places

section Clashes

variable {part lead rest : List Char}

/-- A text is not found in itself with one character replaced by another, nor with anything around
that in which the character does not occur. -/
theorem not_infix_of_replaced {c d : Char} (hcd : d ≠ c) {front first second back : List Char}
    (hfront : c ∉ front) (hback : c ∉ back) :
    ¬ (first ++ c :: second) <:+: (front ++ (first ++ d :: second) ++ back) := by
  intro hinfix
  have hcount := hinfix.sublist.count_le c
  simp only [List.count_append, List.count_cons_self, List.count_cons_of_ne hcd,
    List.count_eq_zero_of_not_mem hfront, List.count_eq_zero_of_not_mem hback] at hcount
  omega

/-- Where plain characters around a part change the form of one of its sigmas and of no other, the
part in lower case is not found in the text in lower case. -/
theorem not_infix_of_reformed {before after : List Char} (hbefore : ∀ c ∈ before, IsPlain c)
    (hafter : ∀ c ∈ after, IsPlain c)
    (hlead : lowercaseWithin before.reverse ('Σ' :: rest ++ after) lead =
      lowercaseWithin [] ('Σ' :: rest) lead)
    (hrest : lowercaseWithin ('Σ' :: (lead.reverse ++ before.reverse)) after rest =
      lowercaseWithin ('Σ' :: lead.reverse) [] rest)
    (hform : endsWord (lead.reverse ++ before.reverse) (rest ++ after) =
      !endsWord lead.reverse rest) :
    ¬ lowercaseFrom [] (lead ++ 'Σ' :: rest) <:+:
      lowercaseFrom [] (before ++ (lead ++ 'Σ' :: rest) ++ after) := by
  rw [lowercaseFrom_parts, ← lowercaseWithin_nil [], lowercaseWithin_sigma, lowercaseWithin_sigma,
    List.append_nil, List.append_nil, List.append_nil, hlead, hrest, hform,
    lowercaseWithin_plain hbefore, lowercaseWithin_plain hafter]
  have hother {c : Char} (hc : ¬ IsPlain c) : c ∉ before ∧ c ∉ after :=
    ⟨fun hmem => hc (hbefore c hmem), fun hmem => hc (hafter c hmem)⟩
  cases endsWord lead.reverse rest with
  | true => exact not_infix_of_replaced (by decide) (hother (by decide)).1 (hother (by decide)).2
  | false => exact not_infix_of_replaced (by decide) (hother (by decide)).1 (hother (by decide)).2

theorem isPlain_dot : IsPlain '.' := by decide

theorem isPlain_small_a : IsPlain 'a' := by decide

theorem nextIsCased_small_a (more : List Char) : nextIsCased ('a' :: more) = true :=
  (nextIsCased_cons_of_not (not_isCaseIgnorable (.inr rfl)) more).trans isCased_small_a

theorem nextIsCased_dot : nextIsCased ['.'] = false :=
  nextIsCased_of_passed (by rw [List.all_cons, isCaseIgnorable_dot]; rfl)

/-- A sigma that is the first to count and that nothing with case follows ends a word just if
something with case is put before it. -/
theorem not_infix_of_first (hlead : lead.all isCaseIgnorable = true)
    (hrest : nextIsCased rest = false) :
    ¬ lowercaseFrom [] (lead ++ 'Σ' :: rest) <:+:
      lowercaseFrom [] (['.', 'a'] ++ (lead ++ 'Σ' :: rest) ++ []) := by
  have hbefore : nextIsCased (lead.reverse ++ ['a', '.']) = true := by
    rw [nextIsCased_append, if_pos (by rwa [List.all_reverse]), nextIsCased_small_a]
  have halone : nextIsCased lead.reverse = false :=
    nextIsCased_of_passed (by rwa [List.all_reverse])
  have hplain : ∀ c ∈ ['.', 'a'], IsPlain c :=
    List.forall_mem_cons.mpr ⟨isPlain_dot, List.forall_mem_singleton.mpr isPlain_small_a⟩
  refine not_infix_of_reformed hplain (List.forall_mem_nil _) ?_ ?_ ?_
  · exact lowercaseWithin_of_not_mem (sigma_not_mem hlead)
  · refine lowercaseWithin_congr fun first second _ => ?_
    rw [endsWord, endsWord, nextIsCased_sigma]
  · rw [List.append_nil, endsWord, endsWord, halone, hrest]
    exact congrArg (· && true) hbefore

/-- A sigma that is the last to count and that something with case precedes does not end a word if
something with case is put after it. -/
theorem not_infix_of_last (hlead : nextIsCased lead.reverse = true)
    (hrest : rest.all isCaseIgnorable = true) :
    ¬ lowercaseFrom [] (lead ++ 'Σ' :: rest) <:+:
      lowercaseFrom [] (['.'] ++ (lead ++ 'Σ' :: rest) ++ ['a']) := by
  have hafter : nextIsCased (rest ++ ['a']) = true := by
    rw [nextIsCased_append, if_pos hrest, nextIsCased_small_a]
  refine not_infix_of_reformed (List.forall_mem_singleton.mpr isPlain_dot)
    (List.forall_mem_singleton.mpr isPlain_small_a) ?_ ?_ ?_
  · refine lowercaseWithin_congr fun first second _ => ?_
    rw [endsWord, endsWord, List.reverse_singleton, nextIsCased_append_of_not nextIsCased_dot,
      List.append_nil, List.cons_append, nextIsCased_sigma second]
  · exact lowercaseWithin_of_not_mem (sigma_not_mem hrest)
  · rw [endsWord, endsWord, hafter, hlead, nextIsCased_of_passed hrest, Bool.not_true,
      Bool.and_false]
    rfl

/-- A part that does not settle its sigmas is lost, in lower case, from some text that holds it.
That text may begin with a dot, which is passed over. -/
theorem exists_not_infix (hloose : ¬ SettlesSigmas part) :
    ∃ before after : List Char,
      ¬ lowercaseFrom [] part <:+: lowercaseFrom [] ('.' :: (before ++ part ++ after)) := by
  simp only [SettlesSigmas, not_forall, not_and_or] at hloose
  obtain ⟨lead, rest, rfl, ⟨hlead, hrest⟩ | ⟨hrest, hlead⟩⟩ := hloose
  · exact ⟨['a'], [], not_infix_of_first hlead (Bool.eq_false_iff.mpr hrest)⟩
  · exact ⟨[], ['a'], not_infix_of_last (Bool.not_eq_false _ ▸ hlead) hrest⟩

end Clashes

end Unicode

end SearchFeed
