import SearchFeed.Config.Environment
import SearchFeed.Proofs.Spelling

/-! # Lists with commas

A text lists values if each of its parts between commas is blank or names the
next value, with blanks around the name or not. The list of a variable is read
just if its text lists values, and then as these values, in order and with all
repeats.
-/

namespace SearchFeed

theorem Text.splitAt_eq_splitOn (separator : Char) (text : List Char) :
    splitAt separator text = text.splitOn separator := by
  rw [List.splitOn_eq_splitOnP]
  induction text with
  | nil => rfl
  | cons c rest ih =>
      rw [splitAt, List.splitOnP_cons_eq_if_modifyHead, ih]
      simp only [beq_iff_eq]
      split
      · rfl
      · cases hrest : rest.splitOnP (· == separator) with
        | nil => exact absurd hrest (List.splitOnP_ne_nil _ rest)
        | cons part parts => rfl

/-- The parts of a list one by one: a blank part stands for no value, every other one is the name of
the next value, with blanks around it or not. -/
inductive Lists {α : Type} (isNameOf : α → List Char → Prop) : List (List Char) → List α → Prop
  | nil : Lists isNameOf [] []
  | blank {part parts values} : (∀ c ∈ part, Text.isBlank c = true) →
      Lists isNameOf parts values → Lists isNameOf (part :: parts) values
  | item {part parts value values} : Text.Padded (isNameOf value) part →
      Lists isNameOf parts values → Lists isNameOf (part :: parts) (value :: values)

/-- The text lists the values between its commas. -/
def IsListing {α : Type} (isNameOf : α → List Char → Prop) (text : String) (values : List α) :
    Prop :=
  ∃ parts, text.toList = [','].intercalate parts ∧ Lists isNameOf parts values

namespace Lists

variable {α : Type} {isNameOf : α → List Char → Prop} {part : List Char}
  {parts : List (List Char)} {values : List α}

/-- A blank part lists nothing. -/
theorem cons_blank_iff (hword : ∀ value word, isNameOf value word → Text.IsWord word)
    (hblank : ∀ c ∈ part, Text.isBlank c = true) :
    Lists isNameOf (part :: parts) values ↔ Lists isNameOf parts values := by
  constructor
  · rintro (_ | ⟨-, hrest⟩ | ⟨⟨before, word, after, -, hisName, -, rfl⟩, hrest⟩)
    · exact hrest
    · obtain ⟨hsome, hchars⟩ := hword _ _ hisName
      obtain ⟨c, hc⟩ := List.exists_mem_of_ne_nil word hsome
      have hnot := Text.not_isBlank_of_isWordChar (hchars c hc)
      rw [hblank c (List.mem_append_left _ (List.mem_append_right _ hc))] at hnot
      cases hnot
  · exact .blank hblank

/-- A part that is not blank lists one value, with the others listed by the rest. -/
theorem cons_item_iff (hpart : ¬ ∀ c ∈ part, Text.isBlank c = true) :
    Lists isNameOf (part :: parts) values ↔
      ∃ value rest, values = value :: rest ∧ Text.Padded (isNameOf value) part ∧
        Lists isNameOf parts rest := by
  constructor
  · rintro (_ | ⟨hblank, -⟩ | ⟨hitem, hrest⟩)
    · exact absurd hblank hpart
    · exact ⟨_, _, rfl, hitem, hrest⟩
  · rintro ⟨value, rest, rfl, hitem, hrest⟩
    exact .item hitem hrest

theorem not_mem_comma (hword : ∀ value word, isNameOf value word → Text.IsWord word)
    (hlists : Lists isNameOf parts values) : ∀ part ∈ parts, ',' ∉ part := by
  have hblanks {part : List Char} (hblank : ∀ c ∈ part, Text.isBlank c = true) : ',' ∉ part :=
    fun hcomma => absurd (hblank ',' hcomma) (by decide)
  induction hlists with
  | nil => exact List.forall_mem_nil _
  | blank hblank _ ih => exact List.forall_mem_cons.mpr ⟨hblanks hblank, ih⟩
  | item hitem _ ih =>
      refine List.forall_mem_cons.mpr ⟨?_, ih⟩
      obtain ⟨before, word, after, hbefore, hisName, hafter, rfl⟩ := hitem
      have hchars := (hword _ _ hisName).2
      have hmiddle : ',' ∉ word := fun hcomma => absurd (hchars ',' hcomma) (by decide)
      simp only [List.mem_append, hblanks hbefore, hmiddle, hblanks hafter, or_self,
        not_false_eq_true]

/-- In a listing every part is blank or the padded name of a value. -/
theorem blank_or_named (hlists : Lists isNameOf parts values) (hpart : part ∈ parts) :
    (∀ c ∈ part, Text.isBlank c = true) ∨ ∃ value, Text.Padded (isNameOf value) part := by
  induction hlists with
  | nil => cases hpart
  | blank hblank _ ih =>
      rcases List.mem_cons.mp hpart with rfl | hrest
      · exact .inl hblank
      · exact ih hrest
  | item hitem _ ih =>
      rcases List.mem_cons.mp hpart with rfl | hrest
      · exact .inr ⟨_, hitem⟩
      · exact ih hrest

/-- Parts that are each blank or a padded name list something. -/
theorem exists_of_blank_or_named
    (hparts : ∀ part ∈ parts, (∀ c ∈ part, Text.isBlank c = true) ∨
      ∃ value, Text.Padded (isNameOf value) part) : ∃ values, Lists isNameOf parts values := by
  induction parts with
  | nil => exact ⟨[], .nil⟩
  | cons part parts ih =>
      obtain ⟨hpart, hrest⟩ := List.forall_mem_cons.mp hparts
      obtain ⟨values, hlists⟩ := ih hrest
      rcases hpart with hblank | ⟨value, hitem⟩
      · exact ⟨values, .blank hblank hlists⟩
      · exact ⟨value :: values, .item hitem hlists⟩

end Lists

/-- A text lists values exactly when its parts between commas do. -/
theorem isListing_iff {α : Type} {isNameOf : α → List Char → Prop}
    (hword : ∀ value word, isNameOf value word → Text.IsWord word) {text : String}
    {values : List α} :
    IsListing isNameOf text values ↔ Lists isNameOf (text.toList.splitOn ',') values := by
  constructor
  · rintro ⟨parts, htext, hlists⟩
    cases parts with
    | nil =>
        cases hlists
        rw [htext]
        exact .blank (List.forall_mem_nil _) .nil
    | cons part parts =>
        rwa [htext, List.splitOn_intercalate ',' (hlists.not_mem_comma hword)
          (List.cons_ne_nil part parts)]
  · exact fun hlists => ⟨_, (List.intercalate_splitOn ',').symm, hlists⟩

/-- A text lists something just if each part between its commas is blank or a name. -/
theorem exists_isListing_iff {α : Type} {isNameOf : α → List Char → Prop}
    (hword : ∀ value word, isNameOf value word → Text.IsWord word) {text : String} :
    (∃ values, IsListing isNameOf text values) ↔ ∀ part ∈ text.toList.splitOn ',',
      (∀ c ∈ part, Text.isBlank c = true) ∨ ∃ value, Text.Padded (isNameOf value) part := by
  simp only [isListing_iff hword]
  constructor
  · rintro ⟨values, hlists⟩ part hpart
    exact hlists.blank_or_named hpart
  · exact Lists.exists_of_blank_or_named

/-- One part that is neither blank nor a name, and the text lists nothing. -/
theorem not_isListing {α : Type} {isNameOf : α → List Char → Prop}
    (hword : ∀ value word, isNameOf value word → Text.IsWord word) {text : String}
    {part : List Char} (hpart : part ∈ text.toList.splitOn ',')
    (hblank : ¬ ∀ c ∈ part, Text.isBlank c = true)
    (hunknown : ¬ ∃ value, Text.Padded (isNameOf value) part) (values : List α) :
    ¬ IsListing isNameOf text values := fun hlisting =>
  ((exists_isListing_iff hword).mp ⟨values, hlisting⟩ part hpart).elim hblank hunknown

namespace Environment

section Reading

variable {α : Type} {read? : String → Option α} {key : String} {unknown : String → ConfigError}

theorem mapM_readItem_eq_ok_iff {items : List String} {values : List α} :
    items.mapM (readItem key read? unknown) = .ok values ↔
      List.Forall₂ (fun item value => read? item = some value) items values := by
  induction items generalizing values with
  | nil => simp [pure, Except.pure, eq_comm]
  | cons item items ih =>
      rw [List.mapM_cons, readItem]
      cases hitem : read? item with
      | none => simp [bind, Except.bind, List.forall₂_cons_left_iff, hitem]
      | some value =>
          cases hrest : items.mapM (readItem key read? unknown) with
          | error error =>
              have hnone (values : List α) := @ih values
              simp only [hrest, reduceCtorEq, false_iff] at hnone
              simp [bind, Except.bind, List.forall₂_cons_left_iff, hitem, hnone]
          | ok rest =>
              have hsome (values : List α) := @ih values
              simp only [hrest, Except.ok.injEq] at hsome
              simp [bind, Except.bind, pure, Except.pure, List.forall₂_cons_left_iff, hitem,
                ← hsome, eq_comm]

/-- A list that cannot be read holds an item that names nothing, and the error is about it. -/
theorem exists_unknown_of_mapM_readItem {items : List String} {error : ConfigError}
    (herror : items.mapM (readItem key read? unknown) = .error error) :
    ∃ item ∈ items, error = .during (.readingListVariable key) (unknown item) := by
  induction items with
  | nil => cases herror
  | cons item items ih =>
      rw [List.mapM_cons, readItem] at herror
      cases hitem : read? item with
      | none =>
          rw [hitem] at herror
          cases herror
          exact ⟨item, List.mem_cons_self, rfl⟩
      | some value =>
          rw [hitem] at herror
          cases hrest : items.mapM (readItem key read? unknown) with
          | error fault =>
              rw [hrest] at herror
              cases herror
              obtain ⟨item, hmem, hfault⟩ := ih hrest
              exact ⟨item, List.mem_cons_of_mem _ hmem, hfault⟩
          | ok rest =>
              rw [hrest] at herror
              cases herror

end Reading

/-- The parts of a list that are not blank, without the blanks at their ends. -/
def itemsOf (parts : List (List Char)) : List String :=
  (parts.map fun part => String.ofList (Text.trimChars part)).filter fun item => !item.isEmpty

theorem listItems_eq (text : String) : listItems text = itemsOf (text.toList.splitOn ',') := by
  rw [listItems, Text.splitAt_eq_splitOn, itemsOf]

theorem isEmpty_ofList_trimChars {part : List Char} :
    (String.ofList (Text.trimChars part)).isEmpty = true ↔
      ∀ c ∈ part, Text.isBlank c = true := by
  rw [String.isEmpty_iff, ← String.toList_inj, String.toList_ofList]
  exact Text.trimChars_eq_nil_iff

theorem itemsOf_cons_blank {part : List Char} (hblank : ∀ c ∈ part, Text.isBlank c = true)
    (parts : List (List Char)) : itemsOf (part :: parts) = itemsOf parts := by
  rw [itemsOf, List.map_cons, List.filter_cons, isEmpty_ofList_trimChars.mpr hblank]
  rfl

theorem itemsOf_cons_item {part : List Char} (hpart : ¬ ∀ c ∈ part, Text.isBlank c = true)
    (parts : List (List Char)) :
    itemsOf (part :: parts) = String.ofList (Text.trimChars part) :: itemsOf parts := by
  have hkept : (String.ofList (Text.trimChars part)).isEmpty = false :=
    Bool.eq_false_iff.mpr fun hempty => hpart (isEmpty_ofList_trimChars.mp hempty)
  rw [itemsOf, List.map_cons, List.filter_cons, hkept]
  rfl

section Listing

variable {α : Type} {isNameOf : α → List Char → Prop} {read? : String → Option α}
  (hword : ∀ value word, isNameOf value word → Text.IsWord word)
  (hread : ∀ text value, read? text = some value ↔ Text.Padded (isNameOf value) text.toList)
include hword hread

/-- Reading the trimmed items one by one is the relation of parts to the values they list. -/
theorem forall₂_itemsOf_iff {parts : List (List Char)} {values : List α} :
    List.Forall₂ (fun item value => read? item = some value) (itemsOf parts) values ↔
      Lists isNameOf parts values := by
  induction parts generalizing values with
  | nil =>
      constructor
      · rintro ⟨⟩
        exact .nil
      · rintro ⟨⟩
        exact .nil
  | cons part parts ih =>
      by_cases hblank : ∀ c ∈ part, Text.isBlank c = true
      · rw [itemsOf_cons_blank hblank, ih, Lists.cons_blank_iff hword hblank]
      · have hitem (value : α) : read? (String.ofList (Text.trimChars part)) = some value ↔
            Text.Padded (isNameOf value) part := by
          rw [hread, String.toList_ofList,
            Text.padded_trimChars fun word hisName => (hword value word hisName).not_isBlank]
        rw [itemsOf_cons_item hblank, Lists.cons_item_iff hblank, List.forall₂_cons_left_iff]
        simp only [hitem, ih]
        constructor
        · rintro ⟨value, rest, hfirst, hrest, rfl⟩
          exact ⟨value, rest, rfl, hfirst, hrest⟩
        · rintro ⟨value, rest, rfl, hfirst, hrest⟩
          exact ⟨value, rest, hfirst, hrest, rfl⟩

/-- The list of a variable is read as some values just if its text lists them. -/
theorem mapM_listItems_eq_ok_iff {key : String} {unknown : String → ConfigError} {text : String}
    {values : List α} :
    (listItems text).mapM (readItem key read? unknown) = .ok values ↔
      IsListing isNameOf text values := by
  rw [mapM_readItem_eq_ok_iff, listItems_eq, forall₂_itemsOf_iff hword hread, isListing_iff hword]

end Listing

end Environment

end SearchFeed
