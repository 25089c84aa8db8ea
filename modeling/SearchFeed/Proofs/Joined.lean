import Mathlib.Algebra.BigOperators.Group.List.Basic
import Mathlib.Algebra.GroupWithZero.Nat
import Mathlib.Data.String.Basic
import SearchFeed.Text.Joined

/-! # Texts that come out the same when joined

Joining texts forgets where one ends and the next begins if the separator also
occurs inside them. What is forgotten is how many separators each text holds:
that number and the joined text give the texts back.
-/

namespace SearchFeed.Text

def occurrences (separator : Char) (text : String) : Nat := text.toList.count separator

/-- A separator that occurs equally often in two front parts marks the same cut in both texts. -/
theorem append_cons_inj_of_count {α : Type} [DecidableEq α] {separator : α}
    {first first' rest rest' : List α}
    (hjoined : first ++ separator :: rest = first' ++ separator :: rest')
    (hcount : first.count separator = first'.count separator) :
    first = first' ∧ rest = rest' := by
  -- Of two beginnings that differ, the longer one goes on with a separator.
  rcases List.append_eq_append_iff.mp hjoined with
    ⟨more, hfirst, hrest⟩ | ⟨more, hfirst, hrest⟩
  · cases more with
    | nil => exact ⟨by rw [hfirst, List.append_nil], (List.cons.inj hrest).2⟩
    | cons c more =>
        obtain ⟨rfl, -⟩ := List.cons.inj hrest
        rw [hfirst, List.count_append, List.count_cons_self] at hcount
        omega
  · cases more with
    | nil => exact ⟨by rw [hfirst, List.append_nil], (List.cons.inj hrest).2.symm⟩
    | cons c more =>
        obtain ⟨rfl, -⟩ := List.cons.inj hrest
        rw [hfirst, List.count_append, List.count_cons_self] at hcount
        omega

theorem toList_joined_cons (separator : Char) (text next : String) (rest : List String) :
    (joined (String.singleton separator) (text :: next :: rest)).toList =
      text.toList ++ separator :: (joined (String.singleton separator) (next :: rest)).toList := by
  simp [joined]

/-- Texts are given back by what they are joined to and how many separators each of them holds. -/
theorem joined_inj_of_occurrences (separator : Char) {texts others : List String}
    (hjoined : joined (String.singleton separator) texts =
      joined (String.singleton separator) others)
    (hcounts : texts.map (occurrences separator) = others.map (occurrences separator)) :
    texts = others := by
  induction texts generalizing others with
  | nil => exact (List.map_eq_nil_iff.mp hcounts.symm).symm
  | cons text rest ih =>
      cases others with
      | nil => cases hcounts
      | cons other others =>
        obtain ⟨hfirst, hrest⟩ := List.cons.inj hcounts
        cases rest with
        | nil =>
            obtain rfl := List.map_eq_nil_iff.mp hrest.symm
            exact congrArg (fun text => [text]) hjoined
        | cons next rest =>
          cases others with
          | nil => cases hrest
          | cons next' others =>
              have hlists := congrArg String.toList hjoined
              rw [toList_joined_cons, toList_joined_cons] at hlists
              obtain ⟨htext, htail⟩ := append_cons_inj_of_count hlists hfirst
              rw [String.toList_injective htext, ih (String.toList_injective htail) hrest]

/-- Between the texts there is one separator less than there are texts. -/
theorem occurrences_joined (separator : Char) (text : String) (rest : List String) :
    occurrences separator (joined (String.singleton separator) (text :: rest)) =
      ((text :: rest).map (occurrences separator)).sum + rest.length := by
  induction rest generalizing text with
  | nil => rfl
  | cons next rest ih =>
      rw [occurrences, toList_joined_cons, List.count_append, List.count_cons_self]
      have hrest := ih next
      rw [occurrences] at hrest
      simp only [hrest, List.map_cons, List.sum_cons, List.length_cons, occurrences]
      omega

end SearchFeed.Text
