import SearchFeed.Scope

/-! # Addresses that are empty

An item without an address is compared, in a custom scope, as the empty text.
No text occurs in it, so that the entries that are texts do not accept it. A
pattern does just if it can match without taking a character: where each set of
characters it has to pass through may be left out, and each condition it has to
meet holds between the start and the end of nothing.
-/

namespace SearchFeed

namespace Pattern

/-- Whether a pattern matches the empty text. -/
def Node.nullable : Node → Bool
  | empty => true
  | set _ => false
  | look condition => condition.holds none none
  | sequence first second => first.nullable && second.nullable
  | choice first second => first.nullable || second.nullable
  | repetition body least _ => least = 0 || body.nullable

theorem iterate_zero_places {step : Nat → Nat} (hstep : step 0 = 0) (count : Nat) :
    iterate step count 0 = 0 := by
  cases count with
  | zero => rfl
  | succ count => rw [iterate, hstep, if_pos rfl]

/-- Nothing more is reached from places whose step leads to none but themselves. -/
theorem closure_self {step : Nat → Nat} {start : Nat} (hstep : start ||| step start = start)
    (count : Nat) : closure step count start start = start := by
  cases count with
  | zero => rfl
  | succ count => rw [closure, hstep, Nat.xor_self, if_pos rfl]

/-- A route that may start nowhere ends nowhere. -/
theorem Route.ends_zero (enough : Nat) (route : Route) : route.ends enough 0 = 0 := by
  induction route with
  | stay members => exact Nat.zero_and members
  | advance members => rw [ends, Nat.zero_and, Nat.zero_shiftLeft]
  | sequence first second hfirst hsecond => rw [ends, hfirst, hsecond]
  | choice first second hfirst hsecond => rw [ends, hfirst, hsecond, Nat.or_zero]
  | repetition body least most hbody =>
      rw [ends, iterate_zero_places hbody]
      exact closure_self (by rw [hbody, Nat.or_zero]) _

/-- On the empty text a pattern can be passed only where it takes nothing. -/
theorem Node.ends_onText_nil (node : Node) :
    (node.onText []).ends 1 1 = node.nullable.toNat := by
  induction node with
  | empty => rfl
  | set holds =>
      rw [onText, setPlaces, Route.ends, Nat.and_zero, Nat.zero_shiftLeft]
      rfl
  | look condition =>
      rw [onText, lookPlaces, Route.ends, nullable]
      cases condition.holds none none <;> rfl
  | sequence first second hfirst hsecond =>
      rw [onText, Route.ends, hfirst, nullable]
      cases first.nullable with
      | false => exact Route.ends_zero 1 _
      | true => exact hsecond
  | choice first second hfirst hsecond =>
      rw [onText, Route.ends, hfirst, hsecond, nullable]
      cases first.nullable <;> cases second.nullable <;> rfl
  | repetition body least most hbody =>
      -- A text of no characters has one place, so that one repetition is as good as many.
      have hstart : iterate ((body.onText []).ends 1) (min least 1) 1 =
          (repetition body least most).nullable.toNat := by
        cases least with
        | zero => rfl
        | succ least =>
            rw [Nat.min_eq_right (Nat.le_add_left 1 least), iterate, hbody, nullable]
            cases body.nullable <;> rfl
      rw [onText, Route.ends, hstart]
      refine closure_self ?_ _
      cases (repetition body least most).nullable with
      | false => rw [Bool.toNat_false, Route.ends_zero, Nat.or_zero]
      | true =>
          rw [Bool.toNat_true, hbody]
          cases body.nullable <;> rfl

end Pattern

/-- A pattern matches the empty text just if it can match without taking a character. -/
theorem Pattern.occursIn_empty (pattern : Pattern) :
    pattern.occursIn "" = pattern.root.nullable := by
  have hends := pattern.root.ends_onText_nil
  change decide ((pattern.root.onText []).ends 1 1 ≠ 0) = _
  rw [hends]
  cases pattern.root.nullable <;> rfl

/-- Lowercasing makes no text empty. -/
theorem Unicode.lowercaseFrom_eq_nil_iff {before text : List Char} :
    lowercaseFrom before text = [] ↔ text = [] := by
  cases text with
  | nil => exact iff_of_true rfl rfl
  | cons c rest =>
      refine iff_of_false (fun hnil => ?_) (List.cons_ne_nil c rest)
      rw [lowercaseFrom, List.append_eq_nil_iff] at hnil
      have hfirst := hnil.1
      split at hfirst
      next => split at hfirst <;> cases hfirst
      next =>
        rw [lowercaseChar] at hfirst
        split at hfirst <;> cases hfirst

namespace ScopeEntry

variable {entry : ScopeEntry}

/-- An entry accepts the empty text just if it is a pattern that takes nothing. -/
theorem accepts_empty_iff :
    entry.matcher?.any (Matcher.accepts "") = true ↔
      entry.kind = .regex ∧ Text.isBlankText entry.value = false ∧
        ∃ pattern, Pattern.ofText? true entry.value = some pattern ∧
          pattern.root.nullable = true := by
  unfold matcher?
  cases hblank : Text.isBlankText entry.value with
  | true => simp
  | false =>
      cases hkind : entry.kind with
      | string =>
          have hvalue : (Unicode.lowercase entry.value).toList ≠ [] := by
            rw [Unicode.lowercase, String.toList_ofList, ne_eq, Unicode.lowercaseFrom_eq_nil_iff]
            intro hnil
            rw [Text.isBlankText, hnil] at hblank
            cases hblank
          refine iff_of_false (fun haccepts => hvalue ?_) (by simp)
          exact List.isEmpty_iff.mp haccepts
      | regex =>
          cases hread : Pattern.ofText? true entry.value with
          | none => simp
          | some pattern => simp [Matcher.accepts, Pattern.occursIn_empty]

end ScopeEntry

namespace ScopeFilter

/-- A custom scope leaves an item without an address out, whatever the host tool says of it, unless
one of its entries is a pattern that can match without taking a character. -/
theorem admits_empty_iff (entries : List ScopeEntry) (hostInScope : Bool) :
    (ofSettings ⟨.custom, entries⟩).admits "" hostInScope = true ↔
      ∃ entry ∈ entries, entry.kind = .regex ∧ Text.isBlankText entry.value = false ∧
        ∃ pattern, Pattern.ofText? true entry.value = some pattern ∧
          pattern.root.nullable = true := by
  have htarget : scopeTarget "" = "" := by
    rw [scopeTarget, if_pos (by decide)]
  have hadmits : (ofSettings ⟨.custom, entries⟩).admits "" hostInScope =
      (entries.filterMap ScopeEntry.matcher?).any (Matcher.accepts "") := by
    rw [ofSettings, admits, htarget]
    cases entries.filterMap ScopeEntry.matcher? <;> rfl
  rw [hadmits, List.any_filterMap, List.any_eq_true]
  simp only [← ScopeEntry.accepts_empty_iff]
  rfl

/-- A pattern that every text matches is matched by the empty one, too. -/
theorem admits_empty_iff_every_text :
    (ofSettings ⟨.custom, [⟨.regex, ".*"⟩]⟩).admits "" false = true := by
  refine (admits_empty_iff _ false).mpr ⟨_, List.mem_cons_self, rfl, by decide, ?_⟩
  exact ⟨_, rfl, rfl⟩

end ScopeFilter

end SearchFeed
