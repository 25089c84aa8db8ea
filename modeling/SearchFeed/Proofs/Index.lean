import SearchFeed.Stats

/-! # Names and counters of the kinds of index

Whatever the stem, the kinds have different index names, so the name of an
index tells the kind of what it holds. The names for a selection of sources
depend on which sources are selected, but not on how often or in which order. A
change to the counters of one kind leaves those of the others alone.
-/

namespace SearchFeed

/-- What follows the stem in the name of an index. -/
def IndexKind.suffix : IndexKind → String
  | .tool => ""
  | kind => "-" ++ kind.name

theorem IndexKind.suffix_injective : Function.Injective IndexKind.suffix := by
  intro first second hsuffix
  cases first <;> cases second <;> first | rfl | exact absurd hsuffix (by decide)

theorem nodup_eraseDups : ∀ texts : List String, texts.eraseDups.Nodup
  | [] => List.nodup_nil
  | first :: rest => by
    rw [List.eraseDups_cons, List.nodup_cons]
    exact ⟨by simp [List.mem_eraseDups], nodup_eraseDups (rest.filter fun text => !text == first)⟩
termination_by texts => texts.length
decreasing_by exact Nat.lt_succ_of_le (List.length_filter_le _ _)

namespace IndexNaming

variable (naming : IndexNaming)

theorem name_eq (kind : IndexKind) : naming.name kind = naming.stem ++ kind.suffix := by
  cases kind <;> simp [name, IndexKind.suffix, String.append_assoc]

/-- No two kinds of documents share an index. -/
theorem name_injective : Function.Injective naming.name := by
  intro first second hname
  rw [name_eq, name_eq, String.append_right_inj] at hname
  exact IndexKind.suffix_injective hname

/-- The kind of an index is found exactly by the name that it has. -/
theorem kind?_eq_some_iff (index : String) (kind : IndexKind) :
    naming.kind? index = some kind ↔ naming.name kind = index := by
  constructor
  · intro hfound
    simpa using List.find?_some hfound
  · rintro rfl
    cases hfound : naming.kind? (naming.name kind) with
    | none =>
        have hmissed := List.find?_eq_none.mp hfound kind (by cases kind <;> decide)
        simp at hmissed
    | some other =>
        have hother := List.find?_some hfound
        exact congrArg some (naming.name_injective (by simpa using hother))

/-- The declared indexes are those of the selected sources and the tool's own. -/
theorem mem_names {selected : List DataSource} {index : String} :
    index ∈ naming.names selected ↔
      (∃ source ∈ selected, naming.name (.ofSource source) = index) ∨
        index = naming.name .tool := by
  simp only [names, List.mem_append, List.mem_eraseDups, List.mem_map, List.mem_singleton]

theorem nodup_names (selected : List DataSource) : (naming.names selected).Nodup := by
  rw [names, List.nodup_append]
  refine ⟨nodup_eraseDups _, List.pairwise_singleton _ _, ?_⟩
  intro index hsource tool htool hsame
  obtain ⟨source, -, rfl⟩ := List.mem_map.mp (List.mem_eraseDups.mp hsource)
  -- No source writes to the index of the tool, so it is not listed before its place at the end.
  have hkind : IndexKind.ofSource source = .tool :=
    naming.name_injective (hsame.trans (List.mem_singleton.mp htool))
  cases source <;> cases hkind

/-- The tool's own index, the bare stem, is declared last. -/
theorem getLast?_names (selected : List DataSource) :
    (naming.names selected).getLast? = some naming.stem := List.getLast?_concat

/-- The names depend on the members of the selection only. -/
theorem perm_names {selected selected' : List DataSource}
    (hsame : ∀ source, source ∈ selected ↔ source ∈ selected') :
    (naming.names selected).Perm (naming.names selected') := by
  refine (List.perm_ext_iff_of_nodup (naming.nodup_names _) (naming.nodup_names _)).mpr ?_
  intro index
  simp only [mem_names, hsame]

end IndexNaming

namespace Stats

variable (stats : Stats) (kind other : IndexKind)

theorem get_modify (change : Counters → Counters) :
    (stats.modify kind change).get other =
      if other = kind then change (stats.get other) else stats.get other :=
  PerKind.get_modify stats.counters kind other change

theorem get_addSuccess (count : UInt64) :
    (stats.addSuccess kind count).get other =
      if other = kind then { stats.get other with success := (stats.get other).success + count }
      else stats.get other :=
  get_modify stats kind other _

end Stats

end SearchFeed
