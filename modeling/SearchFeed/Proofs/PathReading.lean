import Mathlib.Logic.Basic
import SearchFeed.Config.FileSystem

/-! # Where paths lead

A path leads somewhere by rules for each of its names: a directory is stayed in
or left for the one above it, a name in it is gone to, and a link is followed
instead. Reading a path comes to what these rules lead to, over as many links as
are allowed.
-/

namespace SearchFeed

namespace FileSystem

/-- The names that stand for something in a directory. -/
def IsEntry (name : String) : Prop := name ≠ "" ∧ name ≠ "." ∧ name ≠ ".."

/-- Names lead from one place to another, over a number of links. -/
inductive Leads (files : FileSystem) : (links : Nat) → List String → List String →
    List String → Prop
  | here {place} : Leads files 0 place [] place
  | stay {links place name rest target} : files.node? place = some .directory →
      name = "" ∨ name = "." → Leads files links place rest target →
      Leads files links place (name :: rest) target
  | up {links place rest target} : files.node? place = some .directory →
      Leads files links place.dropLast rest target → Leads files links place (".." :: rest) target
  | down {links place name rest target node} : files.node? place = some .directory →
      IsEntry name → files.node? (place ++ [name]) = some node → (∀ path, node ≠ .link path) →
      Leads files links (place ++ [name]) rest target →
      Leads files links place (name :: rest) target
  | link {links place name rest target path} : files.node? place = some .directory →
      IsEntry name → files.node? (place ++ [name]) = some (.link path) →
      Leads files links (origin place path) (names path ++ rest) target →
      Leads files (links + 1) place (name :: rest) target

variable {files : FileSystem} {links limit : Nat} {place names target : List String}
  {name path : String}

theorem Leads.directory (hleads : files.Leads links place (name :: names) target) :
    files.node? place = some .directory := by
  cases hleads <;> assumption

/-- A name of an entry leads to what it names, or on from there if that is a link. -/
theorem Leads.entry (hentry : IsEntry name)
    (hleads : files.Leads links place (name :: names) target) :
    (∃ node, files.node? (place ++ [name]) = some node ∧ (∀ path, node ≠ .link path) ∧
      files.Leads links (place ++ [name]) names target) ∨
    ∃ path before, files.node? (place ++ [name]) = some (.link path) ∧ links = before + 1 ∧
      files.Leads before (origin place path) (FileSystem.names path ++ names) target := by
  cases hleads with
  | stay _ hstay => exact absurd hstay (not_or.mpr ⟨hentry.1, hentry.2.1⟩)
  | up => exact absurd rfl hentry.2.2
  | down _ _ hnode hplain hrest => exact .inl ⟨_, hnode, hplain, hrest⟩
  | link _ _ hlink hrest => exact .inr ⟨_, _, hlink, rfl, hrest⟩

section Rules

variable (hopen : files.node? place = some .directory)
include hopen

/-- An empty name and a dot stay where they are. -/
theorem leads_stay_iff (hstay : name = "" ∨ name = ".") :
    files.Leads links place (name :: names) target ↔ files.Leads links place names target := by
  constructor
  · intro hleads
    cases hleads with
    | stay _ _ hrest => exact hrest
    | up => simp at hstay
    | down _ hentry => exact absurd hstay (not_or.mpr ⟨hentry.1, hentry.2.1⟩)
    | link _ hentry => exact absurd hstay (not_or.mpr ⟨hentry.1, hentry.2.1⟩)
  · exact .stay hopen hstay

/-- Two dots lead to the directory above, and from the root to the root. -/
theorem leads_up_iff : files.Leads links place (".." :: names) target ↔
    files.Leads links place.dropLast names target := by
  constructor
  · intro hleads
    cases hleads with
    | stay _ hstay => simp at hstay
    | up _ hrest => exact hrest
    | down _ hentry => exact absurd rfl hentry.2.2
    | link _ hentry => exact absurd rfl hentry.2.2
  · exact .up hopen

variable (hentry : IsEntry name)
include hentry

/-- The name of something other than a link leads down to it. -/
theorem leads_down_iff {node : FileNode} (hnode : files.node? (place ++ [name]) = some node)
    (hplain : ∀ path, node ≠ .link path) : files.Leads links place (name :: names) target ↔
      files.Leads links (place ++ [name]) names target := by
  constructor
  · intro hleads
    rcases hleads.entry hentry with ⟨_, -, -, hrest⟩ | ⟨path, _, hlink, -, -⟩
    · exact hrest
    · exact absurd (Option.some.inj (hnode.symm.trans hlink)) (hplain path)
  · exact .down hopen hentry hnode hplain

/-- The name of a link leads on by the path it holds, with one link fewer left. -/
theorem leads_link_iff (hlink : files.node? (place ++ [name]) = some (.link path)) :
    files.Leads links place (name :: names) target ↔ ∃ before, links = before + 1 ∧
      files.Leads before (origin place path) (FileSystem.names path ++ names) target := by
  constructor
  · intro hleads
    rcases hleads.entry hentry with ⟨node, hnode, hplain, -⟩ | ⟨_, before, hother, hlinks, hrest⟩
    · exact absurd (Option.some.inj (hnode.symm.trans hlink)) (hplain path)
    · cases hlink.symm.trans hother
      exact ⟨before, hlinks, hrest⟩
  · rintro ⟨before, rfl, hrest⟩
    exact .link hopen hentry hlink hrest

end Rules

/-- If what is behind links is where the rules lead, so is all that is walked to. -/
theorem walk?_eq_some_iff {follow? : List String → List String → Option (List String)}
    (hfollow : ∀ place names target, follow? place names = some target ↔
      ∃ links < limit, files.Leads links place names target) :
    files.walk? follow? place names = some target ↔
      ∃ links < limit + 1, files.Leads links place names target := by
  induction names generalizing place with
  | nil =>
      constructor
      · rintro ⟨⟩
        exact ⟨0, Nat.succ_pos limit, .here⟩
      · rintro ⟨_, _, ⟨⟩⟩
        rfl
  | cons name rest ih =>
      by_cases hopen : files.node? place = some .directory
      · rw [walk?, if_neg (not_not.mpr hopen)]
        split
        next hstay => simp only [ih, leads_stay_iff hopen hstay]
        next hgo =>
          split
          next hup =>
            subst hup
            simp only [ih, leads_up_iff hopen]
          next hdown =>
            have hentry : IsEntry name := ⟨(not_or.mp hgo).1, (not_or.mp hgo).2, hdown⟩
            split
            next hnone =>
              refine iff_of_false nofun ?_
              rintro ⟨links, -, hleads⟩
              rcases hleads.entry hentry with ⟨_, hnode, -⟩ | ⟨_, _, hnode, -⟩ <;>
                cases hnone.symm.trans hnode
            next path hlink =>
              simp only [hfollow, leads_link_iff hopen hentry hlink]
              constructor
              · rintro ⟨links, hlinks, hleads⟩
                exact ⟨links + 1, Nat.succ_lt_succ hlinks, links, rfl, hleads⟩
              · rintro ⟨_, hlinks, links, rfl, hleads⟩
                exact ⟨links, Nat.lt_of_succ_lt_succ hlinks, hleads⟩
            next node hplain hnode =>
              have hplain (path : String) : node ≠ .link path := fun hlink => hplain path hlink
              simp only [ih, leads_down_iff hopen hentry hnode hplain]
      · rw [walk?, if_pos hopen]
        refine iff_of_false nofun ?_
        rintro ⟨links, -, hleads⟩
        exact hopen hleads.directory

/-- Following names finds a place exactly when they lead there within the limit of links. -/
theorem follow?_eq_some_iff : files.follow? limit place names = some target ↔
    ∃ links ≤ limit, files.Leads links place names target := by
  simp only [← Nat.lt_succ_iff]
  induction limit generalizing place names target with
  | zero => exact walk?_eq_some_iff fun _ _ _ => iff_of_false nofun (by simp)
  | succ limit ih => exact walk?_eq_some_iff fun _ _ _ => ih

/-- A path leads to something. -/
def LeadsTo (files : FileSystem) (path : String) (node : FileNode) : Prop :=
  path ≠ "" ∧ ∃ links ≤ linkLimit, ∃ place,
    files.Leads links (origin files.working path) (FileSystem.names path) place ∧
      files.node? place = some node

/-- A path leads to a file that holds a text. -/
def Holds (files : FileSystem) (path text : String) : Prop :=
  files.LeadsTo path (.file text.toUTF8.data.toList)

theorem found?_eq_some_iff {node : FileNode} :
    files.found? path = some node ↔ files.LeadsTo path node := by
  rw [found?, LeadsTo]
  split
  next hempty => exact iff_of_false nofun fun hleads => hleads.1 hempty
  next hpath =>
    simp only [Option.bind_eq_some_iff, follow?_eq_some_iff]
    constructor
    · rintro ⟨place, ⟨links, hlinks, hleads⟩, hnode⟩
      exact ⟨hpath, links, hlinks, place, hleads, hnode⟩
    · rintro ⟨-, links, hlinks, place, hleads, hnode⟩
      exact ⟨place, ⟨links, hlinks, hleads⟩, hnode⟩

/-- A path is read as a text exactly when it leads to a file that holds it. -/
theorem text?_eq_some_iff {text : String} : files.text? path = some text ↔
    files.Holds path text := by
  rw [text?, Holds, ← found?_eq_some_iff]
  split
  next octets hfound =>
    rw [hfound, Option.some.injEq, FileNode.file.injEq, String.fromUTF8?]
    constructor
    · intro hread
      split at hread
      · cases hread
        rfl
      · cases hread
    · rintro rfl
      exact dif_pos text.isValidUTF8
  next hother => exact iff_of_false nofun fun hfound => hother _ hfound

/-- A path exists exactly when it leads to a node. -/
theorem exists?_eq_true_iff : files.exists? path = true ↔ ∃ node, files.LeadsTo path node := by
  rw [exists?, Option.isSome_iff_exists]
  simp only [found?_eq_some_iff]

end FileSystem

end SearchFeed
