import Mathlib.Logic.Function.Basic
import Mathlib.Order.WellFounded
import SearchFeed.Config.Load
import SearchFeed.Proofs.PathReading

/-! # Sources of a configuration

A configuration comes from one source, the first of those that are there. The
others play no part, and a source that cannot be read or parsed is an error of
its own and not passed over. The variables that name sources play no part in what
is put on top of what was read, so that the different ways of loading agree.
-/

namespace SearchFeed

deriving instance DecidableEq for Loading

namespace Environment

/-- The environment without the variables that name a source. -/
def sourceless (environment : Environment) : Environment := fun name =>
  if name = "CONFIG" ∨ name = "CONFIG_CONTENT" then none else environment name

theorem sourceless_update {name : String} (hname : name = "CONFIG" ∨ name = "CONFIG_CONTENT")
    (environment : Environment) (value : Option String) :
    sourceless (Function.update environment name value) = environment.sourceless := by
  funext other
  by_cases hother : other = name
  · simp only [sourceless, hother, if_pos hname]
  · simp only [sourceless, Function.update_of_ne hother]

end Environment

/-- What a configuration can come from. -/
inductive ConfigSource where
  /-- The file that a variable names. -/
  | namedFile (path : String)
  /-- The text of a variable. -/
  | content (text : String)
  | standardFile
  | standardSettings
deriving DecidableEq, Repr

namespace ConfigSource

/-- The place of a source in the order of preference. -/
def rank : ConfigSource → Nat
  | .namedFile _ => 0
  | .content _ => 1
  | .standardFile => 2
  | .standardSettings => 3

/-- Whether a source is there. A file that a variable names need not be: that it is named counts. -/
def IsPresent (files : FileSystem) (environment : Environment) : ConfigSource → Prop
  | .namedFile path => environment "CONFIG" = some path
  | .content text => environment "CONFIG_CONTENT" = some text
  | .standardFile => ∃ node, files.LeadsTo Config.standardPath node
  | .standardSettings => True

def path? : ConfigSource → Option String
  | .namedFile path => some path
  | .standardFile => some Config.standardPath
  | .content _ => none
  | .standardSettings => none

/-- What a source yields: an error that tells which file cannot be read, an error that tells where a
text is that cannot be parsed, or else the configuration of its text. -/
inductive Yields (files : FileSystem) : ConfigSource → Except ConfigError Config → Prop
  | unreadable {source path} : source.path? = some path → (∀ text, ¬ files.Holds path text) →
      Yields files source (.error (.during (.readingFile path) .file))
  | malformed {source path text cause} : source.path? = some path → files.Holds path text →
      Config.ofText text = .error cause →
      Yields files source (.error (.during (.parsingFile path) cause))
  | parsed {source path text config} : source.path? = some path → files.Holds path text →
      Config.ofText text = .ok config → Yields files source (.ok config)
  | malformedContent {text cause} : Config.ofText text = .error cause →
      Yields files (.content text) (.error (.during .parsingContentVariable cause))
  | parsedContent {text config} : Config.ofText text = .ok config →
      Yields files (.content text) (.ok config)
  | standard : Yields files .standardSettings (.ok {})

def read (files : FileSystem) : ConfigSource → Except ConfigError Config
  | .namedFile path => Config.ofFile files path
  | .content text => Config.inStep .parsingContentVariable (Config.ofText text)
  | .standardFile => Config.ofFile files Config.standardPath
  | .standardSettings => .ok {}

/-- A source is there, and none is that comes before it. -/
structure IsFirst (files : FileSystem) (environment : Environment) (source : ConfigSource) :
    Prop where
  present : source.IsPresent files environment
  least (other : ConfigSource) : other.IsPresent files environment → source.rank ≤ other.rank

variable {files : FileSystem} {environment : Environment} {source other : ConfigSource}

/-- Two sources that are present and of one rank are the same source. -/
theorem IsPresent.eq_of_rank_eq (hpresent : source.IsPresent files environment)
    (hother : other.IsPresent files environment) (hrank : source.rank = other.rank) :
    source = other := by
  cases source <;> cases other <;> first
    | exact congrArg _ (Option.some.inj (hpresent.symm.trans hother))
    | rfl
    | cases hrank

theorem IsFirst.eq (hfirst : source.IsFirst files environment)
    (hother : other.IsFirst files environment) : source = other :=
  hfirst.present.eq_of_rank_eq hother.present
    (Nat.le_antisymm (hfirst.least other hother.present) (hother.least source hfirst.present))

/-- Nothing of a lower rank than the first source is present. -/
theorem IsFirst.not_isPresent (hfirst : source.IsFirst files environment) (other : ConfigSource)
    (hbefore : other.rank < source.rank) : ¬ other.IsPresent files environment :=
  fun hpresent => Nat.not_le_of_lt hbefore (hfirst.least other hpresent)

/-- There is always a first source, the defaults if no other. -/
theorem exists_isFirst (files : FileSystem) (environment : Environment) :
    ∃ source : ConfigSource, source.IsFirst files environment := by
  -- The standard settings are always there, so some source comes first.
  obtain ⟨source, hpresent, hleast⟩ := (measure rank).wf.has_min
    {source | source.IsPresent files environment} ⟨.standardSettings, trivial⟩
  exact ⟨source, hpresent, fun other hother => Nat.le_of_not_lt (hleast other hother)⟩

section Yielding

variable {outcome : Except ConfigError Config} {path : String}

theorem read_eq_ofFile (hpath : source.path? = some path) :
    source.read files = Config.ofFile files path := by
  cases source <;> cases hpath <;> rfl

theorem Yields.read_eq (hyields : source.Yields files outcome) : source.read files = outcome := by
  cases hyields with
  | unreadable hpath hnone =>
      have htext := Option.eq_none_iff_forall_ne_some.mpr fun text htext =>
        hnone text (FileSystem.text?_eq_some_iff.mp htext)
      rw [read_eq_ofFile hpath, Config.ofFile, htext]
  | malformed hpath hholds hparsed =>
      rw [read_eq_ofFile hpath, Config.ofFile, FileSystem.text?_eq_some_iff.mpr hholds]
      simp only [hparsed, Config.inStep]
  | parsed hpath hholds hparsed =>
      rw [read_eq_ofFile hpath, Config.ofFile, FileSystem.text?_eq_some_iff.mpr hholds]
      simp only [hparsed, Config.inStep]
  | malformedContent hparsed => rw [read, hparsed, Config.inStep]
  | parsedContent hparsed => rw [read, hparsed, Config.inStep]
  | standard => rfl

/-- A source with a path yields what its file gives, or the error of the reading. -/
theorem yields_ofFile (hpath : source.path? = some path) :
    source.Yields files (Config.ofFile files path) := by
  rw [Config.ofFile]
  cases htext : files.text? path with
  | none =>
      refine .unreadable hpath fun text hholds => ?_
      cases htext.symm.trans (FileSystem.text?_eq_some_iff.mpr hholds)
  | some text =>
      have hholds := FileSystem.text?_eq_some_iff.mp htext
      dsimp only
      cases hparsed : Config.ofText text with
      | error cause => exact .malformed hpath hholds hparsed
      | ok config => exact .parsed hpath hholds hparsed

/-- Reading a source comes to the one thing that it yields. -/
theorem yields_iff : source.Yields files outcome ↔ source.read files = outcome := by
  refine ⟨Yields.read_eq, ?_⟩
  rintro rfl
  cases source with
  | namedFile path => exact yields_ofFile rfl
  | content text =>
      rw [read]
      cases hparsed : Config.ofText text with
      | error cause => exact .malformedContent hparsed
      | ok config => exact .parsedContent hparsed
  | standardFile => exact yields_ofFile rfl
  | standardSettings => exact .standard

end Yielding

/-- What is loaded is what the first source holds. -/
theorem IsFirst.ofSources_eq (hfirst : source.IsFirst files environment) :
    Config.ofSources files environment = source.read files := by
  have hpresent := hfirst.present
  have hunnamed (hrank : 0 < source.rank) : environment "CONFIG" = none :=
    Option.eq_none_iff_forall_ne_some.mpr fun path =>
      hfirst.not_isPresent (.namedFile path) hrank
  have hempty (hrank : 1 < source.rank) : environment "CONFIG_CONTENT" = none :=
    Option.eq_none_iff_forall_ne_some.mpr fun text =>
      hfirst.not_isPresent (.content text) hrank
  cases source with
  | namedFile path =>
      change environment "CONFIG" = some path at hpresent
      rw [Config.ofSources, hpresent]
      rfl
  | content text =>
      change environment "CONFIG_CONTENT" = some text at hpresent
      rw [Config.ofSources, hunnamed Nat.zero_lt_one, hpresent]
      rfl
  | standardFile =>
      have hexists := FileSystem.exists?_eq_true_iff.mpr hpresent
      rw [Config.ofSources, hunnamed (by decide), hempty (by decide), hexists]
      rfl
  | standardSettings =>
      have habsent : ¬ files.exists? Config.standardPath = true := fun hexists =>
        hfirst.not_isPresent .standardFile (by decide)
          (FileSystem.exists?_eq_true_iff.mp hexists)
      rw [Config.ofSources, hunnamed (by decide), hempty (by decide)]
      exact if_neg habsent

end ConfigSource

namespace Config

variable (files : FileSystem) (environment : Environment) (config : Config)

/-- The variables that name a source have no part in what is put on top of a configuration. -/
theorem override_sourceless :
    config.override environment.sourceless = config.override environment := rfl

/-- The variables that name a source are not read when a configuration is settled. -/
theorem settle_sourceless :
    config.settle environment.sourceless = config.settle environment := by
  rw [settle, override_sourceless, settle]

/-- Environments that tell the same but for the sources settle configurations in the same way. -/
theorem settle_congr {environment environment' : Environment}
    (hsame : environment'.sourceless = environment.sourceless) :
    config.settle environment' = config.settle environment := by
  rw [← settle_sourceless, hsame, settle_sourceless]

section Reading

variable {files environment config} {source : ConfigSource}

/-- When the first source cannot be read, its error is the result and no variable is looked at. -/
theorem load_of_read_error (hfirst : source.IsFirst files environment) {error : ConfigError}
    (hread : source.read files = .error error) :
    load files environment = ⟨[], .error error⟩ := by
  rw [load, hfirst.ofSources_eq, hread]

/-- When the first source can be read, its configuration is settled against the environment. -/
theorem load_of_read_ok (hfirst : source.IsFirst files environment)
    (hread : source.read files = .ok config) :
    load files environment = config.settle environment := by
  rw [load, hfirst.ofSources_eq, hread]

theorem loadOrDefault_of_read_ok (hfirst : source.IsFirst files environment)
    (hread : source.read files = .ok config) :
    loadOrDefault files environment = config.settle environment := by
  rw [loadOrDefault, hfirst.ofSources_eq, hread]

/-- Two loadings that come to the same first source, with the same in it, are the same. -/
theorem load_congr (hfirst : source.IsFirst files environment) {files' : FileSystem}
    {environment' : Environment} (hfirst' : source.IsFirst files' environment')
    (hread : source.read files' = source.read files)
    (hsame : environment'.sourceless = environment.sourceless) :
    load files' environment' = load files environment := by
  rw [load, load, hfirst.ofSources_eq, hfirst'.ofSources_eq, hread]
  simp only [settle_congr _ hsame]

end Reading

/-- Where no source is there, the standard settings are loaded. -/
theorem load_sourceless {bare : FileSystem} (hbare : ∀ node, ¬ bare.LeadsTo standardPath node) :
    load bare environment.sourceless = ({} : Config).settle environment := by
  have habsent : ¬ bare.exists? standardPath = true := fun hexists =>
    (FileSystem.exists?_eq_true_iff.mp hexists).elim hbare
  have hsources : ofSources bare environment.sourceless = .ok {} := if_neg habsent
  rw [load, hsources]
  exact settle_sourceless environment {}

/-- What is loaded in place of a source that cannot be read is what is loaded where none is there,
with a warning before it. -/
theorem loadOrDefault_of_read_error {files bare : FileSystem} {environment : Environment}
    {source : ConfigSource} (hfirst : source.IsFirst files environment) {error : ConfigError}
    (hread : source.read files = .error error)
    (hbare : ∀ node, ¬ bare.LeadsTo standardPath node) :
    let fallback := load bare environment.sourceless
    ∃ warning, loadOrDefault files environment =
      ⟨warning :: fallback.events, fallback.result⟩ := by
  intro fallback
  simp only [fallback, load_sourceless environment hbare, loadOrDefault, hfirst.ofSources_eq, hread]
  exact ⟨_, rfl⟩

theorem loadFile_eq (path : String) :
    loadFile files environment path =
      load files (Function.update environment "CONFIG" (some path)) := by
  have hnamed : Function.update environment "CONFIG" (some path) "CONFIG" = some path :=
    Function.update_self ..
  rw [loadFile, load, ofSources, hnamed]
  simp only [settle_congr _ (Environment.sourceless_update (.inl rfl) environment (some path))]

/-- A text that a variable holds is loaded as the same text is that is given directly; only what is
said of a text that cannot be parsed tells where it was. -/
theorem loadText_eq_iff (text : String) (events : List Event) (config : Config) :
    loadText environment (some text) = ⟨events, .ok config⟩ ↔
      load files (Function.update (Function.update environment "CONFIG" none) "CONFIG_CONTENT"
        (some text)) = ⟨events, .ok config⟩ := by
  let unnamed : Environment := Function.update environment "CONFIG" none
  let holding : Environment := Function.update unnamed "CONFIG_CONTENT" (some text)
  have hunnamed : holding "CONFIG" = none :=
    (Function.update_of_ne (by decide) ..).trans (Function.update_self ..)
  have hcontent : holding "CONFIG_CONTENT" = some text := Function.update_self ..
  have hsame : holding.sourceless = environment.sourceless :=
    (Environment.sourceless_update (.inr rfl) unnamed (some text)).trans
      (Environment.sourceless_update (.inl rfl) environment none)
  change _ ↔ load files holding = _
  rw [load, ofSources, hunnamed]
  simp only [hcontent, loadText]
  cases ofText text with
  | error cause => simp [inStep]
  | ok given => simp only [inStep, settle_congr given hsame]

/-- The ways to load a configuration agree. One source comes first, and what is loaded is what that
one yields, settled in the environment, whatever the others hold; if it cannot be read or parsed,
its error is all there is, or the standard settings are loaded if that is asked for. A file that is
given is loaded as one that a variable names, and so is a text. -/
theorem loading_agrees (files : FileSystem) (environment : Environment) :
    (∃ source : ConfigSource, source.IsFirst files environment ∧
      (∀ other : ConfigSource, other.IsFirst files environment → other = source) ∧
      (∃ outcome, source.Yields files outcome ∧
        ∀ other, source.Yields files other → other = outcome) ∧
      (∀ config, source.Yields files (.ok config) →
        load files environment = config.settle environment ∧
        loadOrDefault files environment = load files environment) ∧
      (∀ error, source.Yields files (.error error) →
        load files environment = ⟨[], .error error⟩ ∧
        ∀ bare : FileSystem, (∀ node, ¬ bare.LeadsTo standardPath node) →
          let fallback := load bare environment.sourceless
          ∃ warning, loadOrDefault files environment =
            ⟨warning :: fallback.events, fallback.result⟩) ∧
      ∀ files' environment', source.IsFirst files' environment' →
        (∀ outcome, source.Yields files' outcome ↔ source.Yields files outcome) →
        environment'.sourceless = environment.sourceless →
          load files' environment' = load files environment) ∧
    (∀ path, loadFile files environment path =
      load files (Function.update environment "CONFIG" (some path))) ∧
    ∀ text events config, loadText environment (some text) = ⟨events, .ok config⟩ ↔
      load files (Function.update (Function.update environment "CONFIG" none) "CONFIG_CONTENT"
        (some text)) = ⟨events, .ok config⟩ := by
  obtain ⟨source, hfirst⟩ := ConfigSource.exists_isFirst files environment
  refine ⟨⟨source, hfirst, fun other hother => hother.eq hfirst, ?_, ?_, ?_, ?_⟩, ?_, ?_⟩
  · exact ⟨_, ConfigSource.yields_iff.mpr rfl, fun other hyields => hyields.read_eq.symm⟩
  · intro config hyields
    have hload := load_of_read_ok hfirst hyields.read_eq
    exact ⟨hload, (loadOrDefault_of_read_ok hfirst hyields.read_eq).trans hload.symm⟩
  · intro error hyields
    exact ⟨load_of_read_error hfirst hyields.read_eq, fun bare hbare =>
      loadOrDefault_of_read_error hfirst hyields.read_eq hbare⟩
  · intro files' environment' hfirst' hyields hsame
    have hread : source.read files' = source.read files :=
      (hyields _).mpr (ConfigSource.yields_iff.mpr rfl) |>.read_eq
    exact load_congr hfirst hfirst' hread hsame
  · exact loadFile_eq files environment
  · exact loadText_eq_iff files environment

/-- Two variables name sources. The file that the first one names is found above the directory that
the program runs in, so that the text of the second plays no part, and it does not replace a file
that is missing either. -/
theorem loading_agrees_above_working :
    let files : FileSystem :=
      { working := ["home", "user"]
        node? := fun place =>
          if place = ["etc", "export.toml"] then
            some (.file "[index]\nprefix = \"a\"".toUTF8.data.toList)
          else if place ∈ [[], ["etc"], ["home"], ["home", "user"]] then some .directory
          else none }
    let environment (path : String) : Environment := fun name =>
      if name = "CONFIG" then some path
      else if name = "CONFIG_CONTENT" then some "[index]\nprefix = \"b\"" else none
    (∀ path ∈ ["../../etc/export.toml", "/etc/export.toml"],
      load files (environment path) = ⟨[], .ok { index := { stem := "a" } }⟩ ∧
        loadOrDefault files (environment path) = load files (environment path)) ∧
      load files (environment "/etc/gone.toml") =
        ⟨[], .error (.during (.readingFile "/etc/gone.toml") .file)⟩ ∧
      (loadOrDefault files (environment "/etc/gone.toml")).result = .ok {} := by
  intro files environment
  have hfirst (path : String) : (ConfigSource.namedFile path).IsFirst files (environment path) :=
    ⟨rfl, fun _ _ => Nat.zero_le _⟩
  -- No variable but the two for sources is set, so that nothing goes on top of what is read.
  have hsame (path : String) :
      (environment path).sourceless = Environment.sourceless fun _ => none := by
    funext name
    simp only [Environment.sourceless, environment]
    grind
  refine ⟨fun path hpath => ?_, ?_⟩
  · have hholds : files.Holds path "[index]\nprefix = \"a\"" := by
      have hfollow : files.follow? FileSystem.linkLimit (FileSystem.origin files.working path)
          (FileSystem.names path) = some ["etc", "export.toml"] := by
        rcases show path = _ ∨ path = _ by simpa using hpath with rfl | rfl <;> decide +kernel
      obtain ⟨links, hlinks, hleads⟩ := FileSystem.follow?_eq_some_iff.mp hfollow
      refine ⟨?_, links, hlinks, _, hleads, rfl⟩
      rintro rfl
      simp at hpath
    have hparsed : ofText "[index]\nprefix = \"a\"" = .ok { index := { stem := "a" } } := by
      decide +kernel
    obtain ⟨⟨source, hsource, -, -, hloads, -⟩, -⟩ := loading_agrees files (environment path)
    cases (hfirst path).eq hsource
    obtain ⟨hload, hdefault⟩ := hloads _ (.parsed rfl hholds hparsed)
    refine ⟨hload.trans ?_, hdefault⟩
    rw [settle_congr _ (hsame path)]
    decide +kernel
  · have hnone (text : String) : ¬ files.Holds "/etc/gone.toml" text := by
      intro hholds
      have hgone : files.found? "/etc/gone.toml" = none := by decide +kernel
      cases hgone.symm.trans (FileSystem.found?_eq_some_iff.mpr hholds)
    have hbare (node : FileNode) : ¬ files.LeadsTo standardPath node := by
      intro hleads
      have habsent : files.found? standardPath = none := by decide +kernel
      cases habsent.symm.trans (FileSystem.found?_eq_some_iff.mpr hleads)
    obtain ⟨⟨source, hsource, -, -, -, hfails, -⟩, -⟩ :=
      loading_agrees files (environment "/etc/gone.toml")
    cases (hfirst _).eq hsource
    obtain ⟨hload, hfallback⟩ := hfails _ (.unreadable rfl hnone)
    obtain ⟨warning, hdefault⟩ := hfallback files hbare
    refine ⟨hload, ?_⟩
    rw [hdefault, load_sourceless _ hbare, settle_congr _ (hsame _)]
    rfl

end Config

end SearchFeed
