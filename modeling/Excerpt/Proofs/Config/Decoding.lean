import Excerpt.Proofs.Config.Merging

/-! # Two ways to read a configuration

An object is read as a configuration, with defaults for what is missing, or as an update that is
then merged over the default configuration. Nulls apart both ways accept the same objects, and they
give the same configuration but for rules that are listed twice. -/

namespace Excerpt

/-! ## Members with a default -/

namespace Value

variable {α : Type} {decode : Value → Option α} {default : α} {key : String}
  {members : List (String × Value)}

/-- The default can also be put in after reading. -/
theorem withDefault?_of_ne_null (h : members.lookup key ≠ some .null) :
    withDefault? decode default key members =
      (optional? decode key members).map (·.getD default) := by
  unfold withDefault? optional?
  cases hlookup : members.lookup key with
  | none => rfl
  | some v =>
    cases v with
    | null => exact absurd hlookup h
    | _ => simp [Function.comp_def]

theorem ne_null_of_withDefault? {a : α} (hnull : decode .null = none)
    (h : withDefault? decode default key members = some a) : members.lookup key ≠ some .null := by
  intro hlookup
  simp [withDefault?, hlookup, hnull] at h

end Value

/-! ## Objects without nulls -/

/-- The configuration with the given fields and the default ones, without any merging. -/
def ConfigUpdate.fill (update : ConfigUpdate) : Config where
  version := update.version.getD ({} : Config).version
  ignoredRules := update.ignoredRules.getD ({} : Config).ignoredRules
  tags := update.tags.getD ({} : Config).tags
  filter := update.filter.getD ({} : Config).filter

namespace Config

variable {members : List (String × Value)}

/-- The keys of a configuration. -/
def keys : List String :=
  ["version", "ignored_rules", "tags", "filter"]

/-- No field of a configuration is null among the members. -/
def NullFree (members : List (String × Value)) : Prop :=
  ∀ key ∈ keys, members.lookup key ≠ some .null

theorem ofValue?_of_nullFree (h : NullFree members) :
    ofValue? (.record members) =
      (ConfigUpdate.ofValue? (.record members)).map ConfigUpdate.fill := by
  have hfield : ∀ key ∈ keys, ∀ {α : Type} (decode : Value → Option α) (default : α),
      Value.withDefault? decode default key members =
        (Value.optional? decode key members).map (·.getD default) := by
    intro key hkey α decode default
    exact Value.withDefault?_of_ne_null (h key hkey)
  simp only [keys, List.forall_mem_cons] at hfield
  obtain ⟨hversion, hrules, htags, hfilter, -⟩ := hfield
  simp only [ofValue?, ConfigUpdate.ofValue?, Value.toRecord?, hversion, hrules, htags, hfilter,
    Option.bind_eq_bind, Option.bind_some, Option.bind_map, Option.map_bind, Function.comp_def]
  rfl

/-- A field that is null is no field of a configuration. -/
theorem nullFree_of_ofValue? {config : Config} (h : ofValue? (.record members) = some config) :
    NullFree members := by
  obtain ⟨version, hversion, h⟩ := Option.bind_eq_some_iff.mp h
  obtain ⟨rules, hrules, h⟩ := Option.bind_eq_some_iff.mp h
  obtain ⟨tags, htags, h⟩ := Option.bind_eq_some_iff.mp h
  obtain ⟨filter, hfilter, -⟩ := Option.bind_eq_some_iff.mp h
  simp only [NullFree, keys, List.forall_mem_cons, List.not_mem_nil, false_implies, implies_true,
    and_true]
  exact ⟨Value.ne_null_of_withDefault? rfl hversion, Value.ne_null_of_withDefault? rfl hrules,
    Value.ne_null_of_withDefault? rfl htags, Value.ne_null_of_withDefault? rfl hfilter⟩

end Config

/-! ## The two configurations -/

/-- The configuration that lists every rule once, where it stands first. -/
def Config.withDistinctRules (config : Config) : Config :=
  { config with ignoredRules := config.ignoredRules.eraseDups }

theorem Config.ignoresRule_withDistinctRules (config : Config) (rule : String) :
    config.withDistinctRules.ignoresRule rule = config.ignoresRule rule := by
  rw [Bool.eq_iff_iff]
  simp [ignoresRule, withDistinctRules]

theorem ConfigUpdate.toConfig_eq (update : ConfigUpdate) :
    update.toConfig = update.fill.withDistinctRules := by
  have hrules : ∀ rules, mergeRules [] rules = rules.eraseDups := by
    intro rules
    have hall : rules.filter (· ∉ []) = rules := by simp
    rw [mergeRules_eq, hall, List.nil_append]
  simp [toConfig, mergeInto, fill, Config.withDistinctRules, hrules]

/-- An update and a configuration that were read from one object: the update makes the same
configuration, with every rule listed once, and so ignores the same rules. -/
structure ConfigUpdate.Matches (update : ConfigUpdate) (config : Config) : Prop where
  toConfig_eq : update.toConfig = config.withDistinctRules
  ignoresRule_eq : ∀ rule, update.toConfig.ignoresRule rule = config.ignoresRule rule

theorem ConfigUpdate.matches_fill (update : ConfigUpdate) : update.Matches update.fill where
  toConfig_eq := update.toConfig_eq
  ignoresRule_eq rule := by
    rw [update.toConfig_eq, Config.ignoresRule_withDistinctRules]

/-- What the two ways to read an object have to do with each other. -/
structure Config.DecodesAlike (members : List (String × Value)) : Prop where
  exists_update : ∀ config, Config.ofValue? (.record members) = some config →
    ∃ update, ConfigUpdate.ofValue? (.record members) = some update ∧ update.Matches config
  exists_config : ∀ update, ConfigUpdate.ofValue? (.record members) = some update →
    Config.NullFree members →
    ∃ config, Config.ofValue? (.record members) = some config ∧ update.Matches config

/-- Every object is read alike in both ways, whatever fields are present, partial or invalid. -/
theorem Config.decodesAlike (members : List (String × Value)) : DecodesAlike members where
  exists_update config h := by
    rw [ofValue?_of_nullFree (nullFree_of_ofValue? h)] at h
    obtain ⟨update, hupdate, rfl⟩ := Option.map_eq_some_iff.mp h
    exact ⟨update, hupdate, update.matches_fill⟩
  exists_config update hupdate hnull := by
    refine ⟨update.fill, ?_, update.matches_fill⟩
    rw [ofValue?_of_nullFree hnull, hupdate, Option.map_some]

/-- Rules that are listed twice, tags of which only one is given, and a null. -/
example :
    let members := [("ignored_rules", Value.ofTexts ["a", "b", "a"]),
      ("tags", .record [("start", .text "<css>")])]
    let tags : TagPatterns := { opening := "<css>" }
    Config.ofValue? (.record members) = some { ignoredRules := ["a", "b", "a"], tags := tags } ∧
      (ConfigUpdate.ofValue? (.record members)).map ConfigUpdate.toConfig =
        some { ignoredRules := ["a", "b"], tags := tags } ∧
      Config.ofValue? (.record (("filter", .null) :: members)) = none ∧
      (ConfigUpdate.ofValue? (.record (("filter", .null) :: members))).isSome :=
  ⟨rfl, rfl, rfl, rfl⟩

end Excerpt
