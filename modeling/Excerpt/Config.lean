import Excerpt.FileFilter
import Excerpt.TagPatterns

/-! # Configurations

A configuration is complete. An update gives some of its fields, and merging it over a
configuration replaces those; ignored rules add up instead. -/

namespace Excerpt

structure Config where
  version : String := "1.0"
  ignoredRules : List String := []
  tags : TagPatterns := {}
  filter : FilterPolicy := .default
  deriving DecidableEq, Repr

structure ConfigUpdate where
  version : Option String := none
  ignoredRules : Option (List String) := none
  tags : Option TagPatterns := none
  filter : Option FilterPolicy := none
  deriving DecidableEq, Repr

/-- Adds the rules that are not yet there, each one once. -/
def mergeRules (base : List String) : List String → List String
  | [] => base
  | rule :: rules =>
    if base.contains rule then mergeRules base rules else mergeRules (base ++ [rule]) rules

namespace Config

/-- Whether the diagnostics of a rule are dropped. -/
def ignoresRule (config : Config) (rule : String) : Bool :=
  config.ignoredRules.contains rule

/-- Missing fields have their defaults, and none may be null. -/
def ofValue? (v : Value) : Option Config := do
  let members ← v.toRecord?
  let default : Config := {}
  let version ← Value.withDefault? Value.toText? default.version "version" members
  let rules ← Value.withDefault? Value.toTexts? default.ignoredRules "ignored_rules" members
  let tags ← Value.withDefault? TagPatterns.ofValue? default.tags "tags" members
  let filter ← Value.withDefault? FilterPolicy.ofValue? default.filter "filter" members
  return ⟨version, rules, tags, filter⟩

def toValue (config : Config) : Value :=
  .record [("version", .text config.version), ("ignored_rules", .ofTexts config.ignoredRules),
    ("tags", config.tags.toValue), ("filter", config.filter.toValue)]

end Config

namespace ConfigUpdate

/-- A field that is missing or null is not given. -/
def ofValue? (v : Value) : Option ConfigUpdate := do
  let members ← v.toRecord?
  let version ← Value.optional? Value.toText? "version" members
  let rules ← Value.optional? Value.toTexts? "ignored_rules" members
  let tags ← Value.optional? TagPatterns.ofValue? "tags" members
  let filter ← Value.optional? FilterPolicy.ofValue? "filter" members
  return ⟨version, rules, tags, filter⟩

/-- The configuration after the update. -/
def mergeInto (update : ConfigUpdate) (base : Config) : Config where
  version := update.version.getD base.version
  ignoredRules := mergeRules base.ignoredRules (update.ignoredRules.getD [])
  tags := update.tags.getD base.tags
  filter := update.filter.getD base.filter

/-- The update over the default configuration. -/
def toConfig (update : ConfigUpdate) : Config :=
  update.mergeInto {}

end ConfigUpdate

end Excerpt
