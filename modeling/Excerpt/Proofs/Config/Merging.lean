import Excerpt.Config
import Excerpt.Proofs.FirstOccurrences

/-! # Chains of updates

Updates are merged one after the other. The rules that they ignore add up, each one once and in
the order in which they first appear; of every other field the last one that was given counts. -/

namespace Excerpt

/-! ## Rules that add up -/

theorem mergeRules_append (base first second : List String) :
    mergeRules base (first ++ second) = mergeRules (mergeRules base first) second := by
  induction first generalizing base with
  | nil => rfl
  | cons rule rules ih =>
    rw [List.cons_append, mergeRules, mergeRules]
    split
    · exact ih base
    · exact ih (base ++ [rule])

/-- Merged rules are those of the base and then the new ones, as they first appear. -/
theorem mergeRules_eq (base rules : List String) :
    mergeRules base rules = base ++ (rules.filter (· ∉ base)).eraseDups := by
  induction rules generalizing base with
  | nil => simp [mergeRules]
  | cons rule rules ih =>
    rw [mergeRules]
    by_cases hrule : rule ∈ base
    · rw [if_pos (by simpa using hrule), ih, List.filter_cons_of_neg (by simpa using hrule)]
    · rw [if_neg (by simpa using hrule), ih, List.filter_cons_of_pos (by simpa using hrule),
        List.eraseDups_cons, List.filter_filter, List.append_assoc, List.singleton_append]
      congr 4
      funext other
      by_cases hother : other = rule <;> simp [hother]

theorem mem_mergeRules {base rules : List String} {rule : String} :
    rule ∈ mergeRules base rules ↔ rule ∈ base ∨ rule ∈ rules := by
  rw [mergeRules_eq, List.mem_append, List.mem_eraseDups, List.mem_filter]
  by_cases hrule : rule ∈ base <;> simp [hrule]

/-- Rules that are there already add nothing. -/
theorem mergeRules_of_subset {base rules : List String} (h : rules ⊆ base) :
    mergeRules base rules = base := by
  have hnew : rules.filter (· ∉ base) = [] := by
    rw [List.filter_eq_nil_iff]
    intro rule hrule
    simpa using h hrule
  rw [mergeRules_eq, hnew, List.eraseDups_nil, List.append_nil]

theorem count_mergeRules (base rules : List String) (rule : String) :
    (mergeRules base rules).count rule =
      if rule ∈ base then base.count rule else if rule ∈ rules then 1 else 0 := by
  rw [mergeRules_eq, List.count_append, (nodup_eraseDups _).count]
  by_cases hbase : rule ∈ base
  · simp [hbase]
  · simp [hbase, List.count_eq_zero_of_not_mem hbase]

/-! ## One update -/

namespace ConfigUpdate

/-- The rules that an update gives. -/
def rules (update : ConfigUpdate) : List String :=
  update.ignoredRules.getD []

theorem mem_rules {update : ConfigUpdate} {rule : String} :
    rule ∈ update.rules ↔ ∃ given ∈ update.ignoredRules, rule ∈ given := by
  unfold rules
  cases update.ignoredRules <;> simp

theorem mergeInto_empty (base : Config) : ({} : ConfigUpdate).mergeInto base = base :=
  rfl

theorem mergeInto_mergeInto (update : ConfigUpdate) (base : Config) :
    update.mergeInto (update.mergeInto base) = update.mergeInto base := by
  have hrules : mergeRules (mergeRules base.ignoredRules update.rules) update.rules =
      mergeRules base.ignoredRules update.rules := by
    apply mergeRules_of_subset
    intro rule hrule
    exact mem_mergeRules.mpr (.inr hrule)
  have hgiven : ∀ {α : Type} (o : Option α) (a : α), o.getD (o.getD a) = o.getD a := by
    intro α o a
    cases o <;> rfl
  simp only [mergeInto, hgiven, Config.mk.injEq, true_and, and_true]
  exact hrules

end ConfigUpdate

/-! ## Chains -/

namespace Config

/-- The configuration after updates that are merged one after the other. -/
def mergeAll (base : Config) (updates : List ConfigUpdate) : Config :=
  updates.foldl (fun config update => update.mergeInto config) base

/-- The rules that updates give, one update after the other. -/
def givenRules (updates : List ConfigUpdate) : List String :=
  updates.flatMap ConfigUpdate.rules

/-- A field as the last update that gives it has it. -/
def lastGiven? {α : Type} (field : ConfigUpdate → Option α) (updates : List ConfigUpdate) :
    Option α :=
  updates.reverse.findSome? field

theorem ignoredRules_mergeAll (base : Config) (updates : List ConfigUpdate) :
    (mergeAll base updates).ignoredRules =
      mergeRules base.ignoredRules (givenRules updates) := by
  induction updates generalizing base with
  | nil => rfl
  | cons update updates ih =>
    rw [givenRules, List.flatMap_cons, mergeRules_append]
    exact ih (update.mergeInto base)

/-- A field that every update replaces when it gives it. -/
theorem field_mergeAll {α : Type} {field : ConfigUpdate → Option α} {get : Config → α}
    (hfield : ∀ update base, get (update.mergeInto base) = (field update).getD (get base))
    (base : Config) (updates : List ConfigUpdate) :
    get (mergeAll base updates) = (lastGiven? field updates).getD (get base) := by
  induction updates generalizing base with
  | nil => rfl
  | cons update updates ih =>
    calc get (mergeAll base (update :: updates))
        = (lastGiven? field updates).getD (get (update.mergeInto base)) :=
          ih (update.mergeInto base)
      _ = (lastGiven? field updates).getD ((field update).getD (get base)) := by rw [hfield]
      _ = (lastGiven? field (update :: updates)).getD (get base) := by
          rw [lastGiven?, lastGiven?, List.reverse_cons, List.findSome?_append, Option.getD_or]
          cases hgiven : field update <;> simp [hgiven]

theorem mem_givenRules {updates : List ConfigUpdate} {rule : String} :
    rule ∈ givenRules updates ↔
      ∃ update ∈ updates, ∃ given ∈ update.ignoredRules, rule ∈ given := by
  simp only [givenRules, List.mem_flatMap, ConfigUpdate.mem_rules]

/-- What a chain of updates makes of a configuration. -/
structure Accumulates (base : Config) (updates : List ConfigUpdate) (merged : Config) : Prop where
  ignoredRules_eq : merged.ignoredRules = base.ignoredRules ++
    ((givenRules updates).filter (· ∉ base.ignoredRules)).eraseDups
  /-- The new rules stand in the order in which the updates first name them. -/
  new_ordered : (merged.ignoredRules.drop base.ignoredRules.length).Pairwise fun a b =>
    (givenRules updates).idxOf a < (givenRules updates).idxOf b
  /-- No rule is listed twice unless the base does so. -/
  count_eq : ∀ rule, merged.ignoredRules.count rule =
    if rule ∈ base.ignoredRules then base.ignoredRules.count rule
    else if rule ∈ givenRules updates then 1 else 0
  ignoresRule_iff : ∀ rule, merged.ignoresRule rule ↔
    rule ∈ base.ignoredRules ∨
      ∃ update ∈ updates, ∃ given ∈ update.ignoredRules, rule ∈ given
  version_eq : merged.version = (lastGiven? ConfigUpdate.version updates).getD base.version
  tags_eq : merged.tags = (lastGiven? ConfigUpdate.tags updates).getD base.tags
  filter_eq : merged.filter = (lastGiven? ConfigUpdate.filter updates).getD base.filter
  again_eq : ∀ update : ConfigUpdate,
    update.mergeInto (update.mergeInto merged) = update.mergeInto merged
  empty_eq : ({} : ConfigUpdate).mergeInto merged = merged

theorem pairwise_idxOf_new (base given : List String) :
    ((mergeRules base given).drop base.length).Pairwise fun a b =>
      given.idxOf a < given.idxOf b := by
  rw [mergeRules_eq, List.drop_left, eraseDups_filter]
  exact (pairwise_idxOf_eraseDups given).filter _

/-- However many updates are merged, and whatever rules the base lists. -/
theorem mergeAll_accumulates (base : Config) (updates : List ConfigUpdate) :
    Accumulates base updates (mergeAll base updates) where
  ignoredRules_eq := by
    rw [ignoredRules_mergeAll, mergeRules_eq]
  new_ordered := by
    rw [ignoredRules_mergeAll]
    exact pairwise_idxOf_new base.ignoredRules (givenRules updates)
  count_eq rule := by
    rw [ignoredRules_mergeAll, count_mergeRules]
  ignoresRule_iff rule := by
    rw [ignoresRule, List.contains_iff_mem, ignoredRules_mergeAll, mem_mergeRules, mem_givenRules]
  version_eq := field_mergeAll (fun _ _ => rfl) base updates
  tags_eq := field_mergeAll (fun _ _ => rfl) base updates
  filter_eq := field_mergeAll (fun _ _ => rfl) base updates
  again_eq update := update.mergeInto_mergeInto (mergeAll base updates)
  empty_eq := ConfigUpdate.mergeInto_empty (mergeAll base updates)

/-- A base that lists a rule twice, and updates that overlap with it and with each other. -/
example :
    mergeAll { ignoredRules := ["a", "a"] }
        [{ ignoredRules := some ["c", "a", "c"], version := some "2.0" },
          { ignoredRules := some ["b", "c"] }] =
      { version := "2.0", ignoredRules := ["a", "a", "c", "b"] } :=
  rfl

end Config

end Excerpt
