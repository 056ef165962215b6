import Excerpt.Pattern.Matching
import Excerpt.Proofs.Pattern.Cursor

/-! # Where ways lead

Whatever a node is, a way through it goes forward, leaves the groups alone that it started in, and
captures only groups of the node, each of them between its two ends. -/

namespace Excerpt.Pattern

/-- The names of the groups of a node. -/
def Node.names : Node → List String
  | .capture name body => name :: body.names
  | .cat a b => a.names ++ b.names
  | .alt a b => a.names ++ b.names
  | .option _ body => body.names
  | .star _ body => body.names
  | .plus _ body => body.names
  | _ => []

/-- A captured group lies between two places. -/
structure Within (group : String × Cursor × Cursor) (start stop : Cursor) : Prop where
  start_leads : start.Leads group.2.1
  leads : group.2.1.Leads group.2.2
  leads_stop : group.2.2.Leads stop

theorem Within.mono {group : String × Cursor × Cursor} {start stop start' stop' : Cursor}
    (h : Within group start stop) (hstart : start'.Leads start) (hstop : stop.Leads stop') :
    Within group start' stop' :=
  ⟨hstart.trans h.start_leads, h.leads, h.leads_stop.trans hstop⟩

namespace Way

/-- A way that goes on from another one and captures groups with certain names. -/
structure Extends (names : List String) (w v : Way) : Prop where
  leads : w.cursor.Leads v.cursor
  opened_eq : v.opened = w.opened
  groups : ∃ captured, v.groups = captured ++ w.groups ∧
    ∀ group ∈ captured, group.1 ∈ names ∧ Within group w.cursor v.cursor

/-! ## One step -/

theorem Extends.of_groups_eq {names : List String} {w v : Way} (hleads : w.cursor.Leads v.cursor)
    (hopened : v.opened = w.opened) (hgroups : v.groups = w.groups) : w.Extends names v :=
  ⟨hleads, hopened, [], hgroups, by simp⟩

theorem Extends.refl (names : List String) (w : Way) : w.Extends names w :=
  .of_groups_eq (.refl _) rfl rfl

theorem Extends.trans {names : List String} {u v w : Way} (huv : u.Extends names v)
    (hvw : v.Extends names w) : u.Extends names w := by
  obtain ⟨first, hfirst, hfirstIn⟩ := huv.groups
  obtain ⟨second, hsecond, hsecondIn⟩ := hvw.groups
  refine ⟨huv.leads.trans hvw.leads, hvw.opened_eq.trans huv.opened_eq, second ++ first, ?_, ?_⟩
  · rw [hsecond, hfirst, List.append_assoc]
  · intro group hgroup
    rcases List.mem_append.mp hgroup with hgroup | hgroup
    · obtain ⟨hname, hwithin⟩ := hsecondIn group hgroup
      exact ⟨hname, hwithin.mono huv.leads (.refl _)⟩
    · obtain ⟨hname, hwithin⟩ := hfirstIn group hgroup
      exact ⟨hname, hwithin.mono (.refl _) hvw.leads⟩

theorem Extends.mono {names names' : List String} {w v : Way} (h : w.Extends names v)
    (hsub : names ⊆ names') : w.Extends names' v := by
  obtain ⟨captured, hgroups, hcaptured⟩ := h.groups
  refine ⟨h.leads, h.opened_eq, captured, hgroups, ?_⟩
  intro group hgroup
  exact ⟨hsub (hcaptured group hgroup).1, (hcaptured group hgroup).2⟩

theorem extends_of_step? {names : List String} {c : CharClass} {w v : Way}
    (h : w.step? c = some v) : w.Extends names v := by
  unfold step? at h
  split at h
  · simp at h
  · rename_i char rest hafter
    split at h
    · obtain rfl := Option.some.inj h
      exact .of_groups_eq ⟨[char], by simp, by simp, by simp [hafter]⟩ rfl rfl
    · simp at h

theorem extends_of_pass? {names : List String} {label : Nat} {w v : Way}
    (h : w.pass? label = some v) : w.Extends names v := by
  unfold pass? at h
  split at h
  · simp at h
  · obtain rfl := Option.some.inj h
    exact .of_groups_eq (.refl _) rfl rfl

/-- Leaving a group captures exactly what lies between where it was entered and here. -/
theorem leave_of_extends_enter {names : List String} {w v : Way} (name : String)
    (h : w.enter.Extends names v) :
    v.leave name =
      { v with opened := w.opened, groups := (name, w.cursor, v.cursor) :: v.groups } := by
  have hopened : v.opened = w.cursor :: w.opened := h.opened_eq
  rw [leave]
  split
  · rename_i hnil
    rw [hnil] at hopened
    simp at hopened
  · rename_i start opened hcons
    rw [hcons] at hopened
    obtain ⟨rfl, rfl⟩ := List.cons.inj hopened
    rfl

theorem Extends.leave {names : List String} {w v : Way} (name : String)
    (h : w.enter.Extends names v) : w.Extends (name :: names) (v.leave name) := by
  have hleads : w.cursor.Leads v.cursor := h.leads
  obtain ⟨captured, hgroups, hcaptured⟩ := h.groups
  rw [leave_of_extends_enter name h]
  refine ⟨hleads, rfl, (name, w.cursor, v.cursor) :: captured, ?_, ?_⟩
  · rw [hgroups]
    rfl
  · intro group hgroup
    rcases List.mem_cons.mp hgroup with rfl | hgroup
    · exact ⟨by simp, .refl _, hleads, .refl _⟩
    · obtain ⟨hname, hwithin⟩ := hcaptured group hgroup
      exact ⟨List.mem_cons_of_mem name hname, hwithin⟩

end Way

/-! ## Choosing and repeating -/

theorem mem_of_mem_keepFirst {v : Way} {ways : List Way} {reached : Places}
    (h : v ∈ keepFirst reached ways) : v ∈ ways := by
  induction ways generalizing reached with
  | nil => exact h
  | cons w rest ih =>
    rw [keepFirst] at h
    split at h
    · exact List.mem_cons_of_mem w (ih h)
    · rcases List.mem_cons.mp h with rfl | h
      · exact List.mem_cons_self
      · exact List.mem_cons_of_mem w (ih h)

theorem exists_of_mem_branchEach {v : Way} {ways : List Way} {next : Way → List Way}
    (h : v ∈ branchEach ways next) : ∃ w ∈ ways, v ∈ next w :=
  List.mem_flatMap.mp (mem_of_mem_keepFirst h)

theorem exists_of_mem_visitAll {v : Way} {visit : Way → Places → List Way × Places}
    {ways : List Way} {reached : Places} (h : v ∈ (visitAll visit ways reached).1) :
    ∃ w ∈ ways, ∃ reached, v ∈ (visit w reached).1 := by
  induction ways generalizing reached with
  | nil => simp [visitAll] at h
  | cons w rest ih =>
    rcases List.mem_append.mp h with h | h
    · exact ⟨w, List.mem_cons_self, reached, h⟩
    · obtain ⟨u, hu, hvisit⟩ := ih h
      exact ⟨u, List.mem_cons_of_mem w hu, hvisit⟩

section Rounds

variable {names : List String} {round : Way → List Way} {greedy : Bool}
  (hround : ∀ w, ∀ v ∈ round w, w.Extends names v)

include hround

theorem extends_of_mem_visitRounds (fuel : Nat) {w v : Way} {reached : Places}
    (h : v ∈ (visitRounds round greedy fuel w reached).1) : w.Extends names v := by
  induction fuel generalizing w v reached with
  | zero =>
    rw [visitRounds] at h
    split at h
    · simp at h
    · obtain rfl := List.mem_singleton.mp h
      exact .refl names v
  | succ fuel ih =>
    rw [visitRounds] at h
    split at h
    · simp at h
    · have hcases : v ∈ (visitAll (visitRounds round greedy fuel) (round w)
          (reached.insert w.index)).1 ∨ v = w := by
        cases greedy <;> simpa [or_comm] using h
      rcases hcases with hfurther | rfl
      · obtain ⟨u, hu, next, hv⟩ := exists_of_mem_visitAll hfurther
        exact (hround w u hu).trans (ih hv)
      · exact .refl names v

theorem exists_extends_of_mem_manyRounds {ways : List Way} {v : Way}
    (h : v ∈ manyRounds round greedy ways) : ∃ w ∈ ways, w.Extends names v := by
  obtain ⟨w, hw, reached, hv⟩ := exists_of_mem_visitAll h
  exact ⟨w, hw, extends_of_mem_visitRounds hround _ hv⟩

end Rounds

/-! ## Whole nodes -/

theorem extends_of_singleton {n : Node} {w v : Way}
    (ih : ∀ ways, ∀ v ∈ n.run ways, ∃ w ∈ ways, w.Extends n.names v) (h : v ∈ n.run [w]) :
    w.Extends n.names v := by
  obtain ⟨u, hu, hext⟩ := ih [w] v h
  obtain rfl := List.mem_singleton.mp hu
  exact hext

/-- Every way through a node extends one of the ways that lead to it. -/
theorem Node.exists_extends_of_mem_run (n : Node) (ways : List Way) :
    ∀ v ∈ n.run ways, ∃ w ∈ ways, w.Extends n.names v := by
  induction n generalizing ways with
  | empty =>
    intro v hv
    exact ⟨v, hv, .refl _ v⟩
  | set c =>
    intro v hv
    obtain ⟨w, hw, hstep⟩ := List.mem_filterMap.mp hv
    exact ⟨w, hw, Way.extends_of_step? hstep⟩
  | look a =>
    intro v hv
    exact ⟨v, (List.mem_filter.mp hv).1, .refl _ v⟩
  | capture name body ih =>
    intro v hv
    obtain ⟨u, hu, rfl⟩ := List.mem_map.mp hv
    obtain ⟨entered, hentered, hext⟩ := ih (ways.map Way.enter) u hu
    obtain ⟨w, hw, rfl⟩ := List.mem_map.mp hentered
    exact ⟨w, hw, hext.leave name⟩
  | cat a b iha ihb =>
    intro v hv
    obtain ⟨u, hu, huv⟩ := ihb (a.run ways) v hv
    obtain ⟨w, hw, hwu⟩ := iha ways u hu
    exact ⟨w, hw, (hwu.mono (List.subset_append_left _ _)).trans
      (huv.mono (List.subset_append_right _ _))⟩
  | alt a b iha ihb =>
    intro v hv
    obtain ⟨w, hw, hv⟩ := exists_of_mem_branchEach hv
    refine ⟨w, hw, ?_⟩
    rcases List.mem_append.mp hv with hv | hv
    · exact (extends_of_singleton iha hv).mono (List.subset_append_left _ _)
    · exact (extends_of_singleton ihb hv).mono (List.subset_append_right _ _)
  | option greedy body ih =>
    intro v hv
    have hchoice : ∃ w ∈ ways, v ∈ body.run [w] ∨ v = w := by
      cases greedy with
      | true =>
        obtain ⟨w, hw, hv⟩ := exists_of_mem_branchEach hv
        exact ⟨w, hw, by simpa using hv⟩
      | false =>
        obtain ⟨w, hw, hv⟩ := exists_of_mem_branchEach hv
        exact ⟨w, hw, by simpa [or_comm] using hv⟩
    obtain ⟨w, hw, hv | rfl⟩ := hchoice
    · have hext : w.Extends body.names v := extends_of_singleton ih hv
      exact ⟨w, hw, hext⟩
    · exact ⟨v, hw, .refl _ v⟩
  | star greedy body ih =>
    intro v hv
    exact exists_extends_of_mem_manyRounds (fun _ _ h => extends_of_singleton ih h) hv
  | plus greedy body ih =>
    intro v hv
    obtain ⟨u, hu, huv⟩ :=
      exists_extends_of_mem_manyRounds (fun _ _ h => extends_of_singleton ih h) hv
    obtain ⟨w, hw, hwu⟩ := ih ways u hu
    exact ⟨w, hw, hwu.trans huv⟩
  | gate label =>
    intro v hv
    obtain ⟨w, hw, hpass⟩ := List.mem_filterMap.mp hv
    exact ⟨w, hw, Way.extends_of_pass? hpass⟩

end Excerpt.Pattern
