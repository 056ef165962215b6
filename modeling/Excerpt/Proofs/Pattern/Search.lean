import Excerpt.Proofs.Pattern.Ways

/-! # What a search finds

A match lies at or behind the place where the search began, and its groups lie in the match. Where
a pattern starts with two groups, the groups of a match stand next to each other at its start. -/

namespace Excerpt.Pattern

/-! ## Matches -/

theorem Node.exists_of_matchAt {n : Node} {c : Cursor} {m : Match} (h : n.matchAt c = some m) :
    m.start = c ∧ ∃ v ∈ n.run [.start c], m.stop = v.cursor ∧ m.groups = v.groups := by
  obtain ⟨v, hv, rfl⟩ := Option.map_eq_some_iff.mp h
  exact ⟨rfl, v, List.mem_of_head? hv, rfl, rfl⟩

/-- A match stops at or behind its start. -/
theorem Node.leads_stop_of_matchAt {n : Node} {c : Cursor} {m : Match}
    (h : n.matchAt c = some m) : c.Leads m.stop := by
  obtain ⟨-, v, hv, hstop, -⟩ := exists_of_matchAt h
  rw [hstop]
  exact (extends_of_singleton (exists_extends_of_mem_run n) hv).leads

theorem Node.searchFrom_eq_some {n : Node} {index : Nat} {before after : Text} {m : Match}
    (h : n.searchFrom index before after = some m) :
    Cursor.Leads ⟨index, before, after⟩ m.start ∧ n.matchAt m.start = some m := by
  induction after generalizing index before with
  | nil =>
    have hstart := (exists_of_matchAt h).1
    rw [hstart]
    exact ⟨.refl _, h⟩
  | cons char rest ih =>
    rw [searchFrom] at h
    split at h
    · rename_i found hfound
      obtain rfl := Option.some.inj h
      have hstart := (exists_of_matchAt hfound).1
      rw [hstart]
      exact ⟨.refl _, hfound⟩
    · obtain ⟨hleads, hmatch⟩ := ih h
      have hnext : Cursor.Leads ⟨index, before, char :: rest⟩ ⟨index + 1, char :: before, rest⟩ :=
        Cursor.leads_of_next? rfl
      exact ⟨hnext.trans hleads, hmatch⟩

theorem Node.leads_start_of_search {n : Node} {c : Cursor} {m : Match}
    (h : n.search c = some m) : c.Leads m.start :=
  (searchFrom_eq_some h).1

theorem Node.leads_stop_of_search {n : Node} {c : Cursor} {m : Match}
    (h : n.search c = some m) : m.start.Leads m.stop :=
  leads_stop_of_matchAt (searchFrom_eq_some h).2

theorem Node.exists_of_search {n : Node} {c : Cursor} {m : Match} (h : n.search c = some m) :
    ∃ v ∈ n.run [.start m.start], m.stop = v.cursor ∧ m.groups = v.groups :=
  (exists_of_matchAt (searchFrom_eq_some h).2).2

/-- The groups of a match lie between its ends. -/
theorem Node.within_of_search {n : Node} {c : Cursor} {m : Match} (h : n.search c = some m)
    {name : String} {start stop : Cursor} (hgroup : m.groups.lookup name = some (start, stop)) :
    Within (name, start, stop) m.start m.stop := by
  obtain ⟨v, hv, hstop, hgroups⟩ := exists_of_search h
  obtain ⟨captured, hcaptured, hin⟩ :=
    (extends_of_singleton (exists_extends_of_mem_run n) hv).groups
  have hmem : (name, start, stop) ∈ captured := by
    obtain ⟨front, back, hsplit, -⟩ := List.lookup_eq_some_iff.mp hgroup
    rw [hgroups, hcaptured, Way.start, List.append_nil] at hsplit
    rw [hsplit]
    simp
  rw [hstop]
  exact (hin _ hmem).2

/-! ## Groups -/

theorem lookup_append_of_not_mem {names : List String} {name : String}
    {captured groups : List (String × Cursor × Cursor)}
    (hcaptured : ∀ group ∈ captured, group.1 ∈ names) (hname : name ∉ names) :
    (captured ++ groups).lookup name = groups.lookup name := by
  have hnone : captured.lookup name = none := by
    rw [List.lookup_eq_none_iff]
    intro group hgroup
    have hne : name ≠ group.1 := fun he => hname (he ▸ hcaptured group hgroup)
    simpa using hne
  rw [List.lookup_append, hnone, Option.none_or]

theorem Way.Extends.lookup_eq {names : List String} {name : String} {w v : Way}
    (h : w.Extends names v) (hname : name ∉ names) :
    v.groups.lookup name = w.groups.lookup name := by
  obtain ⟨captured, hgroups, hcaptured⟩ := h.groups
  rw [hgroups]
  exact lookup_append_of_not_mem (fun group hgroup => (hcaptured group hgroup).1) hname

/-- A way through a group has captured it from end to end, and no group with a name that is not in
there. -/
theorem Node.exists_of_mem_run_capture {name : String} {body : Node} {ways : List Way} {v : Way}
    (h : v ∈ (Node.capture name body).run ways) :
    ∃ w ∈ ways, v.groups.lookup name = some (w.cursor, v.cursor) ∧
      ∀ other, other ≠ name → other ∉ body.names →
        v.groups.lookup other = w.groups.lookup other := by
  obtain ⟨u, hu, rfl⟩ := List.mem_map.mp h
  obtain ⟨entered, hentered, hext⟩ := exists_extends_of_mem_run body _ u hu
  obtain ⟨w, hw, rfl⟩ := List.mem_map.mp hentered
  refine ⟨w, hw, ?_, ?_⟩
  · rw [Way.leave_of_extends_enter name hext]
    exact List.lookup_cons_self
  · intro other hne hnot
    exact (hext.leave name).lookup_eq (by simp [hne, hnot])

end Excerpt.Pattern
