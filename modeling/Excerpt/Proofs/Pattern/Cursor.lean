import Excerpt.Pattern.Cursor

/-! # Moving through a text

One place leads to another when the characters between them can be read. Places that lead to each
other are places of one text. -/

namespace Excerpt.Pattern.Cursor

/-- Reading `taken` at the first place ends at the second. -/
structure Reads (c : Cursor) (taken : Text) (d : Cursor) : Prop where
  index_eq : d.index = c.index + taken.length
  before_eq : d.before = taken.reverse ++ c.before
  after_eq : c.after = taken ++ d.after

/-- The second place stands at or behind the first one in the same text. -/
def Leads (c d : Cursor) : Prop :=
  ∃ taken, c.Reads taken d

/-! ## Reading -/

theorem Reads.refl (c : Cursor) : c.Reads [] c :=
  ⟨rfl, rfl, rfl⟩

theorem Reads.trans {c d e : Cursor} {t u : Text} (hcd : c.Reads t d) (hde : d.Reads u e) :
    c.Reads (t ++ u) e where
  index_eq := by
    rw [hde.index_eq, hcd.index_eq, List.length_append, Nat.add_assoc]
  before_eq := by
    rw [hde.before_eq, hcd.before_eq, List.reverse_append, List.append_assoc]
  after_eq := by
    rw [hcd.after_eq, hde.after_eq, List.append_assoc]

theorem Reads.leads {c d : Cursor} {t : Text} (h : c.Reads t d) : c.Leads d :=
  ⟨t, h⟩

theorem Reads.upTo_eq {c d : Cursor} {t : Text} (h : c.Reads t d) : c.upTo d = t := by
  rw [upTo, h.index_eq, h.after_eq, Nat.add_sub_cancel_left]
  exact List.take_left

theorem Reads.text_eq {c d : Cursor} {t : Text} (h : c.Reads t d) : d.text = c.text := by
  rw [text, text, h.before_eq, h.after_eq]
  simp

theorem Reads.offset_eq {c d : Cursor} {t : Text} (h : c.Reads t d) :
    d.offset = c.offset + t.byteLength := by
  rw [offset, offset, h.before_eq, Text.byteLength_append, Text.byteLength_reverse, Nat.add_comm]

/-! ## Leading -/

theorem Leads.refl (c : Cursor) : c.Leads c :=
  (Reads.refl c).leads

theorem Leads.offset_le {c d : Cursor} (h : c.Leads d) : c.offset ≤ d.offset := by
  obtain ⟨taken, htaken⟩ := h
  rw [htaken.offset_eq]
  exact Nat.le_add_right _ _

theorem Leads.trans {c d e : Cursor} (hcd : c.Leads d) (hde : d.Leads e) : c.Leads e := by
  obtain ⟨t, ht⟩ := hcd
  obtain ⟨u, hu⟩ := hde
  exact (ht.trans hu).leads

theorem Leads.reads_upTo {c d : Cursor} (h : c.Leads d) : c.Reads (c.upTo d) d := by
  obtain ⟨t, ht⟩ := h
  rw [ht.upTo_eq]
  exact ht

theorem Leads.text_eq {c d : Cursor} (h : c.Leads d) : d.text = c.text :=
  h.reads_upTo.text_eq

theorem leads_of_next? {c d : Cursor} (h : c.next? = some d) : c.Leads d := by
  unfold next? at h
  split at h
  · simp at h
  · rename_i char rest hafter
    obtain rfl := Option.some.inj h
    exact ⟨[char], by simp, by simp, by simp [hafter]⟩

end Excerpt.Pattern.Cursor
