import Excerpt.LineCounter
import Excerpt.Proofs.Text.Bytes
import Excerpt.Proofs.Text.Lines

/-! # Counters without a history

Whatever a counter was asked before, it answers with the line of the offset at hand. The bytes of
other characters are never taken for line breaks, so an offset inside a character is as good as
any. -/

namespace Excerpt

namespace Text

@[simp] theorem breaksBefore_zero (t : Text) : breaksBefore t 0 = 0 := by
  cases t <;> simp [breaksBefore]

/-- Up to the end of a part in front, the breaks are those of that part. -/
theorem breaksBefore_append (front back : Text) :
    breaksBefore (front ++ back) front.byteLength = front.breaks := by
  induction front with
  | nil => simp
  | cons c front ih =>
    have hpos : 0 < c.utf8Size := c.utf8Size_pos
    have hne : c.utf8Size + byteLength front ≠ 0 := by omega
    rw [List.cons_append, byteLength_cons, breaksBefore, if_neg hne, Nat.add_sub_cancel_left, ih,
      breaks_cons, Nat.add_comm]

/-! ## Breaks in bytes -/

/-- The byte of a line break. -/
def breakByte : UInt8 :=
  0x0A

theorem breakByte_not_mem_utf8EncodeChar {c : Char} (h : c ≠ '\n') :
    breakByte ∉ String.utf8EncodeChar c := by
  intro hm
  exact h (eq_of_mem_utf8EncodeChar (by decide) rfl hm)

/-- As soon as a byte of a character is in, the break it may be is counted. -/
theorem count_take_utf8EncodeChar (c : Char) {bytes : Nat} (h : bytes ≠ 0) :
    ((String.utf8EncodeChar c).take bytes).count breakByte = if c = '\n' then 1 else 0 := by
  by_cases hc : c = '\n'
  · obtain ⟨fewer, rfl⟩ := Nat.exists_eq_succ_of_ne_zero h
    have hbytes : String.utf8EncodeChar c = [breakByte] := by rw [hc]; decide
    rw [hbytes, if_pos hc]
    simp
  · rw [if_neg hc, List.count_eq_zero]
    exact fun hm => breakByte_not_mem_utf8EncodeChar hc (List.mem_of_mem_take hm)

/-- The breaks in front of an offset are those among so many bytes. -/
theorem breaksBefore_eq_count (t : Text) (offset : Nat) :
    t.breaksBefore offset = ((encode t).take offset).count breakByte := by
  induction t generalizing offset with
  | nil => simp [breaksBefore]
  | cons c t ih =>
    by_cases hzero : offset = 0
    · simp [hzero]
    · rw [breaksBefore, if_neg hzero, ih, encode_cons, List.take_append, List.count_append,
        count_take_utf8EncodeChar c hzero, String.length_utf8EncodeChar]

theorem breaksBefore_mono (t : Text) {start stop : Nat} (h : start ≤ stop) :
    breaksBefore t start ≤ breaksBefore t stop := by
  rw [breaksBefore_eq_count, breaksBefore_eq_count]
  exact (List.take_prefix_take_left h).sublist.count_le breakByte

/-- Counting on from an offset looks at the bytes between the two offsets alone. -/
theorem breaksBetween_eq_count (t : Text) {start stop : Nat} (h : start ≤ stop) :
    t.breaksBetween start stop = (((encode t).take stop).drop start).count breakByte := by
  have htake : ((encode t).take stop).take start = (encode t).take start := by
    rw [List.take_take, Nat.min_eq_left h]
  have hcount := congrArg (List.count breakByte)
    (List.take_append_drop start ((encode t).take stop))
  rw [List.count_append, htake] at hcount
  rw [breaksBetween, breaksBefore_eq_count, breaksBefore_eq_count]
  omega

end Text

/-! ## One counter asked again and again -/

namespace LineCounter

/-- A counter in a text whose line is right for its position. -/
structure Counts (counter : LineCounter) (t : Text) : Prop where
  text_eq : counter.text = t
  line_eq : counter.line = 1 + t.breaksBefore counter.position

theorem counts_ofText (t : Text) : (ofText t).Counts t where
  text_eq := rfl
  line_eq := by simp [ofText]

theorem position_seek (counter : LineCounter) (offset : Nat) :
    (counter.seek offset).position = min offset counter.text.byteLength := by
  simp only [seek]
  split <;> rfl

/-- Moving a counter, forward or back, keeps its line right. -/
theorem Counts.seek {counter : LineCounter} {t : Text} (h : counter.Counts t) (offset : Nat) :
    (counter.seek offset).Counts t where
  text_eq := by
    simp only [LineCounter.seek]
    split <;> exact h.text_eq
  line_eq := by
    rw [position_seek]
    simp only [LineCounter.seek, Text.breaksBetween, h.text_eq]
    split
    · simp
    · rename_i hle
      have hmono := Text.breaksBefore_mono t (Nat.le_of_not_lt hle)
      have hline := h.line_eq
      simp only
      omega

/-- The line of an offset in the text, whichever offsets came before it. -/
theorem Counts.lineAt {counter : LineCounter} {t : Text} (h : counter.Counts t) (offset : Nat) :
    (counter.lineAt offset).1 = 1 + t.breaksBefore (min offset t.byteLength) := by
  have hseek := (h.seek offset).line_eq
  rw [position_seek, h.text_eq] at hseek
  exact hseek

theorem Counts.lineAt_snd {counter : LineCounter} {t : Text} (h : counter.Counts t)
    (offset : Nat) : (counter.lineAt offset).2.Counts t :=
  h.seek offset

theorem Counts.linesAt {counter : LineCounter} {t : Text} (h : counter.Counts t)
    (offsets : List Nat) :
    counter.linesAt offsets =
      offsets.map fun offset => 1 + t.breaksBefore (min offset t.byteLength) := by
  induction offsets generalizing counter with
  | nil => rfl
  | cons offset offsets ih =>
    rw [List.map_cons, ← h.lineAt offset, ← ih (h.lineAt_snd offset)]
    rfl

/-- A counter that is asked for many offsets, in any order, answers each of them with one line more
than there are breaks among the bytes in front of it. -/
theorem linesAt_ofText (t : Text) (offsets : List Nat) :
    (ofText t).linesAt offsets = offsets.map fun offset =>
      1 + ((Text.encode t).take (min offset (Text.encode t).length)).count Text.breakByte := by
  rw [(counts_ofText t).linesAt]
  simp only [Text.breaksBefore_eq_count, Text.length_encode]

/-- Forward, inside a character of two bytes, past the end, back again and twice the same. -/
example : (ofText "a\né\nb".toList).linesAt [2, 3, 100, 4, 1, 5, 5] = [2, 2, 3, 2, 1, 3, 3] := by
  decide

end LineCounter

end Excerpt
