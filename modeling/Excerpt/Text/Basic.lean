/-! # Texts and their lines

A text is the list of its characters. The offsets reported to other tools are byte offsets into
its UTF-8 form, so a character counts for `Char.utf8Size` of them. -/

namespace Excerpt

/-- A text is the list of its characters. -/
abbrev Text := List Char

namespace Text

/-- The number of bytes a text takes in UTF-8. -/
def byteLength (t : Text) : Nat :=
  t.foldr (fun c bytes => c.utf8Size + bytes) 0

/-- The number of line breaks of a text. -/
def breaks (t : Text) : Nat :=
  t.count '\n'

/-- The lines of a text are the segments between its line breaks. There is always one. -/
def lines : Text → List Text
  | [] => [[]]
  | c :: rest =>
    if c = '\n' then [] :: lines rest
    else
      match lines rest with
      | [] => [[c]]
      | line :: others => (c :: line) :: others

/-- Puts a line break between neighbouring lines. -/
def unlines : List Text → Text
  | [] => []
  | [line] => line
  | line :: others => line ++ '\n' :: unlines others

@[simp] theorem byteLength_nil : byteLength [] = 0 :=
  rfl

@[simp] theorem byteLength_cons (c : Char) (t : Text) :
    byteLength (c :: t) = c.utf8Size + byteLength t :=
  rfl

@[simp] theorem byteLength_append (a b : Text) :
    byteLength (a ++ b) = byteLength a + byteLength b := by
  induction a with
  | nil => simp
  | cons c a ih => rw [List.cons_append, byteLength_cons, byteLength_cons, ih, Nat.add_assoc]

@[simp] theorem byteLength_reverse (t : Text) : byteLength t.reverse = byteLength t := by
  induction t with
  | nil => rfl
  | cons c t ih =>
    simp only [List.reverse_cons, byteLength_append, byteLength_cons, byteLength_nil, ih]
    omega

theorem lines_ne_nil (t : Text) : lines t ≠ [] := by
  cases t with
  | nil => simp [lines]
  | cons c rest =>
    simp only [lines]
    split
    · simp
    · split <;> simp

theorem unlines_cons_of_ne_nil (line : Text) {others : List Text} (h : others ≠ []) :
    unlines (line :: others) = line ++ '\n' :: unlines others := by
  cases others with
  | nil => exact absurd rfl h
  | cons other others => rfl

/-- Splitting into lines loses nothing. -/
@[simp] theorem unlines_lines (t : Text) : unlines (lines t) = t := by
  induction t with
  | nil => rfl
  | cons c rest ih =>
    simp only [lines]
    split
    · rename_i h
      rw [unlines_cons_of_ne_nil [] (lines_ne_nil rest), ih, h]
      rfl
    · cases hr : lines rest with
      | nil => exact absurd hr (lines_ne_nil rest)
      | cons line others =>
        rw [hr] at ih
        cases others with
        | nil => simpa [unlines] using ih
        | cons other others =>
          simp only [unlines, List.cons_append, List.cons.injEq, true_and]
          simpa [unlines] using ih

/-- A text has one line more than it has breaks. -/
theorem length_lines (t : Text) : (lines t).length = t.breaks + 1 := by
  induction t with
  | nil => rfl
  | cons c rest ih =>
    simp only [lines, breaks] at ih ⊢
    split
    · rename_i h
      simp [h, ih]
    · rename_i h
      have hc : ¬ (c == '\n') = true := by simpa using h
      cases hr : lines rest with
      | nil => exact absurd hr (lines_ne_nil rest)
      | cons line others =>
        rw [hr] at ih
        simp only [List.length_cons, List.count_cons, hc] at ih ⊢
        simpa using ih

end Text

end Excerpt
