import Excerpt.Text.Basic

/-! # Texts by their bytes

An offset in bytes is a place in a text only when it stands between two characters. -/

namespace Excerpt.Text

/-- What stands in front of an offset and behind it, if the offset stands between two characters or
at an end of the text. -/
def splitAtByte? : Text → Nat → Option (Text × Text)
  | t, 0 => some ([], t)
  | [], _ + 1 => none
  | c :: rest, offset + 1 =>
    if c.utf8Size ≤ offset + 1 then
      (splitAtByte? rest (offset + 1 - c.utf8Size)).map fun (front, back) => (c :: front, back)
    else none

/-- Whether an offset stands between two characters or at an end of the text. -/
def isBoundary (t : Text) (offset : Nat) : Bool :=
  (t.splitAtByte? offset).isSome

/-- The text of so many bytes from an offset on, if it starts and stops between characters. -/
def slice? (t : Text) (offset bytes : Nat) : Option Text := do
  let (_, behind) ← t.splitAtByte? offset
  let (slice, _) ← behind.splitAtByte? bytes
  return slice

theorem length_le_byteLength (t : Text) : t.length ≤ t.byteLength := by
  induction t with
  | nil => exact Nat.le_refl 0
  | cons c t ih =>
    have hpos := c.utf8Size_pos
    rw [List.length_cons, byteLength_cons]
    omega

theorem byteLength_le_of_isPrefix {front t : Text} (h : front <+: t) :
    front.byteLength ≤ t.byteLength := by
  obtain ⟨back, rfl⟩ := h
  rw [byteLength_append]
  omega

/-- Behind a part in front, the text splits into that part and the rest. -/
theorem splitAtByte?_append (front back : Text) :
    splitAtByte? (front ++ back) front.byteLength = some (front, back) := by
  induction front with
  | nil => cases back <;> rfl
  | cons c front ih =>
    obtain ⟨bytes, hbytes⟩ := Nat.exists_eq_add_of_lt c.utf8Size_pos
    have hlength : byteLength (c :: front) = bytes + byteLength front + 1 := by
      rw [byteLength_cons, hbytes]
      omega
    have hfits : c.utf8Size ≤ bytes + byteLength front + 1 := by omega
    have hrest : bytes + byteLength front + 1 - c.utf8Size = byteLength front := by omega
    rw [hlength, List.cons_append, splitAtByte?, if_pos hfits, hrest, ih]
    rfl

theorem isBoundary_append (front back : Text) :
    isBoundary (front ++ back) front.byteLength = true := by
  rw [isBoundary, splitAtByte?_append]
  rfl

theorem slice?_append (front middle back : Text) :
    slice? (front ++ middle ++ back) front.byteLength middle.byteLength = some middle := by
  rw [slice?, List.append_assoc, splitAtByte?_append]
  simp only [Option.bind_eq_bind, Option.bind_some, splitAtByte?_append]
  rfl

/-- The two bytes of one character, and the offset within it. -/
example : isBoundary "aé".toList 3 ∧ ¬ isBoundary "aé".toList 2 ∧
    slice? "aéb".toList 1 2 = some "é".toList := by decide

/-! ## Encoded texts -/

/-- The bytes of a text in UTF-8. -/
def encode (t : Text) : List UInt8 :=
  t.flatMap String.utf8EncodeChar

@[simp] theorem encode_nil : encode [] = [] :=
  rfl

@[simp] theorem encode_cons (c : Char) (t : Text) :
    encode (c :: t) = String.utf8EncodeChar c ++ encode t :=
  rfl

@[simp] theorem encode_append (a b : Text) : encode (a ++ b) = encode a ++ encode b :=
  List.flatMap_append

@[simp] theorem length_encode (t : Text) : (encode t).length = byteLength t := by
  induction t with
  | nil => rfl
  | cons c t ih => simp [ih]

/-- A character is its only byte, or all of its bytes are above those of such characters. -/
theorem toNat_of_mem_utf8EncodeChar {c : Char} {b : UInt8} (h : b ∈ String.utf8EncodeChar c) :
    b.toNat = c.toNat ∨ 128 ≤ b.toNat := by
  simp only [String.utf8EncodeChar] at h
  split at h
  · left
    rename_i hval
    rw [List.mem_singleton.mp h]
    simp only [UInt8.toNat_ofNat', Char.toNat]
    omega
  · right
    have hhigh : ∀ n, 128 ≤ n → n < 256 → b = UInt8.ofNat n → 128 ≤ b.toNat := by
      rintro n hle hlt rfl
      simp only [UInt8.toNat_ofNat']
      omega
    split at h
    · simp only [List.mem_cons, List.not_mem_nil, or_false] at h
      rcases h with h | h <;> exact hhigh _ (by omega) (by omega) h
    · split at h
      · simp only [List.mem_cons, List.not_mem_nil, or_false] at h
        rcases h with h | h | h <;> exact hhigh _ (by omega) (by omega) h
      · simp only [List.mem_cons, List.not_mem_nil, or_false] at h
        rcases h with h | h | h | h <;> exact hhigh _ (by omega) (by omega) h

/-- The byte of a character of one byte occurs in no other character. -/
theorem eq_of_mem_utf8EncodeChar {c single : Char} {b : UInt8} (hsingle : single.toNat < 128)
    (hb : b.toNat = single.toNat) (h : b ∈ String.utf8EncodeChar c) : c = single := by
  rcases toNat_of_mem_utf8EncodeChar h with heq | hle
  · exact Char.toNat_inj.mp (heq.symm.trans hb)
  · omega

end Excerpt.Text
