import Excerpt.Json.Numeral
import Excerpt.Json.Quoted

/-! # Tokens that read back

A text in quotes and the numeral of an integer of 64 bits are read as what they were written for.
A numeral has no end mark of its own, so it needs something behind it that cannot continue it. -/

namespace Excerpt.Json

/-! ## Quoted texts -/

theorem unit?_control :
    ∀ n < 32, unit? '0' '0' (hexDigit (n / 16)) (hexDigit (n % 16)) = some n := by
  decide

theorem readQuoted_shortEscape {e c : Char} (h : shortEscape? e = some c) (rest : Text) :
    readQuoted ('\\' :: e :: rest) = (readQuoted rest).map fun (t, rest) => (c :: t, rest) := by
  rw [readQuoted]
  · simp only [h]
  · rintro a b d f tail rfl _
    simp [shortEscape?] at h

theorem readQuoted_control {c : Char} (h : c.toNat < 32) (rest : Text) :
    readQuoted ('\\' :: 'u' :: '0' :: '0' :: hexDigit (c.toNat / 16) :: hexDigit (c.toNat % 16)
      :: rest) = (readQuoted rest).map fun (t, rest) => (c :: t, rest) := by
  have hlow : isLowSurrogate c.toNat = false := by
    simp only [isLowSurrogate, Bool.and_eq_false_iff, decide_eq_false_iff_not]
    omega
  have hhigh : isHighSurrogate c.toNat = false := by
    simp only [isHighSurrogate, Bool.and_eq_false_iff, decide_eq_false_iff_not]
    omega
  simp only [readQuoted, unit?_control _ h, hlow, hhigh, Bool.false_eq_true, if_false,
    Char.ofNat_toNat]

theorem readQuoted_plain {c : Char} (hquote : c ≠ '"') (hslash : c ≠ '\\')
    (hcontrol : ¬ c.toNat < 32) (rest : Text) :
    readQuoted (c :: rest) = (readQuoted rest).map fun (t, rest) => (c :: t, rest) := by
  rw [readQuoted]
  · simp [hslash, hcontrol]
  · exact hquote
  · intro a b d e tail h _
    exact hslash h
  · intro d tail h _
    exact hslash h

theorem readQuoted_escapeChar (c : Char) (rest : Text) :
    readQuoted (escapeChar c ++ rest) = (readQuoted rest).map fun (t, rest) => (c :: t, rest) := by
  by_cases hshort : c ∈ ['"', '\\', '\x08', '\x0c', '\n', '\r', '\t']
  · simp only [List.mem_cons, List.not_mem_nil, or_false] at hshort
    rcases hshort with rfl | rfl | rfl | rfl | rfl | rfl | rfl <;>
      exact readQuoted_shortEscape rfl rest
  · simp only [List.mem_cons, not_or] at hshort
    obtain ⟨hquote, hslash, hb, hf, hn, hr, ht, -⟩ := hshort
    simp only [escapeChar, hquote, hslash, hb, hf, hn, hr, ht, if_false]
    split
    · rename_i hcontrol
      exact readQuoted_control hcontrol rest
    · rename_i hcontrol
      exact readQuoted_plain hquote hslash hcontrol rest

theorem readQuoted_escape (t rest : Text) :
    readQuoted (escape t ++ '"' :: rest) = some (t, rest) := by
  induction t with
  | nil => rfl
  | cons c t ih =>
    have hcons : escape (c :: t) ++ '"' :: rest = escapeChar c ++ (escape t ++ '"' :: rest) := by
      simp [escape]
    rw [hcons, readQuoted_escapeChar, ih]
    rfl

/-! ## Numerals of integers -/

/-- An integer fits 64 bits, signed or unsigned. -/
def Fits : Number → Prop
  | .integer n => -(Nat.pow 2 63 : Nat) ≤ n ∧ n ≤ maxWord
  | .real _ => True

/-- Nothing of the text could be read as a part of a numeral in front of it. -/
def EndsNumeral (rest : Text) : Prop :=
  ∀ c tail, rest = c :: tail → c.isDigit = false ∧ c ≠ '.' ∧ c ≠ 'e' ∧ c ≠ 'E'

theorem spanDigits_append {digits rest : Text} (hdigits : ∀ c ∈ digits, c.isDigit)
    (hrest : EndsNumeral rest) : spanDigits (digits ++ rest) = (digits, rest) := by
  have hfirst : rest.takeWhile Char.isDigit = [] ∧ rest.dropWhile Char.isDigit = rest := by
    cases rest with
    | nil => exact ⟨rfl, rfl⟩
    | cons c tail => simp [(hrest c tail rfl).1]
  rw [spanDigits, List.takeWhile_append_of_pos hdigits, List.dropWhile_append_of_pos hdigits,
    hfirst.1, hfirst.2, List.append_nil]

theorem le_ofDigitChars (digits : Text) (word : Nat) : word ≤ Nat.ofDigitChars 10 digits word := by
  rw [Nat.ofDigitChars_eq_ofDigitChars_zero]
  have hword : word ≤ 10 ^ digits.length * word :=
    Nat.le_mul_of_pos_left word (Nat.pow_pos (by decide))
  omega

/-- All digits fit if their number does, since the word only grows. -/
theorem gatherDigits_eq {digits : Text} {word : Nat} (hdigits : ∀ c ∈ digits, c.isDigit)
    (hfits : Nat.ofDigitChars 10 digits word ≤ maxWord) :
    gatherDigits word digits = (Nat.ofDigitChars 10 digits word, []) := by
  induction digits generalizing word with
  | nil => rfl
  | cons c digits ih =>
    rw [Nat.ofDigitChars_cons] at hfits ⊢
    have hfit : digitFits word c := decide_eq_true (Nat.le_trans (le_ofDigitChars digits _) hfits)
    have hc : c.isDigit := hdigits c List.mem_cons_self
    rw [gatherDigits, hc, hfit, Bool.and_self, if_pos rfl]
    exact ih (fun d hd => hdigits d (List.mem_cons_of_mem c hd)) hfits

theorem exists_toDigits_cons (n : Nat) :
    ∃ c digits, Nat.toDigits 10 n = c :: digits ∧ c.isDigit := by
  cases hdigits : Nat.toDigits 10 n with
  | nil => exact absurd hdigits Nat.toDigits_ne_nil
  | cons c digits =>
    exact ⟨c, digits, rfl, Nat.isDigit_of_mem_toDigits (by decide) (Nat.le_refl 10)
      (hdigits ▸ List.mem_cons_self)⟩

/-- Only the numeral of zero starts with a zero. -/
theorem head?_toDigits_ne {n : Nat} (h : 0 < n) : (Nat.toDigits 10 n).head? ≠ some '0' := by
  induction n using Nat.base_induction 10 (by decide) with
  | single n hn =>
    have hdigit : ∀ m < 10, 0 < m → m.digitChar ≠ '0' := by decide
    rw [Nat.toDigits_of_lt_base hn]
    simpa using hdigit n hn h
  | digit n k hk hn ih =>
    rw [← Nat.toDigits_append_toDigits (by decide) hn hk, List.head?_append]
    obtain ⟨c, digits, hdigits, -⟩ := exists_toDigits_cons n
    simpa [hdigits] using ih hn

theorem readUnsigned_toDigits {n : Nat} (hn : n ≤ maxWord) (negative : Bool) {rest : Text}
    (hrest : EndsNumeral rest) :
    readUnsigned negative (Nat.toDigits 10 n ++ rest) = some (integerOf negative n, rest) := by
  have hdigits : ∀ c ∈ Nat.toDigits 10 n, c.isDigit := fun c hc =>
    Nat.isDigit_of_mem_toDigits (by decide) (by decide) hc
  have hgather : gatherDigits 0 (Nat.toDigits 10 n) = (n, []) := by
    rw [gatherDigits_eq hdigits (by rwa [Nat.ofDigitChars_ten_toDigits]),
      Nat.ofDigitChars_ten_toDigits]
  have hzero : ∀ c tail, Nat.toDigits 10 n ≠ '0' :: c :: tail := by
    intro c tail h
    rcases Nat.eq_zero_or_pos n with rfl | hpos
    · simp at h
    · exact head?_toDigits_ne hpos (by rw [h]; rfl)
  have hne : Nat.toDigits 10 n ≠ [] := Nat.toDigits_ne_nil
  rw [readUnsigned, spanDigits_append hdigits hrest]
  split
  · simp_all
  · simp_all
  · rename_i digits tail h1 h2 h
    obtain ⟨rfl, rfl⟩ := Prod.mk.inj h
    simp only [hgather]
    split
    · exact absurd rfl (hrest _ _ rfl).2.1
    · exact absurd rfl (hrest _ _ rfl).2.2.1
    · exact absurd rfl (hrest _ _ rfl).2.2.2
    · rfl

/-- The sign of an integer, and then its digits. -/
theorem numeral_integer (n : Int) :
    numeral (.integer n) =
      if n < 0 then '-' :: Nat.toDigits 10 n.natAbs else Nat.toDigits 10 n.natAbs := by
  cases n with
  | ofNat n => simp [numeral]
  | negSucc n => simp [numeral, Int.negSucc_lt_zero]

theorem exists_numeral_cons (n : Int) :
    ∃ c tail, numeral (.integer n) = c :: tail ∧ (c.isDigit ∨ c = '-') := by
  obtain ⟨c, digits, hdigits, hc⟩ := exists_toDigits_cons n.natAbs
  rw [numeral_integer, hdigits]
  split
  · exact ⟨'-', c :: digits, rfl, .inr rfl⟩
  · exact ⟨c, digits, rfl, .inl hc⟩

theorem integerOf_natAbs {n : Int} (hn : Fits (.integer n)) :
    integerOf (decide (n < 0)) n.natAbs = .integer n := by
  have hpow : Nat.pow 2 63 = 9223372036854775808 := rfl
  obtain ⟨hmin, -⟩ := hn
  by_cases hneg : n < 0
  · have hne : n.natAbs ≠ 0 := by omega
    have hle : n.natAbs ≤ Nat.pow 2 63 := by omega
    simp only [integerOf, hneg, decide_true, if_true, hne, hle, if_false, Number.integer.injEq]
    omega
  · simp only [integerOf, hneg, decide_false, Bool.false_eq_true, if_false, Number.integer.injEq]
    omega

theorem readNumber_numeral {n : Int} (hn : Fits (.integer n)) {rest : Text}
    (hrest : EndsNumeral rest) :
    readNumber (numeral (.integer n) ++ rest) = some (.integer n, rest) := by
  have hword : n.natAbs ≤ maxWord := by
    have hmax : maxWord = 18446744073709551615 := rfl
    have hpow : Nat.pow 2 63 = 9223372036854775808 := rfl
    obtain ⟨hmin, hle⟩ := hn
    omega
  have hread := readUnsigned_toDigits hword (decide (n < 0)) hrest
  rw [integerOf_natAbs hn] at hread
  rw [numeral_integer]
  by_cases hneg : n < 0
  · rw [if_pos hneg, List.cons_append, readNumber]
    simpa only [hneg, decide_true] using hread
  · rw [if_neg hneg, readNumber]
    · simpa only [hneg, decide_false] using hread
    · intro tail htail
      -- a digit is no sign
      obtain ⟨c, digits, hdigits, hc⟩ := exists_toDigits_cons n.natAbs
      rw [hdigits] at htail
      obtain ⟨rfl, -⟩ := List.cons.inj htail
      exact absurd hc (by decide)

/-! ## Integers that were read -/

theorem fits_of_realOf {negative : Bool} {word : Nat} {exponent : Int} {n : Number}
    (h : realOf negative word exponent = some n) : Fits n := by
  obtain ⟨x, -, hx⟩ := Option.bind_eq_some_iff.mp h
  obtain rfl := Option.some.inj hx
  trivial

theorem fits_of_bind_realOf {negative : Bool} {word : Nat} {exponent : Int} {t rest : Text}
    {n : Number}
    (h : ((realOf negative word exponent).bind fun x => some (x, t)) = some (n, rest)) :
    Fits n := by
  obtain ⟨x, hx, heq⟩ := Option.bind_eq_some_iff.mp h
  obtain ⟨rfl, -⟩ := Prod.mk.inj (Option.some.inj heq)
  exact fits_of_realOf hx

theorem fits_of_readExponent {negative : Bool} {word : Nat} {exponent : Int} {t rest : Text}
    {n : Number} (h : readExponent negative word exponent t = some (n, rest)) : Fits n := by
  unfold readExponent at h
  split at h
  split at h
  · simp at h
  · dsimp only at h
    split at h
    · split at h
      · obtain ⟨rfl, -⟩ := Prod.mk.inj (Option.some.inj h)
        trivial
      · simp at h
    · exact fits_of_bind_realOf h

theorem fits_of_readScaled {negative : Bool} {word : Nat} {exponent : Int} {t rest : Text}
    {n : Number} (h : readScaled negative word exponent t = some (n, rest)) : Fits n := by
  unfold readScaled at h
  split at h
  · exact fits_of_readExponent h
  · exact fits_of_readExponent h
  · exact fits_of_bind_realOf h

theorem fits_of_readFraction {negative : Bool} {word : Nat} {exponent : Int} {t rest : Text}
    {n : Number} (h : readFraction negative word exponent t = some (n, rest)) : Fits n := by
  unfold readFraction at h
  split at h
  · simp at h
  · exact fits_of_readScaled h

theorem gatherDigits_le {word : Nat} (hword : word ≤ maxWord) (t : Text) :
    (gatherDigits word t).1 ≤ maxWord := by
  induction t generalizing word with
  | nil => exact hword
  | cons c t ih =>
    rw [gatherDigits]
    split
    · rename_i hc
      exact ih (of_decide_eq_true (Bool.and_eq_true_iff.mp hc).2)
    · exact hword

theorem fits_integerOf {negative : Bool} {word : Nat} (hword : word ≤ maxWord) :
    Fits (integerOf negative word) := by
  have hmax : maxWord = 18446744073709551615 := rfl
  have hpow : Nat.pow 2 63 = 9223372036854775808 := rfl
  unfold integerOf
  split
  · split
    · trivial
    · split
      · simp only [Fits]
        omega
      · trivial
  · simp only [Fits]
    omega

theorem fits_of_readUnsigned {negative : Bool} {t rest : Text} {n : Number}
    (h : readUnsigned negative t = some (n, rest)) : Fits n := by
  unfold readUnsigned at h
  split at h
  · simp at h
  · simp at h
  · rename_i digits tail _ _ _
    have hle := gatherDigits_le (Nat.zero_le maxWord) digits
    dsimp only at h
    split at h
    · exact fits_of_readFraction h
    · exact fits_of_readExponent h
    · exact fits_of_readExponent h
    · split at h
      · obtain ⟨rfl, -⟩ := Prod.mk.inj (Option.some.inj h)
        exact fits_integerOf hle
      · exact fits_of_bind_realOf h

/-- An integer that was read fits 64 bits. -/
theorem fits_of_readNumber {t rest : Text} {n : Number} (h : readNumber t = some (n, rest)) :
    Fits n := by
  unfold readNumber at h
  split at h <;> exact fits_of_readUnsigned h

end Excerpt.Json
