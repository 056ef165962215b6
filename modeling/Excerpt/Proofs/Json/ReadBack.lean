import Excerpt.Json.Printer
import Excerpt.Proofs.Json.Normal

/-! # Values that read back

What the reader returns is written in a form that it reads as the same value, wherever a layout
puts spaces. Real numbers are left aside: their digits are rounded once more when they are read. -/

namespace Excerpt.Json

/-! ## Spaces and ends -/

theorem skipSpace_append {space : Text} (h : ∀ c ∈ space, isSpace c) (t : Text) :
    skipSpace (space ++ t) = skipSpace t :=
  List.dropWhile_append_of_pos h

theorem skipSpace_cons {c : Char} (h : isSpace c = false) (t : Text) :
    skipSpace (c :: t) = c :: t := by
  simp [skipSpace, h]

theorem endsNumeral_nil : EndsNumeral [] := by
  intro c tail h
  simp at h

/-- What can follow a value. -/
def marksBehind : Text :=
  [' ', '\t', '\n', '\r', ',', ']', '}']

theorem endsNumeral_of_mem {c : Char} (h : c ∈ marksBehind) (rest : Text) :
    EndsNumeral (c :: rest) := by
  have hmarks : marksBehind.all fun c => !c.isDigit && c != '.' && c != 'e' && c != 'E' := by
    decide
  intro d tail heq
  obtain ⟨rfl, -⟩ := List.cons.inj heq
  simpa [and_assoc] using List.all_eq_true.mp hmarks c h

theorem mem_of_isSpace {c : Char} (h : isSpace c) : c ∈ marksBehind := by
  simp only [isSpace, Bool.or_eq_true, beq_iff_eq] at h
  rcases h with ((rfl | rfl) | rfl) | rfl <;> decide

theorem endsNumeral_space_append {space : Text} (hspace : ∀ c ∈ space, isSpace c) {rest : Text}
    (h : EndsNumeral rest) : EndsNumeral (space ++ rest) := by
  cases space with
  | nil => exact h
  | cons c space => exact endsNumeral_of_mem (mem_of_isSpace (hspace c List.mem_cons_self)) _

/-! ## Series -/

/-- A reader takes a text as a value, with any spaces in front of it and anything behind it that
does not continue a numeral. The text starts with a mark of its own, so it cannot be taken for the
end of a series. -/
structure ReadsBack {α : Type} (item : Text → Option (α × Text)) (t : Text) (x : α) : Prop where
  starts : ∃ c tail, t = c :: tail ∧ isSpace c = false ∧ c ≠ ']' ∧ c ≠ '}'
  reads : ∀ space rest, (∀ c ∈ space, isSpace c) → EndsNumeral rest →
    item (space ++ (t ++ rest)) = some (x, rest)

/-- Texts with commas between them up to the closing mark, with `inner` in front of each text and
`outer` in front of the mark. -/
def series (close : Char) (inner outer : Text) : List Text → Text
  | [] => [close]
  | t :: ts => inner ++ t ++ ts.flatMap (fun t => ',' :: inner ++ t) ++ outer ++ [close]

section Series

variable {α β : Type} {item : Text → Option (α × Text)} {close : Char} {inner outer : Text}
  {text : β → Text} {result : β → α}

theorem readMore_flatMap (hclose : close = ']' ∨ close = '}') (hinner : ∀ c ∈ inner, isSpace c)
    (houter : ∀ c ∈ outer, isSpace c) {x : β} {xs : List β}
    (h : ∀ y ∈ x :: xs, ReadsBack item (text y) (result y)) {fuel : Nat} (hfuel : xs.length < fuel)
    (rest : Text) :
    readMore item close fuel (inner ++ (text x ++
      (xs.flatMap (fun y => ',' :: inner ++ text y) ++ (outer ++ close :: rest)))) =
      some ((x :: xs).map result, rest) := by
  have hmark : close ∈ marksBehind ∧ isSpace close = false ∧ close ≠ ',' := by
    rcases hclose with rfl | rfl <;> decide
  -- one round for each item: the mark behind it tells whether another one follows
  induction xs generalizing x fuel with
  | nil =>
    obtain _ | fuel := fuel
    · simp at hfuel
    · have hend : EndsNumeral (outer ++ close :: rest) :=
        endsNumeral_space_append houter (endsNumeral_of_mem hmark.1 rest)
      rw [List.flatMap_nil, List.nil_append, readMore,
        (h x List.mem_cons_self).reads inner _ hinner hend]
      dsimp only
      rw [skipSpace_append houter, skipSpace_cons hmark.2.1]
      simp [hmark.2.2]
  | cons y ys ih =>
    obtain _ | fuel := fuel
    · simp at hfuel
    · have hlength : ys.length < fuel := by simpa using hfuel
      have hys := ih (fun z hz => h z (List.mem_cons_of_mem x hz)) hlength
      have hcomma : ∀ t, EndsNumeral (',' :: t) := endsNumeral_of_mem (by decide)
      rw [List.flatMap_cons, List.append_assoc, List.append_assoc, List.cons_append, readMore,
        (h x List.mem_cons_self).reads inner _ hinner (hcomma _)]
      dsimp only
      rw [skipSpace_cons (by decide)]
      exact congrArg (Option.map fun more => (result x :: more.1, more.2)) hys

theorem length_le_length_flatMap {f : β → Text} (h : ∀ x, 0 < (f x).length) (xs : List β) :
    xs.length ≤ (xs.flatMap f).length := by
  induction xs with
  | nil => exact Nat.le_refl 0
  | cons x xs ih =>
    have hx := h x
    rw [List.flatMap_cons, List.length_append, List.length_cons]
    omega

theorem readSeries_series (hclose : close = ']' ∨ close = '}') (hinner : ∀ c ∈ inner, isSpace c)
    (houter : ∀ c ∈ outer, isSpace c) {xs : List β}
    (h : ∀ x ∈ xs, ReadsBack item (text x) (result x)) (rest : Text) :
    readSeries item close (series close inner outer (xs.map text) ++ rest) =
      some (xs.map result, rest) := by
  have hspace : isSpace close = false := by
    rcases hclose with rfl | rfl <;> decide
  cases xs with
  | nil =>
    rw [List.map_nil, series, List.singleton_append, readSeries, skipSpace_cons hspace]
    simp
  | cons x xs =>
    have htext : series close inner outer ((x :: xs).map text) ++ rest = inner ++ (text x ++
        (xs.flatMap (fun y => ',' :: inner ++ text y) ++ (outer ++ close :: rest))) := by
      simp [series, List.flatMap_map]
    obtain ⟨c, tail, hc, hcspace, hsquare, hcurly⟩ := (h x List.mem_cons_self).starts
    have hne : c ≠ close := by
      rcases hclose with rfl | rfl
      · exact hsquare
      · exact hcurly
    -- every further item has a comma of its own, so the text is longer than the rounds it needs
    have hfuel : xs.length < (series close inner outer ((x :: xs).map text) ++ rest).length := by
      have hcommas : xs.length ≤ (xs.flatMap fun y => ',' :: inner ++ text y).length :=
        length_le_length_flatMap (fun y => by simp) xs
      simp only [htext, List.length_append, List.length_cons]
      omega
    have hmore := readMore_flatMap hclose hinner houter h hfuel rest
    rw [← htext] at hmore
    obtain ⟨t, ht⟩ : ∃ t, skipSpace (series close inner outer ((x :: xs).map text) ++ rest) =
        c :: t := by
      rw [htext, skipSpace_append hinner, hc, List.cons_append, skipSpace_cons hcspace]
      exact ⟨_, rfl⟩
    rw [readSeries, ht]
    simpa only [hne, if_false] using hmore

end Series

/-! ## Layouts -/

/-- A layout puts nothing but spaces around marks and values. -/
structure Layout.IsSpaced (layout : Layout) : Prop where
  lineBreak : ∀ level, ∀ c ∈ layout.lineBreak level, isSpace c
  colon : ∃ space, layout.colon = ':' :: space ∧ ∀ c ∈ space, isSpace c

theorem Layout.isSpaced_pretty : Layout.pretty.IsSpaced where
  lineBreak := by
    intro level c hc
    rcases List.mem_cons.mp hc with rfl | hc
    · rfl
    · rw [List.eq_of_mem_replicate hc]
      rfl
  colon := ⟨[' '], rfl, by simp [isSpace]⟩

/-- A key and its value. -/
def writeMember (layout : Layout) (level : Nat) (m : String × Value) : Text :=
  quote m.1.toList ++ layout.colon ++ write layout level m.2

theorem writeItems_cons (layout : Layout) (level : Nat) (v : Value) (rest : List Value) :
    writeItems layout level (v :: rest) =
      ',' :: layout.lineBreak level ++ write layout level v ++ writeItems layout level rest :=
  rfl

theorem writeItems_eq (layout : Layout) (level : Nat) (items : List Value) :
    writeItems layout level items =
      (items.map (write layout level)).flatMap fun t => ',' :: layout.lineBreak level ++ t := by
  induction items with
  | nil => rfl
  | cons v items ih => rw [writeItems_cons, ih, List.map_cons, List.flatMap_cons]

theorem writeMembers_cons (layout : Layout) (level : Nat) (m : String × Value)
    (rest : List (String × Value)) :
    writeMembers layout level (m :: rest) =
      ',' :: layout.lineBreak level ++ quote m.1.toList ++ layout.colon
        ++ write layout level m.2 ++ writeMembers layout level rest :=
  rfl

theorem writeMembers_eq (layout : Layout) (level : Nat) (members : List (String × Value)) :
    writeMembers layout level members =
      (members.map (writeMember layout level)).flatMap fun t =>
        ',' :: layout.lineBreak level ++ t := by
  induction members with
  | nil => rfl
  | cons m members ih => simp [writeMembers_cons, writeMember, ih]

theorem write_list (layout : Layout) (level : Nat) (items : List Value) :
    write layout level (.list items) = '[' :: series ']' (layout.lineBreak (level + 1))
      (layout.lineBreak level) (items.map (write layout (level + 1))) := by
  cases items with
  | nil => rfl
  | cons v items =>
    rw [List.map_cons, series, ← writeItems_eq]
    rfl

theorem write_record (layout : Layout) (level : Nat) (members : List (String × Value)) :
    write layout level (.record members) = '{' :: series '}' (layout.lineBreak (level + 1))
      (layout.lineBreak level) (members.map (writeMember layout (level + 1))) := by
  cases members with
  | nil => rfl
  | cons m members =>
    have hwrite : write layout level (.record (m :: members)) =
        '{' :: layout.lineBreak (level + 1) ++ quote m.1.toList ++ layout.colon
          ++ write layout (level + 1) m.2 ++ writeMembers layout (level + 1) members
          ++ layout.lineBreak level ++ ['}'] := rfl
    simp [hwrite, series, writeMembers_eq, writeMember]

/-! ## Values -/

theorem readValue_space_append {space : Text} (h : ∀ c ∈ space, isSpace c) (depth : Nat)
    (t : Text) : readValue depth (space ++ t) = readValue depth t := by
  unfold readValue
  rw [skipSpace_append h]

theorem ReadsBack.value {depth : Nat} {t : Text} {v : Value} {c : Char} {tail : Text}
    (ht : t = c :: tail) (hspace : isSpace c = false) (hsquare : c ≠ ']') (hcurly : c ≠ '}')
    (h : ∀ rest, EndsNumeral rest → readValue depth (t ++ rest) = some (v, rest)) :
    ReadsBack (readValue depth) t v where
  starts := ⟨c, tail, ht, hspace, hsquare, hcurly⟩
  reads := by
    intro space rest hspaces hrest
    rw [readValue_space_append hspaces, h rest hrest]

variable {layout : Layout}

theorem readsBack_null (depth level : Nat) :
    ReadsBack (readValue depth) (write layout level .null) .null := by
  refine .value rfl (by decide) (by decide) (by decide) fun rest _ => ?_
  cases depth <;> rfl

theorem readsBack_bool (depth level : Nat) (b : Bool) :
    ReadsBack (readValue depth) (write layout level (.bool b)) (.bool b) := by
  cases b with
  | true =>
    refine .value rfl (by decide) (by decide) (by decide) fun rest _ => ?_
    cases depth <;> rfl
  | false =>
    refine .value rfl (by decide) (by decide) (by decide) fun rest _ => ?_
    cases depth <;> rfl

theorem readValue_quote (depth : Nat) (t : Text) :
    readValue depth ('"' :: t) =
      (readQuoted t).map fun (s, rest) => (.text (String.ofList s), rest) := by
  cases depth <;> rfl

theorem readsBack_text (depth level : Nat) (s : String) :
    ReadsBack (readValue depth) (write layout level (.text s)) (.text s) := by
  refine .value rfl (by decide) (by decide) (by decide) fun rest _ => ?_
  have hquote : write layout level (.text s) ++ rest = '"' :: (escape s.toList ++ '"' :: rest) :=
    congrArg ('"' :: ·) (List.append_assoc (escape s.toList) ['"'] rest)
  rw [hquote, readValue_quote, readQuoted_escape]
  simp only [Option.map_some, String.ofList_toList]

/-- What the values that are not numbers start with. -/
def marksInFront : Text :=
  ['n', 't', 'f', '"', '[', '{']

theorem ne_of_startsNumeral {c d : Char} (hc : c.isDigit ∨ c = '-')
    (hd : d ∈ marksBehind ++ marksInFront) : c ≠ d := by
  have hmarks : (marksBehind ++ marksInFront).all fun d => !(d.isDigit || d == '-') := by
    decide
  rintro rfl
  have hnot := List.all_eq_true.mp hmarks c hd
  simp only [Bool.not_eq_true', Bool.or_eq_false_iff, beq_eq_false_iff_ne] at hnot
  rcases hc with hdigit | hminus
  · exact absurd hdigit (by simp [hnot.1])
  · exact hnot.2 hminus

theorem isSpace_of_startsNumeral {c : Char} (hc : c.isDigit ∨ c = '-') : isSpace c = false := by
  cases hspace : isSpace c with
  | false => rfl
  | true =>
    exact absurd rfl (ne_of_startsNumeral hc (List.mem_append_left _ (mem_of_isSpace hspace)))

theorem readValue_numeral {c : Char} (hc : c.isDigit ∨ c = '-') (depth : Nat) (t : Text) :
    readValue depth (c :: t) = (readNumber (c :: t)).map fun (n, rest) => (.number n, rest) := by
  unfold readValue
  rw [skipSpace_cons (isSpace_of_startsNumeral hc)]
  split <;> rename_i heq
  · exact absurd (List.cons.inj heq).1 (ne_of_startsNumeral hc (by decide))
  · exact absurd (List.cons.inj heq).1 (ne_of_startsNumeral hc (by decide))
  · exact absurd (List.cons.inj heq).1 (ne_of_startsNumeral hc (by decide))
  · exact absurd (List.cons.inj heq).1 (ne_of_startsNumeral hc (by decide))
  · exact absurd (List.cons.inj heq).1 (ne_of_startsNumeral hc (by decide))
  · exact absurd (List.cons.inj heq).1 (ne_of_startsNumeral hc (by decide))
  · rfl

theorem readsBack_integer (depth level : Nat) {n : Int} (hn : Fits (.integer n)) :
    ReadsBack (readValue depth) (write layout level (.number (.integer n)))
      (.number (.integer n)) := by
  obtain ⟨c, tail, hnumeral, hc⟩ := exists_numeral_cons n
  have hwrite : write layout level (.number (.integer n)) = numeral (.integer n) := rfl
  rw [hwrite]
  refine .value hnumeral (isSpace_of_startsNumeral hc) (ne_of_startsNumeral hc (by decide))
    (ne_of_startsNumeral hc (by decide)) fun rest hrest => ?_
  have hread := readNumber_numeral hn hrest
  rw [hnumeral, List.cons_append] at hread ⊢
  rw [readValue_numeral hc, hread]
  rfl

theorem readValue_list (depth : Nat) (t : Text) :
    readValue (depth + 1) ('[' :: t) =
      (readSeries (readValue depth) ']' t).map fun (items, rest) => (.list items, rest) :=
  rfl

theorem readValue_record (depth : Nat) (t : Text) :
    readValue (depth + 1) ('{' :: t) =
      (readSeries (readMember (readValue depth)) '}' t).map fun (members, rest) =>
        (.record (Value.sortMembers members), rest) :=
  rfl

/-- A list whose items are read, each as some value, is read as the list of these values. -/
theorem readsBack_list {α : Type} (hlayout : layout.IsSpaced) {depth level : Nat} {xs : List α}
    {value result : α → Value}
    (h : ∀ x ∈ xs, ReadsBack (readValue depth) (write layout (level + 1) (value x)) (result x)) :
    ReadsBack (readValue (depth + 1)) (write layout level (.list (xs.map value)))
      (.list (xs.map result)) := by
  refine .value (write_list ..) (by decide) (by decide) (by decide) fun rest _ => ?_
  have hseries := readSeries_series (.inl rfl) (hlayout.lineBreak (level + 1))
    (hlayout.lineBreak level) h rest
  rw [write_list, List.map_map, List.cons_append, readValue_list]
  exact congrArg (Option.map fun (items, rest) => (Value.list items, rest)) hseries

theorem readsBack_member (hlayout : layout.IsSpaced) {depth level : Nat} {m : String × Value}
    (h : ReadsBack (readValue depth) (write layout level m.2) m.2) :
    ReadsBack (readMember (readValue depth)) (writeMember layout level m) m where
  starts := ⟨'"', _, rfl, by decide, by decide, by decide⟩
  reads := by
    intro space rest hspace hrest
    obtain ⟨colon, hcolon, hcolonSpace⟩ := hlayout.colon
    have htext : writeMember layout level m ++ rest = '"' :: (escape m.1.toList ++
        '"' :: ':' :: (colon ++ (write layout level m.2 ++ rest))) := by
      simp [writeMember, quote, hcolon]
    have hmark : isSpace ':' = false := by decide
    rw [htext, readMember, skipSpace_append hspace, skipSpace_cons (by decide)]
    simp only [readQuoted_escape, skipSpace_cons hmark, h.reads colon rest hcolonSpace hrest,
      Option.map_some, String.ofList_toList]

/-- A record is read with its members sorted. -/
theorem readsBack_record (hlayout : layout.IsSpaced) {depth level : Nat}
    {members : List (String × Value)}
    (h : ∀ m ∈ members, ReadsBack (readValue depth) (write layout (level + 1) m.2) m.2) :
    ReadsBack (readValue (depth + 1)) (write layout level (.record members))
      (.record (Value.sortMembers members)) := by
  refine .value (write_record ..) (by decide) (by decide) (by decide) fun rest _ => ?_
  have hmembers : ∀ m ∈ members, ReadsBack (readMember (readValue depth))
      (writeMember layout (level + 1) m) (id m) := fun m hm => readsBack_member hlayout (h m hm)
  have hseries := readSeries_series (.inr rfl) (hlayout.lineBreak (level + 1))
    (hlayout.lineBreak level) hmembers rest
  rw [List.map_id] at hseries
  rw [write_record, List.cons_append, readValue_record, hseries]
  rfl

end Excerpt.Json

namespace Excerpt.Value

/-! ## Values without real numbers -/

mutual

/-- The numbers in a value from left to right. -/
def numbers : Value → List Number
  | .null => []
  | .bool _ => []
  | .number n => [n]
  | .text _ => []
  | .list items => numbersOfItems items
  | .record members => numbersOfMembers members

def numbersOfItems : List Value → List Number
  | [] => []
  | v :: rest => numbers v ++ numbersOfItems rest

def numbersOfMembers : List (String × Value) → List Number
  | [] => []
  | (_, v) :: rest => numbers v ++ numbersOfMembers rest

end

theorem numbersOfItems_cons (v : Value) (rest : List Value) :
    numbersOfItems (v :: rest) = numbers v ++ numbersOfItems rest :=
  rfl

theorem numbers_list (items : List Value) : numbers (.list items) = items.flatMap numbers := by
  change numbersOfItems items = items.flatMap numbers
  induction items with
  | nil => rfl
  | cons v rest ih => rw [numbersOfItems_cons, ih, List.flatMap_cons]

theorem numbersOfMembers_cons (m : String × Value) (rest : List (String × Value)) :
    numbersOfMembers (m :: rest) = numbers m.2 ++ numbersOfMembers rest :=
  rfl

theorem numbers_record (members : List (String × Value)) :
    numbers (.record members) = members.flatMap fun m => numbers m.2 := by
  change numbersOfMembers members = members.flatMap fun m => numbers m.2
  induction members with
  | nil => rfl
  | cons m rest ih => rw [numbersOfMembers_cons, ih, List.flatMap_cons]

/-- A value in normal form without real numbers reads back as it is. -/
theorem Normal.readsBack {layout : Json.Layout} (hlayout : layout.IsSpaced) {depth : Nat}
    {v : Value} (h : v.Normal depth) (hreal : ∀ x, .real x ∉ v.numbers) (level : Nat) :
    Json.ReadsBack (Json.readValue depth) (Json.write layout level v) v := by
  induction h generalizing level with
  | null => exact Json.readsBack_null _ level
  | bool _ b => exact Json.readsBack_bool _ level b
  | @number depth n hn =>
    cases n with
    | integer n => exact Json.readsBack_integer _ level hn
    | real x => exact absurd (List.mem_singleton.mpr rfl) (hreal x)
  | text _ s => exact Json.readsBack_text _ level s
  | @list depth items _ ih =>
    have hitems : ∀ v ∈ items, Json.ReadsBack (Json.readValue depth)
        (Json.write layout (level + 1) (id v)) (id v) := by
      intro v hv
      refine ih v hv (fun x hx => hreal x ?_) (level + 1)
      rw [numbers_list]
      exact List.mem_flatMap_of_mem hv hx
    simpa using Json.readsBack_list hlayout hitems
  | @record depth members hsorted _ ih =>
    have hmembers : ∀ m ∈ members, Json.ReadsBack (Json.readValue depth)
        (Json.write layout (level + 1) m.2) m.2 := by
      intro m hm
      refine ih m hm (fun x hx => hreal x ?_) (level + 1)
      rw [numbers_record]
      exact List.mem_flatMap_of_mem hm hx
    have hrecord := Json.readsBack_record hlayout hmembers
    rwa [hsorted.sortMembers_eq] at hrecord

end Excerpt.Value
