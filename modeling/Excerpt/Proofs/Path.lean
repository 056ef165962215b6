import Excerpt.Path
import Mathlib.Data.List.Induction
import Mathlib.Tactic.ByContra

/-! # Paths and those above them

A path has steps: the root or a leading dot, and then the parts that lead somewhere. The path above
it is the shortest beginning of its spelling that has all of its steps but the last. Going up like
that comes to an end at the empty path or at the root. -/

namespace Excerpt.Path

/-! ## Parts -/

theorem parts_eq_splitOn (t : Text) : parts t = t.splitOn '/' := by
  induction t with
  | nil => rfl
  | cons c t ih =>
    rw [parts, ih, List.splitOn_cons_eq_if_modifyHead]
    cases hparts : t.splitOn '/' with
    | nil => exact absurd hparts (List.splitOn_ne_nil '/' t)
    | cons part others => simp

theorem ofParts_cons {part : Text} {others : List Text} (h : others ≠ []) :
    ofParts (part :: others) = part ++ '/' :: ofParts others := by
  cases others with
  | nil => exact absurd rfl h
  | cons next others => rfl

theorem ofParts_eq_intercalate (all : List Text) : ofParts all = ['/'].intercalate all := by
  induction all with
  | nil => rfl
  | cons part others ih =>
    by_cases h : others = []
    · simp [h, ofParts]
    · rw [ofParts_cons h, ih, List.intercalate_cons_of_ne_nil h, List.append_assoc,
        List.singleton_append]

theorem parts_ne_nil (t : Text) : parts t ≠ [] := by
  rw [parts_eq_splitOn]
  exact List.splitOn_ne_nil '/' t

theorem parts_of_not_mem {t : Text} (h : '/' ∉ t) : parts t = [t] := by
  rw [parts_eq_splitOn, List.splitOn_eq_singleton h]

theorem parts_append_slash (front back : Text) :
    parts (front ++ '/' :: back) = parts front ++ parts back := by
  simp only [parts_eq_splitOn, List.splitOn_append_cons_self]

theorem ofParts_parts (t : Text) : ofParts (parts t) = t := by
  rw [ofParts_eq_intercalate, parts_eq_splitOn, List.intercalate_splitOn]

theorem parts_ofParts {all : List Text} (hne : all ≠ []) (hslash : ∀ part ∈ all, '/' ∉ part) :
    parts (ofParts all) = all := by
  rw [ofParts_eq_intercalate, parts_eq_splitOn, List.splitOn_intercalate '/' hslash hne]

/-- A text has no slash, or there is a last one. -/
theorem not_mem_or_exists_slash (t : Text) :
    '/' ∉ t ∨ ∃ front last, t = front ++ '/' :: last ∧ '/' ∉ last := by
  induction t with
  | nil => exact .inl (by simp)
  | cons c t ih =>
    rcases ih with h | ⟨front, last, rfl, hlast⟩
    · by_cases hc : c = '/'
      · exact .inr ⟨[], t, by rw [hc, List.nil_append], h⟩
      · exact .inl (by simp [h, Ne.symm hc])
    · exact .inr ⟨c :: front, last, rfl, hlast⟩

theorem not_mem_of_mem_parts {t part : Text} (h : part ∈ parts t) : '/' ∉ part := by
  induction t generalizing part with
  | nil =>
    obtain rfl := List.mem_singleton.mp h
    simp
  | cons c t ih =>
    rw [parts] at h
    split at h
    · rcases List.mem_cons.mp h with rfl | h
      · simp
      · exact ih h
    · rename_i hc
      cases hparts : parts t with
      | nil => exact absurd hparts (parts_ne_nil t)
      | cons first others =>
        rw [hparts] at h ih
        rcases List.mem_cons.mp h with rfl | h
        · have hfirst := ih List.mem_cons_self
          simp [hfirst, Ne.symm hc]
        · exact ih (List.mem_cons_of_mem first h)

/-! ## Steps -/

/-- The parts of a path that lead somewhere. -/
def names (path : Text) : List Text :=
  (parts path).filter (!isVoid ·)

/-- The steps of a path. A dot counts only as the first part. -/
def steps (path : Text) : List Text :=
  if isAbsolute path then ['/'] :: names path
  else if (parts path).head? = some ['.'] then ['.'] :: names path
  else names path

theorem names_of_not_mem {t : Text} (h : '/' ∉ t) : names t = if isVoid t then [] else [t] := by
  rw [names, parts_of_not_mem h]
  by_cases hvoid : isVoid t <;> simp [hvoid]

theorem names_append_slash (front back : Text) :
    names (front ++ '/' :: back) = names front ++ names back := by
  rw [names, parts_append_slash, List.filter_append]
  rfl

theorem steps_of_not_mem {t : Text} (h : '/' ∉ t) : steps t = if t = [] then [] else [t] := by
  have habsolute : isAbsolute t = false := by
    cases t with
    | nil => rfl
    | cons c t =>
      have hc : c ≠ '/' := fun hc => h (hc ▸ List.mem_cons_self)
      simp [isAbsolute, hc]
  rw [steps, habsolute, parts_of_not_mem h, names_of_not_mem h]
  by_cases hdot : t = ['.']
  · subst hdot
    rfl
  · cases t with
    | nil => rfl
    | cons c t =>
      have hvoid : isVoid (c :: t) = false := by simpa [isVoid] using hdot
      simp [hvoid, hdot]

theorem head?_parts_append_slash (front back : Text) :
    (parts (front ++ '/' :: back)).head? = (parts front).head? := by
  rw [parts_append_slash]
  cases hparts : parts front with
  | nil => exact absurd hparts (parts_ne_nil front)
  | cons part others => rfl

/-- The steps of a path that goes on behind a slash. -/
theorem steps_append_slash (front back : Text) :
    steps (front ++ '/' :: back) =
      (if front = [] then [['/']] else steps front) ++ names back := by
  rw [steps, names_append_slash, head?_parts_append_slash]
  cases front with
  | nil => rfl
  | cons c front =>
    have habsolute : isAbsolute (c :: front ++ '/' :: back) = isAbsolute (c :: front) := rfl
    rw [habsolute, if_neg (List.cons_ne_nil c front), steps]
    split
    · rfl
    · split <;> rfl

/-! ## Beginnings of a path -/

/-- The number of characters in the steps of a path. -/
def weight (path : Text) : Nat :=
  (steps path).flatten.length

theorem weight_of_not_mem {t : Text} (h : '/' ∉ t) : weight t = t.length := by
  rw [weight, steps_of_not_mem h]
  cases t <;> simp

theorem weight_append_slash (front back : Text) :
    weight (front ++ '/' :: back) =
      (if front = [] then 1 else weight front) + (names back).flatten.length := by
  rw [weight, steps_append_slash, List.flatten_append, List.length_append]
  congr 1
  split <;> rfl

theorem length_flatten_names_le {t : Text} (h : '/' ∉ t) : (names t).flatten.length ≤ t.length := by
  rw [names_of_not_mem h]
  split <;> simp

theorem length_flatten_names_of_not_isVoid {t : Text} (h : '/' ∉ t) (hvoid : isVoid t = false) :
    (names t).flatten.length = t.length := by
  simp [names_of_not_mem h, hvoid]

/-- A dot may become the start of a part, but no character is ever lost again. -/
theorem weight_le_concat (t : Text) (c : Char) : weight t ≤ weight (t ++ [c]) := by
  by_cases hc : c = '/'
  · subst hc
    rw [weight_append_slash]
    split
    · rename_i ht
      rw [ht]
      exact Nat.zero_le _
    · exact Nat.le_add_right _ _
  · rcases not_mem_or_exists_slash t with h | ⟨front, last, rfl, hlast⟩
    · rw [weight_of_not_mem h, weight_of_not_mem (by simp [h, Ne.symm hc]), List.length_append]
      exact Nat.le_add_right _ _
    · rw [List.append_assoc, List.cons_append, weight_append_slash, weight_append_slash]
      apply Nat.add_le_add_left
      by_cases hvoid : isVoid last
      · simp [names_of_not_mem hlast, hvoid]
      · have hgrown : isVoid (last ++ [c]) = false := by
          cases last with
          | nil => exact absurd rfl hvoid
          | cons d last => simp [isVoid]
        rw [length_flatten_names_of_not_isVoid (by simp [hlast, Ne.symm hc]) hgrown,
          List.length_append]
        exact Nat.le_add_right_of_le (length_flatten_names_le hlast)

theorem weight_le_of_isPrefix {front t : Text} (h : front <+: t) : weight front ≤ weight t := by
  obtain ⟨back, rfl⟩ := h
  induction back generalizing front with
  | nil => simp
  | cons c back ih =>
    calc weight front ≤ weight (front ++ [c]) := weight_le_concat front c
      _ ≤ weight (front ++ [c] ++ back) := ih
      _ = weight (front ++ c :: back) := by rw [List.append_assoc, List.singleton_append]

/-- The paths with nothing behind their last step. -/
def EndsInStep (t : Text) : Prop :=
  t = ['/'] ∨ '/' ∉ t ∨ ∃ front last, t = front ++ '/' :: last ∧ '/' ∉ last ∧ isVoid last = false

theorem EndsInStep.weight_lt {t : Text} {c : Char} (h : EndsInStep (t ++ [c])) :
    weight t < weight (t ++ [c]) := by
  rcases h with h | h | ⟨front, last, h, hlast, hvoid⟩
  · have ht : t = [] := by simpa using congrArg List.dropLast h
    rw [h, ht]
    exact Nat.zero_lt_one
  · rw [weight_of_not_mem h, weight_of_not_mem fun ht => h (List.mem_append_left _ ht)]
    simp
  · cases last using List.reverseRecOn with
    | nil => simp [isVoid] at hvoid
    | append_singleton last d =>
      rw [← List.cons_append, ← List.append_assoc] at h
      obtain ⟨rfl, rfl⟩ : t = front ++ '/' :: last ∧ c = d := by simpa using List.append_inj' h rfl
      have hslash : '/' ∉ last := fun hmem => hlast (List.mem_append_left _ hmem)
      rw [List.append_assoc, List.cons_append, weight_append_slash, weight_append_slash,
        length_flatten_names_of_not_isVoid hlast hvoid, List.length_append]
      have hle := length_flatten_names_le hslash
      simp only [List.length_singleton]
      omega

/-- No shorter beginning has the same steps. -/
theorem EndsInStep.eq_of_isPrefix {front t : Text} (h : EndsInStep t) (hfront : front <+: t)
    (hsteps : steps front = steps t) : front = t := by
  cases t using List.reverseRecOn with
  | nil => exact List.prefix_nil.mp hfront
  | append_singleton t c =>
    rcases List.prefix_concat_iff.mp hfront with rfl | hfront
    · rfl
    · have hweight : weight front = weight (t ++ [c]) := by rw [weight, weight, hsteps]
      have hle := weight_le_of_isPrefix hfront
      have hlt := h.weight_lt
      omega

theorem steps_eq_nil_iff {path : Text} : steps path = [] ↔ path = [] := by
  constructor
  · intro h
    cases path with
    | nil => rfl
    | cons c path =>
      have hpositive : 0 < weight [c] := by
        by_cases hc : c = '/'
        · rw [hc]
          exact Nat.zero_lt_one
        · rw [weight_of_not_mem (by simpa using Ne.symm hc)]
          exact Nat.zero_lt_one
      have hle : weight [c] ≤ weight (c :: path) :=
        weight_le_of_isPrefix (List.prefix_append [c] path)
      have hzero : weight (c :: path) = 0 := by simp [weight, h]
      omega
  · rintro rfl
    rfl

/-! ## Where a path is cut -/

/-- A beginning that ends where a part ends. -/
def BreaksAt (rest front : Text) : Prop :=
  front = [] ∨ front = rest ∨ ∃ more, rest = front ++ '/' :: more

theorem leader_append_drop (path : Text) :
    leader path ++ path.drop (leader path).length = path := by
  unfold leader
  split <;> rfl

theorem names_cons_slash (t : Text) : names ('/' :: t) = names t :=
  names_append_slash [] t

theorem names_dot_slash (t : Text) : names ('.' :: '/' :: t) = names t :=
  names_append_slash ['.'] t

/-- A path that is cut where a part ends keeps its leader. -/
theorem leader_append_of_breaksAt {path front : Text}
    (h : BreaksAt (path.drop (leader path).length) front) :
    leader (leader path ++ front) = leader path ∧ names (leader path ++ front) = names front := by
  revert h
  unfold leader
  split
  · intro _
    exact ⟨rfl, names_cons_slash front⟩
  · rintro (rfl | rfl | ⟨more, h⟩)
    · exact ⟨rfl, rfl⟩
    · exact ⟨rfl, rfl⟩
    · simp at h
  · rintro (rfl | rfl | ⟨more, h⟩)
    · exact ⟨rfl, rfl⟩
    · exact ⟨rfl, (names_dot_slash _).trans (names_cons_slash _).symm⟩
    · cases front with
      | nil => exact ⟨rfl, rfl⟩
      | cons c front =>
        obtain rfl : c = '/' := by simpa using (List.cons.inj h).1.symm
        exact ⟨rfl, (names_dot_slash front).trans (names_cons_slash front).symm⟩
  · rename_i hroot hdot hlead
    intro h
    have h : BreaksAt path front := h
    refine ⟨?_, rfl⟩
    rw [List.nil_append]
    rcases h with rfl | rfl | ⟨more, rfl⟩
    · rfl
    · split
      · exact (hroot _ rfl).elim
      · exact (hdot rfl).elim
      · exact (hlead _ rfl).elim
      · rfl
    · split
      · exact (hroot _ rfl).elim
      · exact (hlead _ rfl).elim
      · exact (hlead _ rfl).elim
      · rfl

theorem names_drop_leader (path : Text) :
    names (path.drop (leader path).length) = names path := by
  have hwhole : BreaksAt (path.drop (leader path).length) (path.drop (leader path).length) :=
    .inr (.inl rfl)
  rw [← (leader_append_of_breaksAt hwhole).2, leader_append_drop]

theorem head?_parts_eq_dot_iff {t : Text} :
    (parts t).head? = some ['.'] ↔ t = ['.'] ∨ ∃ back, t = '.' :: '/' :: back := by
  constructor
  · intro h
    obtain ⟨others, hparts⟩ := List.head?_eq_some_iff.mp h
    rw [← ofParts_parts t, hparts]
    cases others with
    | nil => exact .inl rfl
    | cons part others => exact .inr ⟨_, rfl⟩
  · rintro (rfl | ⟨back, rfl⟩)
    · rfl
    · exact head?_parts_append_slash ['.'] back

/-- The leader is the first step, if there is one. -/
theorem steps_eq_leader (path : Text) :
    steps path = (if leader path = [] then [] else [leader path]) ++ names path := by
  unfold leader
  split
  · rfl
  · rfl
  · rename_i back
    have hhead : (parts ('.' :: '/' :: back)).head? = some ['.'] :=
      head?_parts_eq_dot_iff.mpr (.inr ⟨back, rfl⟩)
    rw [steps, if_neg (by simp [isAbsolute]), if_pos hhead]
    rfl
  · rename_i hroot hdot hlead
    have habsolute : isAbsolute path = false := by
      cases path with
      | nil => rfl
      | cons c path =>
        have hc : c ≠ '/' := fun hc => hroot path (by rw [hc])
        simp [isAbsolute, hc]
    have hhead : (parts path).head? ≠ some ['.'] := by
      rw [Ne, head?_parts_eq_dot_iff]
      rintro (h | ⟨back, h⟩)
      · exact hdot h
      · exact hlead back h
    rw [steps, habsolute, if_neg Bool.false_ne_true, if_neg hhead]
    rfl

/-! ## The last part -/

theorem filter_dropVoid (reversed : List Text) :
    (dropVoid reversed).filter (!isVoid ·) = reversed.filter (!isVoid ·) := by
  induction reversed with
  | nil => rfl
  | cons part reversed ih =>
    rw [dropVoid, List.dropWhile_cons]
    split
    · rename_i hvoid
      rw [List.filter_cons_of_neg (by simp [hvoid])]
      exact ih
    · rfl

theorem isVoid_of_dropVoid {reversed others : List Text} {part : Text}
    (h : dropVoid reversed = part :: others) : isVoid part = false := by
  induction reversed with
  | nil => simp [dropVoid] at h
  | cons first reversed ih =>
    rw [dropVoid, List.dropWhile_cons] at h
    split at h
    · exact ih h
    · rename_i hvoid
      obtain ⟨rfl, -⟩ := List.cons.inj h
      simpa using hvoid

theorem dropVoid_isSuffix (reversed : List Text) : dropVoid reversed <:+ reversed :=
  List.dropWhile_suffix _

theorem ofParts_append {front back : List Text} (hfront : front ≠ []) (hback : back ≠ []) :
    ofParts (front ++ back) = ofParts front ++ '/' :: ofParts back := by
  induction front with
  | nil => exact absurd rfl hfront
  | cons part front ih =>
    cases front with
    | nil => exact ofParts_cons hback
    | cons next front =>
      have hne : next :: front ≠ [] := List.cons_ne_nil next front
      rw [List.cons_append, ofParts_cons (by simp), ih hne, ofParts_cons hne, List.append_assoc,
        List.cons_append]

/-- A path without its leader, cut in front of its last step and of all that leads nowhere there. -/
structure CutAt (rest front last : Text) : Prop where
  names_eq : names rest = names front ++ [last]
  not_mem_last : '/' ∉ last
  breaks : front = [] ∨ ∃ more, rest = front ++ '/' :: more
  ends : front = [] ∨ ∃ part, '/' ∉ part ∧ isVoid part = false ∧
    (front = part ∨ ∃ before, front = before ++ '/' :: part)

theorem names_ofParts {all : List Text} (h : ∀ part ∈ all, '/' ∉ part) :
    names (ofParts all) = all.filter (!isVoid ·) := by
  by_cases hall : all = []
  · rw [hall]
    rfl
  · rw [names, parts_ofParts hall h]

theorem cutAt_of_dropVoid {rest last : Text} {others : List Text}
    (h : dropVoid (parts rest).reverse = last :: others) :
    CutAt rest (ofParts (dropVoid others).reverse) last := by
  obtain ⟨behind, hbehind⟩ := dropVoid_isSuffix (parts rest).reverse
  obtain ⟨between, hbetween⟩ := dropVoid_isSuffix others
  have hothers : others.reverse = (dropVoid others).reverse ++ between.reverse := by
    rw [← List.reverse_append, hbetween]
  have hparts : parts rest = (dropVoid others).reverse ++
      (between.reverse ++ last :: behind.reverse) := by
    rw [← List.reverse_reverse (parts rest), ← hbehind, h]
    simp [hothers]
  have hslash : ∀ part ∈ parts rest, '/' ∉ part := fun part => not_mem_of_mem_parts
  rw [hparts] at hslash
  have hkept : ∀ part ∈ (dropVoid others).reverse, '/' ∉ part :=
    fun part hpart => hslash part (List.mem_append_left _ hpart)
  refine ⟨?_, hslash last (by simp), ?_, ?_⟩
  · have hreversed : (names rest).reverse = last :: (dropVoid others).filter (!isVoid ·) := by
      rw [names, ← List.filter_reverse, ← filter_dropVoid, h, filter_dropVoid,
        List.filter_cons_of_pos (by simp [isVoid_of_dropVoid h])]
    rw [names_ofParts hkept, List.filter_reverse, ← List.reverse_cons, ← hreversed,
      List.reverse_reverse]
  · by_cases hnil : (dropVoid others).reverse = []
    · exact .inl (by rw [hnil]; rfl)
    · refine .inr ⟨ofParts (between.reverse ++ last :: behind.reverse), ?_⟩
      rw [← ofParts_append hnil (by simp), ← hparts, ofParts_parts]
  · cases hothers : dropVoid others with
    | nil => exact .inl rfl
    | cons part earlier =>
      rw [hothers, List.reverse_cons] at hkept
      refine .inr ⟨part, hkept part (by simp), isVoid_of_dropVoid hothers, ?_⟩
      rw [List.reverse_cons]
      by_cases hnil : earlier.reverse = []
      · exact .inl (by rw [hnil]; rfl)
      · exact .inr ⟨_, ofParts_append hnil (List.cons_ne_nil part [])⟩

theorem endsInStep_leader (path : Text) : EndsInStep (leader path) := by
  unfold leader
  split
  · exact .inl rfl
  all_goals exact .inr (.inl (by simp))

/-- A path that is cut has nothing behind its last step. -/
theorem CutAt.endsInStep {path front last : Text}
    (h : CutAt (path.drop (leader path).length) front last) :
    EndsInStep (leader path ++ front) := by
  obtain ⟨hnames, -, hbreaks, rfl | ⟨part, hslash, hvoid, rfl | ⟨before, rfl⟩⟩⟩ := h
  · rw [List.append_nil]
    exact endsInStep_leader path
  · revert hnames hbreaks
    unfold leader
    split
    · intro _ _
      exact .inr (.inr ⟨[], front, rfl, hslash, hvoid⟩)
    · intro hnames _
      have hnone : names [] = [] := rfl
      simp [hnone] at hnames
    · rintro - (rfl | ⟨more, hmore⟩)
      · simp [isVoid] at hvoid
      · cases front with
        | nil => simp [isVoid] at hvoid
        | cons c front =>
          obtain rfl : '/' = c := (List.cons.inj hmore).1
          exact absurd List.mem_cons_self hslash
    · intro _ _
      exact .inr (.inl hslash)
  · exact .inr (.inr ⟨leader path ++ before, part, (List.append_assoc _ _ _).symm, hslash, hvoid⟩)

/-! ## The path above -/

/-- The root is spelled with slashes, and with dots behind them. -/
def IsRoot (path : Text) : Prop :=
  steps path = [['/']]

/-- The path above another one is the shortest beginning that has all its steps but the last. There
is none above the root. -/
structure IsParent (path above : Text) : Prop where
  not_isRoot : ¬ IsRoot path
  exists_last : ∃ last, steps path = steps above ++ [last]
  isPrefix : above <+: path
  shortest : ∀ other, other <+: path → steps other = steps above → above.length ≤ other.length

theorem EndsInStep.shortest {path above other : Text} (h : EndsInStep above)
    (habove : above <+: path) (hother : other <+: path) (hsteps : steps other = steps above) :
    above.length ≤ other.length := by
  by_contra hlt
  have hprefix : other <+: above := List.prefix_of_prefix_length_le hother habove (by omega)
  rw [h.eq_of_isPrefix hprefix hsteps] at hlt
  exact hlt (Nat.le_refl _)

theorem CutAt.isParent {path front last : Text}
    (h : CutAt (path.drop (leader path).length) front last) :
    IsParent path (leader path ++ front) := by
  have hbreaks : BreaksAt (path.drop (leader path).length) front := h.breaks.imp id .inr
  obtain ⟨hleader, hnames⟩ := leader_append_of_breaksAt hbreaks
  have hsteps : steps path = steps (leader path ++ front) ++ [last] := by
    rw [steps_eq_leader (leader path ++ front), hleader, hnames, List.append_assoc, ← h.names_eq,
      names_drop_leader, ← steps_eq_leader]
  have hprefix : leader path ++ front <+: path := by
    conv_rhs => rw [← leader_append_drop path]
    rcases h.breaks with rfl | ⟨more, hmore⟩
    · simp
    · rw [hmore]
      simp
  refine ⟨?_, ⟨last, hsteps⟩, hprefix, fun other => h.endsInStep.shortest hprefix⟩
  intro hroot
  rw [IsRoot, hsteps] at hroot
  have hlast : last = ['/'] := by simpa using congrArg List.getLast? hroot
  have hslash := h.not_mem_last
  rw [hlast] at hslash
  exact hslash List.mem_cons_self

/-- A path of which no part is left has no step but its leader. -/
theorem steps_of_dropVoid_eq_nil {path : Text}
    (h : dropVoid (parts (path.drop (leader path).length)).reverse = []) :
    steps path = if leader path = [] then [] else [leader path] := by
  have hreversed : (names (path.drop (leader path).length)).reverse = [] := by
    rw [names, ← List.filter_reverse, ← filter_dropVoid, h, List.filter_nil]
  rw [names_drop_leader, List.reverse_eq_nil_iff] at hreversed
  rw [steps_eq_leader, hreversed, List.append_nil]

theorem isParent_of_parent? {path above : Text} (h : parent? path = some above) :
    IsParent path above := by
  unfold parent? at h
  dsimp only at h
  split at h
  · rename_i last others hparts
    obtain rfl := Option.some.inj h
    exact (cutAt_of_dropVoid hparts).isParent
  · rename_i hparts
    split at h
    · rename_i hdot
      obtain rfl := Option.some.inj h
      have hsteps : steps path = [['.']] := by
        rw [steps_of_dropVoid_eq_nil hparts, eq_of_beq hdot]
        rfl
      refine ⟨?_, ⟨['.'], hsteps⟩, List.nil_prefix, fun other _ _ => Nat.zero_le _⟩
      rw [IsRoot, hsteps]
      decide
    · simp at h

theorem leader_cases (path : Text) :
    leader path = [] ∨ leader path = ['/'] ∨ leader path = ['.'] := by
  unfold leader
  split <;> simp

theorem of_parent?_eq_none {path : Text} (h : parent? path = none) : path = [] ∨ IsRoot path := by
  unfold parent? at h
  dsimp only at h
  split at h
  · simp at h
  · rename_i hparts
    have hsteps := steps_of_dropVoid_eq_nil hparts
    rcases leader_cases path with hleader | hleader | hleader
    · rw [hleader, if_pos rfl] at hsteps
      exact .inl (steps_eq_nil_iff.mp hsteps)
    · rw [hleader, if_neg (by simp)] at hsteps
      exact .inr hsteps
    · simp [hleader] at h

theorem IsParent.unique {path a b : Text} (ha : IsParent path a) (hb : IsParent path b) :
    a = b := by
  obtain ⟨last, hlast⟩ := ha.exists_last
  obtain ⟨last', hlast'⟩ := hb.exists_last
  have hsteps : steps a = steps b := (List.append_inj' (hlast.symm.trans hlast') rfl).1
  have hle := ha.shortest b hb.isPrefix hsteps.symm
  have hle' := hb.shortest a ha.isPrefix hsteps
  have hprefix : a <+: b := List.prefix_of_prefix_length_le ha.isPrefix hb.isPrefix hle
  exact hprefix.eq_of_length (Nat.le_antisymm hle hle')

theorem IsParent.ne_nil {path above : Text} (h : IsParent path above) : path ≠ [] := by
  rintro rfl
  obtain ⟨last, hlast⟩ := h.exists_last
  simp [steps_eq_nil_iff.mpr] at hlast

/-- Dropping the last part of the spelling leads to the path above, and to nothing else. -/
theorem parent?_eq_some_iff {path above : Text} :
    parent? path = some above ↔ IsParent path above := by
  constructor
  · exact isParent_of_parent?
  · intro h
    cases hparent : parent? path with
    | none =>
      rcases of_parent?_eq_none hparent with hnil | hroot
      · exact absurd hnil h.ne_nil
      · exact absurd hroot h.not_isRoot
    | some other => rw [(isParent_of_parent? hparent).unique h]

theorem IsParent.length_lt {path above : Text} (h : IsParent path above) :
    above.length < path.length := by
  apply Nat.lt_of_le_of_ne h.isPrefix.length_le
  intro hlength
  obtain ⟨last, hlast⟩ := h.exists_last
  rw [h.isPrefix.eq_of_length hlength] at hlast
  simp at hlast

/-! ## Going up -/

/-- The paths from one upwards, to the empty path or the root. The rules do not call the program. -/
inductive Ascent : Text → List Text → Prop where
  | top {path : Text} : path = [] ∨ IsRoot path → Ascent path [path]
  | up {path above : Text} {others : List Text} : IsParent path above → Ascent above others →
      Ascent path (path :: others)

theorem Ascent.unique {path : Text} {a b : List Text} (ha : Ascent path a) (hb : Ascent path b) :
    a = b := by
  induction ha generalizing b with
  | top htop =>
    cases hb with
    | top => rfl
    | up hparent _ =>
      rcases htop with hnil | hroot
      · exact absurd hnil hparent.ne_nil
      · exact absurd hroot hparent.not_isRoot
  | up hparent _ ih =>
    cases hb with
    | top htop =>
      rcases htop with hnil | hroot
      · exact absurd hnil hparent.ne_nil
      · exact absurd hroot hparent.not_isRoot
    | up hparent' hothers =>
      obtain rfl := hparent.unique hparent'
      rw [ih hothers]

/-- Every step up makes a path shorter, so that its length bounds their number. -/
theorem ascent_ancestorsUpTo {fuel : Nat} {path : Text} (h : path.length ≤ fuel) :
    Ascent path (path :: ancestorsUpTo fuel path) := by
  induction fuel generalizing path with
  | zero =>
    have hnil : path = [] := List.eq_nil_of_length_eq_zero (Nat.le_zero.mp h)
    exact .top (.inl hnil)
  | succ fuel ih =>
    rw [ancestorsUpTo]
    cases hparent : parent? path with
    | none => exact .top (of_parent?_eq_none hparent)
    | some above =>
      have habove := parent?_eq_some_iff.mp hparent
      apply Ascent.up habove
      apply ih
      have hlt := habove.length_lt
      omega

theorem ascent_selfAndAncestors (path : Text) : Ascent path (selfAndAncestors path) :=
  ascent_ancestorsUpTo (Nat.le_refl _)

theorem Ascent.exists_getLast {path : Text} {all : List Text} (h : Ascent path all) :
    ∃ top, all.getLast? = some top ∧ (top = [] ∨ IsRoot top) := by
  induction h with
  | top htop => exact ⟨_, rfl, htop⟩
  | up _ hothers ih =>
    obtain ⟨top, hlast, htop⟩ := ih
    refine ⟨top, ?_, htop⟩
    rw [List.getLast?_cons, hlast]
    rfl

end Excerpt.Path
