import Rollout.Version

/-!
# Which versions come first

The order of versions can be turned around (`compare_swap`), but it is no order on all texts: two
numerals are compared by value and a numeral and anything else as text, so that `2`, `10` and `1a`
stand in a circle (`compare_circle`).

A circle needs a position at which two segments are numerals and the third is none. At any other
position one rule compares all three segments (`OneRule.exists_cmp`), and versions with one rule at
each position are in order (`compare_trans`). On versions of numerals this order is that of the
lists of numbers (`compare_of_numeric`), which makes it a total preorder in which two versions are
equal if their numbers are (`compare_numeric`).
-/

namespace Rollout.Version

open Std (OrientedCmp OrientedOrd TransCmp)

/-! ## Segments -/

/-- Numerals are compared by value. -/
theorem compareSegments_of_number {a b : List Char} {m n : Nat} (ha : number? a = some m)
    (hb : number? b = some n) : compareSegments a b = Ord.compare m n := by
  unfold compareSegments
  rw [ha, hb]

/-- A segment that is no numeral is compared as text. -/
theorem compareSegments_of_text {a b : List Char} (h : number? a = none ∨ number? b = none) :
    compareSegments a b = Ord.compare a b := by
  unfold compareSegments
  rcases h with ha | hb
  · rw [ha]
  · rw [hb]
    cases number? a <;> rfl

instance : OrientedCmp compareSegments where
  eq_swap {a b} := by
    cases ha : number? a with
    | none =>
      rw [compareSegments_of_text (.inl ha), compareSegments_of_text (.inr ha)]
      exact OrientedOrd.eq_swap
    | some m =>
      cases hb : number? b with
      | none =>
        rw [compareSegments_of_text (.inr hb), compareSegments_of_text (.inl hb)]
        exact OrientedOrd.eq_swap
      | some n =>
        rw [compareSegments_of_number ha hb, compareSegments_of_number hb ha]
        exact OrientedOrd.eq_swap

/-- One rule compares each two of three segments, because not exactly two of them are numerals. -/
def OneRule (a b c : List Char) : Prop :=
  [a, b, c].countP (fun segment => (number? segment).isSome) ≠ 2

instance (a b c : List Char) : Decidable (OneRule a b c) :=
  inferInstanceAs (Decidable (_ ≠ _))

/-- One rule compares three numerals, and otherwise no two of the three are numerals. -/
theorem OneRule.numbers_or_text {a b c : List Char} (h : OneRule a b c) :
    (∃ l m n, number? a = some l ∧ number? b = some m ∧ number? c = some n) ∨
      (number? a = none ∨ number? b = none) ∧ (number? b = none ∨ number? c = none) ∧
        (number? a = none ∨ number? c = none) := by
  cases ha : number? a <;> cases hb : number? b <;> cases hc : number? c <;>
    simp [OneRule, ha, hb, hc] at h ⊢

/-- Under one rule three segments are compared as an order compares them. -/
theorem OneRule.exists_cmp {a b c : List Char} (h : OneRule a b c) :
    ∃ cmp : List Char → List Char → Ordering, TransCmp cmp ∧ compareSegments a b = cmp a b ∧
      compareSegments b c = cmp b c ∧ compareSegments a c = cmp a c := by
  rcases h.numbers_or_text with ⟨l, m, n, ha, hb, hc⟩ | ⟨hab, hbc, hac⟩
  · -- Numerals are compared as their values are, which is an order on all segments.
    have hvalue : ∀ {x y : List Char} {i j : Nat}, number? x = some i → number? y = some j →
        compareSegments x y = compareOn (fun segment => (number? segment).getD 0) x y := by
      intro x y i j hx hy
      rw [compareSegments_of_number hx hy, compareOn, hx, hy]
      rfl
    exact ⟨_, inferInstance, hvalue ha hb, hvalue hb hc, hvalue ha hc⟩
  · exact ⟨Ord.compare, inferInstance, compareSegments_of_text hab, compareSegments_of_text hbc,
      compareSegments_of_text hac⟩

/-! ## Versions -/

/-- Two versions are compared the other way around with the opposite result. -/
theorem compare_swap (a b : String) : compare b a = (compare a b).swap := by
  have horiented : OrientedCmp (List.compareLex compareSegments) := inferInstance
  exact horiented.eq_swap

/-- A version is equal to itself. -/
theorem compare_self (a : String) : compare a a = .eq :=
  Ordering.eq_eq_of_eq_swap (compare_swap a a)

/-- At every position that three versions have, one rule compares their segments. -/
def Alike (a b c : String) : Prop :=
  ∀ x ∈ (segments a).zip ((segments b).zip (segments c)), OneRule x.1 x.2.1 x.2.2

instance (a b c : String) : Decidable (Alike a b c) :=
  inferInstanceAs (Decidable (∀ x ∈ _, _))

/-- Lists of segments are in order if at each position one rule compares them. -/
theorem isLE_compareLex_trans {as bs cs : List (List Char)}
    (hrule : ∀ x ∈ as.zip (bs.zip cs), OneRule x.1 x.2.1 x.2.2)
    (hab : (List.compareLex compareSegments as bs).isLE = true)
    (hbc : (List.compareLex compareSegments bs cs).isLE = true) :
    (List.compareLex compareSegments as cs).isLE = true := by
  induction as generalizing bs cs with
  | nil => exact List.isLE_compareLex_nil_left
  | cons a as ih =>
    cases bs with
    | nil => simp [List.compareLex_cons_nil] at hab
    | cons b bs =>
      cases cs with
      | nil => simp [List.compareLex_cons_nil] at hbc
      | cons c cs =>
        obtain ⟨cmp, htrans, hcmp, hcmp', hcmp''⟩ :=
          (hrule (a, b, c) List.mem_cons_self).exists_cmp
        rw [List.compareLex_cons_cons, Ordering.isLE_then_iff_and] at hab hbc ⊢
        rw [hcmp] at hab
        rw [hcmp'] at hbc
        rw [hcmp'']
        obtain ⟨hfirst, hrest⟩ := hab
        obtain ⟨hfirst', hrest'⟩ := hbc
        refine ⟨TransCmp.isLE_trans hfirst hfirst', ?_⟩
        -- The first position that differs in one of the two pairs differs in the outer one.
        rcases hrest with hlt | hrest
        · exact .inl (TransCmp.lt_of_lt_of_isLE hlt hfirst')
        · rcases hrest' with hlt' | hrest'
          · exact .inl (TransCmp.lt_of_isLE_of_lt hfirst hlt')
          · exact .inr (ih (fun x hx => hrule x (List.mem_cons_of_mem _ hx)) hrest hrest')

/-- Versions that are compared by one rule at each position are in order. -/
theorem compare_trans {a b c : String} (h : Alike a b c) (hab : compare a b ≠ .gt)
    (hbc : compare b c ≠ .gt) : compare a c ≠ .gt := by
  rw [ne_eq, Ordering.ne_gt_iff_isLE] at hab hbc ⊢
  exact isLE_compareLex_trans h hab hbc

/-- The order of versions is total, in that it can be turned around, and it is transitive unless at
some position exactly two of three segments are numerals. -/
theorem compare_preorder (a b c : String) :
    compare b a = (compare a b).swap ∧
      (Alike a b c → compare a b ≠ .gt → compare b c ≠ .gt → compare a c ≠ .gt) :=
  ⟨compare_swap a b, compare_trans⟩

/-- Numerals and other segments may stand at one position, as long as there are not exactly two
numerals. -/
theorem compare_preorder_sample :
    compare "4.rc1" "4.10" = (compare "4.10" "4.rc1").swap ∧ Alike "4.10" "4.rc1" "4.rc2" ∧
      compare "4.10" "4.rc2" ≠ .gt := by
  have halike : Alike "4.10" "4.rc1" "4.rc2" := by decide
  obtain ⟨hswap, htrans⟩ := compare_preorder "4.10" "4.rc1" "4.rc2"
  exact ⟨hswap, halike, htrans halike (by decide) (by decide)⟩

/-- A numeral comes before a higher one, that one comes before a text, and the text comes before the
first. -/
theorem compare_circle :
    compare "2" "10" = .lt ∧ compare "10" "1a" = .lt ∧ compare "2" "1a" = .gt := by
  decide

/-! ## Versions of numerals -/

/-- The numbers of some segments are that of the first and those of the others. -/
theorem exists_of_mapM_cons {a : List Char} {as : List (List Char)} {ns : List Nat}
    (h : (a :: as).mapM number? = some ns) :
    ∃ n rest, number? a = some n ∧ as.mapM number? = some rest ∧ ns = n :: rest := by
  simp only [List.mapM_cons, Option.bind_eq_bind, Option.bind_eq_some_iff, Option.pure_def,
    Option.some.injEq] at h
  obtain ⟨n, hn, rest, hrest, rfl⟩ := h
  exact ⟨n, rest, hn, hrest, rfl⟩

/-- Lists of numerals are compared as lists of their values. -/
theorem compareLex_of_mapM {as bs : List (List Char)} {m n : List Nat}
    (ha : as.mapM number? = some m) (hb : bs.mapM number? = some n) :
    List.compareLex compareSegments as bs = Ord.compare m n := by
  induction as generalizing bs m n with
  | nil =>
    obtain rfl : [] = m := Option.some.inj ha
    cases bs with
    | nil =>
      obtain rfl : [] = n := Option.some.inj hb
      rfl
    | cons b bs =>
      -- A list that has ended comes first, as the list of its numbers does.
      obtain ⟨_, _, -, -, rfl⟩ := exists_of_mapM_cons hb
      rfl
  | cons a as ih =>
    obtain ⟨i, m, hi, hm, rfl⟩ := exists_of_mapM_cons ha
    cases bs with
    | nil =>
      obtain rfl : [] = n := Option.some.inj hb
      rfl
    | cons b bs =>
      obtain ⟨j, n, hj, hn, rfl⟩ := exists_of_mapM_cons hb
      -- The first segments decide as their values do, and else the others.
      rw [List.compareLex_cons_cons, List.compare_cons_cons, compareSegments_of_number hi hj,
        ih hm hn]

/-- Every segment of a version of numerals is one. -/
theorem isSome_number?_of_mem {as : List (List Char)} {ns : List Nat}
    (h : as.mapM number? = some ns) : ∀ segment ∈ as, (number? segment).isSome = true := by
  induction as generalizing ns with
  | nil => simp
  | cons a as ih =>
    obtain ⟨n, rest, hn, hrest, -⟩ := exists_of_mapM_cons h
    refine List.forall_mem_cons.2 ⟨?_, ih hrest⟩
    rw [hn]
    rfl

/-- Versions of numerals are compared by one rule at each position. -/
theorem alike_of_numeric {a b c : String} (ha : (numbers? a).isSome = true)
    (hb : (numbers? b).isSome = true) (hc : (numbers? c).isSome = true) : Alike a b c := by
  obtain ⟨_, ha⟩ := Option.isSome_iff_exists.1 ha
  obtain ⟨_, hb⟩ := Option.isSome_iff_exists.1 hb
  obtain ⟨_, hc⟩ := Option.isSome_iff_exists.1 hc
  intro x hx
  obtain ⟨hfirst, hrest⟩ := List.of_mem_zip (a := x.1) (b := x.2) hx
  obtain ⟨hsecond, hthird⟩ := List.of_mem_zip (a := x.2.1) (b := x.2.2) hrest
  simp [OneRule, isSome_number?_of_mem ha _ hfirst, isSome_number?_of_mem hb _ hsecond,
    isSome_number?_of_mem hc _ hthird]

variable {a b : String} {m n : List Nat}

/-- Versions of numerals are compared as the lists of their numbers. -/
theorem compare_of_numeric (ha : numbers? a = some m) (hb : numbers? b = some n) :
    compare a b = Ord.compare m n :=
  compareLex_of_mapM ha hb

/-- Lists of numbers are compared lexicographically, and a list that begins another one is the
smaller of the two. -/
theorem compare_numbers_eq_lt_iff (m n : List Nat) : Ord.compare m n = .lt ↔ m < n := by
  induction m generalizing n with
  | nil => cases n <;> simp
  | cons i m ih =>
    cases n with
    | nil => simp
    | cons j n =>
      rw [List.compare_cons_cons, Ordering.then_eq_lt, ih, Nat.compare_eq_lt, Nat.compare_eq_eq,
        List.cons_lt_cons_iff]

/-- A version of numerals comes before another one if its list of numbers is smaller. -/
theorem compare_eq_lt_iff_of_numeric (ha : numbers? a = some m) (hb : numbers? b = some n) :
    compare a b = .lt ↔ m < n := by
  rw [compare_of_numeric ha hb, compare_numbers_eq_lt_iff]

/-- Versions of numerals are equal in order if their numbers are the same. -/
theorem compare_eq_eq_iff_of_numeric (ha : numbers? a = some m) (hb : numbers? b = some n) :
    compare a b = .eq ↔ m = n := by
  rw [compare_of_numeric ha hb]
  exact Std.compare_eq_iff_eq

/-- A version of numerals comes after another one if its list of numbers is greater. -/
theorem compare_eq_gt_iff_of_numeric (ha : numbers? a = some m) (hb : numbers? b = some n) :
    compare a b = .gt ↔ n < m := by
  rw [compare_swap b a, Ordering.swap_eq_gt]
  exact compare_eq_lt_iff_of_numeric hb ha

/-- Any two versions are compared the other way around with the opposite result, and each is equal
to itself. Versions of numerals are compared as their lists of numbers are lexicographically, where
a list that begins another one is the smaller, so that on them the order is total and transitive and
two are equal exactly if their numbers are. -/
theorem compare_numeric (a b : String) :
    compare a b = (compare b a).swap ∧ compare a a = .eq ∧
    ∀ m n, numbers? a = some m → numbers? b = some n →
      (compare a b = .lt ↔ m < n) ∧ (compare a b = .eq ↔ m = n) ∧ (compare a b = .gt ↔ n < m) ∧
      (compare a b ≠ .gt ∨ compare b a ≠ .gt) ∧
      ∀ c, (numbers? c).isSome = true → compare a b ≠ .gt → compare b c ≠ .gt →
        compare a c ≠ .gt := by
  refine ⟨compare_swap b a, compare_self a, ?_⟩
  intro m n ha hb
  have hlt : compare a b = .lt ↔ m < n := compare_eq_lt_iff_of_numeric ha hb
  have hgt : compare a b = .gt ↔ n < m := compare_eq_gt_iff_of_numeric ha hb
  refine ⟨hlt, compare_eq_eq_iff_of_numeric ha hb, hgt, ?_, ?_⟩
  · -- If the first comes after the second, the second does not come after the first.
    by_cases hafter : compare a b = .gt
    · right
      rw [compare_swap a b, hafter]
      decide
    · exact .inl hafter
  · intro c hc
    exact compare_trans (alike_of_numeric (Option.isSome_of_mem ha) (Option.isSome_of_mem hb) hc)

/-- A sign and leading zeros do not count, and the greatest number is still one. -/
theorem compare_numeric_sample :
    numbers? "+4.007.18446744073709551615" = some [4, 7, 18446744073709551615] ∧
      compare "+4.007.18446744073709551615" "4.7.18446744073709551615" = .eq ∧
      compare "+4.007.18446744073709551615" "4.7.18446744073709551615.0" = .lt := by
  have hsigned : numbers? "+4.007.18446744073709551615" =
      some [4, 7, 18446744073709551615] := by decide
  have hplain : numbers? "4.7.18446744073709551615" = some [4, 7, 18446744073709551615] := by
    decide
  have hlonger : numbers? "4.7.18446744073709551615.0" =
      some [4, 7, 18446744073709551615, 0] := by decide
  obtain ⟨-, -, hsame⟩ := compare_numeric "+4.007.18446744073709551615" "4.7.18446744073709551615"
  obtain ⟨-, -, hless⟩ :=
    compare_numeric "+4.007.18446744073709551615" "4.7.18446744073709551615.0"
  exact ⟨hsigned, (hsame _ _ hsigned hplain).2.1.2 rfl,
    (hless _ _ hsigned hlonger).1.2 (by decide)⟩

end Rollout.Version
