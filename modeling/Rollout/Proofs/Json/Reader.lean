import Rollout.Json.Reader
import Rollout.Proofs.Json.Writer

/-!
# Written values are read back

The machine that takes the tokens of a plain value delivers it to the frames that are open
(`IsPlain.delivers`): the items and members that are left complete the array or object that is
being read. Hence a plain value is read back from either of its texts (`read?_compact`,
`read?_pretty`).
-/

namespace Rollout.Json

open Token

namespace Reading

/-- Where a value is waited for, these tokens deliver it. -/
def Delivers (own : List Token) (j : Json) : Prop :=
  ∀ frames mayClose rest, (own ++ rest).foldlM step (value frames mayClose) =
    (deliver j frames).bind fun reading => rest.foldlM step reading

/-- The items that are left complete an array. -/
theorem foldlM_step_items {items : List Json} (h : ∀ j ∈ items, Delivers j.tokens j)
    (hne : items ≠ []) (taken : List Json) (frames : List Frame) (mayClose : Bool)
    (rest : List Token) :
    ([Token.comma].intercalate (items.map tokens) ++ .closeList :: rest).foldlM step
        (value (.list taken :: frames) mayClose) =
      (deliver (array (taken.reverse ++ items)) frames).bind fun reading =>
        rest.foldlM step reading := by
  -- By induction on the items that are left; those that were taken wait in the innermost frame.
  induction items generalizing taken mayClose with
  | nil => exact absurd rfl hne
  | cons j items ih =>
    obtain ⟨hj, hitems⟩ := List.forall_mem_cons.1 h
    cases items with
    | nil =>
      -- The last item is followed by the bracket, which completes the array.
      have hclose : step (next (.list (j :: taken) :: frames)) .closeList =
          deliver (array (taken.reverse ++ [j])) frames := by
        rw [step, List.reverse_cons]
      rw [List.map_singleton, List.intercalate_singleton, hj]
      show (Token.closeList :: rest).foldlM step (next (.list (j :: taken) :: frames)) = _
      rw [List.foldlM_cons, hclose]
      rfl
    | cons k items =>
      -- The item is followed by a comma, after which the others are waited for.
      have hlater := ih hitems (List.cons_ne_nil k items) (j :: taken) false
      rw [List.map_cons, List.map_cons, List.intercalate_cons_cons, List.append_assoc,
        List.append_assoc, hj]
      rw [List.map_cons, List.reverse_cons, List.append_assoc] at hlater
      exact hlater

/-- The members that are left complete an object. -/
theorem foldlM_step_members {members : List (String × Json)}
    (h : ∀ m ∈ members, Delivers m.2.tokens m.2) (hne : members ≠ [])
    (taken : List (String × Json)) (frames : List Frame) (mayClose : Bool) (rest : List Token) :
    ([Token.comma].intercalate
        (members.map fun m => .text (some m.1) :: .colon :: m.2.tokens) ++
        .closeRecord :: rest).foldlM step (name frames (some taken) mayClose) =
      (deliver (object (taken.reverse ++ members)) frames).bind fun reading =>
        rest.foldlM step reading := by
  induction members generalizing taken mayClose with
  | nil => exact absurd rfl hne
  | cons m members ih =>
    obtain ⟨hm, hmembers⟩ := List.forall_mem_cons.1 h
    obtain ⟨key, j⟩ := m
    -- A name and a colon open a frame, and the value makes it the frame of the object again.
    have hmember (later : List Token) :
        (.text (some key) :: .colon :: j.tokens ++ later).foldlM step
            (name frames (some taken) mayClose) =
          later.foldlM step (next (.record (some ((key, j) :: taken)) :: frames)) :=
      hm (.member (some taken) (some key) :: frames) false later
    cases members with
    | nil =>
      have hclose : step (next (.record (some ((key, j) :: taken)) :: frames)) .closeRecord =
          deliver (object (taken.reverse ++ [(key, j)])) frames := by
        rw [step, close, List.reverse_cons]
      rw [List.map_singleton, List.intercalate_singleton, hmember, List.foldlM_cons, hclose]
      rfl
    | cons m members =>
      have hlater := ih hmembers (List.cons_ne_nil m members) ((key, j) :: taken) false
      rw [List.map_cons, List.map_cons, List.intercalate_cons_cons, List.append_assoc,
        List.append_assoc, hmember]
      rw [List.map_cons, List.reverse_cons, List.append_assoc] at hlater
      exact hlater

end Reading

/-- The tokens of a plain value deliver it. -/
theorem IsPlain.delivers {j : Json} (h : j.IsPlain) : Reading.Delivers j.tokens j := by
  induction h with
  | @array items _ ih =>
    intro frames mayClose rest
    rw [tokens, tokensOfItems_eq_map]
    -- An empty array is closed at once; otherwise the items are delivered one by one.
    by_cases hne : items = []
    · subst hne
      rfl
    · have hitems := Reading.foldlM_step_items ih hne [] frames true rest
      rw [List.cons_append, List.cons_append, List.append_assoc]
      exact hitems
  | @object members _ ih =>
    intro frames mayClose rest
    rw [tokens, tokensOfMembers_eq_map]
    -- The same holds of the members of an object.
    by_cases hne : members = []
    · subst hne
      rfl
    · have hmembers := Reading.foldlM_step_members ih hne [] frames true rest
      rw [List.cons_append, List.cons_append, List.append_assoc]
      exact hmembers
  | _ => exact fun _ _ _ => rfl

/-- A plain value is read from any text that is cut into its tokens. -/
theorem read?_of_isCutInto {s : String} {j : Json} (h : j.IsPlain)
    (hcut : IsCutInto s.toList j.tokens) : read? s = some j := by
  -- The whole text is cut into the tokens, and the tokens deliver the value.
  have htokens : Token.ofText? s.toList = some j.tokens := by
    have hwhole := hcut [] [] nofun
    simpa [ofText?_eq_cut, cut_nil] using hwhole
  have hdone : j.tokens.foldlM Reading.step (.value [] false) = some (.done j) := by
    have hdeliver := h.delivers [] false []
    simpa [Reading.deliver] using hdeliver
  simp [read?, htokens, hdone]

/-- A plain value is read back from its text without any space. -/
theorem read?_compact {j : Json} (h : j.IsPlain) : read? j.compact = some j :=
  read?_of_isCutInto h h.isCutInto_compact

/-- A plain value is read back from its text with an item or member to a line. -/
theorem read?_pretty {j : Json} (h : j.IsPlain) : read? j.pretty = some j :=
  read?_of_isCutInto h (h.isCutInto_prettyAt 0)

end Rollout.Json
