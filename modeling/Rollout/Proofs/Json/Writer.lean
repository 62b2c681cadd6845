import Rollout.Proofs.Json.ReadBack
import Rollout.Proofs.Json.Token

/-!
# Written values are cut into their tokens

`Json.tokens` are the tokens of a value. Both texts of a plain value are cut into them, the one
without any space (`IsPlain.isCutInto_compact`) and the one with an item or member to a line
(`IsPlain.isCutInto_prettyAt`). The parts of a text are put together in the same way as the tokens:
in a row with commas between them (`IsCutInto.intercalate`), enclosed in brackets
(`IsCutInto.enclosed`), and with blank characters around them (`IsCutInto.spaced`).
-/

namespace Rollout.Json

open Token Text

/-- The tokens of a value. -/
def tokens : Json → List Token
  | array items => .openList :: [Token.comma].intercalate (tokensOfItems items) ++ [.closeList]
  | object members =>
    .openRecord :: [Token.comma].intercalate (tokensOfMembers members) ++ [.closeRecord]
  | string s => [.text (some s)]
  | j => [.scalar j]
where
  /-- The tokens of each item. -/
  tokensOfItems : List Json → List (List Token)
    | [] => []
    | j :: js => j.tokens :: tokensOfItems js
  /-- The tokens of each member. -/
  tokensOfMembers : List (String × Json) → List (List Token)
    | [] => []
    | (name, j) :: ms => (.text (some name) :: .colon :: j.tokens) :: tokensOfMembers ms

/-- What takes a list apart and treats each of its parts alike is a `map`. -/
theorem eq_map_of_cons {α β : Type} {f : List α → List β} {g : α → β} (hnil : f [] = [])
    (hcons : ∀ x xs, f (x :: xs) = g x :: f xs) (xs : List α) : f xs = xs.map g := by
  induction xs with
  | nil => exact hnil
  | cons x xs ih => rw [hcons, ih, List.map_cons]

/-- The tokens of a list are those of its items. -/
theorem tokensOfItems_eq_map (items : List Json) :
    tokens.tokensOfItems items = items.map tokens :=
  eq_map_of_cons rfl (fun _ _ => rfl) items

/-- The tokens of a list of members are those of its names and values. -/
theorem tokensOfMembers_eq_map (members : List (String × Json)) :
    tokens.tokensOfMembers members =
      members.map fun m => .text (some m.1) :: .colon :: m.2.tokens :=
  eq_map_of_cons rfl (fun _ _ => rfl) members

/-- Items are written one by one. -/
theorem compactItems_eq_map (items : List Json) :
    compact.compactItems items = items.map compact :=
  eq_map_of_cons rfl (fun _ _ => rfl) items

/-- Members are written one by one. -/
theorem compactMembers_eq_map (members : List (String × Json)) :
    compact.compactMembers members = members.map fun m => quote m.1 ++ ":" ++ m.2.compact :=
  eq_map_of_cons rfl (fun _ _ => rfl) members

/-- Items are written one by one on their level. -/
theorem prettyItems_eq_map (level : Nat) (items : List Json) :
    prettyAt.prettyItems level items = items.map (prettyAt level) :=
  eq_map_of_cons rfl (fun _ _ => rfl) items

/-- Members are written one by one on their level. -/
theorem prettyMembers_eq_map (level : Nat) (members : List (String × Json)) :
    prettyAt.prettyMembers level members =
      members.map fun m => quote m.1 ++ ": " ++ m.2.prettyAt level :=
  eq_map_of_cons rfl (fun _ _ => rfl) members

/-- A block of at least one part has each part on a line of its own, one level deeper. -/
theorem toList_block (level : Nat) (left right : String) {parts : List String} (h : parts ≠ []) :
    (block level left right parts).toList = left.toList ++
      ('\n' :: [',', '\n'].intercalate
        (parts.map fun part => List.replicate (2 * (level + 1)) ' ' ++ part.toList) ++
        '\n' :: List.replicate (2 * level) ' ') ++ right.toList := by
  unfold block
  split
  · contradiction
  · simp [String.toList_intercalate, Function.comp_def]

/-! ## Parts of a text -/

/-- A part of a text is cut into these tokens if a word may end after it. -/
def IsCutInto (s : List Char) (own : List Token) : Prop :=
  ∀ tokens rest, (∀ c ∈ rest.head?, endsWord c = true) →
    cut tokens (s ++ rest) = cut (own.reverse ++ tokens) rest

namespace IsCutInto

/-- A literal or a number. -/
theorem word {s : List Char} {j : Json} (hword : word? s = some (.scalar j)) (hne : s ≠ [])
    (hplain : ∀ c ∈ s, endsWord c = false) : IsCutInto s [.scalar j] := fun tokens _ hrest =>
  cut_word hword hne hplain tokens hrest

/-- A name with its value. -/
theorem member {s : List Char} {own : List Token} (h : IsCutInto s own) (name : String) :
    IsCutInto ((quote name).toList ++ ':' :: s) (.text (some name) :: .colon :: own) := by
  intro tokens rest hrest
  rw [List.append_assoc, cut_quote, List.cons_append, cut_ofChar rfl, h _ rest hrest]
  simp

/-- A part with blank characters around it. -/
theorem spaced {s : List Char} {own : List Token} (h : IsCutInto s own) {before after : List Char}
    (hbefore : ∀ c ∈ before, isSpace c = true) (hafter : ∀ c ∈ after, isSpace c = true) :
    IsCutInto (before ++ s ++ after) own := by
  intro tokens rest hrest
  have hends : ∀ c ∈ (after ++ rest).head?, endsWord c = true := by
    cases after with
    | nil => exact hrest
    | cons c after => simp [endsWord, hafter c List.mem_cons_self]
  rw [List.append_assoc, List.append_assoc, cut_spaces hbefore, h _ _ hends, cut_spaces hafter]

/-- Parts with commas and blank characters between them. -/
theorem intercalate {α : Type} {write : α → List Char} {own : α → List Token} {xs : List α}
    (h : ∀ x ∈ xs, IsCutInto (write x) (own x)) {spaces : List Char}
    (hspaces : ∀ c ∈ spaces, isSpace c = true) :
    IsCutInto ((',' :: spaces).intercalate (xs.map write))
      ([Token.comma].intercalate (xs.map own)) := by
  induction xs with
  | nil => exact fun _ _ _ => rfl
  | cons x xs ih =>
    obtain ⟨hx, hxs⟩ := List.forall_mem_cons.1 h
    cases xs with
    | nil => simpa using hx
    | cons y ys =>
      intro tokens rest hrest
      have hcomma : ofChar? ',' = some .comma := rfl
      -- The comma ends the first part, and the other parts are cut after the comma's token.
      have hlater := ih hxs (.comma :: ((own x).reverse ++ tokens)) rest hrest
      rw [List.map_cons, List.map_cons] at hlater ⊢
      rw [List.map_cons, List.map_cons, List.intercalate_cons_cons, List.intercalate_cons_cons,
        List.append_assoc, List.append_assoc, hx _ _ (by simp [endsWord, hcomma]),
        List.cons_append, cut_ofChar hcomma, cut_spaces hspaces, hlater]
      simp

/-- A part between two characters that are tokens. -/
theorem enclosed {s : List Char} {own : List Token} (h : IsCutInto s own) {left right : Char}
    {first last : Token} (hleft : ofChar? left = some first) (hright : ofChar? right = some last) :
    IsCutInto (left :: s ++ [right]) (first :: own ++ [last]) := by
  intro tokens rest _
  have hends : ∀ c ∈ (right :: rest).head?, endsWord c = true := by simp [endsWord, hright]
  have htext : left :: s ++ [right] ++ rest = left :: (s ++ right :: rest) := by simp
  rw [htext, cut_ofChar hleft, h _ _ hends, cut_ofChar hright]
  simp

/-- Parts on lines of their own between two characters that are tokens. -/
theorem block {α : Type} {write : α → String} {own : α → List Token} {xs : List α}
    (h : ∀ x ∈ xs, IsCutInto (write x).toList (own x)) (level : Nat) {left right : String}
    {l r : Char} (hl : left.toList = [l]) (hr : right.toList = [r]) {first last : Token}
    (hleft : ofChar? l = some first) (hright : ofChar? r = some last) :
    IsCutInto (block level left right (xs.map write)).toList
      (first :: [Token.comma].intercalate (xs.map own) ++ [last]) := by
  -- Indentations and line ends are blank.
  have hindent (n : Nat) : ∀ c ∈ List.replicate n ' ', isSpace c = true := fun c hc => by
    rw [List.eq_of_mem_replicate hc]
    rfl
  have hline (n : Nat) : ∀ c ∈ '\n' :: List.replicate n ' ', isSpace c = true :=
    List.forall_mem_cons.2 ⟨rfl, hindent n⟩
  cases xs with
  | nil =>
    -- A block without parts is the two characters alone.
    have hnone : IsCutInto [] [] := fun _ _ _ => rfl
    have htext : (Json.block level left right []).toList = l :: [] ++ [r] := by
      simp [Json.block, hl, hr]
    rw [List.map_nil, htext]
    exact hnone.enclosed hleft hright
  | cons x xs =>
    -- Otherwise every part is indented, and the lines have commas between them.
    have hindented : ∀ y ∈ x :: xs, IsCutInto
        (List.replicate (2 * (level + 1)) ' ' ++ (write y).toList) (own y) := fun y hy => by
      simpa using (h y hy).spaced (hindent (2 * (level + 1))) (List.forall_mem_nil _)
    have hlines := (intercalate hindented (hline 0)).spaced (hline 0) (hline (2 * level))
    rw [toList_block level left right (by simp), hl, hr, List.map_map]
    exact hlines.enclosed hleft hright

end IsCutInto

/-! ## Values -/

/-- A value without parts is one token. -/
theorem isCutInto_scalarText {j : Json} (h : j.IsPlain) (harray : ∀ items, j ≠ array items)
    (hobject : ∀ members, j ≠ object members) : IsCutInto (scalarText j).toList j.tokens := by
  cases h with
  | null => exact .word rfl (by decide) (by simp [scalarText, endsWord, isSpace, ofChar?])
  | bool b =>
    cases b <;> exact .word rfl (by decide) (by simp [scalarText, endsWord, isSpace, ofChar?])
  | @int n hlow hhigh =>
    have hplain : ∀ c ∈ (toString n).toList, endsWord c = false := fun c hc => by
      obtain hdigit | rfl := isDigit_or_eq_minus_of_mem hc
      · exact endsWord_of_isDigit hdigit
      · rfl
    exact .word (word?_toString hlow hhigh) (toList_toString_int_ne_nil n) hplain
  | string s => exact fun tokens rest _ => cut_quote s tokens rest
  | array => exact absurd rfl (harray _)
  | object => exact absurd rfl (hobject _)

/-- The text of a plain value without any space is cut into its tokens. -/
theorem IsPlain.isCutInto_compact {j : Json} (h : j.IsPlain) :
    IsCutInto j.compact.toList j.tokens := by
  induction h with
  | @array items _ ih =>
    -- The items with commas between them, in brackets.
    have hitems := IsCutInto.intercalate ih (List.forall_mem_nil _)
    have htext : (Json.array items).compact.toList =
        '[' :: [','].intercalate (items.map fun j => j.compact.toList) ++ [']'] := by
      simp [compact, compactItems_eq_map, String.toList_intercalate, Function.comp_def]
    rw [htext, tokens, tokensOfItems_eq_map]
    exact hitems.enclosed rfl rfl
  | @object members _ ih =>
    -- The members likewise, in braces.
    have hmembers := IsCutInto.intercalate (fun m hm => (ih m hm).member m.1)
      (List.forall_mem_nil _)
    have htext : (Json.object members).compact.toList = '{' ::
        [','].intercalate (members.map fun m => (quote m.1).toList ++ ':' :: m.2.compact.toList) ++
        ['}'] := by
      simp [compact, compactMembers_eq_map, String.toList_intercalate, Function.comp_def]
    rw [htext, tokens, tokensOfMembers_eq_map]
    exact hmembers.enclosed rfl rfl
  | null => exact isCutInto_scalarText .null nofun nofun
  | bool b => exact isCutInto_scalarText (.bool b) nofun nofun
  | int hlow hhigh => exact isCutInto_scalarText (.int hlow hhigh) nofun nofun
  | string s => exact isCutInto_scalarText (.string s) nofun nofun

/-- The text of a plain value with an item or member to a line is cut into its tokens. -/
theorem IsPlain.isCutInto_prettyAt {j : Json} (h : j.IsPlain) (level : Nat) :
    IsCutInto (j.prettyAt level).toList j.tokens := by
  induction h generalizing level with
  | @array items _ ih =>
    -- A block of the items, which are written one level deeper.
    rw [prettyAt, prettyItems_eq_map, tokens, tokensOfItems_eq_map]
    exact IsCutInto.block (fun j hj => ih j hj (level + 1)) level rfl rfl rfl rfl
  | @object members _ ih =>
    -- A block of the members, each value after a space.
    have hmembers : ∀ m ∈ members, IsCutInto
        (quote m.1 ++ ": " ++ m.2.prettyAt (level + 1)).toList
        (.text (some m.1) :: .colon :: m.2.tokens) := by
      intro m hm
      have hspace : ∀ c ∈ [' '], isSpace c = true := List.forall_mem_singleton.2 rfl
      have hvalue := (ih m hm (level + 1)).spaced hspace (List.forall_mem_nil _)
      simpa using hvalue.member m.1
    rw [prettyAt, prettyMembers_eq_map, tokens, tokensOfMembers_eq_map]
    exact IsCutInto.block hmembers level rfl rfl rfl rfl
  | null => exact isCutInto_scalarText .null nofun nofun
  | bool b => exact isCutInto_scalarText (.bool b) nofun nofun
  | int hlow hhigh => exact isCutInto_scalarText (.int hlow hhigh) nofun nofun
  | string s => exact isCutInto_scalarText (.string s) nofun nofun

end Rollout.Json
