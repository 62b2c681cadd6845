import Mathlib.Data.List.TakeWhile
import Rollout.Json.Token
import Rollout.Json.Writer
import Rollout.Proofs.Text.Numeral

/-!
# Written text is cut into its tokens

`Token.cut tokens s` is what the cutting of `s` gives after some tokens. A text between quotes gives
one token whatever follows it (`cut_quote`), and a word gives one if what follows ends it
(`cut_word`). What is between the quotes stands for the text that was escaped (`unquote?_escape`),
and the digits of an integer of 64 bits for this integer (`word?_toString`).
-/

namespace Rollout.Json.Token

open Text

/-! ## Numbers -/

section Numbers

variable {ds : List Char} (hdigit : ∀ c ∈ ds, c.isDigit = true) (hne : ds ≠ [])
  (hzero : ds.head? = some '0' → ds.length = 1)

include hdigit hne

/-- Digits alone are cut off as a whole. -/
theorem digitRun?_of_isDigit : digitRun? ds = some (ds, []) := by
  have htake : ds.takeWhile Char.isDigit = ds := List.takeWhile_eq_self_iff.2 hdigit
  have hdrop : ds.dropWhile Char.isDigit = [] := List.dropWhile_eq_nil_iff.2 hdigit
  obtain ⟨c, cs, rfl⟩ := List.exists_cons_of_ne_nil hne
  rw [digitRun?, htake, hdrop]

include hzero

/-- Digits without a zero in front are a numeral. -/
theorem numeral?_of_isDigit : numeral? ds = some ⟨false, ds, none, none⟩ := by
  have hrun := digitRun?_of_isDigit hdigit hne
  obtain ⟨c, cs, rfl⟩ := List.exists_cons_of_ne_nil hne
  -- A digit is no minus sign, and only a lone zero begins with a zero.
  have hminus : c ≠ '-' := fun heq =>
    absurd (hdigit c List.mem_cons_self) (heq ▸ by decide)
  have hlead : c = '0' → cs = [] := by simpa using hzero
  unfold numeral?
  simpa [hrun, hminus] using hlead

/-- The same digits after a minus sign are a negative numeral. -/
theorem numeral?_minus : numeral? ('-' :: ds) = some ⟨true, ds, none, none⟩ := by
  have hrun := digitRun?_of_isDigit hdigit hne
  unfold numeral?
  simpa [hrun] using hzero

end Numbers

/-- A word of digits and signs is no literal, so it is read as a number. -/
theorem word?_of_isDigit {s : List Char} (h : ∀ c ∈ s, c.isDigit = true ∨ c = '-') :
    word? s = (numeral? s).map fun n => scalar (n.value (String.ofList s)) := by
  -- Each literal has a letter that is neither a digit nor a sign.
  have hne {c : Char} {literal : String} (hc : c ∈ literal.toList) (hdigit : c.isDigit = false)
      (hminus : c ≠ '-') : String.ofList s ≠ literal := by
    rintro rfl
    rw [String.toList_ofList] at hc
    have hnot : ¬ (c.isDigit = true ∨ c = '-') := by simp [hdigit, hminus]
    exact hnot (h c hc)
  have hnull : 'n' ∈ "null".toList := by decide
  have htrue : 't' ∈ "true".toList := by decide
  have hfalse : 'f' ∈ "false".toList := by decide
  unfold word?
  split
  · next heq => exact absurd heq (hne hnull (by decide) (by decide))
  · next heq => exact absurd heq (hne htrue (by decide) (by decide))
  · next heq => exact absurd heq (hne hfalse (by decide) (by decide))
  · rfl

/-- Digits of a number of 64 bits have its value. -/
theorem value_of_nonneg {n : Nat} (h : n < UInt64.size) (spelling : String) :
    Numeral.value ⟨false, Nat.toDigits 10 n, none, none⟩ spelling = int n := by
  have hsize : (n : Int) < (UInt64.size : Nat) := Int.ofNat_lt.2 h
  simp only [Numeral.value, digits?_toDigits, Option.getD_some]
  exact if_pos ⟨trivial, trivial, trivial, hsize⟩

/-- Digits after a minus sign have the negative value, if that is a number of 64 bits. -/
theorem value_of_neg {n : Nat} (hpos : 0 < n) (h : n ≤ 0x8000000000000000) (spelling : String) :
    Numeral.value ⟨true, Nat.toDigits 10 n, none, none⟩ spelling = int (-n) := by
  have hmagnitude : 0 < (n : Int) ∧ (n : Int) ≤ 0x8000000000000000 := by omega
  simp only [Numeral.value, digits?_toDigits, Option.getD_some]
  rw [if_neg (by simp), if_pos ⟨trivial, trivial, trivial, hmagnitude⟩]

/-- An integer of 64 bits is read back. -/
theorem word?_toString {n : Int} (hlow : -0x8000000000000000 ≤ n) (hhigh : n < UInt64.size) :
    word? (toString n).toList = some (scalar (int n)) := by
  have hzero (k : Nat) (h : (Nat.toDigits 10 k).head? = some '0') :
      (Nat.toDigits 10 k).length = 1 := by
    rw [eq_zero_of_head?_toDigits k h]
    rfl
  -- The word is a number, written with a sign exactly if it is negative.
  rw [word?_of_isDigit fun _ hc => isDigit_or_eq_minus_of_mem hc, toList_toString_int]
  split
  · next hn =>
    have hlt : n.toNat < UInt64.size := by omega
    rw [numeral?_of_isDigit (isDigit_toDigits _) Nat.toDigits_ne_nil (hzero _), Option.map_some,
      value_of_nonneg hlt, Int.toNat_of_nonneg hn]
  · next hn =>
    have hminus : -((-n).toNat : Int) = n := by omega
    rw [numeral?_minus (isDigit_toDigits _) Nat.toDigits_ne_nil (hzero _), Option.map_some,
      value_of_neg (by omega) (by omega), hminus]

/-! ## Texts -/

/-- The three ways to write a character between quotes. -/
inductive Escaped (c : Char) : List Char → Prop where
  | plain (hquote : c ≠ '"') (hbackslash : c ≠ '\\') (hcontrol : 0x20 ≤ c.toNat) : Escaped c [c]
  | short {e : Char} (h : shortEscape? e = some c) (hu : e ≠ 'u') : Escaped c ['\\', e]
  | code {high low : Char} (h : inBase? 16 ['0', '0', high, low] = some c.toNat)
      (hhigh : high ≠ '"' ∧ high ≠ '\\') (hlow : low ≠ '"' ∧ low ≠ '\\') :
      Escaped c ['\\', 'u', '0', '0', high, low]

/-- Every character is written in one of these ways. -/
theorem escaped_escape (c : Char) : Escaped c (escape c) := by
  -- Only control characters are written by their number, so there are 32 numbers to check.
  have hcode : ∀ n < 0x20,
      inBase? 16 ['0', '0', Nat.digitChar (n / 16), Nat.digitChar (n % 16)] = some n ∧
      (Nat.digitChar (n / 16) ≠ '"' ∧ Nat.digitChar (n / 16) ≠ '\\') ∧
      Nat.digitChar (n % 16) ≠ '"' ∧ Nat.digitChar (n % 16) ≠ '\\' := by decide +kernel
  unfold escape
  split
  -- The quote, the backslash and five control characters have a short form.
  iterate 7 exact .short rfl (by decide)
  · next hquote hbackslash _ _ _ _ _ =>
    -- Any other character is written by its number if it is a control character, and else as
    -- itself.
    split
    · next hlt =>
      obtain ⟨hvalue, hhigh, hlow⟩ := hcode c.toNat hlt
      exact .code hvalue hhigh hlow
    · next hge => exact .plain hquote hbackslash (Nat.le_of_not_lt hge)

/-- An escaped character stands for itself. -/
theorem units?_append {c : Char} {written : List Char} (h : Escaped c written) (rest : List Char) :
    units? (written ++ rest) = (units? rest).map (c.toNat :: ·) := by
  cases h with
  | plain hquote hbackslash hcontrol =>
    -- A plain character begins no escape.
    have hnot : ¬ (c = '\\' ∨ c.toNat < 0x20) := by
      rintro (heq | hlt)
      · exact hbackslash heq
      · omega
    rw [List.singleton_append, units?]
    · cases units? rest <;> simp [hnot]
    · exact fun _ _ _ _ _ heq => absurd heq hbackslash
    · exact fun _ _ heq => absurd heq hbackslash
  | short h hu =>
    rw [List.cons_append, List.singleton_append, units?]
    · cases units? rest <;> simp [h]
    · exact fun _ _ _ _ _ heq => absurd heq hu
  | code h =>
    simp only [List.cons_append, List.nil_append]
    rw [units?, h]
    cases units? rest <;> rfl

/-- Characters are read back from their numbers. -/
theorem ofUnits?_map_toNat (s : List Char) : ofUnits? (s.map Char.toNat) = some s := by
  induction s with
  | nil => rfl
  | cons c s ih =>
    -- A character is no half of a surrogate pair, so it stands for itself alone.
    have hrange : c.toNat < 0xD800 ∨ 0xDFFF < c.toNat ∧ c.toNat < 0x110000 := c.valid
    cases s with
    | nil =>
      have hnot : ¬ (0xD800 ≤ c.toNat ∧ c.toNat < 0xE000) := by omega
      rw [List.map_singleton, ofUnits?, if_neg hnot, Char.ofNat_toNat]
    | cons d s =>
      have hhigh : ¬ (0xD800 ≤ c.toNat ∧ c.toNat < 0xDC00) := by omega
      have hlow : ¬ (0xDC00 ≤ c.toNat ∧ c.toNat < 0xE000) := by omega
      rw [List.map_cons, List.map_cons, ofUnits?, if_neg hhigh, if_neg hlow, ← List.map_cons, ih,
        Option.map_some, Char.ofNat_toNat]

/-- What is between the quotes stands for the text that was escaped. -/
theorem unquote?_escape (s : List Char) :
    unquote? (s.flatMap escape) = some (text (some (String.ofList s))) := by
  have hunits : units? (s.flatMap escape) = some (s.map Char.toNat) := by
    induction s with
    | nil => rfl
    | cons c s ih => rw [List.flatMap_cons, units?_append (escaped_escape c), ih]; rfl
  rw [unquote?, hunits, Option.map_some, ofUnits?_map_toNat]
  rfl

/-! ## Cutting -/

/-- Whether the character ends a word before it. -/
def endsWord (c : Char) : Bool :=
  isSpace c || c = '"' || (ofChar? c).isSome

/-- A word is ended by a blank character, by a quote and by a character that is a token. -/
theorem endsWord_eq_true_iff {c : Char} :
    endsWord c = true ↔ isSpace c ∨ c = '"' ∨ (ofChar? c).isSome := by
  simp [endsWord, or_assoc]

/-- No digit ends a word. -/
theorem endsWord_of_isDigit {c : Char} (h : c.isDigit = true) : endsWord c = false := by
  have hne (d : Char) (hd : d.isDigit = false) : c ≠ d := fun heq => by
    rw [heq, hd] at h
    contradiction
  -- None of the six characters that are tokens is a digit.
  have hofChar : ofChar? c = none := by
    unfold ofChar?
    split
    iterate 6 exact absurd rfl (hne _ (by decide))
    rfl
  simp [endsWord, isSpace, hofChar, hne ' ', hne '\t', hne '\n', hne '\r', hne '"']

/-- What the cutting of a text gives after some tokens, the latest first. -/
def cut (tokens : List Token) (s : List Char) : Option (List Token) :=
  (s.foldlM Cut.step ⟨.between, tokens⟩).bind Cut.finish

/-- The tokens of a text are what its cutting gives after none. -/
theorem ofText?_eq_cut (s : List Char) : ofText? s = cut [] s :=
  rfl

/-- At the end the tokens are put in order. -/
theorem cut_nil (tokens : List Token) : cut tokens [] = some tokens.reverse :=
  rfl

/-- A character that is a token is cut off. -/
theorem cut_ofChar {c : Char} {token : Token} (h : ofChar? c = some token) (tokens : List Token)
    (rest : List Char) : cut tokens (c :: rest) = cut (token :: tokens) rest := by
  unfold ofChar? at h
  split at h
  all_goals cases h
  all_goals rfl

/-- Blank characters are passed over. -/
theorem cut_spaces {spaces : List Char} (h : ∀ c ∈ spaces, isSpace c = true)
    (tokens : List Token) (rest : List Char) : cut tokens (spaces ++ rest) = cut tokens rest := by
  induction spaces with
  | nil => rfl
  | cons c spaces ih =>
    obtain ⟨hc, hspaces⟩ := List.forall_mem_cons.1 h
    have hstep : Cut.step ⟨.between, tokens⟩ c = some ⟨.between, tokens⟩ := by
      simp [Cut.step, Cut.start, hc]
    rw [← ih hspaces, cut, List.cons_append, List.foldlM_cons, hstep]
    rfl

/-- No escaped character ends the text that it is in. -/
theorem foldlM_escaped {c : Char} {written : List Char} (h : Escaped c written)
    (chars rest : List Char) (tokens : List Token) :
    (written ++ rest).foldlM Cut.step ⟨.quoted chars, tokens⟩ =
      rest.foldlM Cut.step ⟨.quoted (written.reverse ++ chars), tokens⟩ := by
  cases h with
  | plain hquote hbackslash => simp [Cut.step, hquote, hbackslash]
  | short => simp [Cut.step]
  | code _ hhigh hlow => simp [Cut.step, hhigh, hlow]

/-- Neither does a row of them, so all are collected. -/
theorem foldlM_flatMap_escape (s chars rest : List Char) (tokens : List Token) :
    (s.flatMap escape ++ rest).foldlM Cut.step ⟨.quoted chars, tokens⟩ =
      rest.foldlM Cut.step ⟨.quoted ((s.flatMap escape).reverse ++ chars), tokens⟩ := by
  induction s generalizing chars with
  | nil => rfl
  | cons c s ih =>
    rw [List.flatMap_cons, List.append_assoc, foldlM_escaped (escaped_escape c), ih,
      List.reverse_append, List.append_assoc]

/-- A text between quotes is cut off as one token. -/
theorem cut_quote (s : String) (tokens : List Token) (rest : List Char) :
    cut tokens ((quote s).toList ++ rest) = cut (text (some s) :: tokens) rest := by
  have hquote : (quote s).toList ++ rest = '"' :: (s.toList.flatMap escape ++ '"' :: rest) := by
    simp [quote]
  -- The first quote begins a text, what is escaped is collected, and the last quote ends it.
  have hstart : Cut.step ⟨.between, tokens⟩ '"' = some ⟨.quoted [], tokens⟩ := rfl
  have hend : Cut.step ⟨.quoted (s.toList.flatMap escape).reverse, tokens⟩ '"' =
      some ⟨.between, text (some s) :: tokens⟩ := by
    simp [Cut.step, unquote?_escape]
  rw [cut, hquote, List.foldlM_cons, hstart]
  show ((s.toList.flatMap escape ++ '"' :: rest).foldlM Cut.step ⟨.quoted [], tokens⟩).bind _ = _
  rw [foldlM_flatMap_escape, List.append_nil, List.foldlM_cons, hend]
  rfl

/-- A character that does not end a word is added to it. -/
theorem step_word {c : Char} (h : endsWord c = false) (chars : List Char) (tokens : List Token) :
    Cut.step ⟨.word chars, tokens⟩ c = some ⟨.word (c :: chars), tokens⟩ := by
  have hnot : ¬ (isSpace c ∨ c = '"' ∨ (ofChar? c).isSome) := by
    rw [← endsWord_eq_true_iff, h]
    exact Bool.false_ne_true
  exact if_neg hnot

/-- Between the tokens such a character begins a word. -/
theorem start_of_not_endsWord {c : Char} (h : endsWord c = false) (tokens : List Token) :
    Cut.start tokens c = ⟨.word [c], tokens⟩ := by
  simp only [endsWord, Bool.or_eq_false_iff, decide_eq_false_iff_not] at h
  obtain ⟨⟨hspace, hquote⟩, hofChar⟩ := h
  have hnone : ofChar? c = none := Option.not_isSome_iff_eq_none.1 (by rw [hofChar]; simp)
  simp [Cut.start, hspace, hquote, hnone]

/-- Characters of which none ends a word are added to it one by one. -/
theorem foldlM_word {word : List Char} (h : ∀ c ∈ word, endsWord c = false)
    (chars rest : List Char) (tokens : List Token) :
    (word ++ rest).foldlM Cut.step ⟨.word chars, tokens⟩ =
      rest.foldlM Cut.step ⟨.word (word.reverse ++ chars), tokens⟩ := by
  induction word generalizing chars with
  | nil => rfl
  | cons c word ih =>
    obtain ⟨hc, hword⟩ := List.forall_mem_cons.1 h
    rw [List.cons_append, List.foldlM_cons, step_word hc, List.reverse_cons, List.append_assoc]
    exact ih hword (c :: chars)

/-- A word is cut off if what follows ends it. -/
theorem cut_word {word : List Char} {token : Token} (hword : word? word = some token)
    (hne : word ≠ []) (hplain : ∀ c ∈ word, endsWord c = false) (tokens : List Token)
    {rest : List Char} (hrest : ∀ c ∈ rest.head?, endsWord c = true) :
    cut tokens (word ++ rest) = cut (token :: tokens) rest := by
  -- All of the word is collected.
  have hcollect : cut tokens (word ++ rest) =
      (rest.foldlM Cut.step ⟨.word word.reverse, tokens⟩).bind Cut.finish := by
    obtain ⟨c, cs, rfl⟩ := List.exists_cons_of_ne_nil hne
    obtain ⟨hc, hcs⟩ := List.forall_mem_cons.1 hplain
    have hstep : Cut.step ⟨.between, tokens⟩ c = some ⟨.word [c], tokens⟩ :=
      congrArg some (start_of_not_endsWord hc tokens)
    rw [cut, List.cons_append, List.foldlM_cons, hstep, List.reverse_cons]
    exact congrArg (·.bind Cut.finish) (foldlM_word hcs [c] rest tokens)
  rw [hcollect]
  -- The word ends with the text, or with a character that is then taken as if after the word.
  cases rest with
  | nil => simp [Cut.finish, hword, cut]
  | cons c rest =>
    have hends := endsWord_eq_true_iff.1 (hrest c (Option.mem_some_self c))
    have hstep : Cut.step ⟨.word word.reverse, tokens⟩ c =
        Cut.step ⟨.between, token :: tokens⟩ c := by
      simp [Cut.step, hends, hword]
    rw [List.foldlM_cons, hstep]
    rfl

end Rollout.Json.Token
