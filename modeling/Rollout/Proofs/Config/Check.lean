import Rollout.Config.Environment
import Rollout.Proofs.Reading
import Rollout.Proofs.Text.Blank

/-!
# What is accepted for a configuration

`Config.IsValid` says what the values of a configuration must be, and `Config.validate` accepts
exactly such values (`validate_eq_ok_iff`). A variable of the environment is accepted if it has a
value with a meaning (`Environment.IsReadable`): the name of a format or a choice, the address of a
service, or the text of a stable line.
-/

namespace Rollout

open Text

/-- A text begins with `lead` exactly if it goes on after it. -/
theorem Text.startsWith_iff {lead s : String} :
    startsWith lead s = true ↔ ∃ rest, s = lead ++ rest := by
  rw [startsWith, List.isPrefixOf_iff_prefix]
  constructor
  · rintro ⟨rest, h⟩
    exact ⟨String.ofList rest, String.toList_inj.1 (by simp [h])⟩
  · rintro ⟨rest, rfl⟩
    exact ⟨rest.toList, by simp⟩

/-- What is found by its name has this name. -/
theorem find?_name_eq_some_iff {α : Type} {xs : List α} {name : α → String} {x : α}
    (hfound : xs.find? (name · == name x) = some x) {s : String} :
    xs.find? (name · == s) = some x ↔ s = name x := by
  constructor
  · intro h
    have hname := List.find?_some h
    exact (beq_iff_eq.1 hname).symm
  · rintro rfl
    exact hfound

/-- A format is read from its name and from no other word. -/
theorem OutputFormat.ofName?_eq_some_iff {s : String} {format : OutputFormat} :
    ofName? s = some format ↔ s = format.name :=
  find?_name_eq_some_iff (ofName?_name format)

/-- A choice is read from its name and from no other word. -/
theorem ColorChoice.ofName?_eq_some_iff {s : String} {choice : ColorChoice} :
    ofName? s = some choice ↔ s = choice.name :=
  find?_name_eq_some_iff (ofName?_name choice)

namespace Config

/-- The address of a service goes on after the name of one of two protocols. -/
def IsAddress (s : String) : Prop :=
  ∃ rest, s = "http://" ++ rest ∨ s = "https://" ++ rest

/-- Both protocols are looked for at the beginning. -/
theorem isAddress_iff {s : String} : isAddress s = true ↔ IsAddress s := by
  rw [isAddress, Bool.or_eq_true, startsWith_iff, startsWith_iff, ← exists_or]
  rfl

/-- The first character of an address is not blank. -/
theorem IsAddress.exists_plain {s : String} (h : IsAddress s) :
    ∃ c ∈ s.toList, isBlank c = false := by
  refine ⟨'h', ?_, by decide⟩
  obtain ⟨rest, rfl | rfl⟩ := h <;> simp

/-- An address that is not blank, a delay, and no more known mirrors than expected ones. -/
structure IsValid (config : Config) : Prop where
  address_plain : ∃ c ∈ config.network.apiUrl.toList, isBlank c = false
  delay_ne_zero : config.network.busyRetryDelay ≠ 0
  known_le : config.mirrors.known.length ≤ config.mirrors.expectedCount.toNat

/-- Exactly the valid configurations are accepted. -/
theorem validate_eq_ok_iff {config : Config} : config.validate = .ok () ↔ config.IsValid := by
  have hplain : ¬ trim config.network.apiUrl.toList = [] ↔
      ∃ c ∈ config.network.apiUrl.toList, isBlank c = false := by
    rw [trim_eq_nil_iff]
    simp
  unfold validate
  simp only [ite_error_eq_ok_iff, and_true, hplain, Nat.not_lt]
  constructor
  · rintro ⟨haddress, hdelay, hknown⟩
    exact ⟨haddress, hdelay, hknown⟩
  · rintro ⟨haddress, hdelay, hknown⟩
    exact ⟨haddress, hdelay, hknown⟩

/-- The standard values are valid. -/
theorem isValid_standard : standard.IsValid :=
  validate_eq_ok_iff.1 rfl

/-- Every variable that is set has a value with a meaning. -/
structure Environment.IsReadable (env : Environment) : Prop where
  output : ∀ s ∈ env.output, ∃ format : OutputFormat, s = format.name
  color : ∀ s ∈ env.color, ∃ choice : ColorChoice, s = choice.name
  apiUrl : ∀ s ∈ env.apiUrl, IsAddress s
  stableLine : ∀ s ∈ env.stableLine, ∃ line, StableLine.parse s = .ok line

/-- The values with a meaning are those that are read. -/
theorem Environment.isReadable_iff {env : Environment} : env.IsReadable ↔
    (∀ s ∈ env.output, ∃ format, OutputFormat.ofName? s = some format) ∧
    (∀ s ∈ env.color, ∃ choice, ColorChoice.ofName? s = some choice) ∧
    (∀ s ∈ env.apiUrl, ∃ url, (if isAddress s then some s else none) = some url) ∧
    ∀ s ∈ env.stableLine, ∃ line, (StableLine.parse s).toOption = some line := by
  -- An address is read as it is if it is one, and a line if it can be parsed.
  have haddress : ∀ s, (∃ url, (if isAddress s then some s else none) = some url) ↔
      IsAddress s := by
    intro s
    rw [← isAddress_iff]
    split <;> simp [*]
  have hline : ∀ s line, (StableLine.parse s).toOption = some line ↔
      StableLine.parse s = .ok line := by
    intro s line
    cases StableLine.parse s <;> simp [Except.toOption]
  simp only [OutputFormat.ofName?_eq_some_iff, ColorChoice.ofName?_eq_some_iff, haddress, hline]
  constructor
  · rintro ⟨houtput, hcolor, hurl, hstable⟩
    exact ⟨houtput, hcolor, hurl, hstable⟩
  · rintro ⟨houtput, hcolor, hurl, hstable⟩
    exact ⟨houtput, hcolor, hurl, hstable⟩

end Config

end Rollout
