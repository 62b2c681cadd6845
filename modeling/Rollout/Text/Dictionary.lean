/-!
# Dictionaries

A dictionary holds values under texts, at most one under each, in the order of the texts.
-/

namespace Rollout.Text

/-- Values under texts, in the order of the texts. -/
structure Dictionary (α : Type u) where
  entries : List (String × α)
  sorted : entries.Pairwise fun a b => a.1 < b.1
  deriving Repr

namespace Dictionary

variable {α : Type u}

instance [DecidableEq α] : DecidableEq (Dictionary α) := fun a b =>
  if h : a.entries = b.entries then .isTrue (by cases a; cases b; simp_all)
  else .isFalse fun hab => h (hab ▸ rfl)

/-- The dictionary without entries. -/
def empty : Dictionary α :=
  ⟨[], .nil⟩

/-- The sorted entries with one more, in place of an older one under the same text. -/
def insertEntry (name : String) (value : α) : List (String × α) → List (String × α)
  | [] => [(name, value)]
  | entry :: entries =>
    if name < entry.1 then (name, value) :: entry :: entries
    else if name = entry.1 then (name, value) :: entries
    else entry :: insertEntry name value entries

/-- The entries after an insertion are the new one and old ones. -/
theorem mem_insertEntry {name : String} {value : α} {entries : List (String × α)}
    {entry : String × α} (h : entry ∈ insertEntry name value entries) :
    entry = (name, value) ∨ entry ∈ entries := by
  induction entries with
  | nil => simpa [insertEntry] using h
  | cons e es ih =>
    rw [insertEntry] at h
    split at h
    · simpa using h
    · split at h
      · rcases List.mem_cons.1 h with h | h
        · exact .inl h
        · exact .inr (List.mem_cons_of_mem _ h)
      · rcases List.mem_cons.1 h with h | h
        · exact .inr (h ▸ List.mem_cons_self)
        · exact (ih h).imp_right (List.mem_cons_of_mem _)

/-- Insertion keeps the order. -/
theorem pairwise_insertEntry (name : String) (value : α) {entries : List (String × α)}
    (h : entries.Pairwise fun a b => a.1 < b.1) :
    (insertEntry name value entries).Pairwise fun a b => a.1 < b.1 := by
  induction entries with
  | nil => simp [insertEntry]
  | cons e es ih =>
    obtain ⟨he, hes⟩ := List.pairwise_cons.1 h
    rw [insertEntry]
    split
    · next hlt =>
      -- The entry comes before all others.
      refine List.pairwise_cons.2 ⟨fun a ha => ?_, h⟩
      rcases List.mem_cons.1 ha with rfl | ha
      · exact hlt
      · exact String.lt_trans hlt (he a ha)
    · next hle =>
      split
      · -- It takes the place of the one under its text.
        next heq => exact List.pairwise_cons.2 ⟨fun a ha => heq ▸ he a ha, hes⟩
      · next hne =>
        -- It goes further back, behind this one.
        refine List.pairwise_cons.2 ⟨fun a ha => ?_, ih hes⟩
        rcases mem_insertEntry ha with rfl | ha
        · exact Std.lt_of_le_of_ne (Std.not_lt.1 hle) (Ne.symm hne)
        · exact he a ha

/-- The dictionary with one more entry, in place of an older one under the same text. -/
def insert (d : Dictionary α) (name : String) (value : α) : Dictionary α :=
  ⟨insertEntry name value d.entries, pairwise_insertEntry name value d.sorted⟩

/-- The dictionary of these entries, where the last of several under one text counts. -/
def ofList (entries : List (String × α)) : Dictionary α :=
  entries.foldl (fun d (name, value) => d.insert name value) empty

/-- The value under a text. -/
def get? (d : Dictionary α) (name : String) : Option α :=
  d.entries.lookup name

end Dictionary

end Rollout.Text
