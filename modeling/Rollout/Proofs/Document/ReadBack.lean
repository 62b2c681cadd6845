import Rollout.Proofs.Document.Config
import Rollout.Proofs.Document.Error
import Rollout.Proofs.Document.Event
import Rollout.Proofs.Json.Reader

/-!
# Documents are read back

What is written of an artifact, a key, a selection, a catalog, a line, an event, an error or a
configuration is plain and read back as a JSON value. A plain value is read back from its texts, so
all of them survive as documents (`documents_read_back`).
-/

namespace Rollout

open Json

/-- Values survive as documents of their kind. -/
structure Survives {α : Type} (write : α → Json) (read : Json → Option α) : Prop where
  /-- A value is read back from what is written of it. -/
  value : ∀ x, read (write x) = some x
  /-- It is read back from the text without any space. -/
  compact : ∀ x, (read? (write x).compact).bind read = some x
  /-- It is read back from the text with an item or member to a line. -/
  pretty : ∀ x, (read? (write x).pretty).bind read = some x
  /-- A document may leave out fields, have other fields or spell a name in another way. Whatever
  has been read from it is read again from the document that is written in its place. -/
  rewritten : ∀ document x, (read? document).bind read = some x →
    (read? (write x).compact).bind read = (read? document).bind read ∧
      (read? (write x).pretty).bind read = (read? document).bind read

/-- Values that are read back from JSON values survive as documents, since these are plain. -/
theorem Json.ReadsBack.survives {α : Type} {write : α → Json} {read : Json → Option α}
    (h : ReadsBack write read) : Survives write read := by
  have hcompact (x : α) : (read? (write x).compact).bind read = some x := by
    rw [read?_compact (h.isPlain x), Option.bind_some, h.read_write]
  have hpretty (x : α) : (read? (write x).pretty).bind read = some x := by
    rw [read?_pretty (h.isPlain x), Option.bind_some, h.read_write]
  refine ⟨h.read_write, hcompact, hpretty, fun document x hread => ?_⟩
  rw [hread]
  exact ⟨hcompact x, hpretty x⟩

/-- Every kind of value that has a reader survives as a document. -/
theorem documents_read_back :
    Survives Artifact.toJson Artifact.ofJson? ∧
    Survives Key.toJson Key.ofJson? ∧
    Survives Selection.toJson Selection.ofJson? ∧
    Survives Catalog.toJson Catalog.ofJson? ∧
    Survives StableLine.toJson StableLine.ofJson? ∧
    Survives Event.toJson Event.ofJson? ∧
    Survives Error.toJson Error.ofJson? ∧
    Survives Config.toJson Config.ofJson? :=
  ⟨Artifact.readsBack.survives, Key.readsBack.survives, Selection.readsBack.survives,
    Catalog.readsBack.survives, StableLine.readsBack.survives, Event.readsBack.survives,
    Error.readsBack.survives, Config.readsBack.survives⟩

/-- Other names and a field without meaning are read, and written in the usual form. -/
example :
    (Artifact.ofJson? (.object [("edition", .string "ce"), ("origin", .string "local"),
      ("version", .string "4.2.1.0"), ("checksum", .string "c1"), ("arch", .string "x86_64")])).map
        Artifact.toJson =
    some (.object [("version", .string "4.2.1.0"), ("checksum", .string "c1"),
      ("edition", .string "community"), ("estimated_size_bytes", .int 0),
      ("origin", .string "local-image")]) := by
  rfl

end Rollout
