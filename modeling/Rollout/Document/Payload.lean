import Rollout.Json.Decode
import Rollout.Service.Payload

/-!
# The service's answers as JSON

The service leaves out what it has nothing to say about; most fields therefore have a standard
value.
-/

namespace Rollout.Service

open Json

namespace Build

/-- A build is written as a record, with `null` for what is missing. -/
def toJson (b : Build) : Json :=
  .object [
    ("version", .string b.version),
    ("release", .ofOption .string b.release),
    ("md5", .string b.checksum),
    ("version_type", .ofOption .string b.edition),
    ("type", .ofOption .string b.origin),
    ("arch", .ofOption .string b.architecture),
    ("estimated_size", .ofOption .ofUInt64 b.size)]

/-- Reads a build. -/
def ofJson? (j : Json) : Option Build := do
  match ← slots?
    ["version", "release", "md5", "version_type", "type", "arch", "estimated_size"] j with
  | [version, release, checksum, edition, origin, architecture, size] =>
    return {
      version := ← version.required asString
      release := ← release.getD (asOption asString) none
      checksum := ← checksum.required asString
      edition := ← edition.getD (asOption asString) none
      origin := ← origin.getD (asOption asString) none
      architecture := ← architecture.getD (asOption asString) none
      size := ← size.getD (asOption asUInt64) none }
  | _ => none

end Build

namespace Offer

/-- An offer is written as a record. -/
def toJson (offer : Offer) : Json :=
  .object [
    ("name", .string offer.name),
    ("info", .ofList Build.toJson offer.builds)]

/-- Reads an offer. -/
def ofJson? (j : Json) : Option Offer := do
  match ← slots? ["name", "info"] j with
  | [name, builds] =>
    return {
      name := ← name.required asString
      builds := ← builds.getD (asList Build.ofJson?) [] }
  | _ => none

end Offer

namespace MirrorStatus

/-- The state of a mirror is written as a record. -/
def toJson (m : MirrorStatus) : Json :=
  .object [
    ("section_name", .string m.name),
    ("available", .bool m.available),
    ("enabled", .ofOption .bool m.enabled),
    ("mirror_path", .ofOption .string m.path)]

/-- Reads the state of a mirror. -/
def ofJson? (j : Json) : Option MirrorStatus := do
  match ← slots? ["section_name", "available", "enabled", "mirror_path"] j with
  | [name, available, enabled, path] =>
    return {
      name := ← name.required asString
      available := ← available.getD asBool false
      enabled := ← enabled.getD (asOption asBool) none
      path := ← path.getD (asOption asString) none }
  | _ => none

end MirrorStatus

namespace Deployment

/-- A deployment is written as a record. -/
def toJson (d : Deployment) : Json :=
  .object [("name", .string d.name), ("status", .string d.status)]

/-- Reads a deployment. -/
def ofJson? (j : Json) : Option Deployment := do
  match ← slots? ["name", "status"] j with
  | [name, status] =>
    return {
      name := ← name.required asString
      status := ← status.getD asString "" }
  | _ => none

end Deployment

namespace Connection

/-- A connection is written as a record. -/
def toJson (c : Connection) : Json :=
  .object [
    ("cluster_name", .string c.cluster),
    ("host", .string c.host),
    ("port", .ofNat c.port.toNat),
    ("database", .string c.database),
    ("user", .string c.user),
    ("password", .string c.password)]

/-- Reads a connection. -/
def ofJson? (j : Json) : Option Connection := do
  match ← slots? ["cluster_name", "host", "port", "database", "user", "password"] j with
  | [cluster, host, port, database, user, password] =>
    return {
      cluster := ← cluster.getD asString ""
      host := ← host.required asString
      port := ← port.required asUInt16
      database := ← database.getD asString ""
      user := ← user.required asString
      password := ← password.getD asString "" }
  | _ => none

end Connection

namespace Page

variable {α : Type}

/-- A page is written as a record. -/
def toJson (write : α → Json) (page : Page α) : Json :=
  .object [
    ("total", .ofUInt64 page.total),
    ("items", .ofList write page.items)]

/-- Reads a page. -/
def ofJson? (read : Json → Option α) (j : Json) : Option (Page α) := do
  match ← slots? ["total", "items"] j with
  | [total, items] =>
    return {
      total := ← total.getD asUInt64 0
      items := ← items.getD (asList read) [] }
  | _ => none

end Page

/-- Reads the state of the mirrors. -/
def MirrorReport.ofJson? : Json → Option MirrorReport :=
  Page.ofJson? MirrorStatus.ofJson?

namespace Envelope

variable {α : Type}

/-- An envelope is written as a record. -/
def toJson (write : α → Json) (e : Envelope α) : Json :=
  .object [
    ("success", .bool e.success),
    ("code", .int e.code.toInt),
    ("msg", .string e.message),
    ("data", .ofOption write e.data)]

/-- Reads an envelope. -/
def ofJson? (read : Json → Option α) (j : Json) : Option (Envelope α) := do
  match ← slots? ["success", "code", "msg", "data"] j with
  | [success, code, message, data] =>
    return {
      success := ← success.getD asBool false
      code := ← code.getD asInt64 0
      message := ← message.getD asString ""
      data := ← data.getD (asOption read) none }
  | _ => none

end Envelope

end Rollout.Service
