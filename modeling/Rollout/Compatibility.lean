import Rollout.Catalog
import Rollout.Selection

/-!
# Proxies that fit the engine

A proxy fits an engine if the two have the same edition and their version texts have the same
characters at positions 0 and 2. When another engine is chosen and these marks change, the first
proxy of the catalog that fits is chosen with it; if there is none, the proxy stays as it was.
-/

namespace Rollout

/-- What a proxy and an engine must have in common. -/
structure Marks where
  edition : Edition
  /-- The first character of the version. -/
  major : Option Char
  /-- The third character of the version. -/
  minor : Option Char
  deriving DecidableEq, Repr

/-- The marks of an artifact. -/
def Artifact.marks (a : Artifact) : Marks :=
  ⟨a.edition, a.versionChar? 0, a.versionChar? 2⟩

/-- Whether the proxy can stand in front of the engine. -/
def Artifact.fits (proxy core : Artifact) : Bool :=
  core.marks = proxy.marks

/-- Whether an engine asks for another proxy than the engine before it. -/
def needsProxy (previous : Option Artifact) (core : Artifact) : Bool :=
  previous.map Artifact.marks ≠ some core.marks

/-- The first proxy of the catalog that fits the engine. -/
def Catalog.proxyFor? (catalog : Catalog) (core : Artifact) : Option Artifact :=
  (catalog.artifacts .proxy).find? (·.fits core)

/-- What a change of the engine does to the proxy. -/
inductive ProxyOutcome where
  /-- The marks are those of the engine before it. -/
  | unchanged
  /-- This proxy is chosen. -/
  | resolved (proxy : Artifact)
  /-- No proxy fits, and the one before it stays. -/
  | noCandidate
  deriving DecidableEq, Repr

/-- What becomes of the proxy when the engine is chosen. -/
def proxyOutcome (catalog : Catalog) (selection : Selection) (core : Artifact) : ProxyOutcome :=
  if needsProxy (selection.get? .core) core then
    match catalog.proxyFor? core with
    | some proxy => .resolved proxy
    | none => .noCandidate
  else .unchanged

/-- Chooses an engine, and a proxy with it where one is asked for and fits. -/
def changeCore (catalog : Catalog) (selection : Selection) (core : Artifact) :
    Selection × ProxyOutcome :=
  let changed := selection.set .core core
  match proxyOutcome catalog selection core with
  | .resolved proxy => (changed.set .proxy proxy, .resolved proxy)
  | outcome => (changed, outcome)

end Rollout
