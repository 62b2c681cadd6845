import Rollout.Error

/-!
# Components

A deployment is made of five components, and many things are kept once per component.
`ByComponent α` holds one `α` for each of them. The order of the constructors is the order in which
components are listed everywhere.
-/

namespace Rollout

/-- A deployable component. -/
inductive Component where
  /-- The database engine. -/
  | core
  /-- The layer in front of the engine. -/
  | proxy
  /-- The management server. -/
  | manager
  /-- The monitoring agent. -/
  | agent
  /-- The management console. -/
  | console
  deriving DecidableEq, Repr

namespace Component

/-- Every component, in listing order. -/
def all : List Component := [core, proxy, manager, agent, console]

/-- The name of a component in configuration and in the service's answers. -/
def name : Component → String
  | core => "core"
  | proxy => "proxy"
  | manager => "manager"
  | agent => "agent"
  | console => "console"

/-- The component with this name. -/
def ofName? (s : String) : Option Component :=
  all.find? (·.name == s)

/-- The component with this name, or the complaint that there is none. -/
def parse (s : String) : Except CatalogError Component :=
  match ofName? s with
  | some c => .ok c
  | none => .error (.unknownComponent s)

/-- The position of a component in listing order. -/
def rank : Component → Nat
  | core => 0
  | proxy => 1
  | manager => 2
  | agent => 3
  | console => 4

/-- The listed components without repetition and in listing order. -/
def normalized (cs : List Component) : List Component :=
  all.filter (· ∈ cs)

/-- Every component is listed. -/
@[simp] theorem mem_all (c : Component) : c ∈ all := by
  cases c <;> decide

/-- A name leads back to its component. -/
@[simp] theorem ofName?_name (c : Component) : ofName? c.name = some c := by
  cases c <;> decide

/-- Only the component's own name leads to it. -/
theorem eq_name_of_ofName? {s : String} {c : Component} (h : ofName? s = some c) : s = c.name := by
  unfold ofName? at h
  have hname := List.find?_some h
  exact (beq_iff_eq.1 hname).symm

/-- Normalizing a list keeps its members. -/
@[simp] theorem mem_normalized {cs : List Component} {c : Component} :
    c ∈ normalized cs ↔ c ∈ cs := by
  simp [normalized]

end Component

/-- One value for each component. -/
@[ext] structure ByComponent (α : Type u) where
  core : α
  proxy : α
  manager : α
  agent : α
  console : α
  deriving DecidableEq, Repr

namespace ByComponent

variable {α : Type u} {β : Type v}

/-- The value of a component. -/
def get (t : ByComponent α) : Component → α
  | .core => t.core
  | .proxy => t.proxy
  | .manager => t.manager
  | .agent => t.agent
  | .console => t.console

/-- The table with another value for one component. -/
def set (t : ByComponent α) (c : Component) (x : α) : ByComponent α :=
  match c with
  | .core => { t with core := x }
  | .proxy => { t with proxy := x }
  | .manager => { t with manager := x }
  | .agent => { t with agent := x }
  | .console => { t with console := x }

/-- The table of a function. -/
def ofFn (f : Component → α) : ByComponent α :=
  ⟨f .core, f .proxy, f .manager, f .agent, f .console⟩

/-- The values that are there, in listing order. -/
def present (t : ByComponent (Option α)) : List (Component × α) :=
  Component.all.filterMap fun c => (t.get c).map (c, ·)

/-- What is set is found. -/
@[simp] theorem get_set_self (t : ByComponent α) (c : Component) (x : α) :
    (t.set c x).get c = x := by
  cases c <;> rfl

/-- Other components keep their values. -/
@[simp] theorem get_set_of_ne (t : ByComponent α) {c d : Component} (x : α) (h : c ≠ d) :
    (t.set c x).get d = t.get d := by
  cases c <;> cases d <;> first | rfl | exact absurd rfl h

/-- A table of a function has the values of the function. -/
@[simp] theorem get_ofFn (f : Component → α) (c : Component) : (ofFn f).get c = f c := by
  cases c <;> rfl

/-- Two tables with the same values are equal. -/
theorem ext_get {s t : ByComponent α} (h : ∀ c, s.get c = t.get c) : s = t :=
  ByComponent.ext (h .core) (h .proxy) (h .manager) (h .agent) (h .console)

/-- A component is listed with its value, if it has one. -/
theorem mem_present {t : ByComponent (Option α)} {c : Component} {x : α} :
    (c, x) ∈ t.present ↔ t.get c = some x := by
  simp [present]

end ByComponent

end Rollout
