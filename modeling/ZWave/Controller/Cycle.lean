import ZWave.Controller.Basic

/-!
# Cycles of the controller

One cycle is a turn of every node and then the delivery of what the network has received. `run`
stops as soon as every node is ready, `runFor` does not; `settle` and `advance` are the controllers
they end with, for callers who do not look at events.
-/

namespace ZWave.Controller

variable {σ : Type} [Network σ]

/-- The turns of nodes in order, `busy` waiting for node information before the first. -/
def turnsOf (c : Controller σ) (busy : Option NodeId) :
    List NodeId → Traced ControllerEvent (Controller σ)
  | [] => pure c
  | id :: ids => do
    let c ← c.turn busy id
    c.turnsOf (c.busyAfter busy id) ids

/-- The turns of all nodes, in the order of their ids. -/
def turns (c : Controller σ) : Traced ControllerEvent (Controller σ) :=
  c.turnsOf c.awaiting? c.nodes.ids

def routeAll (c : Controller σ) (inbound : List Inbound) :
    Traced ControllerEvent (Controller σ) :=
  inbound.foldlM route c

/-- The frames the network delivers, and the controller with the network that delivered them. -/
def poll (c : Controller σ) : List Inbound × Controller σ :=
  let (inbound, network) := Network.poll c.network
  (inbound, { c with network })

def cycle (c : Controller σ) : Traced ControllerEvent (Controller σ) := do
  Traced.emit .cycle
  let c ← { c with cycles := c.cycles + 1 }.turns
  let (inbound, c) := c.poll
  c.routeAll inbound

/-- Run until every node is ready, for `max` cycles at most. -/
def run : Nat → Controller σ → Traced ControllerEvent (Controller σ)
  | 0, c => pure c
  | max + 1, c => do
    let c ← c.cycle
    if c.allStarted then return c
    run max c

def runFor : Nat → Controller σ → Traced ControllerEvent (Controller σ)
  | 0, c => pure c
  | n + 1, c => do
    let c ← c.cycle
    runFor n c

/-- The number of cycles between a controller and a later one. -/
def cyclesUntil {σ : Type} (earlier later : Controller σ) : Nat := later.cycles - earlier.cycles

/-- The controller that `run` ends with. -/
def settle : Nat → Controller σ → Controller σ
  | 0, c => c
  | max + 1, c =>
    let c := c.cycle.value
    if c.allStarted then c else settle max c

/-- The controller that `runFor` ends with. -/
def advance : Nat → Controller σ → Controller σ
  | 0, c => c
  | n + 1, c => advance n c.cycle.value

@[simp] theorem run_value (n : Nat) (c : Controller σ) : (run n c).value = settle n c := by
  induction n generalizing c with
  | zero => rfl
  | succ n ih =>
    simp only [run, settle, Traced.value_bind]
    split
    · rfl
    · exact ih _

@[simp] theorem runFor_value (n : Nat) (c : Controller σ) :
    (runFor n c).value = advance n c := by
  induction n generalizing c with
  | zero => rfl
  | succ n ih => exact ih _

end ZWave.Controller
