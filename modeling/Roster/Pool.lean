import Roster.Mention
import Roster.Service

/-!
# Pools

A pool works on services, a limited number of them at a time. Its tasks wait, run, end in some
order and are collected in some order. A task that crashes spoils no other one.

An ended task is known by its id alone. The pool keeps a register that tells for each id the place
of the service in the listing and its name; a task that is collected is struck off.

* `Pool.Step` says how the state of a pool may change, and `Pool.History` what may become of it.
* `Pool.run` works on a listing in the order that a schedule tells.
* `Pool.outcomes` puts what was collected into the order of the services.
-/

namespace Roster

/-- The work on one service, under an id that no other task of the pool has. -/
structure Task where
  id : Nat
  service : Service
deriving DecidableEq, Inhabited

/-- How a task ended: with an outcome, or by a crash. -/
inductive Ending where
  | returned (o : Outcome)
  | crashed (reason : Text)
deriving DecidableEq, Inhabited

/-- The outcome of a task for a service with this name. A crash is a failure of that service. -/
def Ending.outcome (service : Text) : Ending → Outcome
  | .returned o => o
  | .crashed reason => .failed service reason

/-- What the register of a pool tells of a task: the place of its service and the name. -/
structure Ticket where
  place : Nat
  service : Text
deriving DecidableEq, Inhabited

/-- Ids for the places of a listing, no two of them equal. -/
structure Numbering where
  id : Nat → Nat
  distinct : ∀ i j, id i = id j → i = j

/-- The places themselves as ids. -/
def Numbering.places : Numbering := ⟨fun place => place, fun _ _ h => h⟩

instance : Inhabited Numbering := ⟨.places⟩

/-- The tasks of a pool by what they do, the register of those that are not collected, and the
outcomes of the others behind their places. -/
structure Pool where
  limit : Nat
  waiting : List Task
  running : List Task := []
  ended : List (Nat × Ending) := []
  register : List (Nat × Ticket)
  collected : List (Nat × Outcome) := []
deriving Inhabited

namespace Pool

/-- The largest number of workers. -/
def maxWorkers : Nat := 0x1FFFFFFFFFFFFFFF

/-- The tasks for the services of a listing. -/
def tasks (ids : Numbering) (l : Listing) : List Task :=
  l.zipIdx.map fun (service, place) => ⟨ids.id place, service⟩

/-- The register of those tasks. -/
def tickets (ids : Numbering) (l : Listing) : List (Nat × Ticket) :=
  l.zipIdx.map fun (service, place) => (ids.id place, ⟨place, service.name⟩)

/-- The pool for a listing. It has one worker at least. -/
def start (ids : Numbering) (workers : Nat) (l : Listing) : Pool where
  limit := max workers 1
  waiting := tasks ids l
  register := tickets ids l

/-- Takes in how the task with an id ended. Its outcome is noted at the place that the register
tells, and the task is struck off; nothing is noted of a task that is not in the register. -/
def collect (p : Pool) (id : Nat) (e : Ending) : Pool :=
  let service := ((p.register.lookup id).map Ticket.service).getD []
  match p.register.lookup id with
  | none => p
  | some ticket => { p with
      register := p.register.filter fun x => x.1 ≠ id
      collected := p.collected ++ [(ticket.place, e.outcome service)] }

/-- All tasks are collected. -/
def isDone (p : Pool) : Bool := p.waiting.isEmpty && p.running.isEmpty && p.ended.isEmpty

/-- The outcomes of the collected tasks in the order of their places. -/
def outcomes (p : Pool) : List Outcome :=
  (p.collected.mergeSort fun a b => a.1 ≤ b.1).map (·.2)

/-! ## Histories -/

/-- What happens in one change of a pool. -/
inductive Move where
  | start (t : Task)
  | finish (t : Task) (e : Ending)
  | collect (id : Nat) (e : Ending)

/-- One change of a pool: a task starts while there is a free worker, ends in a way that is possible
for its service, or is collected. -/
inductive Step (possible : Service → Ending → Prop) : Pool → Move → Pool → Prop
  | start (p : Pool) (front back : List Task) (t : Task) (free : p.running.length < p.limit)
      (waits : p.waiting = front ++ t :: back) :
      Step possible p (.start t) { p with waiting := front ++ back, running := p.running ++ [t] }
  | finish (p : Pool) (front back : List Task) (t : Task) (e : Ending)
      (runs : p.running = front ++ t :: back) (ends : possible t.service e) :
      Step possible p (.finish t e)
        { p with running := front ++ back, ended := p.ended ++ [(t.id, e)] }
  | collect (p : Pool) (front back : List (Nat × Ending)) (id : Nat) (e : Ending)
      (done : p.ended = front ++ (id, e) :: back) :
      Step possible p (.collect id e) (({ p with ended := front ++ back } : Pool).collect id e)

/-- Moves that lead from one state of a pool to another, each of them a step. -/
inductive History (possible : Service → Ending → Prop) : Pool → List Move → Pool → Prop
  | nil (p : Pool) : History possible p [] p
  | snoc {p q r : Pool} {moves : List Move} {move : Move} (before : History possible p moves q)
      (last : Step possible q move r) : History possible p (moves ++ [move]) r

/-! ## Schedules -/

/-- Whose turn it is: a waiting task is started, a running one finished or an ended one collected.
The task is told by its place among those that may be chosen. -/
inductive Turn where
  | start (i : Nat)
  | finish (i : Nat)
  | collect (i : Nat)
deriving DecidableEq, Inhabited

/-- What is left to chance in a pool: the ids of the tasks, and whose turn it is next. -/
structure Schedule where
  ids : Numbering := .places
  turns : List Turn := []
deriving Inhabited

variable {σ : Type}

/-- Takes a turn. The work on a service is done when its task is finished; it may change a state.
Nothing happens in a turn that is not possible. -/
def take (work : Service → σ → Ending × σ) (p : Pool) (s : σ) : Turn → Pool × σ
  | .start i =>
    match p.waiting[i]? with
    | some t =>
      if p.running.length < p.limit then
        ({ p with waiting := p.waiting.eraseIdx i, running := p.running ++ [t] }, s)
      else (p, s)
    | none => (p, s)
  | .finish i =>
    match p.running[i]? with
    | some t =>
      let (e, s) := work t.service s
      ({ p with running := p.running.eraseIdx i, ended := p.ended ++ [(t.id, e)] }, s)
    | none => (p, s)
  | .collect i =>
    match p.ended[i]? with
    | some (id, e) => (({ p with ended := p.ended.eraseIdx i } : Pool).collect id e, s)
    | none => (p, s)

/-- Takes turns in their order. -/
def follow (work : Service → σ → Ending × σ) : List Turn → Pool → σ → Pool × σ
  | [], p, s => (p, s)
  | t :: turns, p, s =>
    let (p, s) := p.take work s t
    follow work turns p s

/-- The turns that take so many tasks through a pool, one after the other. -/
def oneByOne (count : Nat) : List Turn :=
  (List.replicate count [.start 0, .finish 0, .collect 0]).flatten

/-- Works on a listing. The turns of the schedule are taken first; what is left then is taken one
by one. -/
def run (work : Service → σ → Ending × σ) (schedule : Schedule) (workers : Nat) (l : Listing)
    (s : σ) : Pool × σ :=
  follow work (schedule.turns ++ oneByOne l.length) (start schedule.ids workers l) s

end Pool

end Roster
