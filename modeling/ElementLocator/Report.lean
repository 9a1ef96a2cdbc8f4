import ElementLocator.Failure
import ElementLocator.Log

/-! # Reports

    A task that reads a tree answers a report: what could be observed from outside while it
    ran, in order, and how it ended. Notes are only ever added, and a failure keeps the notes
    made before it. -/

namespace ElementLocator

/-- Something observed while a task runs; the lines that it finishes are texts in `σ`. -/
inductive Note (ν : Type) (σ : Type := String)
  /-- The library logged an event. -/
  | logged (e : LogEvent)
  /-- An attribute of a node was asked for. -/
  | asked (node : ν) (field : String)
  /-- A line of output was finished. -/
  | line (text : σ)

/-- What was observed, and how a task ended. -/
structure Report (τ ε α : Type) where
  notes : List τ
  outcome : Except ε α

namespace Report

variable {τ ε α β : Type}

/-- A task that does nothing but answer. -/
def ok (a : α) : Report τ ε α := ⟨[], .ok a⟩

/-- A task that fails at once. -/
def fail (e : ε) : Report τ ε α := ⟨[], .error e⟩

/-- A task that makes one note. -/
def note (n : τ) : Report τ ε Unit := ⟨[n], .ok ()⟩

/-- One task after the other: the second runs if the first succeeds. -/
def bind (x : Report τ ε α) (f : α → Report τ ε β) : Report τ ε β :=
  match x.outcome with
  | .error e => ⟨x.notes, .error e⟩
  | .ok a => ⟨x.notes ++ (f a).notes, (f a).outcome⟩

instance : Monad (Report τ ε) where
  pure := ok
  bind := bind

/-- The task's outcome as a value: a failure no longer ends what follows. -/
def attempt (x : Report τ ε α) : Report τ ε (Except ε α) := ⟨x.notes, .ok x.outcome⟩

/-- A task that ends as given. -/
def ofExcept (x : Except ε α) : Report τ ε α := ⟨[], x⟩

/-- Runs a task for every item in order and joins the lists that they answer. -/
def collect (f : α → Report τ ε (List β)) : List α → Report τ ε (List β)
  | [] => ok []
  | a :: rest => do
    let first ← f a
    let others ← collect f rest
    return first ++ others

/-- Runs a task for every item in order. -/
def each (f : α → Report τ ε Unit) : List α → Report τ ε Unit
  | [] => ok ()
  | a :: rest => do
    f a
    each f rest

end Report

/-- A task on a tree whose nodes have handles in `ν`, where lines are texts in `σ`. -/
abbrev TaskOf (σ ν α : Type) := Report (Note ν σ) Failure α

/-- A task on a tree whose nodes have handles in `ν`. -/
abbrev Task (ν α : Type) := TaskOf String ν α

namespace Task

variable {σ ν α : Type}

/-- Logs an event. -/
def log (level : LogLevel) (name : String) (fields : List (String × Json)) : TaskOf σ ν Unit :=
  Report.note (.logged ⟨level, name, fields⟩)

/-- Fails with a reported error. -/
def refuse (cause : Cause) : TaskOf σ ν α := Report.fail (.error ⟨cause, []⟩)

/-- Fails because a source that exists cannot be used. -/
def malformed (source reason : String) (details : List (String × Json)) : TaskOf σ ν α :=
  Report.fail (.error ⟨.configMalformed source reason, details⟩)

end Task

/-- The events logged in a list of notes. -/
def loggedEvents {σ ν : Type} (notes : List (Note ν σ)) : List LogEvent :=
  notes.filterMap fun
    | .logged e => some e
    | _ => none

/-- The lines finished in a list of notes. -/
def finishedLines {σ ν : Type} (notes : List (Note ν σ)) : List σ :=
  notes.filterMap fun
    | .line s => some s
    | _ => none

/-- The notes other than finished lines. -/
def withoutLines {σ ν : Type} (notes : List (Note ν σ)) : List (Note ν σ) :=
  notes.filter fun
    | .line _ => false
    | _ => true

/-- The reads made in a list of notes. -/
def askedReads {σ ν : Type} (notes : List (Note ν σ)) : List (ν × String) :=
  notes.filterMap fun
    | .asked node field => some (node, field)
    | _ => none

/-- A depth limit within the permitted range. -/
structure DepthLimit where
  levels : Nat
  one_le : 1 ≤ levels := by omega
  le_max : levels ≤ deepestLimit := by decide

namespace DepthLimit

/-- The limit of a number, if it is in range. -/
def ofInt (n : Int) : Except Failure DepthLimit :=
  if h : 1 ≤ n ∧ n ≤ deepestLimit then
    .ok ⟨n.toNat, by omega, by have := h.2; simp only [deepestLimit] at *; omega⟩
  else .error (.depthOutOfRange n)

/-- The limit asked for, or else the standard one. -/
def choose (asked : Option Int) (standard : Except Failure DepthLimit) : Except Failure DepthLimit :=
  match asked with
  | some n => ofInt n
  | none => standard

end DepthLimit

end ElementLocator
