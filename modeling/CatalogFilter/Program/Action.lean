import CatalogFilter.Log.Event
import CatalogFilter.Program.Failure

/-!
# Actions

An action works on a disk. It has a result, or fails, prints texts and reports events on the way,
and leaves a disk. What was printed stays printed if the action fails later on. The result depends
on neither the texts nor the events.

## Main definitions

* `Program.Step`: what an action leaves.
* `Program.Action`: an action.
* `Program.Action.report`, `Program.Action.print`, `Program.Action.ofExcept`,
  `Program.Action.inspect`, `Program.Action.change`: the elements.
-/

namespace CatalogFilter.Program

/-- What an action leaves. -/
structure Step (α : Type) where
  /-- The events that were reported, in order. -/
  log : List Log.Event
  /-- The text that was printed. -/
  output : String
  /-- The disk afterwards. -/
  disk : Disk
  /-- The result, or why there is none. -/
  result : Except Failure α

/-- An action on a disk. -/
def Action (α : Type) : Type :=
  Disk → Step α

namespace Action

variable {α β ε : Type}

/-- The action that only has a result. -/
def done (a : α) : Action α := fun d =>
  ⟨[], "", d, .ok a⟩

/-- One action after the other. The second is left out if the first fails. -/
def andThen (x : Action α) (f : α → Action β) : Action β := fun d =>
  let s := x d
  match s.result with
  | .ok a =>
      let t := f a s.disk
      ⟨s.log ++ t.log, s.output ++ t.output, t.disk, t.result⟩
  | .error e => ⟨s.log, s.output, s.disk, .error e⟩

instance : Monad Action where
  pure := done
  bind := andThen

/-- Reports events. -/
def report (events : List Log.Event) : Action Unit := fun d =>
  ⟨events, "", d, .ok ()⟩

/-- Prints a text. -/
def print (text : String) : Action Unit := fun d =>
  ⟨[], text, d, .ok ()⟩

/-- A result that is there already, with its failure named. -/
def ofExcept (name : ε → Failure) (outcome : Except ε α) : Action α := fun d =>
  ⟨[], "", d, outcome.mapError name⟩

/-- What can be read off the disk. -/
def inspect (read : Disk → α) : Action α := fun d =>
  ⟨[], "", d, .ok (read d)⟩

/-- Replaces the disk. -/
def change (disk : Disk) : Action Unit := fun _ =>
  ⟨[], "", disk, .ok ()⟩

@[simp] theorem pure_apply (a : α) (d : Disk) : (pure a : Action α) d = ⟨[], "", d, .ok a⟩ := rfl

@[simp] theorem report_apply (events : List Log.Event) (d : Disk) :
    report events d = ⟨events, "", d, .ok ()⟩ := rfl

@[simp] theorem print_apply (text : String) (d : Disk) : print text d = ⟨[], text, d, .ok ()⟩ := rfl

@[simp] theorem inspect_apply (read : Disk → α) (d : Disk) :
    inspect read d = ⟨[], "", d, .ok (read d)⟩ := rfl

theorem bind_apply_of_ok {x : Action α} {f : α → Action β} {d : Disk} {a : α}
    (h : (x d).result = .ok a) :
    (x >>= f) d = ⟨(x d).log ++ (f a (x d).disk).log, (x d).output ++ (f a (x d).disk).output,
      (f a (x d).disk).disk, (f a (x d).disk).result⟩ := by
  simp [Bind.bind, andThen, h]

theorem bind_apply_of_error {x : Action α} {f : α → Action β} {d : Disk} {e : Failure}
    (h : (x d).result = .error e) :
    (x >>= f) d = ⟨(x d).log, (x d).output, (x d).disk, .error e⟩ := by
  simp [Bind.bind, andThen, h]

end Action

end CatalogFilter.Program
