import Outline.Failure

set_option autoImplicit false

/-!
# Notes for the log

A computation gives a result or a failure, and on the way it takes notes for the log. The notes
never change the result.
-/
namespace Outline

inductive Level where
  | debug
  | info
  | warning
  | error
deriving Repr, DecidableEq

namespace Level

def number : Level → Nat
  | debug => 10
  | info => 20
  | warning => 30
  | error => 40

def name : Level → String
  | debug => "DEBUG"
  | info => "INFO"
  | warning => "WARNING"
  | error => "ERROR"

end Level

inductive Component where
  | source
  | scan
  | report
  | commandLine
  | service
deriving Repr, DecidableEq

def Component.name : Component → String
  | source => "introspector.cs_parse"
  | scan => "introspector.fs_scan"
  | report => "introspector.report"
  | commandLine => "introspector.cli"
  | service => "api"

structure Note where
  level : Level
  component : Component
  message : String
deriving Repr, DecidableEq

def Note.line (n : Note) : String := n.level.name ++ " " ++ n.component.name ++ ": " ++ n.message

def notesFrom (threshold : Nat) (notes : List Note) : List Note :=
  notes.filter fun n => threshold ≤ n.level.number

/-- A result or a failure, and the notes taken on the way. -/
structure Outcome (α : Type) where
  notes : List Note
  result : Except Failure α

namespace Outcome

variable {α β : Type}

def ok (a : α) : Outcome α := ⟨[], .ok a⟩

def ofResult (r : Except Failure α) : Outcome α := ⟨[], r⟩

def note (level : Level) (component : Component) (message : String) : Outcome Unit :=
  ⟨[⟨level, component, message⟩], .ok ()⟩

/-- Goes on with a result; the notes of both parts are kept. -/
def andThen (x : Outcome α) (f : α → Outcome β) : Outcome β :=
  match x.result with
  | .ok a => ⟨x.notes ++ (f a).notes, (f a).result⟩
  | .error e => ⟨x.notes, .error e⟩

instance : Monad Outcome where
  pure := ok
  bind := andThen

@[simp]
theorem result_pure (a : α) : (pure a : Outcome α).result = .ok a := rfl

@[simp]
theorem result_bind (x : Outcome α) (f : α → Outcome β) :
    (x >>= f).result = x.result.bind fun a => (f a).result := by
  change (andThen x f).result = _
  unfold andThen
  cases x.result <;> rfl

@[simp]
theorem result_note (level : Level) (component : Component) (message : String) :
    (note level component message).result = .ok () := rfl

@[simp]
theorem result_ofResult (r : Except Failure α) : (ofResult r).result = r := rfl

def forEach (f : α → Outcome β) : List α → Outcome (List β)
  | [] => ok []
  | a :: rest => do
    let b ← f a
    let bs ← forEach f rest
    pure (b :: bs)

end Outcome

end Outline
