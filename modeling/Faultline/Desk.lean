import Faultline.Text.Quoted

/-!
# The desk

Work on failures needs two things from outside: a fresh mark for every new
occurrence, and a place where notices are left.  Both are on the desk at which
the work is done.

## Main definitions

* `Occurrence` — the mark of one occurrence.
* `Notice` — what is told to those who watch the program.
* `Desk` — the supply of marks and the notices left so far.
* `Work` — a computation at a desk.
-/

namespace Faultline

/-- The mark of one occurrence: a name that no other occurrence has, and its time. -/
structure Occurrence where
  /-- The name of the occurrence. -/
  id : String
  /-- Seconds since the epoch, as a decimal number. -/
  timestamp : String
  deriving DecidableEq, Repr, Inhabited

/-! ### Notices -/

/-- How loud a notice is. -/
inductive Level
  /-- Something deserves attention. -/
  | warn
  /-- Something may help in finding a fault. -/
  | debug
  deriving DecidableEq, Repr

/-- What is told to those who watch the program. -/
inductive Notice
  /-- A failure without category was given one so that it could be enriched. -/
  | reclassified (detail : String)
  /-- A failure was dropped on purpose. -/
  | swallowed (id category detail : String) (operations : List String) (reason : String)
  /-- No translator speaks the locale. -/
  | untranslated (locale : String)
  /-- The way to the cluster was chosen. -/
  | selecting (mode : String)
  deriving DecidableEq, Repr

namespace Notice

/-- How loud a notice is. -/
def level : Notice → Level
  | reclassified _ => .warn
  | swallowed .. => .warn
  | untranslated _ => .debug
  | selecting _ => .debug

/-- The sentence of a notice. -/
def message : Notice → String
  | reclassified _ => "enriching an unclassified error, wrapping it as InternalError"
  | swallowed _ _ _ _ reason => "error swallowed: " ++ reason
  | untranslated _ => "no translator for locale, using raw rule messages"
  | selecting _ => "selecting cluster provider"

/-- The named parts of a notice. -/
def fields : Notice → List (String × String)
  | reclassified detail => [("detail", detail)]
  | swallowed id category detail operations _ =>
    [("id", id), ("error_type", category), ("detail", detail),
      ("operations", Text.quotedList operations)]
  | untranslated locale => [("locale", locale)]
  | selecting mode => [("mode", mode)]

end Notice

/-- The name of a level. -/
def Level.name : Level → String
  | .warn => "WARN"
  | .debug => "DEBUG"

/-! ### Work at a desk -/

/-- The supply of marks and the notices left so far. -/
structure Desk where
  /-- The marks, in the order in which they are handed out. -/
  supply : Nat → Occurrence
  /-- How many marks have been handed out. -/
  issued : Nat
  /-- The notices, the oldest first. -/
  notices : List Notice

/-- A desk at which nothing has been done yet. -/
def Desk.fresh (supply : Nat → Occurrence) : Desk := ⟨supply, 0, []⟩

/-- A computation at a desk. -/
abbrev Work := StateM Desk

/-- Takes a fresh mark. -/
def newOccurrence : Work Occurrence := fun d =>
  (d.supply d.issued, { d with issued := d.issued + 1 })

/-- Leaves a notice. -/
def tell (n : Notice) : Work Unit := fun d =>
  ((), { d with notices := d.notices ++ [n] })

namespace Work

variable {α β : Type}

@[simp] theorem pure_apply (a : α) (d : Desk) : (pure a : Work α) d = (a, d) := rfl

@[simp] theorem bind_apply (w : Work α) (f : α → Work β) (d : Desk) :
    (w >>= f) d = f (w d).1 (w d).2 := rfl

end Work

end Faultline
