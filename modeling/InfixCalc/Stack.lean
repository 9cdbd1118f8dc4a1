/-!
# Stacks

A stack grows and shrinks at its top.  `Stack.toList` is the view that all
operations are described by: the entries from the bottom to the top.
-/

namespace InfixCalc

/-- A last-in, first-out store; `entries` begins with the top. -/
structure Stack (α : Type) where
  entries : List α
  deriving DecidableEq, Repr

namespace Stack

variable {α : Type}

/-- The stack without entries. -/
def empty : Stack α := ⟨[]⟩

/-- The stack with one more entry on top. -/
def push (stack : Stack α) (entry : α) : Stack α :=
  ⟨entry :: stack.entries⟩

/-- The top entry and the stack beneath it. -/
def pop? (stack : Stack α) : Option (α × Stack α) :=
  match stack.entries with
  | [] => none
  | top :: beneath => some (top, ⟨beneath⟩)

/-- The top entry. -/
def top? (stack : Stack α) : Option α :=
  stack.entries.head?

/-- How many entries there are. -/
def size (stack : Stack α) : Nat :=
  stack.entries.length

/-- Whether there is no entry. -/
def isEmpty (stack : Stack α) : Bool :=
  stack.entries.isEmpty

/-- The entries from the bottom to the top. -/
def toList (stack : Stack α) : List α :=
  stack.entries.reverse

@[simp]
theorem toList_empty : (empty : Stack α).toList = [] := rfl

@[simp]
theorem toList_push (stack : Stack α) (entry : α) :
    (stack.push entry).toList = stack.toList ++ [entry] := by
  simp [push, toList]

end Stack

end InfixCalc
