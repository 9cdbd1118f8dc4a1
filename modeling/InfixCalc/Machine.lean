import InfixCalc.Failure
import InfixCalc.Stack
import InfixCalc.Token.Lexer

/-!
# The two-stack machine

The machine keeps operands on one stack and, on another, the operators and
opening parentheses whose turn has not come.  A token is fed at a time; an
operator first carries out the pending ones that bind at least as tightly, a
closing parenthesis those of its group.

Every pending entry remembers its `base`, the number of operands when it came.
An operator also remembers its `floor`, the base of the entry beneath it: the
operands between the two are its own, and the operands above its base are the
ones to its right.  This is how a missing operand is told from one that belongs
to something else.

A failure leaves a machine behind, and it can be fed further.
-/

namespace InfixCalc

/-- An operator or an opening parenthesis whose turn has not come. -/
inductive Pending where
  | operator (symbol : Operator) (position base floor : Nat)
  | group (position base : Nat)
  deriving DecidableEq, Repr

namespace Pending

/-- The number of operands when the entry came. -/
def base : Pending → Nat
  | operator _ _ base _ => base
  | group _ base => base

/-- The text of an entry. -/
def toText : Pending → Text
  | operator symbol _ _ _ => symbol.toText
  | group _ _ => text "("

end Pending

/-- The operands and the pending entries. -/
structure Machine where
  operands : Stack Decimal
  pending : Stack Pending
  deriving DecidableEq, Repr

/-- What the machine did: took a token over, or replaced two operands by a result. -/
inductive Action where
  | shift (token : Token)
  | reduce (symbol : Operator) (position : Nat) (left right result : Decimal)
  deriving DecidableEq, Repr

/-- An action and the machine after it. -/
structure Step where
  action : Action
  after : Machine
  deriving DecidableEq, Repr

/-- The machine after some work, the steps of that work, and what came of it. -/
structure Reaction (α : Type) where
  machine : Machine
  steps : List Step
  outcome : Except Failure α

namespace Reaction

variable {α β : Type}

/-- Nothing more to do. -/
def settled (machine : Machine) (value : α) : Reaction α :=
  ⟨machine, [], .ok value⟩

/-- A failure, with the machine that it leaves behind. -/
def failed (machine : Machine) (failure : Failure) : Reaction α :=
  ⟨machine, [], .error failure⟩

/-- Go on from the machine unless something failed. -/
def andThen
    (reaction : Reaction α)
    (next : Machine → α → Reaction β) :
    Reaction β :=
  match reaction.outcome with
  | .ok value =>
    let following := next reaction.machine value
    ⟨following.machine, reaction.steps ++ following.steps, following.outcome⟩
  | .error failure => ⟨reaction.machine, reaction.steps, .error failure⟩

@[simp]
theorem settled_andThen
    (machine : Machine)
    (value : α)
    (next : Machine → α → Reaction β) :
    (settled machine value).andThen next = next machine value := rfl

@[simp]
theorem failed_andThen
    (machine : Machine)
    (failure : Failure)
    (next : Machine → α → Reaction β) :
    (failed machine failure).andThen next = failed machine failure := rfl

theorem andThen_assoc
    {γ : Type}
    (reaction : Reaction α)
    (next : Machine → α → Reaction β)
    (last : Machine → β → Reaction γ) :
    (reaction.andThen next).andThen last
      = reaction.andThen fun machine value => (next machine value).andThen last := by
  rcases reaction with ⟨machine, steps, failure | value⟩
  · rfl
  · rcases equal : next machine value with ⟨_, _, _ | _⟩ <;> simp [andThen, equal]

end Reaction

namespace Machine

/-- The machine before the first token. -/
def initial : Machine := ⟨.empty, .empty⟩

/-- The base of the top pending entry, zero if there is none. -/
def topBase (machine : Machine) : Nat :=
  (machine.pending.top?.map Pending.base).getD 0

/-- The token has been taken over, which led to this machine. -/
def shifted
    (token : Token)
    (machine : Machine) :
    Reaction Unit :=
  ⟨machine, [⟨.shift token, machine⟩], .ok ()⟩

/-- Carry out an operator that has just been taken off the pending entries. -/
def reduce
    (context : Context)
    (symbol : Operator)
    (position base floor : Nat)
    (machine : Machine) :
    Reaction Unit :=
  if base ≤ floor then
    .failed machine (.missingLeft symbol position)
  else if machine.operands.size ≤ base then
    .failed machine (.missingRight symbol position)
  else
    match machine.operands.entries with
    | right :: left :: beneath =>
      if symbol = .div ∧ right.isZero then
        .failed ⟨⟨beneath⟩, machine.pending⟩ (.divisionByZero position)
      else
        let result := symbol.apply context left right
        let after : Machine := ⟨⟨result :: beneath⟩, machine.pending⟩
        ⟨after, [⟨.reduce symbol position left right result, after⟩], .ok ()⟩
    | _ => .failed ⟨.empty, machine.pending⟩ (.notEnoughOperands symbol position)

/-- Carry out the pending operators that are ready, down to a parenthesis at most. -/
def reduceWhile
    (context : Context)
    (ready : Operator → Bool)
    (operands : Stack Decimal) :
    List Pending → Reaction Unit
  | [] => .settled ⟨operands, ⟨[]⟩⟩ ()
  | .group position base :: beneath =>
    .settled ⟨operands, ⟨.group position base :: beneath⟩⟩ ()
  | .operator symbol position base floor :: beneath =>
    if ready symbol then
      (reduce context symbol position base floor ⟨operands, ⟨beneath⟩⟩).andThen
        fun machine _ => reduceWhile context ready machine.operands beneath
    else
      .settled ⟨operands, ⟨.operator symbol position base floor :: beneath⟩⟩ ()

/-- Carry out the operators that bind at least as tightly as the given one. -/
def reduceTighter
    (context : Context)
    (symbol : Operator)
    (machine : Machine) :
    Reaction Unit :=
  reduceWhile context (fun top => symbol.rank ≤ top.rank) machine.operands machine.pending.entries

/-- Carry out all operators of the innermost group. -/
def reduceGroup
    (context : Context)
    (machine : Machine) :
    Reaction Unit :=
  reduceWhile context (fun _ => true) machine.operands machine.pending.entries

/-- Take an operator over as a pending entry. -/
def pushOperator
    (symbol : Operator)
    (position : Nat)
    (machine : Machine) :
    Machine :=
  ⟨machine.operands,
    machine.pending.push (.operator symbol position machine.operands.size machine.topBase)⟩

/-- Take an opening parenthesis over as a pending entry. -/
def pushGroup
    (position : Nat)
    (machine : Machine) :
    Machine :=
  ⟨machine.operands, machine.pending.push (.group position machine.operands.size)⟩

/-- Take the innermost group away, which has to hold an operand. -/
def closeGroup
    (token : Token)
    (machine : Machine) :
    Reaction Unit :=
  match machine.pending.entries with
  | .group position base :: beneath =>
    if machine.operands.size ≤ base then
      .failed ⟨machine.operands, ⟨beneath⟩⟩ (.emptyGroup position)
    else
      shifted token ⟨machine.operands, ⟨beneath⟩⟩
  | _ => .failed machine (.unmatchedClose token.position)

/-- Feed one token. -/
def feed
    (context : Context)
    (machine : Machine)
    (token : Token) :
    Reaction Unit :=
  match token.lexeme with
  | .number value _ =>
    shifted token ⟨machine.operands.push value, machine.pending⟩
  | .operator symbol =>
    (reduceTighter context symbol machine).andThen fun machine _ =>
      shifted token (pushOperator symbol token.position machine)
  | .openGroup =>
    shifted token (pushGroup token.position machine)
  | .closeGroup =>
    (reduceGroup context machine).andThen fun machine _ => closeGroup token machine

/-- Take the only operand off a machine that has nothing pending. -/
def takeValue (machine : Machine) : Reaction Decimal :=
  match machine.pending.entries with
  | .group position _ :: _ => .failed machine (.unclosedOpen position)
  | .operator _ position _ _ :: _ => .failed machine (.unclosedOpen position)
  | [] =>
    match machine.operands.entries with
    | [] => .failed machine .emptyExpression
    | [value] => .settled ⟨.empty, machine.pending⟩ value
    | _ :: _ :: _ => .failed machine (.leftover machine.operands.size)

/-- Carry out what is pending and take the value. -/
def finish
    (context : Context)
    (machine : Machine) :
    Reaction Decimal :=
  (reduceGroup context machine).andThen fun machine _ => takeValue machine

/-- Feed tokens until one fails. -/
def feedAll
    (context : Context)
    (machine : Machine) :
    List Token → Reaction Unit
  | [] => .settled machine ()
  | token :: rest =>
    (feed context machine token).andThen fun machine _ => feedAll context machine rest

/-- Feeding two lists is feeding the first and then, if nothing failed, the second. -/
theorem feedAll_append
    (context : Context)
    (machine : Machine)
    (first second : List Token) :
    feedAll context machine (first ++ second)
      = (feedAll context machine first).andThen fun machine _ =>
          feedAll context machine second := by
  induction first generalizing machine with
  | nil => rfl
  | cons token rest inner =>
    simp only [List.cons_append, feedAll, inner, Reaction.andThen_assoc]

/-- Feed the tokens of a scan; a failure of the scan comes after all of them. -/
def feedScan
    (context : Context)
    (machine : Machine)
    (scan : Scan) :
    Reaction Unit :=
  (feedAll context machine scan.tokens).andThen fun machine _ =>
    match scan.failure with
    | none => .settled machine ()
    | some failure => .failed machine failure

/-- Feed tokens to a fresh machine and finish. -/
def run
    (context : Context)
    (tokens : List Token) :
    Reaction Decimal :=
  (feedAll context initial tokens).andThen fun machine _ => finish context machine

end Machine

end InfixCalc
