import DataOutline.Expression.Parser
import DataOutline.Value.Context
import DataOutline.Value.Member

/-!
# Evaluation of expressions

The value of an expression in a context. Operands are evaluated from left to right, the arguments of
a call before what is called, and the right operand of a logical operator only if the left one does
not decide. Functions belong to a host, which may have effects of its own: they are those of the
monad `m`. Each part of an expression is one level deeper than the whole, up to the limit on levels.
-/

namespace DataOutline

/-- What calls of host functions do. -/
structure Host (m : Type → Type) where
  call : HostFunction → List Value → ExceptT RunError m Value

namespace Expression

/-- What an expression is called in the message that it is no function. -/
def calleeName : Expression → String
  | .identifier name => name
  | .member target property => calleeName target ++ "." ++ property
  | _ => "expression"

variable {m : Type → Type} [Monad m]

/-- A result that takes no effect to come by. -/
def settled {α : Type} (r : Except RunError α) : ExceptT RunError m α := ExceptT.mk (pure r)

/-- What follows a settled result goes on with the result alone. -/
theorem bind_settled [LawfulMonad m] {α β : Type} (r : Except RunError α)
    (k : α → ExceptT RunError m β) : (settled r >>= k) = ExceptT.bindCont k r :=
  pure_bind (f := ExceptT.bindCont k) r

/-- Call a method of a value. The methods of an object are the functions among its entries, and its
text is a method unless an entry has that name. -/
def callMethod (host : Host m) (target : Value) (name : String) (arguments : List Value) :
    ExceptT RunError m Value :=
  match target with
  | .object entries =>
    match Entries.get? name entries with
    | some (.function f) => host.call f arguments
    | some _ => throw (.notCallable name)
    | none =>
      if name = "toString" then return .string target.text else throw (.notCallable name)
  | _ => settled (target.method name arguments)

/-- Call a value, which has to be a function. -/
def callValue (host : Host m) (name : String) (callee : Value) (arguments : List Value) :
    ExceptT RunError m Value :=
  match callee with
  | .function f => host.call f arguments
  | _ => throw (.notCallable name)

mutual

/-- The value of an expression that stands at a level. -/
def evaluate (host : Host m) (context : Context) (level : Nat) (e : Expression) :
    ExceptT RunError m Value :=
  if levelLimit < level then throw .tooDeep
  else
    match e with
    | .null => return .null
    | .boolean b => return .boolean b
    | .number x => return .number x
    | .string s => return .string s
    | .identifier name =>
      match context.get? name with
      | some v => return v
      | none => throw (.undefinedVariable name)
    | .array items => do
      let values ← evaluateAll host context (level + 1) items
      return .array values false
    | .object entries => do
      let values ← evaluateEntries host context (level + 1) entries
      return .object (Entries.ofList values)
    | .member target property => do
      let v ← evaluate host context (level + 1) target
      settled (v.property property)
    | .index target place => do
      let v ← evaluate host context (level + 1) target
      let key ← evaluate host context (level + 1) place
      settled (v.property key.text)
    | .call callee arguments => do
      let values ← evaluateAll host context (level + 1) arguments
      match callee with
      | .member target name => do
        let v ← evaluate host context (level + 1) target
        callMethod host v name values
      | other => do
        let v ← evaluate host context (level + 1) other
        callValue host other.calleeName v values
    | .unary operator operand => do
      let v ← evaluate host context (level + 1) operand
      settled (v.unary operator)
    | .binary operator left right => do
      let a ← evaluate host context (level + 1) left
      if (operator = .and && !a.isTruthy) || (operator = .or && a.isTruthy) then return a
      let b ← evaluate host context (level + 1) right
      settled (a.binary operator b)
    | .conditional condition whenTrue whenFalse => do
      let c ← evaluate host context (level + 1) condition
      if c.isTruthy then evaluate host context (level + 1) whenTrue
      else evaluate host context (level + 1) whenFalse

def evaluateAll (host : Host m) (context : Context) (level : Nat) :
    List Expression → ExceptT RunError m (List Value)
  | [] => return []
  | e :: es => do
    let v ← evaluate host context level e
    let vs ← evaluateAll host context level es
    return v :: vs

def evaluateEntries (host : Host m) (context : Context) (level : Nat) :
    List (String × Expression) → ExceptT RunError m (List (String × Value))
  | [] => return []
  | (k, e) :: es => do
    let v ← evaluate host context level e
    let vs ← evaluateEntries host context level es
    return (k, v) :: vs

end

/-- Beyond the limit nothing is evaluated, whatever the expression. -/
theorem evaluate_of_lt {host : Host m} {context : Context} {level : Nat} (h : levelLimit < level)
    (e : Expression) : evaluate host context level e = throw .tooDeep := by
  cases e <;> rw [evaluate, if_pos h]

def evaluateText (host : Host m) (code : String) (context : Context) :
    ExceptT RunError m Value := do
  let e ← settled (parse code)
  evaluate host context 0 e

end Expression

end DataOutline
