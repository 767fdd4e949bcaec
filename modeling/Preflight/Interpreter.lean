import Preflight.Color
import Preflight.Content.Reader
import Preflight.Failure
import Preflight.PaintState

/-!
# Interpretation

The operators of a content stream are obeyed one after the other. The first failure, of an operator
or of reading, ends the interpretation, and what was done before stays done. A registry gives
handlers to some operators; the others are left to the owner of the interpretation.
-/

namespace Preflight

/-! ## Obeying the operators of a stream -/

/-- Obey the operators of a stream of at most `limit` bytes. What makes the stream unreadable is
reported after the operators before it were obeyed. -/
def obeyOperators {m : Type → Type} [Monad m] [MonadExceptOf StreamFailure m] {α : Type}
    (limit : Option Nat) (content : Bytes) (obey : List Operator → m α) : m α := do
  if let some allowed := limit.filter (· < content.length) then
    throw (.limitExceeded .streamBytes allowed content.length)
  let transcript := readOperators content
  let result ← obey transcript.operators
  match transcript.stop with
  | some stop => throw (.interpreter (.ofStop content.length stop))
  | none => return result

namespace Operator

/-- Numbers, rounded to singles, that all of `operands` have to be. -/
def numbers (operator : Operator) (operands : List Operand) : Except StreamFailure (List Single) :=
  operands.mapM fun operand =>
    match operand.number? with
    | some number => .ok number.toSingle
    | none => .error (.operands operator.name (.number operand))

/-- The operands as exactly `count` numbers. -/
def numericOperands (operator : Operator) (count : Nat) : Except StreamFailure (List Single) :=
  if operator.operands.length = count then operator.numbers operator.operands
  else .error (.operands operator.name (.count count operator.operands.length))

/-- The device color that an operator sets, if it is one of the six that set one. -/
def deviceColor? (operator : Operator) : Except StreamFailure (Option Color) :=
  match operator.name with
  | "g" | "G" => do
    match ← operator.numericOperands 1 with
    | [level] => return some (.ofGray level)
    | _ => return none
  | "rg" | "RG" => do
    match ← operator.numericOperands 3 with
    | [red, green, blue] => return some (.ofRgb red green blue)
    | _ => return none
  | "k" | "K" => do
    match ← operator.numericOperands 4 with
    | [cyan, magenta, yellow, black] => return some (.ofCmyk cyan magenta yellow black)
    | _ => return none
  | _ => return none

end Operator

/-! ## Handlers -/

/-- What an interpretation changes: the current color spaces, and a state of its owner. -/
structure Session (σ : Type) where
  /-- The current color spaces. -/
  paint : PaintState
  /-- The state of the owner. -/
  owner : σ

/-- A step of an interpretation. -/
abbrev Action (σ : Type) := ExceptT StreamFailure (StateM (Session σ))

/-- What a handler is given. -/
structure Call where
  operator : Operator
  resources : Dictionary
  /-- The document, for references. -/
  document : Option Document

/-- How an operator is obeyed. -/
abbrev Handler (σ : Type) := Call → Action σ Unit

/-- Handlers by the names of their operators; no operator has two. -/
structure Registry (σ : Type) where
  entries : List (String × Handler σ)
  /-- No name is repeated. -/
  nodup : (entries.map Prod.fst).Nodup

namespace Registry

variable {σ : Type}

/-- The registry without handlers. -/
def empty : Registry σ := ⟨[], List.nodup_nil⟩

/-- The handler of an operator. -/
def handler? (registry : Registry σ) (name : String) : Option (Handler σ) :=
  registry.entries.lookup name

/-- Give an operator that has no handler one. -/
def register (registry : Registry σ) (name : String) (handler : Handler σ) :
    Except StreamFailure (Registry σ) :=
  if h : name ∈ registry.entries.map Prod.fst then
    .error (.interpreter (.duplicateOperator name))
  else .ok ⟨(name, handler) :: registry.entries, List.nodup_cons.2 ⟨h, registry.nodup⟩⟩

/-- The registry with the given handlers. -/
def ofList (entries : List (String × Handler σ)) : Except StreamFailure (Registry σ) :=
  entries.foldlM (fun registry (name, handler) => registry.register name handler) empty

/-- The names of the operators with handlers, in alphabetical order. -/
def names (registry : Registry σ) : List String :=
  (registry.entries.map Prod.fst).mergeSort fun a b => !decide (b < a)

/-- The text by which a registry is shown. -/
def describe (registry : Registry σ) : String :=
  "OperatorRegistry \x7b operators: " ++ Operand.bracketed (registry.names.map Quoted.ofString)
    ++ " \x7d"

/-- Obey an operator by its handler, or by `unhandled`. -/
def dispatch (registry : Registry σ) (unhandled : Operator → Action σ Unit) (call : Call) :
    Action σ Unit :=
  match registry.handler? call.operator.name with
  | some handler => handler call
  | none => unhandled call.operator

/-- Interpret a stream of at most `limit` bytes from the beginning, with the owner's state `owner`.
The result is the number of operators, or the failure; and the owner's state after it. -/
def run (registry : Registry σ) (unhandled : Operator → Action σ Unit) (limit : Option Nat)
    (content : Bytes) (resources : Dictionary) (document : Option Document) (owner : σ) :
    Except StreamFailure Nat × σ :=
  let action : Action σ Nat := obeyOperators limit content fun operators => do
    operators.forM fun operator => registry.dispatch unhandled ⟨operator, resources, document⟩
    return operators.length
  let (result, session) := action.run.run ⟨.initial, owner⟩
  (result, session.owner)

end Registry

end Preflight
