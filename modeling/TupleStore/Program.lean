/-!
# Programs

A program is a tree of operations: it asks for one operation, continues with
the answer, and ends with a result or an error.  Operations are answered by a
handler, so the same program runs alone on a state or step by step among other
programs.
-/

namespace TupleStore

inductive Program (Op : Type) (Reply : Op → Type) (ε α : Type) where
  | done (result : Except ε α)
  | step (op : Op) (next : Reply op → Program Op Reply ε α)

namespace Program

variable {Op Op' : Type} {Reply : Op → Type} {Reply' : Op' → Type} {ε α β σ : Type}

def bind (program : Program Op Reply ε α) (rest : α → Program Op Reply ε β) :
    Program Op Reply ε β :=
  match program with
  | .done (.ok result) => rest result
  | .done (.error error) => .done (.error error)
  | .step op next => .step op fun reply => (next reply).bind rest

instance : Monad (Program Op Reply ε) where
  pure result := .done (.ok result)
  bind := bind

instance : MonadExcept ε (Program Op Reply ε) where
  throw error := .done (.error error)
  tryCatch program handler :=
    let rec go : Program Op Reply ε _ → Program Op Reply ε _
      | .done (.ok result) => .done (.ok result)
      | .done (.error error) => handler error
      | .step op next => .step op fun reply => go (next reply)
    go program

def perform (op : Op) : Program Op Reply ε (Reply op) := .step op fun reply => .done (.ok reply)

def ofExcept (result : Except ε α) : Program Op Reply ε α := .done result

def attempt (program : Program Op Reply ε α) : Program Op Reply ε (Except ε α) :=
  match program with
  | .done result => .done (.ok result)
  | .step op next => .step op fun reply => (next reply).attempt

def interpret (meaning : (op : Op) → Program Op' Reply' ε (Reply op)) :
    Program Op Reply ε α → Program Op' Reply' ε α
  | .done result => .done result
  | .step op next => (meaning op).bind fun reply => interpret meaning (next reply)

def run (handle : (op : Op) → σ → Reply op × σ) :
    Program Op Reply ε α → σ → Except ε α × σ
  | .done result, state => (result, state)
  | .step op next, state =>
      let (reply, state) := handle op state
      run handle (next reply) state

def runM {m : Type → Type} [Monad m] (handle : (op : Op) → m (Reply op)) :
    Program Op Reply ε α → m (Except ε α)
  | .done result => return result
  | .step op next => do runM handle (next (← handle op))

end Program

end TupleStore
