/-!
Computations that ask. A computation is done, has failed, or asks a question and goes on with the answer; who answers,
and what the answers change, is left open. What a schema needs of the schemas inside of it is such a computation, both
when it is read and when it is compiled.
-/
namespace JsonSchema

inductive Inquiry (ε κ ι α : Type) where
  | done (value : α)
  | fail (error : ε)
  | ask (question : κ) (next : ι → Inquiry ε κ ι α)

namespace Inquiry

variable {ε κ ι α β : Type}

def bind : Inquiry ε κ ι α → (α → Inquiry ε κ ι β) → Inquiry ε κ ι β
  | done value, f => f value
  | fail error, _ => .fail error
  | ask question next, f => .ask question fun answer => (next answer).bind f

instance : Monad (Inquiry ε κ ι) where
  pure := done
  bind := bind

def answer (question : κ) : Inquiry ε κ ι ι := .ask question .done

def ofExcept : Except ε α → Inquiry ε κ ι α
  | .ok value => .done value
  | .error error => .fail error

def run {m : Type → Type} [Monad m] [MonadExceptOf ε m] (respond : κ → m ι) : Inquiry ε κ ι α → m α
  | done value => pure value
  | fail error => throw error
  | ask question next => do (next (← respond question)).run respond

end Inquiry

end JsonSchema
