namespace TtRiingd

/-- An `anyhow::Error`: its messages, the outermost context first. -/
structure Error where
  chain : List String
  deriving DecidableEq

def anyhow (message : String) : Error := ⟨[message]⟩

def Error.context (error : Error) (message : String) : Error := ⟨message :: error.chain⟩

def Error.display (error : Error) : String := error.chain.headD ""

/-- How a call ends when it does not return `Ok`: with an `Err`, or with a panic that unwinds the
task that made it. -/
inductive Fault where
  | error (error : Error)
  | panic
  deriving DecidableEq

def Fault.context (fault : Fault) (message : String) : Fault :=
  match fault with
  | .error e => .error (e.context message)
  | .panic => .panic

end TtRiingd
