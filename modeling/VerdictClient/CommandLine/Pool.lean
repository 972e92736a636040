namespace VerdictClient.CommandLine

structure Pool (α : Type) where
  begun : Nat
  outcomes : List (Option α)

namespace Pool

variable {α : Type}

def workers : Nat := 8

def start (count : Nat) : Pool α := ⟨0, List.replicate count none⟩

def isBusy (i : Nat) (p : Pool α) : Bool := i < p.begun && (p.outcomes[i]?).any Option.isNone

def busy (p : Pool α) : List Nat := (List.range p.begun).filter (p.isBusy ·)

/-- The subject to begin with, if there is one left and a worker free. -/
def next? (p : Pool α) : Option Nat :=
  if p.begun < p.outcomes.length && p.busy.length < workers then some p.begun else none

inductive Event (α : Type) where
  | begun
  | finished (i : Nat) (outcome : α)

def step (p : Pool α) : Event α → Pool α
  | .begun => if p.next?.isSome then { p with begun := p.begun + 1 } else p
  | .finished i outcome =>
    if p.isBusy i then { p with outcomes := p.outcomes.set i (some outcome) } else p

def run (es : List (Event α)) (p : Pool α) : Pool α := es.foldl step p

end Pool

end VerdictClient.CommandLine
