/-! Deferred values are told apart by identity, and each call of one is recorded. -/

namespace TextTemplate

/-- The identities of the deferred values called so far, the latest first. -/
structure CallHistory where
  calls : List Nat
  deriving DecidableEq, Repr

/-- No value has been called. -/
def CallHistory.empty : CallHistory :=
  ⟨[]⟩

/-- How often a deferred value has been called. -/
def CallHistory.count (history : CallHistory) (id : Nat) : Nat :=
  history.calls.count id

/-- A computation that may call deferred values. -/
abbrev Calls := StateM CallHistory

/-- Records one more call of a deferred value and tells how many came before it. -/
def recordCall (id : Nat) : Calls Nat :=
  fun history => (history.count id, ⟨id :: history.calls⟩)

end TextTemplate
