-- The signal that calls off a wait: a value that its sender may set any number of times, and
-- whether the receiver has seen the last setting.

namespace WarehouseJobs

structure Signal where
  value : Bool
  /-- The sender has set the value since the receiver last looked for changes. -/
  unseen : Bool := false
  /-- The sender is still there. -/
  isOpen : Bool := true
deriving DecidableEq, Repr

/-- What a sender may do. -/
inductive SenderAction where
  | set (value : Bool)
  | leave
deriving DecidableEq, Repr

namespace Signal

/-- Setting the value it has already counts as a change, too. A sender who left can do
nothing more. -/
def after (s : Signal) : SenderAction → Signal
  | .set value => if s.isOpen then { s with value, unseen := true } else s
  | .leave => { s with isOpen := false }

/-- What a receiver who waits for a change finds at once, if anything. A change that was not
seen comes before the end of the sender. -/
inductive Noticed where
  | change
  | gone
deriving DecidableEq, Repr

def noticed? (s : Signal) : Option Noticed :=
  if s.unseen then some .change else if s.isOpen then none else some .gone

/-- The receiver has seen the last setting. -/
def seen (s : Signal) : Signal := { s with unseen := false }

end Signal
end WarehouseJobs
