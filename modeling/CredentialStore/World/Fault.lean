import CredentialStore.Program.Call

namespace CredentialStore

/-- The kinds of calls that a fault can strike. -/
inductive FaultPoint
  | createStaging
  | openStream
  | abandonStream
  | openPrimary
  | fetchLine
  | closePrimary
  | write
  | flush
  | sync
  | closeStaging
  | unlinkStaging
  | unlinkBackup
  | linkBackup
  | copyBackup
  | install
  deriving DecidableEq, Repr

/-- The kind of a call; prompts and the log are not struck. -/
def Call.faultPoint? : Call → Option FaultPoint
  | createStaging _ _ => some .createStaging
  | openStream _ => some .openStream
  | abandonStream _ => some .abandonStream
  | openPrimary _ => some .openPrimary
  | fetchLine _ _ _ => some .fetchLine
  | closePrimary _ => some .closePrimary
  | write _ _ => some .write
  | flush _ => some .flush
  | sync _ => some .sync
  | closeStaging _ => some .closeStaging
  | unlinkStaging _ => some .unlinkStaging
  | unlinkBackup _ => some .unlinkBackup
  | linkBackup _ _ => some .linkBackup
  | copyBackup _ _ => some .copyBackup
  | install _ _ => some .install
  | nextAnswer _ | readTerminal _ | log _ | beginTransaction | setUpLog _ => none

/-- What goes wrong, and how many calls succeed before. -/
structure Fault where
  failure : Failure
  after : Nat := 0
  deriving DecidableEq, Repr

/-- The faults that are still to come, by the kind of call. -/
abbrev FaultPlan := List (FaultPoint × Fault)

namespace FaultPlan

/-- A call of a kind is made: the failure that strikes it, if any, and what is still to come. -/
def meet (point : FaultPoint) : FaultPlan → Option Failure × FaultPlan
  | [] => (none, [])
  | (p, fault) :: rest =>
    if p = point then
      match fault.after with
      | 0 => (some fault.failure, (p, fault) :: rest)
      | n + 1 => (none, (p, { fault with after := n }) :: rest)
    else
      let (struck, rest) := meet point rest
      (struck, (p, fault) :: rest)

end FaultPlan

end CredentialStore
