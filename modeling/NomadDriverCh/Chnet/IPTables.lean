import NomadDriverCh.Foundation.GoString

/-!
# The host firewall as the port-forwarding controller drives it

The controller reaches iptables through `go-iptables`.  The host's firewall is modelled
by its user-defined chains and by every rule, written as the controller writes it:
the table, the chain, then the rule's arguments.  The rules of one chain are the rules
of the list that name it, in list order, so `Append` adds at the end of the list,
`Insert` at position 1 adds at its front, and `DeleteIfExists` removes the first copy.

Every invocation may fail for reasons of the host (a missing binary, the xtables lock, a
kernel error).  How each call ends is an `Outcome`, taken in order from a script; a
call whose outcome is `ok` does what iptables does, so `NewChain` on a chain that
exists still fails, with exit status 1.  The script running out means success.
-/

namespace NomadDriverCh.Chnet

/-- A rule as `configureIPTables` records it: the table, the chain, then the arguments. -/
abbrev RuleSpec := List GoString

/-- An error returned by a `go-iptables` call; `exitStatus` is the command's exit status
when the error is an `*iptables.Error`. -/
structure IptError where
  msg : GoError
  exitStatus : Option Nat
  deriving DecidableEq, Repr

inductive Outcome where
  | ok
  | fail (e : IptError)
  deriving DecidableEq, Repr

def xtablesLockBusy : IptError :=
  ⟨lit "Another app is currently holding the xtables lock.", some 4⟩

def next : List Outcome → Outcome × List Outcome
  | [] => (.ok, [])
  | o :: outs => (o, outs)

def preroutingIPTablesChainName : GoString := lit "NOMAD_CH_PRT"

def forwardIPTablesChainName : GoString := lit "NOMAD_CH_FW"

def iptablesNATTableName : GoString := lit "nat"

def iptablesFilterTableName : GoString := lit "filter"

def builtinChains (table : GoString) : List GoString :=
  if table = iptablesNATTableName then
    [lit "PREROUTING", lit "INPUT", lit "OUTPUT", lit "POSTROUTING"]
  else if table = iptablesFilterTableName then [lit "INPUT", lit "FORWARD", lit "OUTPUT"]
  else []

/-- The host's firewall: its user-defined chains as `(table, chain)`, and its rules. -/
structure Host where
  chains : List (GoString × GoString)
  rules : List RuleSpec
  deriving DecidableEq, Repr

def chainExists : IptError := ⟨lit "iptables: Chain already exists.", some 1⟩

namespace Host

def listChains (h : Host) (table : GoString) : List GoString :=
  builtinChains table ++ (h.chains.filter (·.1 = table)).map (·.2)

def listChainsCall (h : Host) (table : GoString) : Outcome → Except IptError (List GoString)
  | .ok => .ok (h.listChains table)
  | .fail e => .error e

def newChain (h : Host) (table chain : GoString) : Outcome → Host × Except IptError Unit
  | .ok =>
    if chain ∈ h.listChains table then (h, .error chainExists)
    else ({ h with chains := h.chains ++ [(table, chain)] }, .ok ())
  | .fail e => (h, .error e)

def insert (h : Host) (table chain : GoString) (args : List GoString) :
    Outcome → Host × Except IptError Unit
  | .ok => ({ h with rules := (table :: chain :: args) :: h.rules }, .ok ())
  | .fail e => (h, .error e)

def append (h : Host) (table chain : GoString) (args : List GoString) :
    Outcome → Host × Except IptError Unit
  | .ok => ({ h with rules := h.rules ++ [table :: chain :: args] }, .ok ())
  | .fail e => (h, .error e)

/-- `ipt.DeleteIfExists(table, chain, args...)`: a rule that is not there is no error. -/
def deleteIfExists (h : Host) (table chain : GoString) (args : List GoString) :
    Outcome → Host × Except IptError Unit
  | .ok => ({ h with rules := h.rules.erase (table :: chain :: args) }, .ok ())
  | .fail e => (h, .error e)

end Host

end NomadDriverCh.Chnet
