import ServiceBinding.Error

/-!
Calls on a cluster, and failures injected into them. Every call is put on record; it is answered
by the first fault that matches it and is not used up, if there is one.
-/
namespace ServiceBinding.Cluster

/-- What a call does. -/
inductive Verb where
  | get
  | list
  | create
  | replace
  | delete
  /-- Reads the source of a binding. -/
  | read
deriving DecidableEq, Repr

def Verb.name : Verb → String
  | .get => "get"
  | .list => "list"
  | .create => "create"
  | .replace => "replace"
  | .delete => "delete"
  | .read => "read"

def Verb.ofName? (name : String) : Option Verb :=
  [Verb.get, .list, .create, .replace, .delete, .read].find? (·.name == name)

/-- A call on an object; a listing has its selector for a name. -/
structure Call where
  verb : Verb
  kind : String
  space : String
  name : String
deriving DecidableEq, Repr

/-- A call on one line. -/
def Call.render (c : Call) : String :=
  c.verb.name ++ " " ++ c.kind ++ " " ++ c.space ++ "/" ++ c.name

/-- A failure to inject; without a kind, name or number of times it holds for all of them. -/
structure Fault where
  verb : Verb
  kind : Option String := none
  name : Option String := none
  code : Nat
  times : Option Nat := none
deriving DecidableEq, Repr

def Fault.matches (f : Fault) (c : Call) : Bool :=
  f.verb == c.verb && (f.kind.isNone || f.kind == some c.kind) &&
    (f.name.isNone || f.name == some c.name) && f.times != some 0

/-- The error that a fault answers with. -/
def Fault.error (f : Fault) : Error := .api f.code "Injected" "injected"

/-- The error that answers a call, if any, and the faults that are left. -/
def strike (c : Call) : List Fault → Option Error × List Fault
  | [] => (none, [])
  | f :: rest =>
    if f.matches c then (some f.error, { f with times := f.times.map (· - 1) } :: rest)
    else
      let (e, left) := strike c rest
      (e, f :: left)

end ServiceBinding.Cluster
