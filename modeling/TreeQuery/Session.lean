import TreeQuery.Fault
import TreeQuery.Store

/-! Sessions, and evaluations that change them. -/

namespace TreeQuery

structure Tally where
  tests : Nat := 0
  failures : Nat := 0
  deriving DecidableEq, Repr

/-- What the library does not settle itself: how many levels of indentation a text has room for,
how many callers there are behind the one of a check, the numbers that `random.choice` comes to, and
how the interpreter words its errors. -/
structure Surroundings where
  room : Int := Int.pow 2 34
  callers : Nat := 8
  chance : Nat → Nat := fun _ => 0
  wording : Fault → String := Fault.plainWording

/-- Everything that an evaluation can change: the objects, the diagnostics written so far, the
settings, the tally of checks, and the argument lists that spies have recorded, oldest first. -/
structure Session where
  store : Store := {}
  log : String := ""
  settings : List (String × String) := []
  tally : Tally := {}
  recorded : List (List Value) := []
  surroundings : Surroundings := {}

/-- An evaluation gives a value or stops with a fault; either way what it did to the session
before stays done. -/
abbrev Eval := ExceptT Fault (StateM Session)

namespace Eval

def getStore : Eval Store := do return (← get).store

def setStore (st : Store) : Eval Unit := modify fun s => { s with store := st }

def allocAt (o : Object) : Eval Addr := do
  let (a, st) := (← getStore).alloc o
  setStore st
  return a

def alloc (o : Object) : Eval Value := return .ref (← allocAt o)

def write (a : Addr) (o : Object) : Eval Unit := do
  setStore ((← getStore).write a o)

def freshMark : Eval Nat := do
  let st ← getStore
  setStore { st with marks := st.marks + 1 }
  return st.marks

def draw : Eval Nat := do
  let surroundings := (← get).surroundings
  modify fun s =>
    { s with surroundings := { surroundings with chance := fun i => surroundings.chance (i + 1) } }
  return surroundings.chance 0

def emit (text : String) : Eval Unit := modify fun s => { s with log := s.log ++ text }

end Eval

end TreeQuery
