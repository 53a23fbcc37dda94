import TreeQuery.Display.Value

namespace TreeQuery

namespace Settings

def traceName : String := "DESCEND_TRACE"

def valueOf (settings : List (String × String)) (name : String) : String :=
  ((settings.find? (·.1 == name)).map (·.2)).getD ""

def isOn (settings : List (String × String)) (name : String) : Bool :=
  let value := valueOf settings name
  value != "" && value != "0"

def drop (settings : List (String × String)) (name : String) : List (String × String) :=
  settings.filter (·.1 != name)

def isPair (name value : String) : Bool :=
  !name.toList.contains '=' && (name.toList ++ value.toList).all (·.toNat != 0)

end Settings

namespace Eval

/-- `env_flag`. -/
def flag (name : Value) : Eval Bool := do
  match name with
  | .text s => return Settings.isOn (← get).settings s
  | _ => throw (.wrongType "str")

def setVariable (name v : Value) : Eval Unit := do
  match name, v with
  | .text s, .null => modify fun session =>
      { session with settings := Settings.drop session.settings s }
  | .text s, .text t =>
    if !Settings.isPair s t then throw (.badVariable s)
    if s.isEmpty then throw .namelessVariable
    modify fun session =>
      { session with settings := (s, t) :: Settings.drop session.settings s }
  | _, _ => throw (.wrongType "str")

def emitLine (text : String) : Eval Unit := emit (text ++ "\n")

def emitMore (separator : String) : List Value → Eval Unit
  | [] => emit "\n"
  | v :: vs => do
    emit separator
    emit (← plain v)
    emitMore separator vs

def separatorOf : Value → Except Fault String
  | .null => .ok " "
  | .text s => .ok s
  | _ => .error (.wrongType "str")

/-- `errL`. What comes before a value that cannot be written stays written, the
separator included. -/
def writeLine (separator : Value) (vs : List Value) : Eval Unit := do
  let separator ← separatorOf separator
  match vs with
  | [] => emit "\n"
  | v :: vs =>
    let shown ← plain v
    emit shown
    emitMore separator vs

end Eval

end TreeQuery
