import TreeQuery.Discovery.Path
import TreeQuery.ErrorClass

/-! What the system answers about files, and what is asked of it: `is_file`, `is_dir` and `rglob`
for the names of test files. -/

namespace TreeQuery

inductive HostFault
  | absent
  | notDirectory
  | badDescriptor
  | linkLoop
  | denied
  | tooLong
  | other (number : Nat)
  deriving DecidableEq, Repr

namespace HostFault

def kind : HostFault → ErrorClass
  | absent => .fileAbsent
  | denied => .permission
  | _ => .system

/-- The refusals that count as there being nothing (`_ignore_error`). -/
def isAbsence : HostFault → Bool
  | absent | notDirectory | badDescriptor | linkLoop => true
  | _ => false

end HostFault

inductive FileKind
  | file
  | directory
  | other
  deriving DecidableEq, Repr

/-- A link to a directory is none itself. -/
structure DirectoryItem where
  name : FileName
  isDirectory : Bool
  deriving DecidableEq, Repr

/-- The answers of the system: what a path leads to, what a directory holds, and the code that
the run of a path ends with. Nothing is assumed of them but that directories are not nested
without end. -/
structure Host where
  stat : Path → Except HostFault FileKind
  scan : Path → Except HostFault (List DirectoryItem)
  run : Path → Int
  height : Path → Nat
  lower : ∀ {p items item}, scan p = .ok items → item ∈ items → item.isDirectory →
    height (p.child item.name) < height p

namespace Host

def extension : String := ".ut.py"

def isTestName (name : String) : Bool := extension.toList.isSuffixOf name.toList

-- The system is not asked about a path with a null character.
def isKind (h : Host) (kind : FileKind) (p : Path) : Except HostFault Bool :=
  if '\x00' ∈ p.toString.toList then .ok false
  else match h.stat p with
    | .ok found => .ok (found == kind)
    | .error fault => if fault.isAbsence then .ok false else .error fault

def isFile (h : Host) : Path → Except HostFault Bool := h.isKind .file

def isDirectory (h : Host) : Path → Except HostFault Bool := h.isKind .directory

def testsAmong (items : List DirectoryItem) (p : Path) : List Path :=
  (items.filter fun item => isTestName item.name).map fun item => p.child item.name

/-- The test files below a directory. One that must not be read is passed over; any other refusal
ends the walk. -/
def walk (h : Host) (p : Path) : Except HostFault (List Path) :=
  match _found : h.scan p with
  | .error fault => if fault = .denied then .ok [] else .error fault
  | .ok items => do
    let deeper ← items.attach.mapM fun item =>
      if _below : item.1.isDirectory then h.walk (p.child item.1.name) else .ok []
    return testsAmong items p ++ deeper.flatten
termination_by h.height p
decreasing_by exact h.lower _found item.2 _below

def testsBelow (h : Host) (p : Path) : Except HostFault (List Path) := do
  if ← h.isDirectory p then return (← h.walk p).eraseDups
  else return []

end Host

end TreeQuery
