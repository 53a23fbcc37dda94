import TreeQuery.Discovery.Arguments
import TreeQuery.Discovery.Listing

namespace TreeQuery

structure TestRun where
  exitCode : Nat := 0
  ran : List String := []
  output : String := ""
  deriving DecidableEq, Repr

namespace TestRun

def selected (h : Host) (arg : String) : Except HostFault (List Path) := do
  let p := Path.ofString arg
  if ← h.isFile p then return [p] else h.testsBelow p

def schedule (h : Host) (args : List String) : Except HostFault (List Path) := do
  return (← args.mapM (selected h)).flatten.mergeSort Path.le

def add (h : Host) (done : TestRun) (p : Path) : TestRun :=
  let printed := done.output ++ p.toString ++ "\n"
  let ran := done.ran ++ [p.toString]
  if h.run p = 0 then { done with ran, output := printed }
  else { exitCode := 1, ran, output := printed ++ "\n" }

/-- All paths are looked up before the first is run. -/
def ofPaths (h : Host) (args : List String) : Except HostFault TestRun := do
  return (← schedule h args).foldl (add h) {}

/-- `main`. -/
def ofArguments (h : Host) (args : List String) : Except HostFault TestRun :=
  match Request.ofArguments args with
  | .paths paths => ofPaths h paths
  | .help => .ok {}
  | .misuse => .ok { exitCode := 2 }

end TestRun

end TreeQuery
