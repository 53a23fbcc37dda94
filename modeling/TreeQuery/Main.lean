import TreeQuery.Discovery.Run

def main (args : List String) : IO UInt32 := do
  let text ← (← IO.getStdin).readToEnd
  match TreeQuery.TestRun.ofArguments ((TreeQuery.Listing.ofText text).host 1) args with
  | .ok run =>
    IO.print run.output
    return run.exitCode.toUInt32
  | .error fault =>
    IO.eprintln fault.kind.name
    return 1
