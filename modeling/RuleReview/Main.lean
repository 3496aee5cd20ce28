import RuleReview.CommandLine
import RuleReview.CommandLine.Snapshot

/-! # The program

The arguments are those of the command line. The first line of the input records the world that the command
sees; what the command shows is printed, and its exit code returned.
-/
def main (args : List String) : IO UInt32 := do
  let line ← (← IO.getStdin).getLine
  match RuleReview.CommandLine.World.ofText line.toList with
  | .error problem =>
    IO.eprintln (String.ofList problem)
    return 2
  | .ok world =>
    let (code, progress) := RuleReview.CommandLine.run world (args.map String.toList)
    IO.print (String.ofList progress.out)
    IO.eprint (String.ofList progress.err)
    return UInt32.ofNat code
