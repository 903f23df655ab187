import Conformance.Service.Answer

/-!
# Command line

The command line serves requests: one JSON object a line on standard input, each
answer as one line of compact JSON on standard output, flushed, until the input ends.
Blank lines are skipped.  The requests are those of `Service.answer`.
-/

namespace Conformance

/-- Answers the lines of `input` on `output` until the input ends. -/
partial def serveLines (input output : IO.FS.Stream) : IO Unit := do
  let line ← input.getLine
  if line.isEmpty then return
  if !line.all Char.isWhitespace then
    output.putStrLn (Service.answerLine line).compact
    output.flush
  serveLines input output

end Conformance

/-- Serves requests on standard input and output. -/
def main : IO Unit := do
  Conformance.serveLines (← IO.getStdin) (← IO.getStdout)
