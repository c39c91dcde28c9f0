import Calculator.CommandLine.Run

set_option autoImplicit false

namespace Calculator.CommandLine

def usage : String :=
  "usage: calculator [-p PLACES] [--max-depth LEVELS] [-c] [-t] [-v | -q] [--] [EXPRESSION]"

-- Stops behind the first line end, so that a terminal need not be closed.
partial def readLine (stream : IO.FS.Stream) (line : ByteArray) : IO ByteArray := do
  let chunk ← stream.read 4096
  if chunk.isEmpty || chunk.toList.contains 10 then return line ++ chunk
  readLine stream (line ++ chunk)

def execute (words : List String) : IO UInt32 := do
  match Options.ofWords? words with
  | none =>
      IO.eprintln usage
      return 2
  | some options =>
      let input ←
        if options.expression.isNone then readLine (← IO.getStdin) .empty else pure .empty
      let report := options.run input
      IO.print report.stdout
      IO.eprint report.stderr
      return report.code.toUInt32

end Calculator.CommandLine

def main (words : List String) : IO UInt32 :=
  Calculator.CommandLine.execute words
