import KafkaTopology.CommandLine
/-!
# The program

Brings what a command line needs into a host, runs it there and prints what it printed. This host
starts no tools and sends no requests: topologies can be checked and changes previewed, but applying
them ends with the report that there are no tools. So no run has files to write.
-/
open KafkaTopology CommandLine

/-- The variables that can decide where files are. -/
def locationVariables : List String :=
  ["HOME", "XDG_CONFIG_HOME", "XDG_STATE_HOME", "STREAMFORM_CONFIG", "STREAMFORM_CONFIG_DIR",
    "STREAMFORM_STATE_DIR"]

/-- Brings a variable into a host if it is set. -/
def bringVariable (h : Host) (name : String) : IO Host := do
  match ← IO.getEnv name with
  | some value => return { h with environment := h.environment.set name value }
  | none => return h

/-- Brings what a path names into a host. What is there and is no file is a directory. -/
def bringFile (h : Host) (path : String) : IO Host := do
  try
    let bytes ← IO.FS.readBinFile path
    let content := match String.fromUTF8? bytes with
      | some s => Content.text s
      | none => .binary
    return { h with files := h.files.putFile path content false }
  catch
    | .noFileOrDirectory _ _ _ => return h
    | _ => return { h with files := (h.files.makeDirectories path).2 }

/-- Brings what an invocation needs into a host, as far as the host tells. -/
def supply (i : Invocation) (h : Host) : IO Host := do
  let h ← (i.variableNames h).foldlM bringVariable h
  (i.sources h).foldlM bringFile h

def bareHost : Host where
  files := .empty
  environment := ⟨[], none⟩
  searchPath := []
  tools := fun _ _ => .success
  servers := fun _ _ => .unreachable "no servers"
  clock := ⟨0, 0⟩
  consent := none
  output := ""
  calls := []

/-- Runs a command line. The configuration is brought first: it tells what else is needed. -/
def main (arguments : List String) : IO UInt32 := do
  let h ← locationVariables.foldlM bringVariable bareHost
  let h ← match Invocation.ofArguments h.environment arguments with
    | .ok i => do supply i (← supply i h)
    | .error _ => pure h
  let (exit, after) := (CommandLine.run arguments).run h
  IO.print after.output
  match exit with
  | .success => pure ()
  | .failure f => IO.eprintln f.report
  | .misuse => usage.forM IO.eprintln
  return exit.code.toUInt32
