import MachineArgs.HostFiles
import MachineArgs.Invocation.Description
import MachineArgs.Invocation.Words
import MachineArgs.Settings.Read

/-!
# A host with files

The readers of words, of configuration documents and of shell text meet what they are read for: a
host that answers from given files (`Host.ofFiles`).
-/

namespace MachineArgs

/-- The host whose files are the given ones. It starts no helper programs and has no network. -/
def Host.ofFiles (files : HostFiles) (settingsPath : String) (environment : Option String)
    (uuid : Uuid) : Host where
  openFile access path := (files.openFile access path).mapError PathFault.message
  readText path := (files.readText path).mapError PathFault.message
  request _ := .error "error sending request"
  parseSettings := Settings.ofDocument?
  splitWords := Text.ShellWords.split?
  hasPath := files.hasPath
  settingsPath := settingsPath
  environment := environment
  uuid := uuid
  tap _ := (.notStarted PathFault.missing.message, false)
  tpm := .ended (.exited 0) ""

end MachineArgs
