/-!
The tools the assistant is known to call. A tool of any other name is shown by its values.
-/
namespace ChaincodeConsole

inductive ToolKind where
  | readFile
  | writeFile
  | editFile
  | deleteFile
  | listDir
  | fileSearch
  | grepSearch
  | runTerminalCmd
  | other (name : String)
  deriving DecidableEq, Repr

namespace ToolKind

def known : List ToolKind :=
  [.readFile, .writeFile, .editFile, .deleteFile, .listDir, .fileSearch, .grepSearch,
    .runTerminalCmd]

def name : ToolKind → String
  | .readFile => "read_file"
  | .writeFile => "write_file"
  | .editFile => "edit_file"
  | .deleteFile => "delete_file"
  | .listDir => "list_dir"
  | .fileSearch => "file_search"
  | .grepSearch => "grep_search"
  | .runTerminalCmd => "run_terminal_cmd"
  | .other name => name

def ofName (name : String) : ToolKind :=
  (known.find? fun k => k.name == name).getD (.other name)

def isKnown : ToolKind → Bool
  | .other _ => false
  | _ => true

/-- Whether a call that succeeds may have changed the project's files. A command counts,
since it can run anything. -/
def mutatesFiles : ToolKind → Bool
  | .writeFile | .editFile | .deleteFile | .runTerminalCmd => true
  | _ => false

end ToolKind
end ChaincodeConsole
