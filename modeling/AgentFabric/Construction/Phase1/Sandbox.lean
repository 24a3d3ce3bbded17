import AgentFabric.Foundation.FileSystem

namespace AgentFabric.Phase1

/-- The names of an absolute path without links and without the names that stay or go up. -/
structure ResolvedPath where
  names : List String
  normal : ∀ name ∈ names, name ≠ "" ∧ name ≠ "." ∧ name ≠ ".." ∧ '/' ∉ name.toList

namespace ResolvedPath

/-- The text of the root is a slash, and any other path has its names behind slashes. -/
def text (path : ResolvedPath) : List Char :=
  if path.names = [] then ['/'] else PathText.joined '/' (path.names.map String.toList)

end ResolvedPath

structure SandboxPolicy where
  allowedFilesystemPaths : List String := []
  deniedFilesystemPrefixes : List String := ["/etc", "/proc", "/sys", "/dev"]

/-- What the file system resolves a path to, and what reading a resolved path gives. -/
structure FileSystem where
  resolve : String → ResolvedPath
  readText : ResolvedPath → Except PyError String

namespace Sandbox

variable (system : FileSystem)

/-- The text of the target starts with the text of one of the paths. -/
def startsWithAny (paths : List String) (target : ResolvedPath) : Bool :=
  paths.any fun path => (system.resolve path).text.isPrefixOf target.text

/-- The answer of `read_file` with the paths that it reads. -/
def readFile (policy : SandboxPolicy) (path : String) : Except PyError String × List ResolvedPath :=
  let target := system.resolve path
  if startsWithAny system policy.deniedFilesystemPrefixes target then
    (.error (.authorizationError ("sandbox denied protected path read: " ++ path)), [])
  else if ¬ startsWithAny system policy.allowedFilesystemPaths target then
    (.error (.authorizationError ("sandbox denied filesystem read: " ++ path)), [])
  else (system.readText target, [target])

end Sandbox

end AgentFabric.Phase1
