import LayerPress.Disk.Basic
import LayerPress.Host.Tools

/-!
# Installed programs

A program is found by its path, or by its name among the tools. A path that leads to a folder, or
to a file that is no program, is refused differently from one that leads nowhere.
-/

namespace LayerPress.Host

/-- What a program's name leads to. -/
inductive Program where
  | tool (name : String)
  | launcher (name : String)
  | shell
  | script (text : String)
  deriving DecidableEq, Repr

/-- The files of a host and its scripts by path. -/
structure Installation where
  disk : Disk
  scripts : List (String × String)

namespace Installation

/-- The folders that hold the tools. -/
def toolFolders : List String := ["/bin/", "/usr/bin/"]

/-- The programs that start others, or ask the shell for more than their input. -/
def launchers : List String := ["env", "nice", "nohup", "tee", "timeout", "which", "xargs"]

/-- The names of the installed programs. -/
def toolNames : List String := "sh" :: launchers ++ Tools.all.map (·.1)

/-- The program of a name without slashes. -/
def named? (name : String) : Option Program :=
  if name = "sh" then some .shell
  else if launchers.contains name then some (.launcher name)
  else if (Tools.all.lookup name).isSome then some (.tool name)
  else none

/-- The program a path to a tool leads to. -/
def toolAt? (path : String) : Option Program :=
  toolFolders.findSome? fun folder =>
    if path.startsWith folder then named? (String.ofList (path.toList.drop folder.length)) else none

/-- The program that a name or a path leads to. -/
def find (i : Installation) (program : String) : Except Fault Program :=
  if program.contains '/' then
    match i.scripts.lookup program, toolAt? program with
    | some text, _ => .ok (.script text)
    | none, some p => .ok p
    | none, none =>
      match i.disk.locate (Path.ofText program) with
      | .ok _ => .error .permissionDenied
      | .error f => .error f
  else if Disk.maxName < program.utf8ByteSize then .error .nameTooLong
  else if program = "." || program = ".." then .error .permissionDenied
  else match named? program with
    | some p => .ok p
    | none => .error .notFound

/-- The folders of a plain host. -/
def folders : List String :=
  ["/bin", "/usr/bin", "/tmp", "/etc", "/dev", "/root", "/home", "/var", "/proc", "/opt", "/lib"]

/-- The files of a plain host that are no programs. -/
def files : List String :=
  ["/etc/passwd", "/etc/group", "/etc/hosts", "/etc/hostname", "/dev/null", "/dev/zero"]

/-- A host with the usual folders and tools. -/
def plain : Installation :=
  let made := folders.foldl (fun d p => (d.makeFolders (Path.ofText p)).2) ⟨.empty, []⟩
  let paths := files ++ toolFolders.flatMap fun folder => toolNames.map (folder ++ ·)
  ⟨paths.foldl (fun d p => (d.writeFile (Path.ofText p) (.bytes [])).toOption.getD d) made, []⟩

/-- The host with one more script. -/
def withScript (i : Installation) (path text : String) : Installation :=
  { i with scripts := (path, text) :: i.scripts }

end Installation

end LayerPress.Host
