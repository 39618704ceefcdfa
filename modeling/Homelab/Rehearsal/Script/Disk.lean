import Homelab.Text.FilePath

/-!
# The disk

What scripts and programs find on the disk: folders, and files with their bytes, each
under its path in normal form.  A file can stand only in a folder that is there.
-/

namespace Homelab
namespace Script

/-- What stands under a path. -/
inductive Item where
  | folder
  | file (bytes : List UInt8)
deriving DecidableEq

/-- The disk: paths, each with what stands under it. -/
abbrev Disk := List (String × Item)

namespace Disk

/-- The folders, devices and files that are on every disk. -/
def usual : Disk :=
  (["/", "/bin", "/dev", "/etc", "/home", "/opt", "/proc", "/root", "/run", "/sys", "/tmp", "/usr",
    "/usr/bin", "/usr/lib", "/usr/local", "/usr/local/bin", "/usr/sbin", "/usr/share", "/var",
    "/var/log", "/var/tmp"].map fun path => (path, .folder)) ++
    [("/dev/null", .file []), ("/dev/zero", .file (List.replicate 65536 0)), ("/etc/hosts", .file []),
      ("/etc/passwd", .file [])]

/-- The path of a name in a directory. -/
def path (directory name : String) : String :=
  if name = "" then "" else Text.normalPath (Text.joinPath directory name)

/-- What a name in a directory stands for. -/
def item? (disk : Disk) (directory name : String) : Option Item :=
  disk.lookup (path directory name)

/-- The folder of a path. -/
def parent (path : String) : String := Text.normalPath (Text.joinPath path "..")

/-- A file can be written under a path. -/
def canHold (disk : Disk) (path : String) : Bool :=
  path != "" && disk.lookup (parent path) = some .folder && disk.lookup path ≠ some .folder

/-- The names in a folder, in order. -/
def names (disk : Disk) (folder : String) : List String :=
  ((disk.map Prod.fst).filter fun p => p != folder && parent p = folder).map
    (fun p => String.ofList (Text.lastName p)) |>.mergeSort

/-- A file is written; what one of a device is told is lost. -/
def write (disk : Disk) (path : String) (bytes : List UInt8) : Disk :=
  if path.startsWith "/dev/" then disk
  else (disk.filter fun entry => entry.1 != path) ++ [(path, .file bytes)]

/-- The bytes of a file; none if there is no such file. -/
def bytes (disk : Disk) (path : String) : List UInt8 :=
  match disk.lookup path with
  | some (.file found) => found
  | _ => []

/-- A path is taken from the disk, with all that stands under it. -/
def remove (disk : Disk) (path : String) : Disk :=
  disk.filter fun entry => entry.1 != path && !entry.1.startsWith (path ++ "/")

end Disk
end Script
end Homelab
