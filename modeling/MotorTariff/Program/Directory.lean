import MotorTariff.Program.Files

/-!
A directory of named files for the program to run in, within a tree of the directories, links and
files that are customary. Of these files only the beginning is given: none of them is a document,
and a reader finds that out there. Walking along a path shows what opening it gives.
-/

set_option autoImplicit false

namespace MotorTariff

structure Directory where
  files : List (String × Bytes)
  input : Bytes

namespace Directory

/--
Where a walk along a path has come to: the directory itself, one of the customary directories by
the names that lead to it from the root, a file, or something that does not open.
-/
inductive Place where
  | here
  | folder (names : List String)
  | file (bytes : Bytes)
  | closed (error : SystemError)

def longestName : Nat := 255

def longestPath : Nat := 4095

/-- The directory lies where there is room for what does not last. -/
def surrounding : List String := ["tmp"]

def folders : List (String × List String) :=
  [("", ["boot", "dev", "etc", "home", "media", "mnt", "opt", "proc", "root", "run", "srv", "sys",
    "tmp", "usr", "var"]),
   ("dev", ["mqueue", "pts", "shm"]),
   ("etc", ["apt", "default", "init.d", "opt", "profile.d", "security", "skel", "ssl", "systemd"]),
   ("proc", ["self", "sys"]),
   ("proc/self", ["fd", "fdinfo", "ns", "task"]),
   ("proc/sys", ["fs", "kernel", "net", "vm"]),
   ("run", ["lock"]),
   ("sys", ["block", "bus", "class", "dev", "devices", "firmware", "fs", "kernel", "module",
    "power"]),
   ("usr", ["bin", "games", "include", "lib", "lib64", "libexec", "local", "sbin", "share", "src"]),
   ("usr/lib", ["apt", "locale", "systemd", "tmpfiles.d", "x86_64-linux-gnu"]),
   ("usr/local", ["bin", "etc", "games", "include", "lib", "sbin", "share", "src"]),
   ("usr/share", ["doc", "info", "man", "misc"]),
   ("var", ["backups", "cache", "lib", "local", "log", "mail", "opt", "spool", "tmp"])]

def links : List (String × List String) :=
  [("bin", ["usr", "bin"]), ("sbin", ["usr", "sbin"]), ("lib", ["usr", "lib"]),
   ("lib64", ["usr", "lib64"]), ("dev/fd", ["proc", "self", "fd"]), ("proc/self/root", []),
   ("usr/local/man", ["usr", "share", "man"]), ("var/lock", ["run", "lock"]), ("var/run", ["run"])]

/-- The customary files by the path to their directory, each with the beginning of its text. -/
def texts : List (String × List (String × String)) :=
  [("dev", [("null", ""), ("zero", "\x00"), ("full", "\x00")]),
   ("etc", [("bash.bashrc", "# "), ("fstab", "# "), ("group", "root:x:0:\n"),
    ("hosts", "127.0.0.1\tlocalhost\n"), ("issue", "Debian"), ("ld.so.conf", "include "),
    ("mtab", "overlay / "), ("nsswitch.conf", "# "), ("os-release", "PRETTY_NAME"),
    ("passwd", "root:x:0:0:"), ("profile", "# "), ("shadow", "root:"), ("shells", "# ")]),
   ("proc", [("cmdline", "BOOT_IMAGE"), ("cpuinfo", "processor\t: 0\n"),
    ("filesystems", "nodev\tsysfs\n"), ("meminfo", "MemTotal:"), ("mounts", "overlay / "),
    ("stat", "cpu "), ("version", "Linux version ")]),
   ("proc/self", [("exe", "\x7fELF"), ("mounts", "overlay / "), ("status", "Name:\t")]),
   ("usr/bin", [("bash", "\x7fELF"), ("cat", "\x7fELF"), ("env", "\x7fELF"), ("ls", "\x7fELF"),
    ("sh", "\x7fELF"), ("true", "\x7fELF")]),
   ("usr/lib", [("os-release", "PRETTY_NAME")])]

def inputPaths : List String := ["dev/stdin", "proc/self/fd/0"]

def terminalPath : String := "dev/tty"

def noTerminal : SystemError := .other "No such device or address" 6

def parent : Place → Place
  | .here => .folder surrounding
  | .folder names => .folder names.dropLast
  | place => place

def member? (directory : Directory) (place : Place) (name : String) : Option Place :=
  match place with
  | .here => (directory.files.find? fun file => file.1 == name).map fun file => .file file.2
  | .folder names =>
      let above := String.intercalate "/" names
      let path := String.intercalate "/" (names ++ [name])
      if (folders.lookup above).any (name ∈ ·) then some (.folder (names ++ [name]))
      else if let some target := links.lookup path then some (.folder target)
      else if let some text := texts.lookup above >>= List.lookup name then
        some (.file (Utf8.encodeText text))
      else if path ∈ inputPaths then some (.file directory.input)
      else if path = terminalPath then some (.closed noTerminal)
      else if path = "proc/self/cwd" then some .here
      else none
  | _ => none

/-- One step of a walk. A file has no parts, not even itself. -/
def enter (directory : Directory) (place : Place) (part : List Char) :
    Except SystemError Place :=
  match place with
  | .file _ => .error .notDirectory
  | .closed _ => .error .notDirectory
  | place =>
      if part = [] ∨ part = ['.'] then .ok place
      else if part = ['.', '.'] then .ok (parent place)
      else if longestName < (Utf8.encode part).length then .error .nameTooLong
      else match directory.member? place (String.ofList part) with
        | some place => .ok place
        | none => .error .notFound

/-- Where a path leads, from the directory or from the root. -/
def walk (directory : Directory) (path : String) : Except SystemError Place :=
  if path.toList.contains '\x00' then .error .zeroInName
  else if path.isEmpty then .error .notFound
  else if longestPath < path.utf8ByteSize then .error .nameTooLong
  else
    match Path.parts path with
    | [] :: rest => rest.foldlM directory.enter (.folder [])
    | parts => parts.foldlM directory.enter .here

/-- Opens a path. A directory opens, and reading it fails. -/
def toFiles (directory : Directory) : Files := fun path =>
  match directory.walk path with
  | .ok (.file bytes) => .contents bytes
  | .ok (.closed error) => .refused error
  | .ok _ => .unreadable .isDirectory
  | .error error => .refused error

end Directory

end MotorTariff
