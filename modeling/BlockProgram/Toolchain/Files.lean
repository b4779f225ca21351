/-! # Files as the toolchain sees them

Reading a path gives its text, or says that nothing is there, or that something is there
that cannot be read as text (a directory, or bytes that are not UTF-8). The difference
matters: a missing configuration file means the defaults, an unreadable one is a fault.

A `FileStore` is a directory held in memory: named files with their text, and names of
empty subdirectories. A path is followed part by part from the store, or from the root
when it starts with a slash. Every part after the first needs a directory to look in: an
empty part or `.` stays, `..` goes up, and a name is looked up. Above the store and at the
root there are directories, but nothing the store knows of, so names there are missing.
So a file followed by a slash, or by `/.`, is missing, and the empty path names nothing.
-/

namespace BlockProgram.Toolchain

/-- What reading a path gave. -/
inductive FileRead where
  /-- Nothing is there. -/
  | missing
  /-- Something is there that cannot be read as text, such as a directory. -/
  | unreadable
  /-- A file, with its text. -/
  | text (content : String)

/-- A directory held in memory. -/
structure FileStore where
  /-- The files, by name, with their text. -/
  files : List (String × String) := []
  /-- The names of empty subdirectories. -/
  dirs : List String := []

namespace FileStore

/-- Where a path has led so far. -/
inductive Spot where
  /-- The store's own directory. -/
  | top
  /-- One of its subdirectories, all of them empty. -/
  | sub (name : String)
  /-- A directory above the store, or the root. -/
  | beyond
  /-- A file, with its text. -/
  | file (content : String)
  /-- Nothing: a name that is not there, or a file used as a directory. -/
  | nowhere

/-- Follows one part of a path from a spot. -/
def step (s : FileStore) : Spot → String → Spot
  | .file _, _ | .nowhere, _ => .nowhere
  | spot, "" | spot, "." => spot
  | .top, ".." => .beyond
  | .sub _, ".." => .top
  | .beyond, ".." => .beyond
  | .top, name =>
    if s.dirs.contains name then .sub name
    else match s.files.find? (·.1 == name) with
      | some (_, content) => .file content
      | none => .nowhere
  | .sub _, _ | .beyond, _ => .nowhere

/-- Where a path leads: from the root when it starts with a slash, else from the store. -/
def locate (s : FileStore) (path : String) : Spot :=
  match path.splitOn "/" with
  | "" :: rest => rest.foldl s.step .beyond
  | parts => parts.foldl s.step .top

/-- Reads a path of the store: a directory is unreadable, and the empty path is missing. -/
def read (s : FileStore) (path : String) : FileRead :=
  if path.isEmpty then .missing
  else match s.locate path with
    | .file content => .text content
    | .nowhere => .missing
    | _ => .unreadable

end FileStore

end BlockProgram.Toolchain
