/-!
# Files of a working directory

The files that a command can reach, by their paths from the working directory.  A directory is
there if a file is in it.  What is above the working directory is not known, and nothing is
found there, apart from the null device.
-/

namespace Shorthand.Command

/-- Why a file cannot be opened. -/
inductive Obstacle where
  | missing
  | isDirectory
  | notDirectory
  | nameTooLong
deriving DecidableEq

/-- The obstacle in words. -/
def Obstacle.words : Obstacle → String
  | missing => "no such file or directory"
  | isDirectory => "is a directory"
  | notDirectory => "not a directory"
  | nameTooLong => "file name too long"

/-- Files with their texts, each by the names on the way to it. -/
structure Folder where
  files : List (List String × String)

/-- What a path leads to. -/
inductive Found where
  | file (path : List String) (text : String)
  | directory
  /-- Nothing yet, but a file could be made there. -/
  | free (path : List String)
  /-- Nothing, and the path asks for a directory. -/
  | freeDirectory
  | nullDevice
  | obstacle (obstacle : Obstacle)

namespace Folder

/-- The text of a file. -/
def text? (folder : Folder) (path : List String) : Option String := folder.files.lookup path

/-- Whether there is a directory. -/
def hasDirectory (folder : Folder) (path : List String) : Bool :=
  path.isEmpty || folder.files.any fun (file, _) => path.isPrefixOf file && path != file

/-- The largest number of bytes in a name. -/
def nameLimit : Nat := 255

/-- What is at the end of a path. -/
def lastFound (folder : Folder) (path : List String) : Found :=
  match folder.text? path with
  | some text => .file path text
  | none => if folder.hasDirectory path then .directory else .free path

/-- Follows the names of a path from a directory, which is none if it is above the working
directory. -/
def follow (folder : Folder) (place? : Option (List String)) : List String → Found
  | [] => .directory
  | name :: rest =>
      if name.isEmpty || name == "." then follow folder place? rest
      else if name == ".." then
        match place? with
        | some (first :: others) => follow folder (some (first :: others).dropLast) rest
        | some [] | none => follow folder none rest
      else
        match place? with
        | none => .obstacle .missing
        | some place =>
            let path := place ++ [name]
            if name.utf8ByteSize > nameLimit then .obstacle .nameTooLong
            else if rest.isEmpty then folder.lastFound path
            else if folder.hasDirectory path then follow folder (some path) rest
            else if (folder.text? path).isSome then .obstacle .notDirectory
            else if rest.all String.isEmpty then .freeDirectory
            else .obstacle .missing

/-- What an absolute path leads to. -/
def absolute (names : List String) : Found :=
  match names.filter fun name => !name.isEmpty && name != "." with
  | [] => .directory
  | ["dev", "null"] => .nullDevice
  | _ => .obstacle .missing

/-- What a path leads to. -/
def find (folder : Folder) (path : String) : Found :=
  if path.isEmpty then .obstacle .missing
  else if path.startsWith "/" then absolute (path.splitOn "/")
  else folder.follow (some []) (path.splitOn "/")

/-- What a file that is opened for reading holds: its text, or nothing that can be read if it is
a directory. -/
def read (folder : Folder) (path : String) : Except Obstacle (Option String) :=
  match folder.find path with
  | .file _ text => .ok (some text)
  | .directory => .ok none
  | .nullDevice => .ok (some "")
  | .free _ | .freeDirectory => .error .missing
  | .obstacle obstacle => .error obstacle

/-- The folder with a file written: a new one, or one that loses what it held. -/
def write (folder : Folder) (path text : String) : Except Obstacle Folder :=
  match folder.find path with
  | .file names _ =>
      .ok ⟨folder.files.map fun entry => if entry.1 == names then (names, text) else entry⟩
  | .free names => .ok ⟨folder.files ++ [(names, text)]⟩
  | .nullDevice => .ok folder
  | .directory | .freeDirectory => .error .isDirectory
  | .obstacle obstacle => .error obstacle

/-- The folder with files, by their paths. -/
def ofFiles (files : List (String × String)) : Folder :=
  ⟨files.map fun (path, text) => (path.splitOn "/", text)⟩

/-- The files by their paths. -/
def toFiles (folder : Folder) : List (String × String) :=
  folder.files.map fun (path, text) => ("/".intercalate path, text)

end Folder

end Shorthand.Command
