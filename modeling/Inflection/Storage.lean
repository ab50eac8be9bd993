import Inflection.Rules.Failure

/-!
# Where rule files are kept

The rules of a language are in a file that is named for the language, in a
directory.  A file tree holds files in memory: it answers what a file system
would answer for the path of a file, including why a path leads nowhere.
-/

namespace Inflection

open Inflection.Rules

/-- The path of the rule file for a language.  A language that is an absolute
path stands alone. -/
def ruleFilePath (directory language : String) : String :=
  let file := language ++ ".xml"
  if directory.isEmpty || file.startsWith "/" then file
  else if directory.endsWith "/" then directory ++ file
  else directory ++ "/" ++ file

/-- Files in memory: the names on the way to each file, and its content. -/
structure FileTree where
  files : List (List String × ByteArray)

/-- What is found at the end of a way. -/
inductive FileEntry where
  | file (content : ByteArray)
  | directory

namespace FileTree

/-- What is found at a place in the tree. -/
def find? (tree : FileTree) (place : List String) : Option FileEntry :=
  match tree.files.find? fun file => file.1 = place with
  | some file => some (.file file.2)
  | none =>
    if tree.files.any fun file => place.isPrefixOf file.1 then
      some .directory
    else
      none

/-- The number of bytes that the name of a file may have. -/
def longestName : Nat :=
  255

/-- Follows names from a directory, which is given by the names on
the way to it. -/
def follow (tree : FileTree) :
    (place : List String) → List String → Except ReadFailure FileEntry
  | place, [] => .ok ((tree.find? place).getD .directory)
  | place, name :: names =>
    match tree.find? place with
    | none => .error .missing
    | some (.file _) => .error .notADirectory
    | some .directory =>
      if name = "" ∨ name = "." then follow tree place names
      else if name = ".." then follow tree place.dropLast names
      else if longestName < name.utf8ByteSize then .error .nameTooLong
      else if (tree.find? (place ++ [name])).isNone then .error .missing
      else follow tree (place ++ [name]) names

/-- Reads the file at a path. -/
def read (tree : FileTree) (path : String) : Except ReadFailure ByteArray :=
  match path.splitOn "/" with
  | "" :: _ :: _ => .error .missing
  | names =>
    match tree.follow [] names with
    | .error failure => .error failure
    | .ok .directory => .error .isADirectory
    | .ok (.file content) => .ok content

end FileTree

/-- The text of a file, from its bytes. -/
def textOfBytes
    (content : Except ReadFailure ByteArray) :
    Except ReadFailure String :=
  content.bind fun bytes =>
    match String.fromUTF8? bytes with
    | none => .error .notText
    | some text => .ok text

end Inflection
