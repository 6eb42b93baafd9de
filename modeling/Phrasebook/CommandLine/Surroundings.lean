import Phrasebook.Dictionary
import Phrasebook.Text.Split

/-!
# Surroundings

What the program may read: files, by their paths, and standard input. A run in
memory has a tree of files below its working folder instead; `FileTree.read`
follows a path through it step by step.
-/

namespace Phrasebook

/-- Why a text cannot be read from a file or from standard input. -/
inductive ReadFault where
  | notFound
  | isDirectory
  | notDirectory
  | nameTooLong
  | notPermitted
  | notText
  | other (message : String)
  deriving DecidableEq

def ReadFault.message : ReadFault → String
  | notFound => "No such file or directory (os error 2)"
  | isDirectory => "Is a directory (os error 21)"
  | notDirectory => "Not a directory (os error 20)"
  | nameTooLong => "File name too long (os error 36)"
  | notPermitted => "Permission denied (os error 13)"
  | notText => "stream did not contain valid UTF-8"
  | other message => message

def decodeText (bytes : ByteArray) : Except ReadFault String :=
  match String.fromUTF8? bytes with
  | some text => .ok text
  | none => .error .notText

structure Surroundings where
  file : String → Except ReadFault String
  input : Except ReadFault String

/-! ## Files in memory -/

/-- Files by their paths from the working folder, with single slashes between
the names. The folders are those that the paths pass through. -/
structure FileTree where
  files : List (String × Except ReadFault String)

/-- Where a path leads: to the working folder or one below it, given by the
names on the way from the last to the first, to a folder outside, or to a file
with its content. -/
inductive Place where
  | folder (names : List (List Char))
  | outside
  | file (content : Except ReadFault String)

def maxNameSize : Nat := 255

def maxPathSize : Nat := 4095

namespace FileTree

def hasFolder (tree : FileTree) (path : List Char) : Bool :=
  tree.files.any fun (file, _) => (path ++ ['/']).isPrefixOf file.toList

/-- The place that the names of a file or a folder lead to, from the last name
to the first. -/
def enter (tree : FileTree) (names : List (List Char)) :
    Except ReadFault Place :=
  let path := ['/'].intercalate names.reverse
  match Dictionary.lookup (String.ofList path) tree.files with
  | some content => .ok (.file content)
  | none =>
      if tree.hasFolder path then .ok (.folder names) else .error .notFound

/-- One step along a path. Nothing is known of the folders outside, but that
each of them is in another one, and no step leads on from a file. -/
def step (tree : FileTree) (place : Place) (name : List Char) :
    Except ReadFault Place :=
  match place with
  | .file _ => .error .notDirectory
  | .folder names =>
      if name = [] ∨ name = ['.'] then
        .ok place
      else if name = ['.', '.'] then
        .ok (if names = [] then .outside else .folder names.tail)
      else if maxNameSize < (String.ofList name).utf8ByteSize then
        .error .nameTooLong
      else
        tree.enter (name :: names)
  | .outside =>
      if name = [] ∨ name = ['.'] ∨ name = ['.', '.'] then
        .ok place
      else if maxNameSize < (String.ofList name).utf8ByteSize then
        .error .nameTooLong
      else
        .error .notFound

/-- The place that a path leads to. A slash in front leads outside. -/
def follow (tree : FileTree) (path : String) : Except ReadFault Place :=
  let (first, others) := splitAtMark '/' path.toList
  if path = "" then
    .error .notFound
  else if maxPathSize < path.utf8ByteSize then
    .error .nameTooLong
  else if first = [] then
    others.foldlM tree.step .outside
  else
    (first :: others).foldlM tree.step (.folder [])

def read (tree : FileTree) (path : String) : Except ReadFault String :=
  match tree.follow path with
  | .error fault => .error fault
  | .ok (.file content) => content
  | .ok _ => .error .isDirectory

end FileTree

def Surroundings.ofFiles (files : List (String × Except ReadFault String))
    (input : Except ReadFault String) : Surroundings :=
  ⟨FileTree.read ⟨files⟩, input⟩

end Phrasebook
