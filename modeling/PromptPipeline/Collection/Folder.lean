/-
# Collection.Folder -- collections from files

A file tree is the list of its files.  A collection is made of the files of a folder
and its inner folders whose names say that they hold a pipeline, in the order of
their paths, name by name.
-/
import PromptPipeline.Collection.Basic
import PromptPipeline.Pipeline.Json

namespace PromptPipeline

set_option autoImplicit false

/-- A file: the names on its path and its content, if that is text. -/
structure SourceFile where
  path : List String
  content : Option String
deriving Repr, DecidableEq

namespace SourceFile

/-- The name of the file itself. -/
def name (f : SourceFile) : String := f.path.getLast?.getD ""

/-- Whether a file name has an ending. -/
def hasEnding (ending : String) (f : SourceFile) : Bool :=
  ending.toList.isSuffixOf f.name.toList

/-- Whether the file holds a pipeline as JSON. -/
def isJson (f : SourceFile) : Bool := f.hasEnding ".ptbk.json"

/-- Whether the file holds a pipeline, as a document or as JSON. -/
def isPipeline (f : SourceFile) : Bool := f.hasEnding ".ptbk.md" || f.isJson

/-- Put a file in its place by its path. -/
def place (f : SourceFile) : List SourceFile → List SourceFile
  | [] => [f]
  | head :: rest => if f.path < head.path then f :: head :: rest else head :: place f rest

end SourceFile

/-- Why a folder or a file can not be read. -/
inductive ReadFault
  | missing
  | noFolder
  | noText
deriving Repr, DecidableEq

/-- The wording of a fault. -/
def ReadFault.message : ReadFault → String
  | missing => "No such file or directory (os error 2)"
  | noFolder => "Not a directory (os error 20)"
  | noText => "stream did not contain valid UTF-8"

namespace Collection

/-- The pipeline files below a folder, in the order of their paths. -/
def pipelineFiles (folder : List String) (files : List SourceFile) :
    Except ReadFault (List SourceFile) :=
  let inFolder := files.filter fun f => folder.isPrefixOf f.path && f.path.length ≠ folder.length
  if files.any fun f => f.path.isPrefixOf folder then .error .noFolder
  else if inFolder.isEmpty && !folder.isEmpty then .error .missing
  else .ok ((inFolder.filter SourceFile.isPipeline).foldr SourceFile.place [])

/-- How the path of a file below a folder is shown: behind the folder's own text, which
may end with the slash already. -/
def shownPath (root : String) (folder : List String) (f : SourceFile) : String :=
  root ++ (if root.toList.getLast? = some '/' then "" else "/")
    ++ Text.join "/" (f.path.drop folder.length)

/-- The pipeline of a file. -/
def readFile (options : CompileOptions) (path : String) (f : SourceFile) :
    Logged CompileError Pipeline :=
  match f.content with
  | none => .error (.unreadable path ReadFault.noText.message)
  | some text =>
      if f.isJson then Logged.lift ((Pipeline.ofJsonText text).mapError .json)
      else compile options text

/-- With the pipeline of a file. -/
def insertFile (options : CompileOptions) (root : String) (folder : List String) (c : Collection)
    (f : SourceFile) : Logged CompileError Collection := do
  let path := shownPath root folder f
  let p ← readFile options path f
  Logged.note (.loaded path)
  match c.insert p with
  | .ok c => pure c
  | .error (.collection none fault) => Logged.error (.collection (some path) fault)
  | .error e => Logged.error e

/-- **The collection of the files below a folder**, which is shown as `root`. -/
def ofFolder (options : CompileOptions) (root : String) (folder : List String)
    (files : List SourceFile) : Logged CompileError Collection :=
  match pipelineFiles folder files with
  | .error fault => .error (.unreadable root fault.message)
  | .ok found => found.foldlM (insertFile options root folder) empty

end Collection

end PromptPipeline
