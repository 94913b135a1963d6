import CallChain.Document.Binary
import CallChain.Document.Json

/-! Documents in files: the extension decides between the two forms. -/

namespace CallChain.Document

/-- Whether a path names a JSON file, whatever the case of its extension. -/
def isJsonPath (path : String) : Bool :=
  match FileTree.extension? path with
  | none => false
  | some extension => extension.toList.map Char.toLower == "json".toList

/-- The bytes of a document in the form that belongs to a path. -/
def contentFor (document : Document) (path : String) : Bytes :=
  if isJsonPath path then Text.toBytes document.toText else document.toBytes

/-- Writes a document to a file. -/
def save (document : Document) (path : String) (files : FileTree) :
    Except DocumentFault FileTree :=
  match files.write path (document.contentFor path) with
  | .error fault => .error (.file path fault)
  | .ok files => .ok files

/-- The accepted document of a file's bytes, in the form that belongs to its path. -/
def ofContent (path : String) (content : Bytes) : Except DocumentFault Document :=
  if isJsonPath path then ofText (Text.ofBytesLossy content) else ofBytes content

/-- Reads an accepted document from a file. -/
def load (path : String) (files : FileTree) : Except DocumentFault Document :=
  match files.read path with
  | .error fault => .error (.file path fault)
  | .ok content => ofContent path content

end CallChain.Document
