import Signpost.Files.Tree
import Signpost.Handler
import Signpost.Text.Letter

/-!
# Served directories

What follows the place at which a directory is served leads to a file under it.  Each segment is
decoded on its own and must then be a single name, so that no request leads out of the directory.
A directory is answered with its index file; where there is no file the request goes on.
-/

namespace Signpost.Files

/-- What a path is made of. -/
inductive Component
  /-- A slash at its beginning. -/
  | root
  /-- A dot at its beginning. -/
  | current
  /-- Two dots. -/
  | parent
  /-- A name. -/
  | name (text : String)
  deriving DecidableEq, Repr

/-- What a part of a path stands for; nothing if it is empty or a dot. -/
def Component.ofPart? (part : String) : Option Component :=
  if part = "" ∨ part = "." then none
  else if part = ".." then some .parent
  else some (.name part)

/-- The components of a path.  A dot counts at the beginning only. -/
def components (path : String) : List Component :=
  match Text.after? "/" path with
  | some rest => .root :: (Text.pieces '/' rest).filterMap Component.ofPart?
  | none =>
    match Text.pieces '/' path with
    | "." :: rest => .current :: rest.filterMap Component.ofPart?
    | parts => parts.filterMap Component.ofPart?

/-- Why there is no file for a request. -/
inductive LoadError
  /-- A segment is not a single name. -/
  | invalidPath
  /-- The path leads to a directory, and there are no index files. -/
  | directoryListing
  /-- The path does not lead to a file. -/
  | fileNotFound
  deriving DecidableEq, Repr

/-- What is wrong, in words. -/
def LoadError.message : LoadError → String
  | .invalidPath => "invalid path"
  | .directoryListing => "directory listing"
  | .fileNotFound => "file not found"

/-- A directory that is served. -/
structure Directory where
  /-- Where it is. -/
  root : FilePath
  /-- The file that stands for a directory. -/
  index : Option String := some "index.html"
  /-- For how many milliseconds a file may be kept. -/
  maxAge : Nat := 0

namespace Directory

/-- Go on from a path by one segment, which may be empty or a dot but else has to be a name. -/
def descend? (path : FilePath) (segment : String) : Option FilePath :=
  match components (Text.Percent.decode segment) with
  | [] => some path
  | [.current] => some path
  | [.name text] => some (path.push text)
  | _ => none

/-- Where the remainder of a request leads. -/
def target? (dir : Directory) (remainder : String) : Option FilePath :=
  (Text.pieces '/' remainder).foldlM descend? dir.root

/-- What follows the last dot of a file name, unless the name begins with it. -/
def extension (name : String) : String :=
  match name.toList.reverse.span (· != '.') with
  | (tail, _ :: _ :: _) => String.ofList tail.reverse
  | _ => ""

/-- The content types of files, by their extensions. -/
def contentTypes : List (String × String) := [
  ("html", "text/html; charset=utf-8"), ("htm", "text/html; charset=utf-8"),
  ("css", "text/css"), ("js", "application/javascript"), ("mjs", "application/javascript"),
  ("json", "application/json"), ("txt", "text/plain; charset=utf-8"),
  ("svg", "image/svg+xml"), ("png", "image/png"), ("jpg", "image/jpeg"),
  ("jpeg", "image/jpeg"), ("gif", "image/gif"), ("ico", "image/x-icon"),
  ("woff2", "font/woff2")]

/-- The content type of a file, by its extension. -/
def contentType (path : FilePath) : String :=
  (contentTypes.lookup (Text.lowercase (extension (path.getLast?.getD "")))).getD
    "application/octet-stream"

/-- The file that the remainder of a request leads to, and its content type. -/
def load (files : Tree) (dir : Directory) (remainder : String) :
    Except LoadError (ByteArray × String) := do
  let some path := dir.target? remainder | throw .invalidPath
  let path ←
    match files.locate path with
    | some (.dir _) =>
      match dir.index with
      | some index => pure (path.push index)
      | none => throw .directoryListing
    | _ => pure path
  match files.locate path with
  | some (.file content) => return (content, contentType path)
  | _ => throw .fileNotFound

/-- Answer with a file. -/
def answer (dir : Directory) (content : ByteArray) (contentType : String) (res : Response) :
    Response :=
  let res := { res with contentType }
  let res :=
    if dir.maxAge = 0 then res
    else res.setHeader "Cache-Control" ("public, max-age=" ++ toString (dir.maxAge / 1000))
  res.finish content

/-- The handler that serves a directory. -/
def handler {ε : Type} (files : Tree) (dir : Directory) : Handler ε := fun exchange =>
  match dir.load files (exchange.request.assetPath.getD exchange.request.path) with
  | .ok (content, contentType) => (.done, exchange.mapResponse (dir.answer content contentType))
  | .error _ => (.next, exchange)

end Directory

end Signpost.Files
