import SchemaCheck.Resolver
import SchemaCheck.Url.FilePath

/-!
Retrieval of documents: files by their path, web locators by a given function.
-/

namespace SchemaCheck.Fetcher

open Utf8 (Bytes)

def ofFiles (files : FileTree) : Fetcher := fun u =>
  match u.filePath? with
  | none => .error (.fetch u.write "not a local file path")
  | some path =>
    match files.read path with
    | .ok bytes => .ok bytes
    | .error e =>
      .error (.fetch u.write ("cannot read " ++ Utf8.decodeLossy path ++ ": " ++ e.message))

def ofSources (files : FileTree) (web : Fetcher) : Fetcher := fun u =>
  if u.scheme = "file" then ofFiles files u
  else if u.scheme = "http" ∨ u.scheme = "https" then web u
  else .error (.unsupportedScheme u.write)

end SchemaCheck.Fetcher
