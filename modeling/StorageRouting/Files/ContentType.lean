import StorageRouting.Files.Path

/-
  The type of a content, guessed from the name of its file.

  Key definitions include:
    * `ContentType.table`
    * `ContentType.guess?`
-/

------------------------------------------------------------
-- Guessing
------------------------------------------------------------

namespace StorageRouting

namespace ContentType

/- The types of contents by the extension of their files. -/
def table : List (String × String) :=
  [("txt", "text/plain"), ("log", "text/plain"),
    ("html", "text/html"), ("htm", "text/html"),
    ("css", "text/css"), ("csv", "text/csv"),
    ("md", "text/markdown"), ("xml", "text/xml"),
    ("js", "text/javascript"), ("mjs", "text/javascript"),
    ("json", "application/json"), ("pdf", "application/pdf"),
    ("gz", "application/gzip"), ("zip", "application/zip"),
    ("tar", "application/x-tar"), ("wasm", "application/wasm"),
    ("bin", "application/octet-stream"),
    ("png", "image/png"), ("jpg", "image/jpeg"),
    ("jpeg", "image/jpeg"), ("gif", "image/gif"),
    ("svg", "image/svg+xml"), ("webp", "image/webp"),
    ("mp3", "audio/mpeg"), ("wav", "audio/wav"),
    ("mp4", "video/mp4"), ("webm", "video/webm")]

/- The type that the extension of a file stands for. -/
def guess? (path : String) : Option String :=
  (FilePath.extension? path).bind
    (fun e => table.lookup (Text.lowerAscii e))

end ContentType

end StorageRouting
