import Census.Record
import Census.Text.Field

set_option autoImplicit false

namespace Census.FileType

def other : String := "OTHER"

def table : List (String × List String) :=
  [("AVRO", ["avro"]),
   ("PARQUET", ["parquet", "parq"]),
   ("ORC", ["orc"]),
   ("SEQUENCE", ["seq"]),
   ("CSV", ["csv", "tsv"]),
   ("JSON", ["json", "jsonl", "ndjson"]),
   ("TEXT", ["txt", "md", "xml", "yaml", "yml"]),
   ("LOG", ["log", "out", "err"]),
   ("COMPRESSED", ["gz", "bz2", "snappy", "lz4", "lzo", "zst", "xz", "deflate"]),
   ("ARCHIVE", ["zip", "tar", "tgz", "jar", "war"]),
   ("IMAGE", ["jpg", "jpeg", "png", "gif", "bmp", "tif", "tiff"]),
   ("VIDEO", ["mp4", "avi", "mov", "mkv"]),
   ("AUDIO", ["mp3", "wav", "flac", "ogg"]),
   ("SCRIPT", ["sh", "py", "pig", "hql", "sql", "scala", "r"]),
   ("TEMP", ["tmp", "temp", "swp", "crc"]),
   (other, [])]

def labels : List String :=
  table.map Prod.fst

def ofExtension (extension : String) : String :=
  match table.find? (·.2.contains extension) with
  | some (label, _) => label
  | none => other

def extension? (name : String) : Option String :=
  -- Neither what follows the last dot nor what precedes it may be empty.
  let reversed := name.toList.reverse
  match reversed.takeWhile (· ≠ '.'), reversed.dropWhile (· ≠ '.') with
  | last :: before, '.' :: _ :: _ => some (String.ofList (last :: before).reverse)
  | _, _ => none

def classify (name : String) : String :=
  match extension? name with
  | some extension => ofExtension (Text.lowered extension)
  | none => other

def of? (r : Record) : Option String :=
  if r.isFile then some (classify r.name) else none

end Census.FileType
