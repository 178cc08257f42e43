import LineCensus.Path
import LineCensus.Tally

/-!
# `FileRecord` — what is known of one counted file
-/

namespace LineCensus

/-- A counted file. -/
structure FileRecord where
  path : Path
  /-- The last step of the path, as text. -/
  name : String
  /-- The extension of the path, as text. -/
  extension : String
  language : String
  /-- The size in bytes. -/
  size : Nat
  tally : Tally
deriving DecidableEq, Repr

/-- The record of a file, its name and extension read off the path. -/
def FileRecord.of (path : Path) (language : String) (size : Nat) (tally : Tally) : FileRecord where
  path := path
  name := String.ofList (Text.decodeLossy (path.name?.getD []))
  extension := String.ofList (Text.decodeLossy (path.extension?.getD []))
  language := language
  size := size
  tally := tally

end LineCensus
