import PgVisor.ByteWords

/-!
# Replacing a file through a temporary one

The new content is written to a temporary file beside the old one, flushed, and renamed
over it. Renaming is atomic and the content of the temporary file is complete when it
happens. A replacement that is interrupted has left a part of the temporary file or has
been renamed: a reader who looks at the file alone finds the old content or the new one.
-/

namespace PgVisor.AtomicFile

open ByteWords

/-- A file that is only ever replaced, and the temporary file beside it. -/
structure ReplacedFile where
  content : Option Bytes
  temporary : Option Bytes
deriving DecidableEq

/-- How far an operation on a file got before it was interrupted. -/
inductive Progress where
  | untouched
  | written (count : Nat)
  | finished
deriving DecidableEq

namespace ReplacedFile

/-- A file that does not exist yet. -/
def missing : ReplacedFile where
  content := none
  temporary := none

def replace (file : ReplacedFile) (payload : Bytes) : ReplacedFile :=
  { file with content := some payload, temporary := none }

/-- The replacement stopped: while it wrote, the temporary file has the first bytes. -/
def interrupted (file : ReplacedFile) (payload : Bytes) : Progress → ReplacedFile
  | .untouched => file
  | .written count => { file with temporary := some (payload.take count) }
  | .finished => file.replace payload

theorem interrupted_content (file : ReplacedFile) (payload : Bytes) (progress : Progress) :
    (file.interrupted payload progress).content = file.content ∨
      (file.interrupted payload progress).content = some payload := by
  cases progress with
  | untouched | written count => exact .inl rfl
  | finished => exact .inr rfl

end ReplacedFile

end PgVisor.AtomicFile
