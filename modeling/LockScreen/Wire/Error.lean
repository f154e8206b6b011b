namespace LockScreen.Wire

def recordLength : Nat := 24

inductive Errno where
  | notPermitted
  | badFile
  | again
  | isDirectory
  | noSpace
  | brokenPipe
deriving DecidableEq, Repr

def Errno.message : Errno → String
  | .notPermitted => "EPERM: Operation not permitted"
  | .badFile => "EBADF: Bad file number"
  | .again => "EAGAIN: Try again"
  | .isDirectory => "EISDIR: Is a directory"
  | .noSpace => "ENOSPC: No space left on device"
  | .brokenPipe => "EPIPE: Broken pipe"

/-- What ends trust in a channel. Having nothing to read is no failure. -/
inductive Error where
  | partialRecord (got : Nat)
  | partialWrite (written : Nat)
  | unknownKind (tag : UInt64)
  | closed
  | io (errno : Errno)
deriving DecidableEq, Repr

def Error.message : Error → String
  | .partialRecord got => s!"partial read: expected {recordLength} bytes, got {got}"
  | .partialWrite written => s!"partial write: expected {recordLength} bytes, wrote {written}"
  | .unknownKind tag => s!"unknown event kind tag {tag.toNat}"
  | .closed => "channel closed by peer"
  | .io errno => s!"channel I/O error: {errno.message}"

end LockScreen.Wire
