/-
# Errors of the system

What can go wrong outside the program when a file is opened, read or written: an error with the
number the system gives it, or one that only has a kind and perhaps a text of its own.

Key definitions: `ErrorKind`, `SystemError`, `SystemError.kind`, `SystemError.message`.
-/
namespace StreamEditor

/-- The kinds of errors that are told apart. -/
inductive ErrorKind where
  | notFound
  | permissionDenied
  | brokenPipe
  | alreadyExists
  | wouldBlock
  | invalidInput
  | invalidData
  | timedOut
  | writeZero
  | interrupted
  | unexpectedEnd
  | other
  deriving DecidableEq, Repr

namespace ErrorKind

/-- A kind in words. -/
def what : ErrorKind → String
  | notFound => "entity not found"
  | permissionDenied => "permission denied"
  | brokenPipe => "broken pipe"
  | alreadyExists => "entity already exists"
  | wouldBlock => "operation would block"
  | invalidInput => "invalid input parameter"
  | invalidData => "invalid data"
  | timedOut => "timed out"
  | writeZero => "write zero"
  | interrupted => "operation interrupted"
  | unexpectedEnd => "unexpected end of file"
  | other => "other error"

/-- The kind of the error with a number. -/
def ofNumber : Nat → ErrorKind
  | 1 => permissionDenied
  | 2 => notFound
  | 4 => interrupted
  | 11 => wouldBlock
  | 13 => permissionDenied
  | 17 => alreadyExists
  | 22 => invalidInput
  | 32 => brokenPipe
  | 110 => timedOut
  | _ => other

end ErrorKind

/-- An error of the system. -/
inductive SystemError where
  /-- An error the system has a number for. -/
  | numbered (number : Nat)
  /-- An error of a kind with a text of its own. -/
  | described (kind : ErrorKind) (text : String)
  /-- An error of which the kind alone is known. -/
  | bare (kind : ErrorKind)
  deriving DecidableEq, Repr

namespace SystemError

/-- The system's words for its numbers, from 0 on. -/
def texts : List String :=
  ["Success",
   "Operation not permitted",
   "No such file or directory",
   "No such process",
   "Interrupted system call",
   "Input/output error",
   "No such device or address",
   "Argument list too long",
   "Exec format error",
   "Bad file descriptor",
   "No child processes",
   "Resource temporarily unavailable",
   "Cannot allocate memory",
   "Permission denied",
   "Bad address",
   "Block device required",
   "Device or resource busy",
   "File exists",
   "Invalid cross-device link",
   "No such device",
   "Not a directory",
   "Is a directory",
   "Invalid argument",
   "Too many open files in system",
   "Too many open files",
   "Inappropriate ioctl for device",
   "Text file busy",
   "File too large",
   "No space left on device",
   "Illegal seek",
   "Read-only file system",
   "Too many links",
   "Broken pipe",
   "Numerical argument out of domain",
   "Numerical result out of range",
   "Resource deadlock avoided",
   "File name too long",
   "No locks available",
   "Function not implemented",
   "Directory not empty",
   "Too many levels of symbolic links",
   "Unknown error 41",
   "No message of desired type",
   "Identifier removed",
   "Channel number out of range",
   "Level 2 not synchronized",
   "Level 3 halted",
   "Level 3 reset",
   "Link number out of range",
   "Protocol driver not attached",
   "No CSI structure available",
   "Level 2 halted",
   "Invalid exchange",
   "Invalid request descriptor",
   "Exchange full",
   "No anode",
   "Invalid request code",
   "Invalid slot",
   "Unknown error 58",
   "Bad font file format",
   "Device not a stream",
   "No data available",
   "Timer expired",
   "Out of streams resources",
   "Machine is not on the network",
   "Package not installed",
   "Object is remote",
   "Link has been severed",
   "Advertise error",
   "Srmount error",
   "Communication error on send",
   "Protocol error",
   "Multihop attempted",
   "RFS specific error",
   "Bad message",
   "Value too large for defined data type",
   "Name not unique on network",
   "File descriptor in bad state",
   "Remote address changed",
   "Can not access a needed shared library",
   "Accessing a corrupted shared library",
   ".lib section in a.out corrupted",
   "Attempting to link in too many shared libraries",
   "Cannot exec a shared library directly",
   "Invalid or incomplete multibyte or wide character",
   "Interrupted system call should be restarted",
   "Streams pipe error",
   "Too many users",
   "Socket operation on non-socket",
   "Destination address required",
   "Message too long",
   "Protocol wrong type for socket",
   "Protocol not available",
   "Protocol not supported",
   "Socket type not supported",
   "Operation not supported",
   "Protocol family not supported",
   "Address family not supported by protocol",
   "Address already in use",
   "Cannot assign requested address",
   "Network is down",
   "Network is unreachable",
   "Network dropped connection on reset",
   "Software caused connection abort",
   "Connection reset by peer",
   "No buffer space available",
   "Transport endpoint is already connected",
   "Transport endpoint is not connected",
   "Cannot send after transport endpoint shutdown",
   "Too many references: cannot splice",
   "Connection timed out",
   "Connection refused",
   "Host is down",
   "No route to host",
   "Operation already in progress",
   "Operation now in progress",
   "Stale file handle",
   "Structure needs cleaning",
   "Not a XENIX named type file",
   "No XENIX semaphores available",
   "Is a named type file",
   "Remote I/O error",
   "Disk quota exceeded",
   "No medium found",
   "Wrong medium type",
   "Operation canceled",
   "Required key not available",
   "Key has expired",
   "Key has been revoked",
   "Key was rejected by service",
   "Owner died",
   "State not recoverable",
   "Operation not possible due to RF-kill",
   "Memory page has hardware error"]

/-- The kind of an error. -/
def kind : SystemError → ErrorKind
  | numbered n => ErrorKind.ofNumber n
  | described k _ => k
  | bare k => k

/-- An error in words. -/
def message : SystemError → String
  | numbered n =>
    let text := texts.getD n ("Unknown error " ++ toString n)
    text ++ " (os error " ++ toString n ++ ")"
  | described _ text => text
  | bare k => k.what

/-- There is nothing under the name. -/
def noEntry : SystemError := .numbered 2

/-- There is already something under the name. -/
def alreadyThere : SystemError := .numbered 17

/-- What is used as a directory is none. -/
def notDirectory : SystemError := .numbered 20

/-- What is used as a file is a directory. -/
def isDirectory : SystemError := .numbered 21

/-- A link leads to a link too many times. -/
def linkLoop : SystemError := .numbered 40

/-- A name, or a whole path, has too many bytes. -/
def nameTooLong : SystemError := .numbered 36

/-- The name means a place that cannot be replaced. -/
def busy : SystemError := .numbered 16

/-- A path holds a byte that no name can hold. -/
def nulInName : SystemError :=
  .described .invalidInput "file name contained an unexpected NUL byte"

/-- A write took no byte of those it was given. -/
def nothingWritten : SystemError := .described .writeZero "failed to write whole buffer"

/-- The content of a file is no text. -/
def notText : SystemError := .described .invalidData "stream did not contain valid UTF-8"

/-- Whether the operation was only interrupted and is tried again. -/
def isInterruption (e : SystemError) : Bool :=
  e.kind == .interrupted

end SystemError
end StreamEditor
