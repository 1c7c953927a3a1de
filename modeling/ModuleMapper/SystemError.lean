/-!
# System errors — what the operating system or a stream reports

  An error is a code of the system, shown with its text and number, or a note of whoever made it.
-/

namespace ModuleMapper

/-- An error from below: a code of the operating system, or a text of its own. -/
inductive SystemError where
  | code (number : Nat)
  | note (text : String)
  deriving Repr, DecidableEq

namespace SystemError

abbrev notFound : SystemError := .code 2
abbrev argumentsTooLong : SystemError := .code 7
abbrev notExecutable : SystemError := .code 8
abbrev badDescriptor : SystemError := .code 9
abbrev noChild : SystemError := .code 10
abbrev permissionDenied : SystemError := .code 13
abbrev busy : SystemError := .code 16
abbrev alreadyExists : SystemError := .code 17
abbrev notDirectory : SystemError := .code 20
abbrev isDirectory : SystemError := .code 21
abbrev invalidArgument : SystemError := .code 22
abbrev textFileBusy : SystemError := .code 26
abbrev nameTooLong : SystemError := .code 36
abbrev notEmpty : SystemError := .code 39
abbrev tooManyLinks : SystemError := .code 40

/-- A path that holds a NUL byte reaches no file. -/
abbrev nulInPath : SystemError := .note "file name contained an unexpected NUL byte"

/-- A program, argument or variable that holds a NUL byte reaches no child. -/
abbrev nulInArgument : SystemError := .note "nul byte found in provided data"

/-- A stream that takes no more bytes. -/
abbrev writeZero : SystemError := .note "failed to write whole buffer"

/-- The system's texts for its codes from 0 on. -/
def texts : List String :=
  ["Success", "Operation not permitted", "No such file or directory", "No such process",
   "Interrupted system call", "Input/output error", "No such device or address",
   "Argument list too long", "Exec format error", "Bad file descriptor", "No child processes",
   "Resource temporarily unavailable", "Cannot allocate memory", "Permission denied",
   "Bad address", "Block device required", "Device or resource busy", "File exists",
   "Invalid cross-device link", "No such device", "Not a directory", "Is a directory",
   "Invalid argument", "Too many open files in system", "Too many open files",
   "Inappropriate ioctl for device", "Text file busy", "File too large", "No space left on device",
   "Illegal seek", "Read-only file system", "Too many links", "Broken pipe",
   "Numerical argument out of domain", "Numerical result out of range",
   "Resource deadlock avoided", "File name too long", "No locks available",
   "Function not implemented", "Directory not empty", "Too many levels of symbolic links",
   "Unknown error 41", "No message of desired type", "Identifier removed",
   "Channel number out of range", "Level 2 not synchronized", "Level 3 halted", "Level 3 reset",
   "Link number out of range", "Protocol driver not attached", "No CSI structure available",
   "Level 2 halted", "Invalid exchange", "Invalid request descriptor", "Exchange full", "No anode",
   "Invalid request code", "Invalid slot", "Unknown error 58", "Bad font file format",
   "Device not a stream", "No data available", "Timer expired", "Out of streams resources",
   "Machine is not on the network", "Package not installed", "Object is remote",
   "Link has been severed", "Advertise error", "Srmount error", "Communication error on send",
   "Protocol error", "Multihop attempted", "RFS specific error", "Bad message",
   "Value too large for defined data type", "Name not unique on network",
   "File descriptor in bad state", "Remote address changed",
   "Can not access a needed shared library", "Accessing a corrupted shared library",
   ".lib section in a.out corrupted", "Attempting to link in too many shared libraries",
   "Cannot exec a shared library directly", "Invalid or incomplete multibyte or wide character",
   "Interrupted system call should be restarted", "Streams pipe error", "Too many users",
   "Socket operation on non-socket", "Destination address required", "Message too long",
   "Protocol wrong type for socket", "Protocol not available", "Protocol not supported",
   "Socket type not supported", "Operation not supported", "Protocol family not supported",
   "Address family not supported by protocol", "Address already in use",
   "Cannot assign requested address", "Network is down", "Network is unreachable",
   "Network dropped connection on reset", "Software caused connection abort",
   "Connection reset by peer", "No buffer space available",
   "Transport endpoint is already connected", "Transport endpoint is not connected",
   "Cannot send after transport endpoint shutdown", "Too many references: cannot splice",
   "Connection timed out", "Connection refused", "Host is down", "No route to host",
   "Operation already in progress", "Operation now in progress", "Stale file handle",
   "Structure needs cleaning", "Not a XENIX named type file", "No XENIX semaphores available",
   "Is a named type file", "Remote I/O error", "Disk quota exceeded", "No medium found",
   "Wrong medium type", "Operation canceled", "Required key not available", "Key has expired",
   "Key has been revoked", "Key was rejected by service", "Owner died", "State not recoverable",
   "Operation not possible due to RF-kill", "Memory page has hardware error"]

/-- The text of a code. -/
def describe (number : Nat) : String :=
  match texts[number]? with
  | some text => text
  | none => "Unknown error " ++ toString number

/-- The text of an error, without its number. -/
def text : SystemError → String
  | .code number => describe number
  | .note text => text

/-- How an error reads. -/
def message : SystemError → String
  | .code number => describe number ++ " (os error " ++ toString number ++ ")"
  | .note text => text

end SystemError

end ModuleMapper
