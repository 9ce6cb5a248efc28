/-!
# Faults

Why a system operation failed: an error number of the operating system, or one of the few
conditions that are noticed before the system is asked.
-/

namespace GoldenSuite

/-- The reason why an operation on files or processes failed. -/
inductive Fault where
  /-- The operating system answered with this error number. -/
  | system (number : Int)
  /-- A file name holds the character that ends names. -/
  | nulInName
  /-- A program name or an argument holds the character that ends arguments. -/
  | nulInArgument
  /-- A text was expected and the bytes are not UTF-8. -/
  | notUtf8
  /-- A reason that is known by its description alone. -/
  | described (text : String)
deriving DecidableEq, Repr, Inhabited

namespace Fault

/-! ### The error numbers that the library itself brings about -/

@[match_pattern] abbrev notFound : Fault := .system 2
@[match_pattern] abbrev interrupted : Fault := .system 4
@[match_pattern] abbrev permissionDenied : Fault := .system 13
@[match_pattern] abbrev busy : Fault := .system 16
@[match_pattern] abbrev alreadyExists : Fault := .system 17
@[match_pattern] abbrev notADirectory : Fault := .system 20
@[match_pattern] abbrev isADirectory : Fault := .system 21
@[match_pattern] abbrev invalidArgument : Fault := .system 22
@[match_pattern] abbrev brokenPipe : Fault := .system 32
@[match_pattern] abbrev nameTooLong : Fault := .system 36
@[match_pattern] abbrev notEmpty : Fault := .system 39
@[match_pattern] abbrev tooManyLinks : Fault := .system 40

/-! ### Wording -/

/-- The wording of the error numbers from 1 on, in order. Two of them stand for nothing. -/
def wordings : List String :=
  ["Operation not permitted", "No such file or directory", "No such process",
   "Interrupted system call", "Input/output error", "No such device or address",
   "Argument list too long", "Exec format error", "Bad file descriptor", "No child processes",
   "Resource temporarily unavailable", "Cannot allocate memory", "Permission denied",
   "Bad address", "Block device required", "Device or resource busy", "File exists",
   "Invalid cross-device link", "No such device", "Not a directory", "Is a directory",
   "Invalid argument", "Too many open files in system", "Too many open files",
   "Inappropriate ioctl for device", "Text file busy", "File too large",
   "No space left on device", "Illegal seek", "Read-only file system", "Too many links",
   "Broken pipe", "Numerical argument out of domain", "Numerical result out of range",
   "Resource deadlock avoided", "File name too long", "No locks available",
   "Function not implemented", "Directory not empty", "Too many levels of symbolic links",
   "Unknown error 41", "No message of desired type", "Identifier removed",
   "Channel number out of range", "Level 2 not synchronized", "Level 3 halted", "Level 3 reset",
   "Link number out of range", "Protocol driver not attached", "No CSI structure available",
   "Level 2 halted", "Invalid exchange", "Invalid request descriptor", "Exchange full",
   "No anode", "Invalid request code", "Invalid slot", "Unknown error 58", "Bad font file format",
   "Device not a stream", "No data available", "Timer expired", "Out of streams resources",
   "Machine is not on the network", "Package not installed", "Object is remote",
   "Link has been severed", "Advertise error", "Srmount error", "Communication error on send",
   "Protocol error", "Multihop attempted", "RFS specific error", "Bad message",
   "Value too large for defined data type", "Name not unique on network",
   "File descriptor in bad state", "Remote address changed",
   "Can not access a needed shared library", "Accessing a corrupted shared library",
   ".lib section in a.out corrupted", "Attempting to link in too many shared libraries",
   "Cannot exec a shared library directly", "Invalid or incomplete multibyte or wide character",
   "Interrupted system call should be restarted", "Streams pipe error", "Too many users",
   "Socket operation on non-socket", "Destination address required", "Message too long",
   "Protocol wrong type for socket", "Protocol not available", "Protocol not supported",
   "Socket type not supported", "Operation not supported", "Protocol family not supported",
   "Address family not supported by protocol", "Address already in use",
   "Cannot assign requested address", "Network is down", "Network is unreachable",
   "Network dropped connection on reset", "Software caused connection abort",
   "Connection reset by peer", "No buffer space available",
   "Transport endpoint is already connected", "Transport endpoint is not connected",
   "Cannot send after transport endpoint shutdown", "Too many references: cannot splice",
   "Connection timed out", "Connection refused", "Host is down", "No route to host",
   "Operation already in progress", "Operation now in progress", "Stale file handle",
   "Structure needs cleaning", "Not a XENIX named type file", "No XENIX semaphores available",
   "Is a named type file", "Remote I/O error", "Disk quota exceeded", "No medium found",
   "Wrong medium type", "Operation canceled", "Required key not available", "Key has expired",
   "Key has been revoked", "Key was rejected by service", "Owner died", "State not recoverable",
   "Operation not possible due to RF-kill", "Memory page has hardware error"]

/-- The wording of an error number alone. -/
def wording (number : Int) : String :=
  match number with
  | .ofNat 0 => "Success"
  | .ofNat (n + 1) => wordings[n]?.getD s!"Unknown error {number}"
  | .negSucc _ => s!"Unknown error {number}"

/-- The wording of a fault without its number. -/
def plain : Fault → String
  | .system number => wording number
  | .nulInName => "file name contained an unexpected NUL byte"
  | .nulInArgument => "nul byte found in provided data"
  | .notUtf8 => "stream did not contain valid UTF-8"
  | .described text => text

/-- The text of a fault in a message. -/
def message : Fault → String
  | .system number => s!"{wording number} (os error {number})"
  | fault => fault.plain

example : message .notFound = "No such file or directory (os error 2)" := by decide +kernel

example : message (.system 133) = "Memory page has hardware error (os error 133)" := by
  decide +kernel

example : message (.system (-2)) = "Unknown error -2 (os error -2)" := by decide +kernel

example : message .tooManyLinks = "Too many levels of symbolic links (os error 40)" := by
  decide +kernel

end Fault

end GoldenSuite
