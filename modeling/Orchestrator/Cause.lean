namespace Orchestrator

/-!
# Causes — why the system refused

Every failure of a file, a pipe or a child process goes back to something the system said.

* `Cause` — an error number of the system, or a text of its own where no number exists.
* `Cause.text` — the words shown to the user; an error number is always shown after its meaning.
-/

/-- Why an operation of the system failed. -/
inductive Cause where
  | number (n : Int)
  | words (text : String)
  deriving DecidableEq, Repr

namespace Cause

/-! ### The error numbers that files and programs meet -/

/-- Nothing has this name. -/
@[match_pattern] abbrev noEntry : Cause := .number 2

/-- What a program is given does not fit into its memory. -/
abbrev argumentsTooLong : Cause := .number 7

/-- The file is neither a program nor a script. -/
@[match_pattern] abbrev notAProgram : Cause := .number 8

/-- The file may not be executed. -/
@[match_pattern] abbrev denied : Cause := .number 13

/-- The name is taken. -/
abbrev taken : Cause := .number 17

/-- A path goes through something that is not a directory. -/
@[match_pattern] abbrev notADirectory : Cause := .number 20

/-- A directory stands where a file is wanted. -/
abbrev isADirectory : Cause := .number 21

/-- The file is open for writing. -/
abbrev busy : Cause := .number 26

/-- The device is full. -/
abbrev deviceFull : Cause := .number 28

/-- A name or a path is longer than the system allows. -/
abbrev nameTooLong : Cause := .number 36

/-- A path leads through too many links. -/
abbrev tooManyLinks : Cause := .number 40

/-! ### Refusals that have no number -/

/-- A path with a zero byte cannot be handed to the system. -/
abbrev zeroInPath : Cause := .words "file name contained an unexpected NUL byte"

/-- A command, variable or directory with a zero byte cannot be handed to the system. -/
abbrev zeroInCommand : Cause := .words "nul byte found in provided data"

/-- A device took none of the bytes it was offered. -/
abbrev nothingTaken : Cause := .words "failed to write whole buffer"

/-! ### Wording -/

/-- What the error numbers mean, the meaning of `n` at place `n`. -/
def meanings : List String :=
  ["Success", "Operation not permitted", "No such file or directory", "No such process",
    "Interrupted system call", "Input/output error", "No such device or address",
    "Argument list too long", "Exec format error", "Bad file descriptor", "No child processes",
    "Resource temporarily unavailable", "Cannot allocate memory", "Permission denied",
    "Bad address", "Block device required", "Device or resource busy", "File exists",
    "Invalid cross-device link", "No such device", "Not a directory", "Is a directory",
    "Invalid argument", "Too many open files in system", "Too many open files",
    "Inappropriate ioctl for device", "Text file busy", "File too large",
    "No space left on device", "Illegal seek", "Read-only file system", "Too many links",
    "Broken pipe", "Numerical argument out of domain", "Numerical result out of range",
    "Resource deadlock avoided", "File name too long", "No locks available",
    "Function not implemented", "Directory not empty", "Too many levels of symbolic links",
    "Unknown error 41", "No message of desired type", "Identifier removed",
    "Channel number out of range", "Level 2 not synchronized", "Level 3 halted", "Level 3 reset",
    "Link number out of range", "Protocol driver not attached", "No CSI structure available",
    "Level 2 halted", "Invalid exchange", "Invalid request descriptor", "Exchange full",
    "No anode", "Invalid request code", "Invalid slot", "Unknown error 58",
    "Bad font file format", "Device not a stream", "No data available", "Timer expired",
    "Out of streams resources", "Machine is not on the network", "Package not installed",
    "Object is remote", "Link has been severed", "Advertise error", "Srmount error",
    "Communication error on send", "Protocol error", "Multihop attempted", "RFS specific error",
    "Bad message", "Value too large for defined data type", "Name not unique on network",
    "File descriptor in bad state", "Remote address changed",
    "Can not access a needed shared library", "Accessing a corrupted shared library",
    ".lib section in a.out corrupted", "Attempting to link in too many shared libraries",
    "Cannot exec a shared library directly", "Invalid or incomplete multibyte or wide character",
    "Interrupted system call should be restarted", "Streams pipe error", "Too many users",
    "Socket operation on non-socket", "Destination address required", "Message too long",
    "Protocol wrong type for socket", "Protocol not available", "Protocol not supported",
    "Socket type not supported", "Operation not supported", "Protocol family not supported",
    "Address family not supported by protocol", "Address already in use",
    "Cannot assign requested address", "Network is down", "Network is unreachable",
    "Network dropped connection on reset", "Software caused connection abort",
    "Connection reset by peer", "No buffer space available",
    "Transport endpoint is already connected", "Transport endpoint is not connected",
    "Cannot send after transport endpoint shutdown", "Too many references: cannot splice",
    "Connection timed out", "Connection refused", "Host is down", "No route to host",
    "Operation already in progress", "Operation now in progress", "Stale file handle",
    "Structure needs cleaning", "Not a XENIX named type file", "No XENIX semaphores available",
    "Is a named type file", "Remote I/O error", "Disk quota exceeded", "No medium found",
    "Wrong medium type", "Operation canceled", "Required key not available", "Key has expired",
    "Key has been revoked", "Key was rejected by service", "Owner died", "State not recoverable",
    "Operation not possible due to RF-kill", "Memory page has hardware error"]

/-- The meaning of an error number; a number without one is named by itself. -/
def meaning : Int → String
  | .ofNat n => meanings.getD n ("Unknown error " ++ toString n)
  | n => "Unknown error " ++ toString n

/-- The words shown to the user. -/
def text : Cause → String
  | .number n => meaning n ++ " (os error " ++ toString n ++ ")"
  | .words text => text

example : noEntry.text = "No such file or directory (os error 2)" := rfl
example : tooManyLinks.text = "Too many levels of symbolic links (os error 40)" := rfl
example : meanings.length = 134 := rfl

end Cause

end Orchestrator
