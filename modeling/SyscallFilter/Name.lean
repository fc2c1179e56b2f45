import SyscallFilter.Text

/-! # Signals and error numbers of Linux on x86-64, by name -/

namespace SyscallFilter.Signal

/-- The names of the signals from 1 up. -/
def names : List String :=
  ["SIGHUP", "SIGINT", "SIGQUIT", "SIGILL", "SIGTRAP", "SIGABRT", "SIGBUS", "SIGFPE", "SIGKILL",
   "SIGUSR1", "SIGSEGV", "SIGUSR2", "SIGPIPE", "SIGALRM", "SIGTERM", "SIGSTKFLT", "SIGCHLD", "SIGCONT",
   "SIGSTOP", "SIGTSTP", "SIGTTIN", "SIGTTOU", "SIGURG", "SIGXCPU", "SIGXFSZ", "SIGVTALRM", "SIGPROF",
   "SIGWINCH", "SIGIO", "SIGPWR", "SIGSYS"]

/-- The largest signal, which is one without a name. -/
def maxSignal : Nat := 64

def name? (n : Nat) : Option String := if n = 0 then none else names[n - 1]?

/-- A name without its leading `SIG`, in any case. -/
def bareName (name : String) : String :=
  match name.toList with
  | s :: i :: g :: rest =>
    if s.toLower = 's' && i.toLower = 'i' && g.toLower = 'g' then String.ofList rest else name
  | _ => name

/-- The signal with a name, in any case, with or without `SIG`. -/
def byName? (name : String) : Option Nat :=
  (names.findIdx? fun known => Text.sameLetters (bareName known) (bareName name)).map (· + 1)

/-- A signal by number up to 255, or by name. -/
def parse? (token : String) : Option Nat :=
  if Numeral.startsWithDigit token then Numeral.upTo 255 token else byName? token

end SyscallFilter.Signal

/-! ## Error numbers -/

namespace SyscallFilter.Errno

/-- The names of the error numbers from 1 up; two numbers have none. -/
def names : List (Option String) :=
  [some "EPERM", some "ENOENT", some "ESRCH", some "EINTR", some "EIO", some "ENXIO", some "E2BIG",
   some "ENOEXEC", some "EBADF", some "ECHILD", some "EAGAIN", some "ENOMEM", some "EACCES",
   some "EFAULT", some "ENOTBLK", some "EBUSY", some "EEXIST", some "EXDEV", some "ENODEV",
   some "ENOTDIR", some "EISDIR", some "EINVAL", some "ENFILE", some "EMFILE", some "ENOTTY",
   some "ETXTBSY", some "EFBIG", some "ENOSPC", some "ESPIPE", some "EROFS", some "EMLINK",
   some "EPIPE", some "EDOM", some "ERANGE", some "EDEADLK", some "ENAMETOOLONG", some "ENOLCK",
   some "ENOSYS", some "ENOTEMPTY", some "ELOOP", none, some "ENOMSG", some "EIDRM", some "ECHRNG",
   some "EL2NSYNC", some "EL3HLT", some "EL3RST", some "ELNRNG", some "EUNATCH", some "ENOCSI",
   some "EL2HLT", some "EBADE", some "EBADR", some "EXFULL", some "ENOANO", some "EBADRQC",
   some "EBADSLT", none, some "EBFONT", some "ENOSTR", some "ENODATA", some "ETIME", some "ENOSR",
   some "ENONET", some "ENOPKG", some "EREMOTE", some "ENOLINK", some "EADV", some "ESRMNT",
   some "ECOMM", some "EPROTO", some "EMULTIHOP", some "EDOTDOT", some "EBADMSG", some "EOVERFLOW",
   some "ENOTUNIQ", some "EBADFD", some "EREMCHG", some "ELIBACC", some "ELIBBAD", some "ELIBSCN",
   some "ELIBMAX", some "ELIBEXEC", some "EILSEQ", some "ERESTART", some "ESTRPIPE", some "EUSERS",
   some "ENOTSOCK", some "EDESTADDRREQ", some "EMSGSIZE", some "EPROTOTYPE", some "ENOPROTOOPT",
   some "EPROTONOSUPPORT", some "ESOCKTNOSUPPORT", some "EOPNOTSUPP", some "EPFNOSUPPORT",
   some "EAFNOSUPPORT", some "EADDRINUSE", some "EADDRNOTAVAIL", some "ENETDOWN", some "ENETUNREACH",
   some "ENETRESET", some "ECONNABORTED", some "ECONNRESET", some "ENOBUFS", some "EISCONN",
   some "ENOTCONN", some "ESHUTDOWN", some "ETOOMANYREFS", some "ETIMEDOUT", some "ECONNREFUSED",
   some "EHOSTDOWN", some "EHOSTUNREACH", some "EALREADY", some "EINPROGRESS", some "ESTALE",
   some "EUCLEAN", some "ENOTNAM", some "ENAVAIL", some "EISNAM", some "EREMOTEIO", some "EDQUOT",
   some "ENOMEDIUM", some "EMEDIUMTYPE", some "ECANCELED", some "ENOKEY", some "EKEYEXPIRED",
   some "EKEYREVOKED", some "EKEYREJECTED", some "EOWNERDEAD", some "ENOTRECOVERABLE", some "ERFKILL",
   some "EHWPOISON"]

/-- The largest error number, which is one without a name. -/
def maxErrno : Nat := 4095

/-- The error of a call that does not exist. -/
def enosys : Nat := 38

/-- The error with a name, in any case. -/
def byName? (name : String) : Option Nat :=
  (names.findIdx? fun known => known.any (Text.sameLetters · name)).map (· + 1)

/-- An error by number or by name; zero is none. -/
def parse? (token : String) : Option Nat :=
  (Numeral.upTo maxErrno token <|> byName? token).filter (1 ≤ ·)

end SyscallFilter.Errno
