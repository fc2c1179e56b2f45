import SyscallFilter.Table

/-! # The table of x86-64 -/

namespace SyscallFilter

namespace Table

/-- The calls of x86-64 from number 0 up, with their classes. -/
def nativeCalls : List (String × List SyscallClass) :=
  [("read", [.desc]), ("write", [.desc]), ("open", [.desc, .file]), ("close", [.desc]),
   ("stat", [.file, .stat, .statLike]), ("fstat", [.desc, .fstat, .statLike]),
   ("lstat", [.file, .lstat, .statLike]), ("poll", [.desc]), ("lseek", [.desc]),
   ("mmap", [.desc, .memory]), ("mprotect", [.memory]), ("munmap", [.memory]), ("brk", [.memory]),
   ("rt_sigaction", [.signal]), ("rt_sigprocmask", [.signal]), ("rt_sigreturn", [.signal]),
   ("ioctl", [.desc]), ("pread64", [.desc]), ("pwrite64", [.desc]), ("readv", [.desc]),
   ("writev", [.desc]), ("access", [.file]), ("pipe", [.desc]), ("select", [.desc]),
   ("sched_yield", []), ("mremap", [.memory]), ("msync", [.memory]), ("mincore", [.memory]),
   ("madvise", [.memory]), ("shmget", [.ipc]), ("shmat", [.ipc, .memory]), ("shmctl", [.ipc]),
   ("dup", [.desc]), ("dup2", [.desc]), ("pause", [.signal]), ("nanosleep", []), ("getitimer", []),
   ("alarm", []), ("setitimer", []), ("getpid", []), ("sendfile", [.desc, .network]),
   ("socket", [.network]), ("connect", [.network]), ("accept", [.network]), ("sendto", [.network]),
   ("recvfrom", [.network]), ("sendmsg", [.network]), ("recvmsg", [.network]),
   ("shutdown", [.network]), ("bind", [.network]), ("listen", [.network]),
   ("getsockname", [.network]), ("getpeername", [.network]), ("socketpair", [.network]),
   ("setsockopt", [.network]), ("getsockopt", [.network]), ("clone", [.process]),
   ("fork", [.process]), ("vfork", [.process]), ("execve", [.file, .process]), ("exit", [.process]),
   ("wait4", [.process]), ("kill", [.signal]), ("uname", []), ("semget", [.ipc]), ("semop", [.ipc]),
   ("semctl", [.ipc]), ("shmdt", [.ipc, .memory]), ("msgget", [.ipc]), ("msgsnd", [.ipc]),
   ("msgrcv", [.ipc]), ("msgctl", [.ipc]), ("fcntl", [.desc]), ("flock", [.desc]),
   ("fsync", [.desc]), ("fdatasync", [.desc]), ("truncate", [.file]), ("ftruncate", [.desc]),
   ("getdents", [.desc]), ("getcwd", [.file]), ("chdir", [.file]), ("fchdir", [.desc]),
   ("rename", [.file]), ("mkdir", [.file]), ("rmdir", [.file]), ("creat", [.desc, .file]),
   ("link", [.file]), ("unlink", [.file]), ("symlink", [.file]), ("readlink", [.file]),
   ("chmod", [.file]), ("fchmod", [.desc]), ("chown", [.file]), ("fchown", [.desc]),
   ("lchown", [.file]), ("umask", []), ("gettimeofday", []), ("getrlimit", []), ("getrusage", []),
   ("sysinfo", []), ("times", []), ("ptrace", []), ("getuid", []), ("syslog", []), ("getgid", []),
   ("setuid", []), ("setgid", []), ("geteuid", []), ("getegid", []), ("setpgid", []),
   ("getppid", []), ("getpgrp", []), ("setsid", []), ("setreuid", []), ("setregid", []),
   ("getgroups", []), ("setgroups", []), ("setresuid", []), ("getresuid", []), ("setresgid", []),
   ("getresgid", []), ("getpgid", []), ("setfsuid", []), ("setfsgid", []), ("getsid", []),
   ("capget", []), ("capset", []), ("rt_sigpending", [.signal]), ("rt_sigtimedwait", [.signal]),
   ("rt_sigqueueinfo", [.process, .signal]), ("rt_sigsuspend", [.signal]),
   ("sigaltstack", [.signal]), ("utime", [.file]), ("mknod", [.file]), ("uselib", [.file]),
   ("personality", []), ("ustat", []), ("statfs", [.file, .statfs, .statfsLike]),
   ("fstatfs", [.desc, .fstatfs, .statfsLike]), ("sysfs", []), ("getpriority", []),
   ("setpriority", []), ("sched_setparam", []), ("sched_getparam", []), ("sched_setscheduler", []),
   ("sched_getscheduler", []), ("sched_get_priority_max", []), ("sched_get_priority_min", []),
   ("sched_rr_get_interval", []), ("mlock", [.memory]), ("munlock", [.memory]),
   ("mlockall", [.memory]), ("munlockall", [.memory]), ("vhangup", []), ("modify_ldt", []),
   ("pivot_root", [.file]), ("_sysctl", []), ("prctl", []), ("arch_prctl", [.process]),
   ("adjtimex", []), ("setrlimit", []), ("chroot", [.file]), ("sync", []), ("acct", [.file]),
   ("settimeofday", []), ("mount", [.file]), ("umount2", [.file]), ("swapon", [.file]),
   ("swapoff", [.file]), ("reboot", []), ("sethostname", []), ("setdomainname", []), ("iopl", []),
   ("ioperm", []), ("create_module", []), ("init_module", []), ("delete_module", []),
   ("get_kernel_syms", []), ("query_module", []), ("quotactl", [.file]), ("nfsservctl", []),
   ("getpmsg", [.network]), ("putpmsg", [.network]), ("afs_syscall", []), ("tuxcall", []),
   ("security", []), ("gettid", []), ("readahead", [.desc]), ("setxattr", [.file]),
   ("lsetxattr", [.file]), ("fsetxattr", [.desc]), ("getxattr", [.file]), ("lgetxattr", [.file]),
   ("fgetxattr", [.desc]), ("listxattr", [.file]), ("llistxattr", [.file]), ("flistxattr", [.desc]),
   ("removexattr", [.file]), ("lremovexattr", [.file]), ("fremovexattr", [.desc]),
   ("tkill", [.process, .signal]), ("time", []), ("futex", []), ("sched_setaffinity", []),
   ("sched_getaffinity", []), ("set_thread_area", []), ("io_setup", [.memory]),
   ("io_destroy", [.memory]), ("io_getevents", []), ("io_submit", []), ("io_cancel", []),
   ("get_thread_area", []), ("lookup_dcookie", []), ("epoll_create", [.desc]), ("epoll_ctl_old", []),
   ("epoll_wait_old", []), ("remap_file_pages", [.memory]), ("getdents64", [.desc]),
   ("set_tid_address", []), ("restart_syscall", []), ("semtimedop", [.ipc]), ("fadvise64", [.desc]),
   ("timer_create", []), ("timer_settime", []), ("timer_gettime", []), ("timer_getoverrun", []),
   ("timer_delete", []), ("clock_settime", []), ("clock_gettime", []), ("clock_getres", []),
   ("clock_nanosleep", []), ("exit_group", [.process]), ("epoll_wait", [.desc]),
   ("epoll_ctl", [.desc]), ("tgkill", [.process, .signal]), ("utimes", [.file]), ("vserver", []),
   ("mbind", [.memory]), ("set_mempolicy", [.memory]), ("get_mempolicy", [.memory]),
   ("mq_open", [.desc]), ("mq_unlink", []), ("mq_timedsend", [.desc]), ("mq_timedreceive", [.desc]),
   ("mq_notify", [.desc]), ("mq_getsetattr", [.desc]), ("kexec_load", []), ("waitid", [.process]),
   ("add_key", []), ("request_key", []), ("keyctl", []), ("ioprio_set", []), ("ioprio_get", []),
   ("inotify_init", [.desc]), ("inotify_add_watch", [.desc, .file]), ("inotify_rm_watch", [.desc]),
   ("migrate_pages", [.memory]), ("openat", [.desc, .file]), ("mkdirat", [.desc, .file]),
   ("mknodat", [.desc, .file]), ("fchownat", [.desc, .file]), ("futimesat", [.desc, .file]),
   ("newfstatat", [.desc, .file, .fstat, .statLike]), ("unlinkat", [.desc, .file]),
   ("renameat", [.desc, .file]), ("linkat", [.desc, .file]), ("symlinkat", [.desc, .file]),
   ("readlinkat", [.desc, .file]), ("fchmodat", [.desc, .file]), ("faccessat", [.desc, .file]),
   ("pselect6", [.desc]), ("ppoll", [.desc]), ("unshare", [.process]), ("set_robust_list", []),
   ("get_robust_list", []), ("splice", [.desc]), ("tee", [.desc]), ("sync_file_range", [.desc]),
   ("vmsplice", [.desc]), ("move_pages", [.memory]), ("utimensat", [.desc, .file]),
   ("epoll_pwait", [.desc]), ("signalfd", [.desc, .signal]), ("timerfd_create", [.desc]),
   ("eventfd", [.desc]), ("fallocate", [.desc]), ("timerfd_settime", [.desc]),
   ("timerfd_gettime", [.desc]), ("accept4", [.network]), ("signalfd4", [.desc, .signal]),
   ("eventfd2", [.desc]), ("epoll_create1", [.desc]), ("dup3", [.desc]), ("pipe2", [.desc]),
   ("inotify_init1", [.desc]), ("preadv", [.desc]), ("pwritev", [.desc]),
   ("rt_tgsigqueueinfo", [.process, .signal]), ("perf_event_open", [.desc]),
   ("recvmmsg", [.network]), ("fanotify_init", [.desc]), ("fanotify_mark", [.desc, .file]),
   ("prlimit64", []), ("name_to_handle_at", [.desc, .file]), ("open_by_handle_at", [.desc]),
   ("clock_adjtime", []), ("syncfs", [.desc]), ("sendmmsg", [.network]), ("setns", [.desc]),
   ("getcpu", []), ("process_vm_readv", []), ("process_vm_writev", []), ("kcmp", []),
   ("finit_module", [.desc]), ("sched_setattr", []), ("sched_getattr", []),
   ("renameat2", [.desc, .file]), ("seccomp", []), ("getrandom", []), ("memfd_create", [.desc]),
   ("kexec_file_load", [.desc]), ("bpf", [.desc]), ("execveat", [.desc, .file, .process]),
   ("userfaultfd", [.desc]), ("membarrier", []), ("mlock2", [.memory]), ("copy_file_range", [.desc]),
   ("preadv2", [.desc]), ("pwritev2", [.desc]), ("pkey_mprotect", [.memory]), ("pkey_alloc", []),
   ("pkey_free", []), ("statx", [.desc, .file, .fstat, .statLike]), ("io_pgetevents", []),
   ("rseq", [])]

def native : Table :=
  ⟨"x86_64", nativeCalls.map fun (name, classes) => ⟨some name, .ofList classes⟩⟩

end Table

/-- The one personality of x86-64. -/
def Personalities.native : Personalities := ⟨[Table.native], by simp⟩

end SyscallFilter
