import Std.Data.ExtTreeMap
import TraceArbiter.Syscall.Filter

/-!
# Syscall tables

Names and numbers of system calls on one architecture. The tables given here hold the common calls.
-/

namespace TraceArbiter

open Std

structure SyscallTable where
  byName : ExtTreeMap String SyscallId := ∅
  byId : ExtTreeMap SyscallId String := ∅

namespace SyscallTable

def insert (t : SyscallTable) (name : String) (id : SyscallId) : SyscallTable where
  byName := t.byName.insert name id
  byId := t.byId.insert id name

/-- Of two entries with one name, or with one number, the later counts. -/
def ofList (entries : List (String × SyscallId)) : SyscallTable :=
  entries.foldl (fun t entry => t.insert entry.1 entry.2) {}

def idOf? (t : SyscallTable) (name : String) : Option SyscallId :=
  t.byName[name]?

def nameOf? (t : SyscallTable) (id : SyscallId) : Option String :=
  t.byId[id]?

def size (t : SyscallTable) : Nat :=
  t.byName.size

def isEmpty (t : SyscallTable) : Bool :=
  t.byName.isEmpty

def x86_64 : SyscallTable :=
  ofList
    [("read", 0), ("write", 1), ("open", 2), ("close", 3), ("stat", 4), ("fstat", 5), ("lstat", 6),
      ("poll", 7), ("lseek", 8), ("mmap", 9), ("mprotect", 10), ("munmap", 11), ("brk", 12),
      ("rt_sigaction", 13), ("rt_sigprocmask", 14), ("ioctl", 16), ("pread64", 17),
      ("pwrite64", 18), ("readv", 19), ("writev", 20), ("access", 21), ("pipe", 22), ("select", 23),
      ("sched_yield", 24), ("madvise", 28), ("dup", 32), ("dup2", 33), ("nanosleep", 35),
      ("getpid", 39), ("sendfile", 40), ("socket", 41), ("connect", 42), ("accept", 43),
      ("sendto", 44), ("recvfrom", 45), ("sendmsg", 46), ("recvmsg", 47), ("bind", 49),
      ("listen", 50), ("clone", 56), ("fork", 57), ("vfork", 58), ("execve", 59), ("exit", 60),
      ("wait4", 61), ("kill", 62), ("fcntl", 72), ("fsync", 74), ("getdents64", 217),
      ("futex", 202), ("epoll_wait", 232), ("epoll_ctl", 233), ("openat", 257), ("ppoll", 271),
      ("epoll_pwait", 281), ("exit_group", 231), ("clock_gettime", 228), ("clock_nanosleep", 230)]

/-- The numbering that newer architectures share. -/
def aarch64 : SyscallTable :=
  ofList
    [("getcwd", 17), ("dup", 23), ("dup3", 24), ("fcntl", 25), ("epoll_ctl", 21),
      ("epoll_pwait", 22), ("ioctl", 29), ("openat", 56), ("close", 57), ("pipe2", 59),
      ("getdents64", 61), ("lseek", 62), ("read", 63), ("write", 64), ("readv", 65), ("writev", 66),
      ("pread64", 67), ("pwrite64", 68), ("sendfile", 71), ("ppoll", 73), ("fstat", 80),
      ("fsync", 82), ("exit", 93), ("exit_group", 94), ("futex", 98), ("nanosleep", 101),
      ("clock_gettime", 113), ("clock_nanosleep", 115), ("sched_yield", 124), ("kill", 129),
      ("rt_sigaction", 134), ("rt_sigprocmask", 135), ("getpid", 172), ("socket", 198),
      ("bind", 200), ("listen", 201), ("accept", 202), ("connect", 203), ("sendto", 206),
      ("recvfrom", 207), ("sendmsg", 211), ("recvmsg", 212), ("brk", 214), ("munmap", 215),
      ("clone", 220), ("execve", 221), ("mmap", 222), ("mprotect", 226), ("madvise", 233),
      ("wait4", 260)]

end SyscallTable

end TraceArbiter
