import TraceArbiter.Category.Vendor
import TraceArbiter.Event.Table
import TraceArbiter.Syscall.Table

/-!
# The catalog

What requests are looked up in: the events of the running kernel, the system calls of its
architecture, and the categories of the vendor.
-/

namespace TraceArbiter

structure Catalog where
  events : EventTable := {}
  syscalls : SyscallTable := {}
  vendor : VendorCategories := {}

end TraceArbiter
