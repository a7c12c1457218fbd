/-!
# Built-in categories

Annotation categories stand for kernel events too. These are the entries behind the well-known ones,
each `group/name` or `group/*`.
-/

namespace TraceArbiter.Category

def kernelEntries : List (String × List String) :=
  [("gfx", ["mdss/*", "sde/*"]),
    ("ion", ["kmem/ion_alloc_buffer_start"]),
    ("sched", ["sched/sched_switch", "sched/sched_wakeup", "sched/sched_waking",
      "sched/sched_blocked_reason", "sched/sched_cpu_hotplug", "sched/sched_pi_setprio",
      "sched/sched_process_exit", "cgroup/*", "oom/oom_score_adj_update", "task/task_rename",
      "task/task_newtask"]),
    ("irq", ["irq/*", "ipi/*"]),
    ("irqoff", ["preemptirq/irq_enable", "preemptirq/irq_disable"]),
    ("preemptoff", ["preemptirq/preempt_enable", "preemptirq/preempt_disable"]),
    ("i2c", ["i2c/*"]),
    ("freq", ["power/cpu_frequency", "power/gpu_frequency", "power/clock_set_rate",
      "power/clock_disable", "power/clock_enable", "clk/clk_set_rate", "clk/clk_disable",
      "clk/clk_enable", "power/cpu_frequency_limits", "power/suspend_resume"]),
    ("membus", ["memory_bus/*"]),
    ("idle", ["power/cpu_idle"]),
    ("disk", ["f2fs/f2fs_sync_file_enter", "f2fs/f2fs_sync_file_exit", "f2fs/f2fs_write_begin",
      "f2fs/f2fs_write_end", "ext4/ext4_da_write_begin", "ext4/ext4_da_write_end",
      "ext4/ext4_sync_file_enter", "ext4/ext4_sync_file_exit", "block/block_rq_issue",
      "block/block_rq_complete"]),
    ("mmc", ["mmc/*"]),
    ("load", ["cpufreq_interactive/*"]),
    ("sync", ["sync/*", "fence/*", "dma_fence/*"]),
    ("workq", ["workqueue/*"]),
    ("memreclaim", ["vmscan/mm_vmscan_direct_reclaim_begin",
      "vmscan/mm_vmscan_direct_reclaim_end", "vmscan/mm_vmscan_kswapd_wake",
      "vmscan/mm_vmscan_kswapd_sleep", "lowmemorykiller/*"]),
    ("regulators", ["regulator/*"]),
    ("binder_driver", ["binder/binder_transaction", "binder/binder_transaction_received",
      "binder/binder_transaction_alloc_buf", "binder/binder_set_priority"]),
    ("binder_lock", ["binder/binder_lock", "binder/binder_locked", "binder/binder_unlock"]),
    ("pagecache", ["filemap/*"]),
    ("memory", ["kmem/rss_stat", "kmem/ion_heap_grow", "kmem/ion_heap_shrink",
      "mm_event/mm_event_record"]),
    ("thermal", ["thermal/thermal_temperature", "thermal/cdev_update"])]

/-- The entries behind a category, if it is a well-known one. -/
def entriesOf (category : String) : List String :=
  (kernelEntries.lookup category).getD []

end TraceArbiter.Category
