import Towboot.Machine
import Towboot.MemoryMap
import Towboot.Coalescing
import Towboot.MergeLoop
import Towboot.MemoryBounds
import Towboot.Firmware
import Towboot.Allocation
import Towboot.Relocation
import Towboot.AllocationLifecycle
import Towboot.MultibootAllocator
import Towboot.Boot
import Towboot.PageCounts
import Towboot.Menu
