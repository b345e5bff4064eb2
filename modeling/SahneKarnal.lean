import SahneKarnal.PlatformGeneric
import SahneKarnal.Memory
import SahneKarnal.Memory.Concurrent
import SahneKarnal.InitRd
import SahneKarnal.Ipc
import SahneKarnal.Ipc.Concurrent
import SahneKarnal.Ipc.Senders
import SahneKarnal.Arch.Interrupt
import SahneKarnal.Arch.Interrupt.Dispatch
import SahneKarnal.Arch.Interrupt.Init
import SahneKarnal.Arch.Interrupt.Pic8259
import SahneKarnal.Arch.Exception
import SahneKarnal.Arch.Exception.Idt
import SahneKarnal.Arch.Power
import SahneKarnal.Mmu
import SahneKarnal.Arch.Mmu
import SahneKarnal.Arch.Mmu.Codec
import SahneKarnal.Arch.Mmu.Tlb
import SahneKarnal.Arch.Asm
import SahneKarnal.Arch.Task
import SahneKarnal.Arch.Task.Amd64Powerpc64
import SahneKarnal.Arch.Console
import SahneKarnal.Arch.Time
