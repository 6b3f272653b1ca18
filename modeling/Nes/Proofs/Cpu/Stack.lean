import Nes.Proofs.Cpu.FlatMemory
import Nes.Proofs.Cpu.StatusMarks

/-!
# What is put on the stack comes back

Pushes and interrupts put bytes on page one and move the stack pointer down, around the page when
need be. Read upward from the stack pointer the page is a list of bytes (`above`): a push adds its
byte to the front of the list (`above_push`), and a pull takes the first byte off. A run in which
each closing belongs to the opening that is still open and latest (`StackRun`) therefore keeps the
bytes of all that is open, one behind the other (`Balanced`), so that a closing finds what its
opening has saved. There is room for 256 bytes.
-/
namespace Nes.Cpu

section Bytes

variable (memory : FlatMemory) (pointer : UInt8)

/-- The bytes above a stack pointer, the nearest first. -/
def above (memory : FlatMemory) (pointer : UInt8) : Nat → List UInt8
  | 0 => []
  | count + 1 => memory.peek (stackAddress (pointer + 1)) :: above memory (pointer + 1) count

variable {memory pointer}

/-- Stack pointers have addresses of their own. -/
theorem stackAddress_inj {left right : UInt8} :
    stackAddress left = stackAddress right ↔ left = right := by
  constructor
  · intro same
    simpa only [stackAddress, lowByte_wordOf] using congrArg lowByte same
  · rintro rfl
    rfl

/-- The bytes above a stack pointer depend on their own cells. -/
theorem above_congr {other : FlatMemory} {count : Nat}
    (same : ∀ distance < count, other.peek (stackAddress (pointer + 1 + .ofNat distance))
      = memory.peek (stackAddress (pointer + 1 + .ofNat distance))) :
    above other pointer count = above memory pointer count := by
  induction count generalizing pointer
  case zero => rfl
  case succ count rest =>
    have nearest := same 0 (Nat.succ_pos count)
    rw [show UInt8.ofNat 0 = 0 from rfl, UInt8.add_zero] at nearest
    rw [above, above, nearest, rest]
    intro distance within
    have next : pointer + 1 + 1 + .ofNat distance = pointer + 1 + .ofNat (distance + 1) := by
      rw [UInt8.ofNat_add, UInt8.add_assoc (pointer + 1), UInt8.add_comm 1]
      rfl
    rw [next]
    exact same (distance + 1) (Nat.succ_lt_succ within)

/-- A push adds its byte to the bytes above the stack pointer as long as it does not come around
to them. -/
theorem above_push (value : UInt8) {count : Nat} (room : count < 256) :
    above (AddressSpace.write memory (stackAddress pointer) value) (pointer - 1) (count + 1)
      = value :: above memory pointer count := by
  have back : pointer - 1 + 1 = pointer := UInt8.sub_add_cancel pointer 1
  rw [above, back, FlatMemory.peek_write]
  congr 1
  apply above_congr
  intro distance within
  apply FlatMemory.peek_write_of_ne
  rw [Ne, stackAddress_inj, UInt8.add_assoc, UInt8.add_eq_left, ← UInt8.toNat_inj, UInt8.toNat_add,
    UInt8.toNat_ofNat_of_lt' (by change distance < 256; omega), UInt8.toNat_one]
  change (1 + distance) % 256 ≠ 0
  omega

/-- The memory and the stack pointer after some bytes have been pushed, one after the other. -/
def pushBytes (memory : FlatMemory) (pointer : UInt8) : List UInt8 → FlatMemory × UInt8
  | [] => (memory, pointer)
  | byte :: bytes =>
    pushBytes (AddressSpace.write memory (stackAddress pointer) byte) (pointer - 1) bytes

/-- Pushes move the stack pointer down by the number of the bytes. -/
theorem pointer_pushBytes (bytes : List UInt8) :
    (pushBytes memory pointer bytes).2 = pointer - .ofNat bytes.length := by
  induction bytes generalizing memory pointer with
  | nil => exact (UInt8.sub_zero pointer).symm
  | cons byte bytes rest =>
    rw [pushBytes, rest, List.length_cons, UInt8.ofNat_add]
    grind

/-- Pushed bytes stand in front of those that lie above the stack pointer already, the last one
first. -/
theorem above_pushBytes (bytes : List UInt8) {count : Nat} (room : count + bytes.length ≤ 256) :
    above (pushBytes memory pointer bytes).1 (pushBytes memory pointer bytes).2
        (count + bytes.length)
      = bytes.reverse ++ above memory pointer count := by
  induction bytes generalizing memory pointer count with
  | nil => rfl
  | cons byte bytes rest =>
    have shifted : count + (byte :: bytes).length = (count + 1) + bytes.length := by
      rw [List.length_cons, Nat.add_assoc, Nat.add_comm 1]
    rw [shifted] at room ⊢
    rw [pushBytes, rest room, above_push byte (by omega), List.reverse_cons, List.append_assoc]
    rfl

/-- Pushes leave the other pages alone. -/
theorem peek_pushBytes (bytes : List UInt8) {address : UInt16}
    (elsewhere : highByte address ≠ 0x01) :
    (pushBytes memory pointer bytes).1.peek address = memory.peek address := by
  induction bytes generalizing memory pointer with
  | nil => rfl
  | cons byte bytes rest =>
    rw [pushBytes, rest]
    apply FlatMemory.peek_write_of_ne
    rintro rfl
    exact elsewhere (highByte_wordOf pointer 0x01)

end Bytes

/-- What puts bytes on the stack for a closing to take back. -/
inductive Opening where
  /-- A push of the accumulator. -/
  | accumulator
  /-- A push of the status. -/
  | status
  /-- A call of a subroutine. -/
  | call
  /-- A non-maskable interrupt. -/
  | nmi
  /-- A maskable interrupt. -/
  | irq

/-- The next step begins an instruction of the operation. -/
structure Begins (cpu : Cpu) (memory : FlatMemory) (operation : Operation) : Prop where
  /-- No instruction is in flight. -/
  complete : cpu.complete = true
  /-- The opcode at the program counter is one of the operation. -/
  next : (cpu.nextInstruction memory).operation = operation

/-- The byte at the program counter tells which instruction begins. -/
theorem begins_of_peek {cpu : Cpu} {memory : FlatMemory} {opcode : UInt8}
    {instruction : Instruction} (complete : cpu.complete = true)
    (code : memory.peek cpu.registers.pc = opcode)
    (decoded : Instruction.ofOpcode opcode = instruction) :
    cpu.Begins memory instruction.operation :=
  ⟨complete, congrArg Instruction.operation (FlatMemory.nextInstruction_of_peek code decoded)⟩

namespace Opening

/-- How many bytes an opening puts on the stack. -/
def size : Opening → Nat
  | accumulator | status => 1
  | call => 2
  | nmi | irq => 3

/-- The bytes that an opening pushes, one after the other. -/
def bytes (registers : Registers) : Opening → List UInt8
  | accumulator => [registers.a]
  | status => [registers.status.pushedByInstruction.toByte]
  | call => [highByte (registers.pc + 2), lowByte (registers.pc + 2)]
  | nmi | irq =>
    [highByte registers.pc, lowByte registers.pc, registers.status.pushedByHardware.toByte]

/-- An opening pushes as many bytes as it is counted for. -/
theorem length_bytes (opening : Opening) (registers : Registers) :
    (opening.bytes registers).length = opening.size := by
  cases opening <;> rfl

/-- What has to be so for an opening to come next. -/
def Ready (cpu : Cpu) (memory : FlatMemory) : Opening → Prop
  | accumulator => cpu.Begins memory .pha
  | status => cpu.Begins memory .php
  | call => cpu.Begins memory .jsr
  | nmi => True
  | irq => cpu.registers.status.irqDisable = false

/-- The processor and the memory after an opening. -/
def enter (cpu : Cpu) (memory : FlatMemory) : Opening → Cpu × FlatMemory
  | accumulator | status | call => cpu.step memory
  | nmi => cpu.nmi memory
  | irq => cpu.irq memory

/-- The operation that closes an opening. -/
def closing : Opening → Operation
  | accumulator => .pla
  | status => .plp
  | call => .rts
  | nmi | irq => .rti

/-- What a closing gives back of the registers that its opening has found. -/
def Restored (found after : Registers) : Opening → Prop
  | accumulator => after.a = found.a
  | status => after.status = { found.status with unused := true, brk := false }
  | call => after.pc = found.pc + 3
  | nmi | irq =>
    after.pc = found.pc ∧ after.status = { found.status with unused := true, brk := false }

end Opening

section Specs

variable {cpu : Cpu} {memory : FlatMemory}

/-- An opening pushes its bytes. -/
theorem enter_eq {opening : Opening} (ready : opening.Ready cpu memory) :
    ((opening.enter cpu memory).2, (opening.enter cpu memory).1.registers.sp)
      = pushBytes memory cpu.registers.sp (opening.bytes cpu.registers) := by
  cases opening
  case accumulator | status =>
    change ((cpu.step memory).2, (cpu.step memory).1.registers.sp) = _
    rw [space_step memory ready.complete, registers_step memory ready.complete,
      performed_of_stack ready.next rfl]
    rfl
  case call =>
    have last : cpu.registers.pc + 1 + 1 + 1 - 1 = cpu.registers.pc + 2 := by grind
    change ((cpu.step memory).2, (cpu.step memory).1.registers.sp) = _
    rw [space_step memory ready.complete, registers_step memory ready.complete,
      performed_of_stack ready.next rfl, Opening.bytes, ← last]
    rfl
  case nmi => rfl
  case irq =>
    change ((cpu.irq memory).2, (cpu.irq memory).1.registers.sp) = _
    rw [irq, ready]
    rfl

/-- An opening leaves the other pages alone. -/
theorem peek_enter {opening : Opening} (ready : opening.Ready cpu memory) {address : UInt16}
    (elsewhere : highByte address ≠ 0x01) :
    (opening.enter cpu memory).2.peek address = memory.peek address := by
  obtain ⟨pushed, -⟩ := Prod.mk.inj (enter_eq ready)
  rw [pushed]
  exact peek_pushBytes _ elsewhere

/-- A closing takes the bytes of its opening off the stack and gives back what they have kept. -/
theorem step_closing {opening : Opening} (begins : cpu.Begins memory opening.closing)
    {found : Registers} {count : Nat} {rest : List UInt8}
    (bytes : above memory cpu.registers.sp (count + opening.size)
      = (opening.bytes found).reverse ++ rest) :
    (cpu.step memory).1.registers.sp = cpu.registers.sp + .ofNat opening.size
      ∧ above (cpu.step memory).2 (cpu.step memory).1.registers.sp count = rest
      ∧ opening.Restored found (cpu.step memory).1.registers := by
  have implied : opening.closing.stackMode? = some .implied := by
    cases opening <;> rfl
  rw [space_step memory begins.complete, registers_step memory begins.complete,
    performed_of_stack begins.next implied]
  cases opening
  case accumulator =>
    obtain ⟨top, below⟩ := List.cons.inj bytes
    exact ⟨rfl, below, top⟩
  case status =>
    obtain ⟨top, below⟩ := List.cons.inj bytes
    refine ⟨rfl, below, ?_⟩
    change { (Status.ofByte (memory.peek (stackAddress (cpu.registers.sp + 1)))).pushedByHardware
      with unused := true } = _
    rw [top, Status.ofByte_toByte]
    rfl
  case call =>
    obtain ⟨low, bytes⟩ := List.cons.inj bytes
    obtain ⟨high, below⟩ := List.cons.inj bytes
    refine ⟨add_one_one _, below, ?_⟩
    change wordOf (memory.peek (stackAddress (cpu.registers.sp + 1)))
      (memory.peek (stackAddress (cpu.registers.sp + 1 + 1))) + 1 = found.pc + 3
    rw [low, high, wordOf_lowByte_highByte, UInt16.add_assoc]
    rfl
  case nmi | irq =>
    obtain ⟨top, bytes⟩ := List.cons.inj bytes
    obtain ⟨low, bytes⟩ := List.cons.inj bytes
    obtain ⟨high, below⟩ := List.cons.inj bytes
    refine ⟨?_, below, ?_, ?_⟩
    · change cpu.registers.sp + 1 + 1 + 1 = cpu.registers.sp + 3
      grind
    · change wordOf (memory.peek (stackAddress (cpu.registers.sp + 1 + 1)))
        (memory.peek (stackAddress (cpu.registers.sp + 1 + 1 + 1))) = found.pc
      rw [low, high, wordOf_lowByte_highByte]
    · change { (Status.ofByte (memory.peek (stackAddress (cpu.registers.sp + 1)))).pushedByHardware
        with unused := true } = _
      rw [top, Status.ofByte_toByte]
      rfl

end Specs

/-- The operations that move the stack pointer. -/
def stackOperations : List Operation := [.pha, .php, .pla, .plp, .jsr, .rts, .rti, .brk, .txs]

/-- What is neither an opening nor a closing, and writes nothing on the page of the stack. -/
inductive Quiet (cpu : Cpu) (memory : FlatMemory) : Cpu × FlatMemory → Prop where
  /-- A cycle of an instruction that is in flight. -/
  | wait (incomplete : cpu.complete = false) : Quiet cpu memory (cpu.step memory)
  /-- Another instruction. -/
  | instruction (complete : cpu.complete = true)
    (other : (cpu.nextInstruction memory).operation ∉ stackOperations)
    (elsewhere : ∀ address value,
      .write address value ∈ (cpu.step (Traced.start memory)).2.log → highByte address ≠ 0x01) :
    Quiet cpu memory (cpu.step memory)
  /-- A maskable interrupt that is masked. -/
  | masked (masked : cpu.registers.status.irqDisable = true) : Quiet cpu memory (cpu.irq memory)

/-- Only the listed operations move the stack pointer. -/
theorem Operation.keeps_sp {operation : Operation} (other : operation ∉ stackOperations)
    (pointer : UInt8) :
    operation.effect.usesStack = false
      ∧ operation.effect.Keeps fun registers => registers.sp = pointer := by
  refine ⟨?_, ?_⟩
  · revert other
    cases operation <;> decide
  · cases operation
    case txs => exact absurd (by decide) other
    all_goals first | exact trivial | exact fun _ kept => kept | exact fun _ _ kept => kept

section Quiet

variable {cpu : Cpu} {memory : FlatMemory}

/-- What is quiet leaves the stack pointer and the page of the stack alone. -/
theorem Quiet.keeps {after : Cpu × FlatMemory} (quiet : Quiet cpu memory after) :
    after.1.registers.sp = cpu.registers.sp
      ∧ ∀ pointer, after.2.peek (stackAddress pointer) = memory.peek (stackAddress pointer) := by
  cases quiet with
  | wait incomplete =>
    rw [step, incomplete]
    exact ⟨rfl, fun _ => rfl⟩
  | instruction complete other elsewhere =>
    refine ⟨?_, ?_⟩
    · have found : (cpu.nextFound memory).cpu.registers.sp = cpu.registers.sp := by
        rw [registers_nextFound]
      obtain ⟨unused, keeps⟩ := Operation.keeps_sp other (cpu.nextFound memory).cpu.registers.sp
      rw [registers_step memory complete, ← found]
      exact keeps_perform keeps unused (fun _ _ kept => kept) (fun _ _ _ _ kept => kept) _ _ rfl
    · intro pointer
      apply FlatMemory.peek_step
      intro value written
      exact elsewhere _ value written (highByte_wordOf pointer 0x01)
  | masked masked =>
    rw [irq, if_pos masked]
    exact ⟨rfl, fun _ => rfl⟩

end Quiet

/-- An opening that has not been closed. -/
structure Pending where
  /-- What has put bytes on the stack. -/
  opening : Opening
  /-- The registers before it. -/
  found : Registers

/-- How many bytes are on the stack for what has not been closed. -/
def outstanding : List Pending → Nat
  | [] => 0
  | latest :: others => outstanding others + latest.opening.size

/-- The bytes on the stack for what has not been closed, the top of the stack first. -/
def outstandingBytes : List Pending → List UInt8
  | [] => []
  | latest :: others => (latest.opening.bytes latest.found).reverse ++ outstandingBytes others

/-- A run of a processor on plain memory, with what it has opened and not closed, the latest first.
A closing belongs to the latest opening, and no more than 256 bytes are ever outstanding. -/
inductive StackRun (start : Cpu × FlatMemory) : List Pending → Cpu × FlatMemory → Prop where
  /-- Nothing has happened yet. -/
  | start : StackRun start [] start
  /-- Something else happens. -/
  | quiet {pending : List Pending} {now after : Cpu × FlatMemory} :
    StackRun start pending now → Quiet now.1 now.2 after → StackRun start pending after
  /-- Something is opened. -/
  | opened {pending : List Pending} {now : Cpu × FlatMemory} (opening : Opening) :
    StackRun start pending now → opening.Ready now.1 now.2 →
    outstanding pending + opening.size ≤ 256 →
    StackRun start (⟨opening, now.1.registers⟩ :: pending) (opening.enter now.1 now.2)
  /-- What has been opened last is closed. -/
  | closed {latest : Pending} {others : List Pending} {now : Cpu × FlatMemory} :
    StackRun start (latest :: others) now → now.1.Begins now.2 latest.opening.closing →
    StackRun start others (now.1.step now.2)

/-- The bytes of all that is open lie above the stack pointer, which stands below them. -/
structure Balanced (bottom : UInt8) (pending : List Pending) (now : Cpu × FlatMemory) : Prop where
  /-- The stack pointer is as far down as bytes are outstanding. -/
  pointer : now.1.registers.sp = bottom - .ofNat (outstanding pending)
  /-- The bytes are on the stack. -/
  bytes : above now.2 now.1.registers.sp (outstanding pending) = outstandingBytes pending
  /-- Each opening has found the stack pointer at the bytes that were outstanding then. -/
  found : ∀ latest others, latest :: others <:+ pending →
    latest.found.sp = bottom - .ofNat (outstanding others)

namespace Balanced

variable {bottom : UInt8} {pending : List Pending} {now : Cpu × FlatMemory}

/-- What is quiet leaves the stack balanced. -/
theorem quiet {after : Cpu × FlatMemory} (balanced : Balanced bottom pending now)
    (quiet : Quiet now.1 now.2 after) : Balanced bottom pending after := by
  obtain ⟨pointer, page⟩ := quiet.keeps
  refine ⟨pointer.trans balanced.pointer, ?_, balanced.found⟩
  rw [pointer, ← balanced.bytes]
  exact above_congr fun distance _ => page _

/-- An opening leaves the stack balanced with its own bytes on top. -/
theorem opened {opening : Opening} (balanced : Balanced bottom pending now)
    (ready : opening.Ready now.1 now.2) (room : outstanding pending + opening.size ≤ 256) :
    Balanced bottom (⟨opening, now.1.registers⟩ :: pending) (opening.enter now.1 now.2) := by
  obtain ⟨memory, pointer⟩ := Prod.mk.inj (enter_eq ready)
  refine ⟨?_, ?_, ?_⟩
  · rw [pointer, pointer_pushBytes, Opening.length_bytes, balanced.pointer, outstanding,
      UInt8.ofNat_add]
    grind
  · have length := opening.length_bytes now.1.registers
    rw [← length] at room
    rw [memory, pointer, outstanding, outstandingBytes, ← length, above_pushBytes _ room,
      balanced.bytes]
  · intro latest others suffix
    obtain same | older := List.suffix_cons_iff.1 suffix
    · obtain ⟨rfl, rfl⟩ := List.cons.inj same
      exact balanced.pointer
    · exact balanced.found latest others older

/-- A closing leaves the stack balanced without the bytes of its opening. -/
theorem closed {latest : Pending} {others : List Pending}
    (balanced : Balanced bottom (latest :: others) now)
    (begins : now.1.Begins now.2 latest.opening.closing) :
    Balanced bottom others (now.1.step now.2) := by
  obtain ⟨pointer, bytes, -⟩ := step_closing begins balanced.bytes
  refine ⟨?_, bytes, ?_⟩
  · rw [pointer, balanced.pointer, outstanding, UInt8.ofNat_add]
    grind
  · intro older below suffix
    exact balanced.found older below (suffix.trans (List.suffix_cons _ _))

end Balanced

namespace StackRun

variable {start now : Cpu × FlatMemory} {pending : List Pending}

/-- The stack is balanced all the time. -/
theorem balanced (run : StackRun start pending now) :
    Balanced start.1.registers.sp pending now := by
  induction run with
  | start =>
    refine ⟨(UInt8.sub_zero _).symm, rfl, ?_⟩
    intro latest others suffix
    exact absurd (List.suffix_nil.1 suffix) (List.cons_ne_nil _ _)
  | quiet _ quiet balanced => exact balanced.quiet quiet
  | opened opening _ ready room balanced => exact balanced.opened ready room
  | closed _ begins balanced => exact balanced.closed begins

/-- The cycles that are left of an instruction pass. -/
theorem waited (run : StackRun start pending now) :
    StackRun start pending ({ now.1 with cycles := 0 }, now.2) := by
  generalize left : now.1.cycles.toNat = count
  induction count generalizing now
  case zero =>
    have none : now.1.cycles = 0 := UInt8.toNat_inj.1 left
    rwa [← none]
  case succ count waited =>
    have some : now.1.cycles ≠ 0 := by
      rintro none
      rw [none] at left
      cases left
    have incomplete : now.1.complete = false := by
      simpa [complete] using some
    have positive : 1 ≤ now.1.cycles := by
      rw [UInt8.le_iff_toNat_le, left]
      exact Nat.succ_le_succ (Nat.zero_le count)
    have step : now.1.step now.2 = ({ now.1 with cycles := now.1.cycles - 1 }, now.2) := by
      rw [Cpu.step, incomplete]
      rfl
    have next := run.quiet (.wait incomplete)
    rw [step] at next
    apply waited next
    change (now.1.cycles - 1).toNat = count
    rw [UInt8.toNat_sub_of_le _ _ positive, left]
    rfl

/-- The accumulator can be pushed and pulled on the way, at code that is not on the page of the
stack. -/
theorem pushed_pulled {cpu : Cpu} {memory : FlatMemory} (run : StackRun start pending (cpu, memory))
    (room : outstanding pending + 1 ≤ 256) (elsewhere : highByte (cpu.registers.pc + 1) ≠ 0x01)
    (push : memory.peek cpu.registers.pc = 0x48)
    (pull : memory.peek (cpu.registers.pc + 1) = 0x68) :
    ∃ (after : Cpu) (pulled : FlatMemory),
      StackRun start pending ({ after with cycles := 0 }, pulled)
      ∧ after.registers.pc = cpu.registers.pc + 1 + 1
      ∧ ∀ address, highByte address ≠ 0x01 → pulled.peek address = memory.peek address := by
  -- the push
  have pushes := @begins_of_peek { cpu with cycles := 0 } memory 0x48 ⟨.pha, .implied, 3⟩ rfl push
    (by decide)
  have pushed := run.waited.opened .accumulator pushes room
  have kept := @peek_enter _ memory .accumulator pushes
  have counter : (Opening.accumulator.enter { cpu with cycles := 0 } memory).1.registers.pc
      = cpu.registers.pc + 1 := by
    change (Cpu.step { cpu with cycles := 0 } memory).1.registers.pc = _
    rw [registers_step memory rfl, performed_of_stack pushes.next rfl]
    rfl
  generalize Opening.accumulator.enter { cpu with cycles := 0 } memory = now at pushed kept counter
  obtain ⟨between, stacked⟩ := now
  -- the pull
  have code : stacked.peek between.registers.pc = 0x68 := by
    rw [counter]
    exact (kept elsewhere).trans pull
  have pulls := @begins_of_peek { between with cycles := 0 } stacked 0x68 ⟨.pla, .implied, 4⟩ rfl
    code (by decide)
  refine ⟨_, _, (pushed.waited.closed pulls).waited, ?_, ?_⟩
  · rw [registers_step stacked rfl, performed_of_stack pulls.next rfl, ← counter]
    rfl
  · intro address other
    rw [space_step stacked rfl, performed_of_stack pulls.next rfl]
    exact kept other

/-- When all that was opened is closed again the stack pointer is where it was at the start, and
each closing gives back what its opening has saved, together with the stack pointer. An interrupt
whose handler leaves nothing open therefore leaves the program counter, the stack pointer and the
status as it has found them. -/
theorem restores (run : StackRun start pending now) :
    (pending = [] → now.1.registers.sp = start.1.registers.sp)
      ∧ ∀ latest others, pending = latest :: others →
        now.1.Begins now.2 latest.opening.closing →
        (now.1.step now.2).1.registers.sp = latest.found.sp
          ∧ latest.opening.Restored latest.found (now.1.step now.2).1.registers
          ∧ (latest.opening = .nmi ∨ latest.opening = .irq → latest.found.status.Marked →
            (now.1.step now.2).1.registers.pc = latest.found.pc
              ∧ (now.1.step now.2).1.registers.status = latest.found.status) := by
  have balanced := run.balanced
  refine ⟨?_, ?_⟩
  · rintro rfl
    exact balanced.pointer.trans (UInt8.sub_zero _)
  · rintro latest others rfl begins
    have closed := balanced.closed begins
    obtain ⟨-, -, restored⟩ := step_closing begins balanced.bytes
    refine ⟨?_, restored, ?_⟩
    · rw [closed.pointer, balanced.found latest others (List.suffix_refl _)]
    · intro interrupt marked
      have same : { latest.found.status with unused := true, brk := false }
          = latest.found.status := by
        rw [← marked.unused, ← marked.brk]
      obtain opening | opening := interrupt
      all_goals
        rw [opening] at restored
        exact ⟨restored.1, restored.2.trans same⟩

/-- An interrupt whose handler pushes and pulls the accumulator finds its way back from a stack that
has gone around the page. -/
theorem restores_wrapped :
    let memory : FlatMemory := ⟨.ofFn fun cell =>
      match cell.val with
      | 0x9000 => 0x48
      | 0x9001 => 0x68
      | 0x9002 => 0x40
      | 0xFFFB => 0x90
      | _ => 0⟩
    let cpu : Cpu := { powerOn with
      registers := { Registers.powerOn with sp := 0x01, pc := 0x8000 } }
    ∃ now, StackRun (cpu, memory) [⟨.nmi, cpu.registers⟩] now
      ∧ now.1.Begins now.2 .rti ∧ now.1.registers.sp = 0xFE ∧ cpu.registers.status.Marked
      ∧ (now.1.step now.2).1.registers.sp = 0x01
      ∧ (now.1.step now.2).1.registers.pc = 0x8000
      ∧ (now.1.step now.2).1.registers.status = cpu.registers.status := by
  intro memory cpu
  have codes : memory.peek 0x9000 = 0x48 ∧ memory.peek 0x9001 = 0x68 ∧ memory.peek 0x9002 = 0x40
      ∧ memory.peek 0xFFFA = 0x00 ∧ memory.peek 0xFFFB = 0x90 := by
    simp only [memory, FlatMemory.peek_ofFn]
    decide
  clear_value memory
  obtain ⟨push, pull, leave, low, high⟩ := codes
  -- the interrupt
  have started : StackRun (cpu, memory) [] (cpu, memory) := .start
  have entered := started.opened .nmi trivial (by decide)
  have kept := @peek_enter cpu memory .nmi trivial
  have counter : (Opening.nmi.enter cpu memory).1.registers.pc = 0x9000 := by
    change wordOf ((Opening.nmi.enter cpu memory).2.peek 0xFFFA)
      ((Opening.nmi.enter cpu memory).2.peek 0xFFFB) = _
    rw [kept (by decide), kept (by decide), low, high]
    decide
  generalize Opening.nmi.enter cpu memory = now at entered kept counter
  obtain ⟨handling, stacked⟩ := now
  -- its handler, up to the return
  obtain ⟨after, pulled, handled, next, same⟩ := entered.pushed_pulled
    (by change 3 + 1 ≤ 256; decide) (by rw [counter]; decide)
    (by rw [counter, kept (by decide), push]) (by rw [counter]; exact (kept (by decide)).trans pull)
  have code : pulled.peek after.registers.pc = 0x40 := by
    rw [next, counter]
    exact (same _ (by decide)).trans ((kept (by decide)).trans leave)
  have leaves := @begins_of_peek { after with cycles := 0 } pulled 0x40 ⟨.rti, .implied, 6⟩ rfl
    code (by decide)
  have marked : cpu.registers.status.Marked := ⟨rfl, rfl⟩
  have pointer : after.registers.sp = 0x01 - UInt8.ofNat 3 := handled.balanced.pointer
  obtain ⟨sp, -, unchanged⟩ := handled.restores.2 _ _ rfl leaves
  obtain ⟨pc, status⟩ := unchanged (.inl rfl) marked
  exact ⟨_, handled, leaves, pointer.trans (by decide), marked, sp, pc, status⟩

end StackRun

end Nes.Cpu
