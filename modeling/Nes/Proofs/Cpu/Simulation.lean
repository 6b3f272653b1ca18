import Nes.Cpu.Step

/-!
# Processors over related address spaces

A processor learns about its address space only through the bytes that it reads. Two spaces that
are related, give the same bytes and stay related therefore drive a processor through the same
states (`Simulation`). A space that keeps a property under single accesses keeps it under whole
processor cycles for the same reason (`Invariant`). The writes that a relation has to survive are
named by a set of addresses, since the hardware sequences write nowhere but in the stack page.
-/
namespace Nes.Cpu

variable {α β γ : Type}

/-- Two outcomes with one value, over related spaces. -/
def Agree (Related : β → γ → Prop) (left : α × β) (right : α × γ) : Prop :=
  ∃ value first second,
    left = (value, first) ∧ right = (value, second) ∧ Related first second

/-- Two outcomes with one value and one processor, over related spaces. -/
def AgreeFetched (Related : β → γ → Prop) (left : α × Cpu × β) (right : α × Cpu × γ) : Prop :=
  ∃ value cpu first second,
    left = (value, cpu, first) ∧ right = (value, cpu, second) ∧ Related first second

/-- Two found operands at one place, over related spaces. -/
def AgreeFound (Related : β → γ → Prop) (left : Found β) (right : Found γ) : Prop :=
  ∃ crossed cpu first second,
    left = ⟨crossed, cpu, first⟩ ∧ right = ⟨crossed, cpu, second⟩ ∧ Related first second

/-- An outcome that agrees with itself over spaces of a property has a space of that property. -/
theorem Agree.holds {Holds : β → Prop} {outcome : α × β}
    (agree : Agree (fun left right => left = right ∧ Holds left) outcome outcome) :
    Holds outcome.2 := by
  obtain ⟨value, first, second, rfl, _, _, holds⟩ := agree
  exact holds

variable [AddressSpace β] [AddressSpace γ]

/-- Related spaces answer reads alike, and reads, and writes to the addresses of a set, leave them
related. -/
structure Simulation (Related : β → γ → Prop) (Writable : UInt16 → Prop) : Prop where
  /-- A read gives one byte. -/
  read : ∀ {left right} (address : UInt16), Related left right →
    Agree Related (AddressSpace.read left address) (AddressSpace.read right address)
  /-- A write keeps the relation. -/
  write : ∀ {left right} (address : UInt16) (value : UInt8), Writable address →
    Related left right →
    Related (AddressSpace.write left address value) (AddressSpace.write right address value)

namespace Simulation

variable {Related : β → γ → Prop} {Writable : UInt16 → Prop} {left : β} {right : γ}

section Reads

variable (simulation : Simulation Related Writable) (related : Related left right)

include simulation related

/-- Related spaces give one word. -/
theorem readWord (address : UInt16) :
    Agree Related (readWord left address) (readWord right address) := by
  obtain ⟨low, left, right, leftLow, rightLow, related⟩ := simulation.read address related
  obtain ⟨high, left, right, leftHigh, rightHigh, related⟩ :=
    simulation.read (address + 1) related
  exact ⟨wordOf low high, left, right, by simp only [Cpu.readWord, leftLow, leftHigh],
    by simp only [Cpu.readWord, rightLow, rightHigh], related⟩

/-- A byte is fetched alike from related spaces. -/
theorem fetchByte (cpu : Cpu) :
    AgreeFetched Related (cpu.fetchByte left) (cpu.fetchByte right) := by
  obtain ⟨value, left, right, leftRead, rightRead, related⟩ :=
    simulation.read cpu.registers.pc related
  exact ⟨value, _, left, right, by simp only [Cpu.fetchByte, leftRead]; rfl,
    by simp only [Cpu.fetchByte, rightRead], related⟩

/-- A word is fetched alike from related spaces. -/
theorem fetchWord (cpu : Cpu) :
    AgreeFetched Related (cpu.fetchWord left) (cpu.fetchWord right) := by
  obtain ⟨low, cpu, left, right, leftLow, rightLow, related⟩ := simulation.fetchByte related cpu
  obtain ⟨high, cpu, left, right, leftHigh, rightHigh, related⟩ :=
    simulation.fetchByte related cpu
  exact ⟨wordOf low high, cpu, left, right, by simp only [Cpu.fetchWord, leftLow, leftHigh],
    by simp only [Cpu.fetchWord, rightLow, rightHigh], related⟩

/-- A byte is pulled alike from related spaces. -/
theorem pull (cpu : Cpu) : AgreeFetched Related (cpu.pull left) (cpu.pull right) := by
  obtain ⟨value, left, right, leftRead, rightRead, related⟩ :=
    simulation.read (stackAddress (cpu.registers.sp + 1)) related
  exact ⟨value, _, left, right, by simp only [Cpu.pull, leftRead]; rfl,
    by simp only [Cpu.pull, rightRead], related⟩

/-- A word is pulled alike from related spaces. -/
theorem pullWord (cpu : Cpu) : AgreeFetched Related (cpu.pullWord left) (cpu.pullWord right) := by
  obtain ⟨low, cpu, left, right, leftLow, rightLow, related⟩ := simulation.pull related cpu
  obtain ⟨high, cpu, left, right, leftHigh, rightHigh, related⟩ := simulation.pull related cpu
  exact ⟨wordOf low high, cpu, left, right, by simp only [Cpu.pullWord, leftLow, leftHigh],
    by simp only [Cpu.pullWord, rightLow, rightHigh], related⟩

/-- A pointer on page zero is read alike from related spaces. -/
theorem zeroPagePointer (pointer : UInt8) :
    Agree Related (zeroPagePointer left pointer) (zeroPagePointer right pointer) := by
  obtain ⟨low, left, right, leftLow, rightLow, related⟩ :=
    simulation.read pointer.toUInt16 related
  obtain ⟨high, left, right, leftHigh, rightHigh, related⟩ :=
    simulation.read (pointer + 1).toUInt16 related
  exact ⟨wordOf low high, left, right, by simp only [Cpu.zeroPagePointer, leftLow, leftHigh],
    by simp only [Cpu.zeroPagePointer, rightLow, rightHigh], related⟩

/-- A pointer whose bytes lie on one page is read alike from related spaces. -/
theorem pagePointer (pointer : UInt16) :
    Agree Related (pagePointer left pointer) (pagePointer right pointer) := by
  obtain ⟨low, left, right, leftLow, rightLow, related⟩ := simulation.read pointer related
  obtain ⟨high, left, right, leftHigh, rightHigh, related⟩ :=
    simulation.read (wordOf (lowByte pointer + 1) (highByte pointer)) related
  exact ⟨wordOf low high, left, right, by simp only [Cpu.pagePointer, leftLow, leftHigh],
    by simp only [Cpu.pagePointer, rightLow, rightHigh], related⟩

/-- An operand is found alike, whatever the addressing mode. -/
theorem findOperand (mode : AddressingMode) (cpu : Cpu) :
    AgreeFound Related (findOperand mode cpu left) (findOperand mode cpu right) := by
  cases mode
  case implied => exact ⟨_, _, left, right, rfl, rfl, related⟩
  case immediate => exact ⟨_, _, left, right, rfl, rfl, related⟩
  case relative =>
    obtain ⟨distance, cpu, left, right, leftFetch, rightFetch, related⟩ :=
      simulation.fetchByte related cpu
    exact ⟨_, _, left, right, by simp only [Cpu.findOperand, leftFetch]; rfl,
      by simp only [Cpu.findOperand, rightFetch], related⟩
  case zeroPage | zeroPageX | zeroPageY =>
    obtain ⟨value, cpu, left, right, leftFetch, rightFetch, related⟩ :=
      simulation.fetchByte related cpu
    exact ⟨_, _, left, right, by simp only [Cpu.findOperand, leftFetch]; rfl,
      by simp only [Cpu.findOperand, rightFetch]; rfl, related⟩
  case absolute | absoluteX | absoluteY =>
    obtain ⟨value, cpu, left, right, leftFetch, rightFetch, related⟩ :=
      simulation.fetchWord related cpu
    exact ⟨_, _, left, right, by simp only [Cpu.findOperand, leftFetch]; rfl,
      by simp only [Cpu.findOperand, rightFetch]; rfl, related⟩
  case indirect =>
    obtain ⟨pointer, cpu, left, right, leftFetch, rightFetch, related⟩ :=
      simulation.fetchWord related cpu
    obtain ⟨address, left, right, leftRead, rightRead, related⟩ :=
      simulation.pagePointer related pointer
    exact ⟨_, _, left, right, by simp only [Cpu.findOperand, leftFetch, leftRead]; rfl,
      by simp only [Cpu.findOperand, rightFetch, rightRead]; rfl, related⟩
  case indirectX =>
    obtain ⟨pointer, cpu, left, right, leftFetch, rightFetch, related⟩ :=
      simulation.fetchByte related cpu
    obtain ⟨address, left, right, leftRead, rightRead, related⟩ :=
      simulation.zeroPagePointer related (pointer + cpu.registers.x)
    exact ⟨_, _, left, right, by simp only [Cpu.findOperand, leftFetch, leftRead]; rfl,
      by simp only [Cpu.findOperand, rightFetch, rightRead]; rfl, related⟩
  case indirectY =>
    obtain ⟨pointer, cpu, left, right, leftFetch, rightFetch, related⟩ :=
      simulation.fetchByte related cpu
    obtain ⟨base, left, right, leftRead, rightRead, related⟩ :=
      simulation.zeroPagePointer related pointer
    exact ⟨_, _, left, right, by simp only [Cpu.findOperand, leftFetch, leftRead]; rfl,
      by simp only [Cpu.findOperand, rightFetch, rightRead]; rfl, related⟩

/-- An operand is read alike from related spaces. -/
theorem readOperand (mode : AddressingMode) (cpu : Cpu) :
    AgreeFetched Related (cpu.readOperand mode left) (cpu.readOperand mode right) := by
  by_cases implied : mode = .implied
  · exact ⟨cpu.operand, cpu, left, right, by rw [Cpu.readOperand, if_pos implied],
      by rw [Cpu.readOperand, if_pos implied], related⟩
  · obtain ⟨value, left, right, leftRead, rightRead, related⟩ :=
      simulation.read cpu.address related
    refine ⟨value, { cpu with operand := value }, left, right, ?_, ?_, related⟩
    · rw [Cpu.readOperand, if_neg implied, leftRead]
    · rw [Cpu.readOperand, if_neg implied, rightRead]

/-- A reset goes alike over related spaces. -/
theorem reset (cpu : Cpu) : Agree Related (cpu.reset left) (cpu.reset right) := by
  obtain ⟨address, left, right, leftRead, rightRead, related⟩ :=
    simulation.readWord related resetVector
  exact ⟨_, left, right, by simp only [Cpu.reset, leftRead]; rfl,
    by simp only [Cpu.reset, rightRead], related⟩

end Reads

section StackWrites

variable (simulation : Simulation Related Writable)
  (stack : ∀ pointer, Writable (stackAddress pointer)) (related : Related left right)

include simulation stack related

/-- A push to both spaces keeps them related. -/
theorem push (cpu : Cpu) (value : UInt8) :
    Agree Related (cpu.push left value) (cpu.push right value) :=
  ⟨_, _, _, rfl, rfl, simulation.write _ value (stack cpu.registers.sp) related⟩

/-- A push of a word to both spaces keeps them related. -/
theorem pushWord (cpu : Cpu) (value : UInt16) :
    Agree Related (cpu.pushWord left value) (cpu.pushWord right value) := by
  obtain ⟨cpu, left, right, leftHigh, rightHigh, related⟩ :=
    simulation.push stack related cpu (highByte value)
  obtain ⟨cpu, left, right, leftLow, rightLow, related⟩ :=
    simulation.push stack related cpu (lowByte value)
  exact ⟨cpu, left, right, by simp only [Cpu.pushWord, leftHigh, leftLow],
    by simp only [Cpu.pushWord, rightHigh, rightLow], related⟩

/-- An interrupt sequence goes alike over related spaces. -/
theorem interrupt (cpu : Cpu) (vector : UInt16) :
    Agree Related (cpu.interrupt left vector) (cpu.interrupt right vector) := by
  obtain ⟨pushed, left, right, leftPush, rightPush, related⟩ :=
    simulation.pushWord stack related cpu cpu.registers.pc
  obtain ⟨stacked, left, right, leftStatus, rightStatus, related⟩ :=
    simulation.push stack related pushed pushed.registers.status.pushedByHardware.toByte
  obtain ⟨address, left, right, leftRead, rightRead, related⟩ :=
    simulation.readWord related vector
  exact ⟨_, left, right, by simp only [Cpu.interrupt, leftPush, leftStatus, leftRead]; rfl,
    by simp only [Cpu.interrupt, rightPush, rightStatus, rightRead], related⟩

/-- The interrupt that can not be masked is taken alike over related spaces. -/
theorem nmi (cpu : Cpu) : Agree Related (cpu.nmi left) (cpu.nmi right) := by
  obtain ⟨entered, left, right, leftEnter, rightEnter, related⟩ :=
    simulation.interrupt stack related cpu nmiVector
  exact ⟨_, left, right, by simp only [Cpu.nmi, leftEnter]; rfl,
    by simp only [Cpu.nmi, rightEnter], related⟩

/-- The interrupt that can be masked is taken or left alike over related spaces. -/
theorem irq (cpu : Cpu) : Agree Related (cpu.irq left) (cpu.irq right) := by
  by_cases masked : cpu.registers.status.irqDisable = true
  · exact ⟨cpu, left, right, by rw [Cpu.irq, if_pos masked], by rw [Cpu.irq, if_pos masked],
      related⟩
  · obtain ⟨entered, left, right, leftEnter, rightEnter, related⟩ :=
      simulation.interrupt stack related cpu irqVector
    refine ⟨{ entered with cycles := 7 }, left, right, ?_, ?_, related⟩
    · rw [Cpu.irq, if_neg masked, leftEnter]
    · rw [Cpu.irq, if_neg masked, rightEnter]

end StackWrites

section AllWrites

variable (simulation : Simulation Related Writable)
  (everywhere : ∀ address, Writable address) (related : Related left right)

include simulation everywhere related

/-- A byte is put in the operand's place alike. -/
theorem replaceOperand (mode : AddressingMode) (cpu : Cpu) (value : UInt8) :
    Agree Related (cpu.replaceOperand mode left value) (cpu.replaceOperand mode right value) := by
  by_cases implied : mode = .implied
  · exact ⟨_, left, right, by rw [Cpu.replaceOperand, if_pos implied],
      by rw [Cpu.replaceOperand, if_pos implied], related⟩
  · exact ⟨cpu, _, _, by rw [Cpu.replaceOperand, if_neg implied],
      by rw [Cpu.replaceOperand, if_neg implied],
      simulation.write cpu.address value (everywhere _) related⟩

/-- Every effect takes place alike. -/
theorem perform (mode : AddressingMode) (effect : Effect) (cpu : Cpu) :
    Agree Related (cpu.perform mode effect left) (cpu.perform mode effect right) := by
  have stack : ∀ pointer, Writable (stackAddress pointer) := fun pointer => everywhere _
  cases effect
  case load update =>
    obtain ⟨value, cpu, left, right, leftRead, rightRead, related⟩ :=
      simulation.readOperand related mode cpu
    exact ⟨_, left, right, by simp only [Cpu.perform, leftRead]; rfl,
      by simp only [Cpu.perform, rightRead], related⟩
  case store source =>
    exact ⟨cpu, _, _, rfl, rfl, simulation.write _ _ (everywhere cpu.address) related⟩
  case modify change =>
    obtain ⟨value, cpu, left, right, leftRead, rightRead, related⟩ :=
      simulation.readOperand related mode cpu
    simp only [Cpu.perform, leftRead, rightRead]
    exact simulation.replaceOperand everywhere related mode _ _
  case transfer update => exact ⟨_, left, right, rfl, rfl, related⟩
  case branch taken => exact ⟨_, left, right, rfl, rfl, related⟩
  case push source => exact simulation.push stack related cpu _
  case pull update =>
    obtain ⟨value, cpu, left, right, leftPull, rightPull, related⟩ := simulation.pull related cpu
    exact ⟨_, left, right, by simp only [Cpu.perform, leftPull]; rfl,
      by simp only [Cpu.perform, rightPull], related⟩
  case jump => exact ⟨_, left, right, rfl, rfl, related⟩
  case call =>
    obtain ⟨cpu, left, right, leftPush, rightPush, related⟩ :=
      simulation.pushWord stack related cpu (cpu.registers.pc - 1)
    exact ⟨_, left, right, by simp only [Cpu.perform, leftPush]; rfl,
      by simp only [Cpu.perform, rightPush], related⟩
  case leaveCall =>
    obtain ⟨address, cpu, left, right, leftPull, rightPull, related⟩ :=
      simulation.pullWord related cpu
    exact ⟨_, left, right, by simp only [Cpu.perform, leftPull]; rfl,
      by simp only [Cpu.perform, rightPull], related⟩
  case leaveInterrupt =>
    obtain ⟨flags, cpu, left, right, leftFlags, rightFlags, related⟩ :=
      simulation.pull related cpu
    obtain ⟨address, pulled, left, right, leftPull, rightPull, related⟩ :=
      simulation.pullWord related (cpu.withRegisters { cpu.registers with
        status := (Status.ofByte flags).pushedByHardware })
    exact ⟨_, left, right, by simp only [Cpu.perform, leftFlags, leftPull]; rfl,
      by simp only [Cpu.perform, rightFlags, rightPull], related⟩
  case enterInterrupt =>
    obtain ⟨cpu, left, right, leftPush, rightPush, related⟩ :=
      simulation.pushWord stack related cpu cpu.registers.pc
    let masked := cpu.withRegisters (cpu.registers.mapStatus fun status =>
      { status with irqDisable := true })
    obtain ⟨stacked, left, right, leftStatus, rightStatus, related⟩ :=
      simulation.push stack related masked masked.registers.status.pushedByInstruction.toByte
    obtain ⟨address, left, right, leftRead, rightRead, related⟩ :=
      simulation.readWord related irqVector
    simp only [masked] at leftStatus rightStatus
    exact ⟨_, left, right, by simp only [Cpu.perform, leftPush, leftStatus, leftRead]; rfl,
      by simp only [Cpu.perform, rightPush, rightStatus, rightRead], related⟩

/-- An instruction is carried out alike over related spaces. -/
theorem execute (cpu : Cpu) : Agree Related (cpu.execute left) (cpu.execute right) := by
  obtain ⟨opcode, fetched, left, right, leftFetch, rightFetch, related⟩ :=
    simulation.fetchByte related cpu
  obtain ⟨crossed, found, left, right, leftFound, rightFound, related⟩ :=
    simulation.findOperand related (Instruction.ofOpcode opcode).mode
      { fetched with opcode, cycles := (Instruction.ofOpcode opcode).cycles }
  obtain ⟨performed, left, right, leftEffect, rightEffect, related⟩ :=
    simulation.perform everywhere related (Instruction.ofOpcode opcode).mode
      (Instruction.ofOpcode opcode).operation.effect found
  exact ⟨_, left, right, by simp only [Cpu.execute, leftFetch, leftFound, leftEffect]; rfl,
    by simp only [Cpu.execute, rightFetch, rightFound, rightEffect], related⟩

/-- A cycle goes alike over related spaces. -/
theorem step (cpu : Cpu) : Agree Related (cpu.step left) (cpu.step right) := by
  by_cases complete : cpu.complete = true
  · obtain ⟨cpu', left', right', leftRun, rightRun, related⟩ :=
      simulation.execute everywhere related cpu
    refine ⟨{ cpu' with cycles := cpu'.cycles - 1 }, left', right', ?_, ?_, related⟩
    · simp only [Cpu.step, if_pos complete, leftRun]
    · simp only [Cpu.step, if_pos complete, rightRun]
  · refine ⟨{ cpu with cycles := cpu.cycles - 1 }, left, right, ?_, ?_, related⟩
    · simp only [Cpu.step, if_neg complete]
    · simp only [Cpu.step, if_neg complete]

end AllWrites

end Simulation

/-- A property of a space that reads, and writes to the addresses of a set, keep. -/
structure Invariant (Holds : β → Prop) (Writable : UInt16 → Prop) : Prop where
  /-- A read keeps the property. -/
  read : ∀ {space} (address : UInt16), Holds space →
    Holds (AddressSpace.read space address).2
  /-- A write keeps the property. -/
  write : ∀ {space} (address : UInt16) (value : UInt8), Writable address → Holds space →
    Holds (AddressSpace.write space address value)

namespace Invariant

variable {Holds : β → Prop} {Writable : UInt16 → Prop} {space : β}

/-- A property that single accesses keep relates every space that has it to itself. -/
theorem simulation (invariant : Invariant Holds Writable) :
    Simulation (fun left right : β => left = right ∧ Holds left) Writable where
  read := by
    rintro left _ address ⟨rfl, holds⟩
    exact ⟨_, _, _, rfl, rfl, rfl, invariant.read address holds⟩
  write := by
    rintro left _ address value writable ⟨rfl, holds⟩
    exact ⟨rfl, invariant.write address value writable holds⟩

variable (invariant : Invariant Holds Writable) (holds : Holds space)

include invariant holds

/-- A reset keeps the property, since it writes nothing. -/
theorem reset (cpu : Cpu) : Holds (cpu.reset space).2 :=
  (invariant.simulation.reset ⟨rfl, holds⟩ cpu).holds

/-- The interrupt that can not be masked keeps the property if writes to the stack do. -/
theorem nmi (stack : ∀ pointer, Writable (stackAddress pointer)) (cpu : Cpu) :
    Holds (cpu.nmi space).2 :=
  (invariant.simulation.nmi stack ⟨rfl, holds⟩ cpu).holds

/-- So does the interrupt that can be masked. -/
theorem irq (stack : ∀ pointer, Writable (stackAddress pointer)) (cpu : Cpu) :
    Holds (cpu.irq space).2 :=
  (invariant.simulation.irq stack ⟨rfl, holds⟩ cpu).holds

/-- A cycle keeps the property if writes to every address do. -/
theorem step (everywhere : ∀ address, Writable address) (cpu : Cpu) :
    Holds (cpu.step space).2 :=
  (invariant.simulation.step everywhere ⟨rfl, holds⟩ cpu).holds

end Invariant

/-- A space with a record of its accesses answers as the space does. -/
theorem traced_simulation :
    Simulation (fun (traced : Traced β) (space : β) => traced.space = space) fun _ => True where
  read := by
    rintro traced _ address rfl
    exact ⟨_, _, _, rfl, rfl, rfl⟩
  write := by
    rintro traced _ address value _ rfl
    rfl

/-- The record of a cycle has no part in it. -/
theorem step_traced (cpu : Cpu) (space : β) :
    (cpu.step (Traced.start space)).2.space = (cpu.step space).2 := by
  have start : (Traced.start space).space = space := rfl
  obtain ⟨_, traced, plain, recorded, bare, same⟩ :=
    traced_simulation.step (fun _ => trivial) start cpu
  rw [recorded, bare]
  exact same

end Nes.Cpu
