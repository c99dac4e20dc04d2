import Mathlib.Data.List.Basic
import Mathlib.Logic.Function.Basic
import Mathlib.Logic.Relation
import LitTiles.Proofs.Wgpu.Runs

/-!
# Slices of an arena

What buffers hold is the outcome of all that was written to them, in order (`Platform.contents`). A
device takes only what is aligned and lies within the buffer.

A slice that an arena hands out is a `Lease`: until the next reset it holds the bytes that were
pushed for it, whatever else is pushed in the meantime, and whatever happens to other buffers
(`FrameArena.slices_kept`). All leases on the current buffer lie before the cursor, and the next one
does not start before it; a lease on a buffer that was outgrown is not written to any more.
-/

namespace LitTiles

namespace Wgpu

/-! ## Contents of buffers -/

/-- What buffers hold. -/
abbrev Contents : Type := Handle .buffer → List UInt8

/-- What a buffer holds after something was written to it. -/
def overwrite (held : List UInt8) (offset : Nat) (bytes : List UInt8) : List UInt8 :=
  if copyAlignment ∣ offset ∧ copyAlignment ∣ bytes.length ∧
    offset + bytes.length ≤ held.length then
    held.take offset ++ bytes ++ held.drop (offset + bytes.length)
  else held

/-- What a command does to the contents of buffers. -/
def Command.fill (held : Contents) : Command → Contents
  | .createBuffer b _ size _ => Function.update held b (List.replicate size 0)
  | .createFilledBuffer b _ bytes _ => Function.update held b bytes
  | .writeBuffer b offset bytes => Function.update held b (overwrite (held b) offset bytes)
  | _ => held

/-- Some bytes are found at an offset. -/
def Found (held : List UInt8) (offset : Nat) (bytes : List UInt8) : Prop :=
  offset + bytes.length ≤ held.length ∧ ∀ i < bytes.length, held[offset + i]? = bytes[i]?

variable {held : List UInt8} {offset offset' : Nat} {bytes bytes' : List UInt8}

@[simp] theorem length_overwrite : (overwrite held offset bytes).length = held.length := by
  unfold overwrite
  split
  · simp
    omega
  · rfl

theorem getElem?_overwrite
    (h : copyAlignment ∣ offset ∧ copyAlignment ∣ bytes.length ∧
      offset + bytes.length ≤ held.length) (i : Nat) :
    (overwrite held offset bytes)[i]? =
      if offset ≤ i ∧ i < offset + bytes.length then bytes[i - offset]? else held[i]? := by
  have before : (held.take offset).length = offset := by
    rw [List.length_take]
    omega
  have written : (held.take offset ++ bytes).length = offset + bytes.length := by
    rw [List.length_append, before]
  rw [overwrite, if_pos h]
  by_cases hi : i < offset + bytes.length
  · rw [List.getElem?_append_left (by omega)]
    by_cases hb : offset ≤ i
    · rw [List.getElem?_append_right (by omega), if_pos ⟨hb, hi⟩, before]
    · rw [List.getElem?_append_left (by omega), List.getElem?_take_of_lt (by omega),
        if_neg (by omega)]
  · rw [List.getElem?_append_right (by omega), List.getElem?_drop, if_neg (by omega), written,
      Nat.add_sub_cancel' (by omega)]

theorem found_overwrite (ho : copyAlignment ∣ offset) (hb : copyAlignment ∣ bytes.length)
    (within : offset + bytes.length ≤ held.length) :
    Found (overwrite held offset bytes) offset bytes := by
  refine ⟨by rwa [length_overwrite], fun i hi => ?_⟩
  rw [getElem?_overwrite ⟨ho, hb, within⟩, if_pos (by omega), Nat.add_sub_cancel_left]

/-- What is written elsewhere leaves alone what was found. -/
theorem Found.overwrite (h : Found held offset bytes)
    (apart : offset + bytes.length ≤ offset' ∨ offset' + bytes'.length ≤ offset) :
    Found (overwrite held offset' bytes') offset bytes := by
  refine ⟨by rw [length_overwrite]; exact h.1, fun i hi => ?_⟩
  by_cases taken : copyAlignment ∣ offset' ∧ copyAlignment ∣ bytes'.length ∧
    offset' + bytes'.length ≤ held.length
  · rw [getElem?_overwrite taken, if_neg (by omega)]
    exact h.2 i hi
  · rw [Wgpu.overwrite, if_neg taken]
    exact h.2 i hi

end Wgpu

namespace Platform

variable {p p' : Platform} {cs : List Wgpu.Command}

/-- What buffers hold once all that was written to them has arrived. -/
def contents (p : Platform) : Wgpu.Contents := p.commands.foldl Wgpu.Command.fill fun _ => []

theorem Gave.contents (h : p.Gave cs p') : p'.contents = cs.foldl Wgpu.Command.fill p.contents := by
  rw [Platform.contents, h.commands, List.foldl_append, ← Platform.contents]

end Platform

namespace Wgpu

/-! ## Places -/

namespace Arena

variable {a : Arena} {n : Nat}

/-- Where the next place starts, if it fits. -/
def next (a : Arena) : Nat := roundUp a.cursor a.alignment

/-- So many bytes fit into the buffer. -/
def Fits (a : Arena) (n : Nat) : Prop := a.next + roundUp n copyAlignment ≤ a.capacity

/-- The size of the buffer that is made if so many bytes do not fit. -/
def grown (a : Arena) (n : Nat) : Nat :=
  max (a.capacity * 2) (roundUp (roundUp n copyAlignment) a.alignment)

instance : Decidable (a.Fits n) := inferInstanceAs (Decidable (_ ≤ _))

theorem push_of_fits (h : a.Fits n) :
    a.push n = (a.next, none, { a with cursor := a.next + roundUp n copyAlignment }) := by
  have placed : place a.cursor (roundUp n copyAlignment) a.alignment a.capacity = .within a.next :=
    if_pos h
  rw [push, placed]

theorem push_of_not_fits (h : ¬ a.Fits n) :
    a.push n = (0, some (a.grown n),
      { a with capacity := a.grown n, cursor := roundUp n copyAlignment }) := by
  have placed : place a.cursor (roundUp n copyAlignment) a.alignment a.capacity = .beyond
      (a.grown n) := if_neg h
  rw [push, placed]

theorem le_grown (ha : 0 < a.alignment) : roundUp n copyAlignment ≤ a.grown n :=
  Nat.le_trans (le_roundUp _ ha) (Nat.le_max_right _ _)

theorem dvd_grown (whole : a.alignment ∣ a.capacity) : a.alignment ∣ a.grown n := by
  rcases Nat.le_total (a.capacity * 2) (roundUp (roundUp n copyAlignment) a.alignment) with h | h
  · rw [grown, Nat.max_eq_right h]
    exact dvd_roundUp _ _
  · rw [grown, Nat.max_eq_left h]
    exact Nat.dvd_mul_right_of_dvd whole 2

end Arena

/-- Bytes with the zeros that make them a length that can be copied. -/
def padded (bytes : List UInt8) : List UInt8 :=
  bytes ++ List.replicate (roundUp bytes.length copyAlignment - bytes.length) 0

@[simp] theorem length_padded (bytes : List UInt8) :
    (padded bytes).length = roundUp bytes.length copyAlignment := by
  have := le_roundUp bytes.length (a := copyAlignment) (by decide)
  simp [padded]
  omega

theorem dvd_length_padded (bytes : List UInt8) : copyAlignment ∣ (padded bytes).length :=
  length_padded bytes ▸ dvd_roundUp _ _

namespace FrameArena

variable {a : FrameArena} {p : Platform} {bytes : List UInt8}

/-- A push that fits writes to the buffer, behind the cursor. -/
theorem push_of_fits (h : a.arena.Fits bytes.length) (p : Platform) :
    ∃ p', (a.push bytes).Leads p (.ok (⟨a.buffer, a.arena.next, bytes.length⟩,
        { a with
          arena := { a.arena with
            cursor := a.arena.next + roundUp bytes.length copyAlignment } })) p' ∧
      p'.made .buffer = p.made .buffer ∧
      p'.contents = Function.update p.contents a.buffer
        (overwrite (p.contents a.buffer) a.arena.next (padded bytes)) := by
  let write := Command.writeBuffer a.buffer a.arena.next (padded bytes)
  refine ⟨p.add (.device write), ?_, rfl, (p.gave_add (.device write)).contents⟩
  rw [FrameArena.push, Arena.push_of_fits h]
  rfl

/-- A push that does not fit writes to the start of a new buffer. -/
theorem push_of_not_fits (h : ¬ a.arena.Fits bytes.length) (p : Platform) :
    ∃ p', (a.push bytes).Leads p (.ok (⟨⟨p.made .buffer + 1⟩, 0, bytes.length⟩,
        { a with
          arena := { a.arena with
            capacity := a.arena.grown bytes.length
            cursor := roundUp bytes.length copyAlignment }
          buffer := ⟨p.made .buffer + 1⟩ })) p' ∧
      p'.made .buffer = p.made .buffer + 1 ∧
      p'.contents = Function.update p.contents ⟨p.made .buffer + 1⟩
        (overwrite (List.replicate (a.arena.grown bytes.length) 0) 0 (padded bytes)) := by
  -- the new buffer, and the three commands that replace the old one
  let b : Handle .buffer := ⟨p.made .buffer + 1⟩
  let told := p.add (.record ⟨.debug, .wgpuArena,
    a.label ++ ": growing " ++ toString a.arena.capacity ++ " -> " ++
      toString (a.arena.grown bytes.length) ++ " bytes"⟩)
  let create := Command.createBuffer b a.label (a.arena.grown bytes.length) a.use
  let write := Command.writeBuffer b 0 (padded bytes)
  let made := (told.fresh .buffer).2.add (.device create)
  refine ⟨(made.add (.device (.dropBuffer a.buffer))).add (.device write), ?_, ?_, ?_⟩
  · rw [FrameArena.push, Arena.push_of_not_fits h]
    rfl
  · rfl
  -- only the device commands touch contents, and dropping the old buffer is not one of them
  · have gave := (((told.fresh .buffer).2.gave_add (.device create)).append
      (made.gave_add (.device (.dropBuffer a.buffer)))).append
      ((made.add (.device (.dropBuffer a.buffer))).gave_add (.device write))
    have same : (told.fresh .buffer).2.contents = p.contents := (p.gave_add (.record _)).contents
    rw [gave.contents, same]
    simp [Happening.command?, Command.fill, create, write, b]

end FrameArena

/-! ## Leases -/

/-- A slice that was handed out, with the bytes that were pushed for it. -/
structure Lease where
  /-- The slice. -/
  slice : Slice
  /-- The bytes. -/
  bytes : List UInt8

namespace Lease

/-- Where the zeros behind the bytes end. -/
def last (l : Lease) : Nat := l.slice.offset + roundUp l.bytes.length copyAlignment

/-- The slice holds its bytes, followed by zeros. -/
def Kept (l : Lease) (held : Contents) : Prop :=
  Found (held l.slice.buffer) l.slice.offset (padded l.bytes)

/-- Two slices of one buffer have no byte in common. -/
def Apart (l m : Lease) : Prop :=
  l.slice.buffer = m.slice.buffer → l.last ≤ m.slice.offset ∨ m.last ≤ l.slice.offset

end Lease

/-- An arena in use. -/
structure Tenancy where
  /-- The arena. -/
  arena : FrameArena
  /-- The platform that has its buffers. -/
  platform : Platform
  /-- What was handed out since the last reset, the oldest first. -/
  leases : List Lease

namespace Tenancy

variable {t t' : Tenancy} {bytes : List UInt8}

/-- The size of the current buffer. -/
def size (t : Tenancy) : Nat := (t.platform.contents t.arena.buffer).length

/-- The buffer is the current one, or one that a lease is on. -/
def Owns (t : Tenancy) (b : Handle .buffer) : Prop :=
  b = t.arena.buffer ∨ ∃ l ∈ t.leases, b = l.slice.buffer

/-- What may happen next. -/
inductive Step : Tenancy → Tenancy → Prop
  /-- Bytes are pushed. -/
  | push {t : Tenancy} {slice : Slice} {a : FrameArena} {p : Platform} (bytes : List UInt8)
      (h : (t.arena.push bytes).Leads t.platform (.ok (slice, a)) p) :
        Step t ⟨a, p, t.leases ++ [⟨slice, bytes⟩]⟩
  /-- All places are freed. -/
  | reset (t : Tenancy) : Step t ⟨t.arena.reset, t.platform, []⟩
  /-- Something happens to other buffers. -/
  | elsewhere {t : Tenancy} {p : Platform} (made : t.platform.made .buffer ≤ p.made .buffer)
      (same : ∀ b, t.Owns b → p.contents b = t.platform.contents b) : Step t ⟨t.arena, p, t.leases⟩

/-- The state of the arena fits its buffers, and leases are kept. -/
structure Sound (t : Tenancy) : Prop where
  /-- Places can be copied to. -/
  aligned : copyAlignment ∣ t.arena.arena.alignment
  /-- Places are aligned to something. -/
  positive : 0 < t.arena.arena.alignment
  /-- The arena knows the size of the buffer. -/
  sized : t.size = t.arena.arena.capacity
  /-- A buffer is a whole number of places. -/
  whole : t.arena.arena.alignment ∣ t.arena.arena.capacity
  /-- Buffers were made. -/
  made : ∀ b, t.Owns b → b.number ≤ t.platform.made .buffer
  /-- Leases on the current buffer lie before the cursor. -/
  before : ∀ l ∈ t.leases, l.slice.buffer = t.arena.buffer → l.last ≤ t.arena.arena.cursor
  /-- Leases have no byte in common. -/
  apart : t.leases.Pairwise Lease.Apart
  /-- Leases are kept. -/
  kept : ∀ l ∈ t.leases, l.Kept t.platform.contents

/-- What a push does. -/
structure Pushes (t : Tenancy) (bytes : List UInt8) (slice : Slice) (t' : Tenancy) : Prop where
  /-- The slice is handed out, after those before. -/
  leases : t'.leases = t.leases ++ [⟨slice, bytes⟩]
  /-- It is a slice of the buffer that is current then, and has the size of the bytes. -/
  placed : slice.buffer = t'.arena.buffer ∧ slice.size = bytes.length
  /-- It starts at a multiple of the alignment. -/
  aligned : t.arena.arena.alignment ∣ slice.offset
  /-- With its zeros it lies within the buffer. -/
  within : slice.offset + roundUp bytes.length copyAlignment ≤ t'.size
  /-- If it fits, the buffer stays the same. -/
  fits : t.arena.arena.Fits bytes.length → t'.arena.buffer = t.arena.buffer ∧ t'.size = t.size
  /-- If it does not fit, there is a new buffer, at least twice as large and a whole number of
  places, and the slice is at its start. -/
  grows : ¬ t.arena.arena.Fits bytes.length → t.platform.made .buffer < t'.arena.buffer.number ∧
    2 * t.size ≤ t'.size ∧ t.arena.arena.alignment ∣ t'.size ∧ slice.offset = 0
  /-- Other buffers are left alone. -/
  untouched : ∀ b, b ≠ t'.arena.buffer → t'.platform.contents b = t.platform.contents b

theorem Sound.cursor_le_next (h : t.Sound) : t.arena.arena.cursor ≤ t.arena.arena.next :=
  le_roundUp _ h.positive

/-- A slice is handed out that ends at the cursor, and lies behind all leases on its buffer. -/
theorem Sound.lease (h : t.Sound) {a : FrameArena} {p : Platform} {slice : Slice}
    (alignment : a.arena.alignment = t.arena.arena.alignment)
    (sized : (p.contents a.buffer).length = a.arena.capacity)
    (whole : t.arena.arena.alignment ∣ a.arena.capacity)
    (later : t.platform.made .buffer ≤ p.made .buffer) (made : a.buffer.number ≤ p.made .buffer)
    (here : slice.buffer = a.buffer) (last : Lease.last ⟨slice, bytes⟩ = a.arena.cursor)
    (behind : ∀ l ∈ t.leases, l.slice.buffer = a.buffer → l.last ≤ slice.offset)
    (kept : ∀ l ∈ t.leases, l.Kept p.contents) (new : Lease.Kept ⟨slice, bytes⟩ p.contents) :
    Sound ⟨a, p, t.leases ++ [⟨slice, bytes⟩]⟩ where
  aligned := alignment ▸ h.aligned
  positive := alignment ▸ h.positive
  sized := sized
  whole := alignment ▸ whole
  made := by
    rintro b (rfl | ⟨l, hl, rfl⟩)
    · exact made
    · rcases List.mem_append.mp hl with hl | hl
      · exact Nat.le_trans (h.made _ (.inr ⟨l, hl, rfl⟩)) later
      · obtain rfl := List.mem_singleton.mp hl
        exact here.symm ▸ made
  before := by
    refine List.forall_mem_append.mpr ⟨fun l hl same => ?_, List.forall_mem_singleton.mpr fun _ =>
      Nat.le_of_eq last⟩
    exact Nat.le_trans (behind l hl same) (last ▸ Nat.le_add_right _ _)
  apart := by
    refine List.pairwise_append.mpr ⟨h.apart, List.pairwise_singleton _ _, fun l hl => ?_⟩
    exact List.forall_mem_singleton.mpr fun same => .inl (behind l hl (same.trans here))
  kept := List.forall_mem_append.mpr ⟨kept, List.forall_mem_singleton.mpr new⟩

/-- A push that fits hands out what lies behind all leases on the buffer. -/
theorem Sound.pushes_of_fits (h : t.Sound) (hf : t.arena.arena.Fits bytes.length) :
    ∃ slice a p, (t.arena.push bytes).Leads t.platform (.ok (slice, a)) p ∧
      t.Pushes bytes slice ⟨a, p, t.leases ++ [⟨slice, bytes⟩]⟩ ∧
      Sound ⟨a, p, t.leases ++ [⟨slice, bytes⟩]⟩ := by
  obtain ⟨p, hp, made, contents⟩ := FrameArena.push_of_fits hf t.platform
  have sized : (p.contents t.arena.buffer).length = t.size := by
    rw [contents, Function.update_self, length_overwrite, size]
  have within : t.arena.arena.next + (padded bytes).length ≤ t.size := by
    rw [length_padded, h.sized]
    exact hf
  -- the new slice starts behind every lease of this frame
  have behind : ∀ l ∈ t.leases, l.slice.buffer = t.arena.buffer → l.last ≤ t.arena.arena.next :=
    fun l hl same => Nat.le_trans (h.before l hl same) h.cursor_le_next
  refine ⟨_, _, p, hp, ?_, ?_⟩
  · exact {
      leases := rfl
      placed := ⟨rfl, rfl⟩
      aligned := dvd_roundUp _ _
      within := le_of_le_of_eq (length_padded bytes ▸ within) sized.symm
      fits := fun _ => ⟨rfl, sized⟩
      grows := fun no => absurd hf no
      untouched := fun b hb => by rw [contents, Function.update_of_ne hb] }
  · refine h.lease rfl (sized.trans h.sized) h.whole (Nat.le_of_eq made.symm)
      (made ▸ h.made _ (.inl rfl)) rfl rfl
      behind (fun l hl => ?_) ?_
    -- an earlier lease in the same buffer ends before the new bytes
    · rw [Lease.Kept, contents]
      by_cases same : l.slice.buffer = t.arena.buffer
      · rw [same, Function.update_self, ← same]
        refine (h.kept l hl).overwrite (.inl ?_)
        rw [length_padded]
        exact behind l hl same
      · rw [Function.update_of_ne same]
        exact h.kept l hl
    · rw [Lease.Kept, contents, Function.update_self]
      exact found_overwrite (Nat.dvd_trans h.aligned (dvd_roundUp _ _))
        (dvd_length_padded bytes) within

/-- A push that does not fit hands out the start of a buffer that no lease is on. -/
theorem Sound.pushes_of_not_fits (h : t.Sound) (hf : ¬ t.arena.arena.Fits bytes.length) :
    ∃ slice a p, (t.arena.push bytes).Leads t.platform (.ok (slice, a)) p ∧
      t.Pushes bytes slice ⟨a, p, t.leases ++ [⟨slice, bytes⟩]⟩ ∧
      Sound ⟨a, p, t.leases ++ [⟨slice, bytes⟩]⟩ := by
  obtain ⟨p, hp, made, contents⟩ := FrameArena.push_of_not_fits hf t.platform
  have sized : (p.contents ⟨t.platform.made .buffer + 1⟩).length =
      t.arena.arena.grown bytes.length := by
    rw [contents, Function.update_self, length_overwrite, List.length_replicate]
  have within : roundUp bytes.length copyAlignment ≤ t.arena.arena.grown bytes.length :=
    Arena.le_grown h.positive
  -- the new buffer is none of those that hold a lease, since its number is new
  have other : ∀ b, t.Owns b → b ≠ ⟨t.platform.made .buffer + 1⟩ := by
    rintro b owned rfl
    exact absurd (h.made _ owned) (Nat.not_succ_le_self _)
  refine ⟨_, _, p, hp, ?_, ?_⟩
  · exact {
      leases := rfl
      placed := ⟨rfl, rfl⟩
      aligned := Nat.dvd_zero _
      within := by
        rw [Nat.zero_add]
        exact le_of_le_of_eq within sized.symm
      fits := fun fits => absurd fits hf
      grows := fun _ => by
        refine ⟨Nat.lt_succ_self _, ?_, ?_, rfl⟩
        · rw [h.sized, Nat.mul_comm]
          exact le_of_le_of_eq (Nat.le_max_left _ _) sized.symm
        · show _ ∣ (p.contents _).length
          rw [sized]
          exact Arena.dvd_grown h.whole
      untouched := fun b hb => by rw [contents, Function.update_of_ne hb] }
  · refine h.lease rfl sized (Arena.dvd_grown h.whole) (le_of_le_of_eq (Nat.le_succ _) made.symm)
      -- no earlier lease lies in the new buffer
      (Nat.le_of_eq made.symm) rfl (Nat.zero_add _) (fun l hl same =>
        absurd same (other _ (.inr ⟨l, hl, rfl⟩)))
      (fun l hl => ?_) ?_
    · rw [Lease.Kept, contents, Function.update_of_ne (other _ (.inr ⟨l, hl, rfl⟩))]
      exact h.kept l hl
    · rw [Lease.Kept, contents, Function.update_self]
      refine found_overwrite (Nat.dvd_zero _) (dvd_length_padded bytes) ?_
      rw [length_padded, List.length_replicate, Nat.zero_add]
      exact within

theorem Sound.pushes (h : t.Sound) (bytes : List UInt8) :
    ∃ slice a p, (t.arena.push bytes).Leads t.platform (.ok (slice, a)) p ∧
      t.Pushes bytes slice ⟨a, p, t.leases ++ [⟨slice, bytes⟩]⟩ ∧
      Sound ⟨a, p, t.leases ++ [⟨slice, bytes⟩]⟩ := by
  by_cases hf : t.arena.arena.Fits bytes.length
  · exact h.pushes_of_fits hf
  · exact h.pushes_of_not_fits hf

/-- **Whatever happens next, leases are kept, and the buffer does not become smaller.** -/
theorem Sound.step (h : t.Sound) (step : Step t t') : t'.Sound ∧ t.size ≤ t'.size := by
  cases step with
  | push bytes hp =>
    obtain ⟨slice, a, p, hp', pushes, sound⟩ := h.pushes bytes
    obtain ⟨hr, rfl⟩ := Prod.mk.inj (hp.symm.trans hp')
    obtain ⟨rfl, rfl⟩ := Prod.mk.inj (Except.ok.inj hr)
    -- the size stays or at least doubles
    refine ⟨sound, ?_⟩
    by_cases hf : t.arena.arena.Fits bytes.length
    · obtain ⟨-, same⟩ := pushes.fits hf
      exact Nat.le_of_eq same.symm
    · obtain ⟨-, larger, -⟩ := pushes.grows hf
      omega
  | reset =>
    -- after a reset there is no lease to keep apart
    refine ⟨⟨h.aligned, h.positive, h.sized, h.whole, ?_, nofun, .nil, nofun⟩, Nat.le_refl _⟩
    rintro b (rfl | ⟨l, hl, -⟩)
    · exact h.made _ (.inl rfl)
    · cases hl
  | elsewhere made same =>
    have sized : size ⟨t.arena, _, t.leases⟩ = t.size := congrArg List.length (same _ (.inl rfl))
    refine ⟨⟨h.aligned, h.positive, sized.trans h.sized, h.whole, fun b hb =>
      Nat.le_trans (h.made b hb) made, h.before,
      h.apart, fun l hl => ?_⟩, Nat.le_of_eq sized.symm⟩
    rw [Lease.Kept, same _ (.inr ⟨l, hl, rfl⟩)]
    exact h.kept l hl

theorem Sound.run (h : t.Sound) (run : Relation.ReflTransGen Step t t') : t'.Sound := by
  induction run with
  | refl => exact h
  | tail _ step ih => exact (ih.step step).1

end Tenancy

namespace FrameArena

variable {label : String} {use : BufferUse} {capacity alignment : Nat} {a : FrameArena}
  {p p' : Platform}

/-- A new arena has a new buffer. -/
theorem sound_make (made : (make label use capacity alignment).Leads p (.ok a) p')
    (aligned : copyAlignment ∣ a.arena.alignment) : Tenancy.Sound ⟨a, p', []⟩ := by
  obtain ⟨hr, rfl⟩ := Prod.mk.inj made
  obtain rfl := Except.ok.inj hr
  let create :=
    Command.createBuffer ⟨p.made .buffer + 1⟩ label (Arena.make capacity alignment).capacity
    { use with written := true }
  have new : ((p.fresh .buffer).2.add (.device create)).contents ⟨p.made .buffer + 1⟩ =
      List.replicate (Arena.make capacity alignment).capacity 0 := by
    rw [((p.fresh .buffer).2.gave_add (.device create)).contents]
    exact Function.update_self ..
  refine ⟨aligned, ?_, ?_, dvd_roundUp _ _, ?_, nofun, .nil, nofun⟩
  · exact Nat.lt_of_lt_of_le (by decide) (Nat.le_max_right alignment copyAlignment)
  · exact (congrArg List.length new).trans List.length_replicate
  · rintro b (rfl | ⟨l, hl, -⟩)
    · exact Nat.le_refl _
    · cases hl

/-- **Slices keep their bytes.** Whatever was asked of an arena and whatever happened to other
buffers since it was made, the slices that were handed out since the last reset have no byte in
common, and each holds what was pushed for it; then any bytes can be pushed, and whatever happens
next, the buffer does not become smaller. -/
theorem slices_kept (made : (make label use capacity alignment).Leads p (.ok a) p')
    (aligned : copyAlignment ∣ a.arena.alignment) {t : Tenancy}
    (run : Relation.ReflTransGen Tenancy.Step ⟨a, p', []⟩ t) :
    (t.leases.Pairwise Lease.Apart ∧ ∀ l ∈ t.leases, l.Kept t.platform.contents) ∧
      (∀ bytes, ∃ slice after p, (t.arena.push bytes).Leads t.platform (.ok (slice, after)) p ∧
        t.Pushes bytes slice ⟨after, p, t.leases ++ [⟨slice, bytes⟩]⟩) ∧
      ∀ t', Tenancy.Step t t' → t.size ≤ t'.size := by
  have sound := (sound_make made aligned).run run
  refine ⟨⟨sound.apart, sound.kept⟩, fun bytes => ?_, fun t' step => (sound.step step).2⟩
  obtain ⟨slice, after, p, hp, pushes, -⟩ := sound.pushes bytes
  exact ⟨slice, after, p, hp, pushes⟩

/-- Places start at multiples of 12 bytes, and the third push outgrows the buffer. -/
theorem slices_kept_outgrown : ∃ (a : FrameArena) (p : Platform) (t : Tenancy),
    (make "places" {} 20 12).Leads {} (.ok a) p ∧ copyAlignment ∣ a.arena.alignment ∧
      Relation.ReflTransGen Tenancy.Step ⟨a, p, []⟩ t ∧ t.leases.map (·.slice.offset) = [0, 12, 0] ∧
      t.leases.Pairwise Lease.Apart ∧ ∀ l ∈ t.leases, l.Kept t.platform.contents := by
  let a : FrameArena := ⟨"places", { written := true }, Arena.make 20 12, ⟨1⟩⟩
  let b : FrameArena :=
    { a with arena := { a.arena with cursor := a.arena.next + roundUp 3 copyAlignment } }
  let c : FrameArena :=
    { b with arena := { b.arena with cursor := b.arena.next + roundUp 5 copyAlignment } }
  obtain ⟨p, made⟩ : ∃ p, (make "places" {} 20 12).Leads {} (.ok a) p := ⟨_, rfl⟩
  have aligned : copyAlignment ∣ a.arena.alignment := by decide
  have fits : a.arena.Fits ([1, 2, 3] : List UInt8).length := by decide
  have fits' : b.arena.Fits ([4, 5, 6, 7, 8] : List UInt8).length := by decide
  have outgrown : ¬ c.arena.Fits ([9] : List UInt8).length := by decide
  obtain ⟨q, first, -⟩ := push_of_fits fits p
  obtain ⟨r, second, -⟩ := push_of_fits fits' q
  obtain ⟨s, third, -⟩ := push_of_not_fits outgrown r
  have start := Relation.ReflTransGen.single (Tenancy.Step.push (t := ⟨a, p, []⟩) _ first)
  have run := (start.tail (.push _ second)).tail (.push _ third)
  have offsets : [a.arena.next, b.arena.next, 0] = [0, 12, 0] := by decide
  exact ⟨a, p, _, made, aligned, run, offsets, (slices_kept made aligned run).1⟩

end FrameArena

end Wgpu

end LitTiles
