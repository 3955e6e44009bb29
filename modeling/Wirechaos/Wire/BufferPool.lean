/-
  Wirechaos.Wire.BufferPool — the pool behind `MultiBufferPool` (buffer_pool.rs): buckets
  of buffers of one size each, which any number of sessions rent from and return to.

  A buffer is its whole allocation, with whatever bytes are in it: nothing clears them. A
  rental shows the front of it. In any interleaving (`PoolMove`) a buffer goes back to a
  bucket of its own size (`sound_run`), so that a rental shows as many bytes as were
  asked for, and the rentals of a session are those of some `MultiBufferPool`
  (`rentals_are_gets`).
-/

import Mathlib.Data.List.Basic
import Wirechaos.Lib.Machine
import Wirechaos.Wire.Packet

namespace Wirechaos

open Text Machine

/-- `ceiling` is the capacity of the vector: no more buffers are kept. -/
structure BufferBucket where
  capacity : Nat
  ceiling : Nat
  buffers : List Bytes
  deriving DecidableEq

structure BufferPool where
  buckets : List BufferBucket
  deriving DecidableEq

/-- A rented buffer: its whole allocation, and how much of it was asked for. -/
structure PooledBytes where
  buf : Bytes
  requestedSize : Nat
  bucketIndex : Nat
  deriving DecidableEq

def PooledBytes.asSlice (b : PooledBytes) : Bytes := b.buf.take b.requestedSize

namespace BufferPool

/-- The sizes of the buckets, with fuel for the doublings. -/
def bucketSizes (maxLen : Nat) : Nat → Nat → List Nat
  | 0, _ => []
  | fuel + 1, currentSize => if currentSize ≤ maxLen then currentSize :: bucketSizes maxLen fuel (currentSize * 2) else []

/-- A new allocation; what is in it is not for the program to say. -/
def allocation (capacity : Nat) (memory : Nat → UInt8) : Bytes := (List.range capacity).map memory

def new (minLen maxLen preAllocationPerBucket : Nat) (memory : Nat → Nat → UInt8) : BufferPool :=
  { buckets := (bucketSizes maxLen (maxLen + 1) minLen).map fun capacity =>
      { capacity, ceiling := preAllocationPerBucket
        buffers := (List.range preAllocationPerBucket).map fun i => allocation capacity (memory i) } }

/-- The largest allocation the pool can serve. -/
def maxCapacity (p : BufferPool) : Nat := (p.buckets.getLast?.map (·.capacity)).getD 0

/-- Rent from the smallest bucket that fits; `none` is the panic. -/
def get (p : BufferPool) (requestedSize : Nat) (memory : Nat → UInt8) : Option (PooledBytes × BufferPool) :=
  match p.buckets.findIdx? fun bucket => requestedSize ≤ bucket.capacity with
  | none => none
  | some bucketIndex =>
    match p.buckets[bucketIndex]? with
    | none => none
    | some bucket =>
      match bucket.buffers.getLast? with
      | none => some (⟨allocation bucket.capacity memory, requestedSize, bucketIndex⟩, p)
      | some buf => some (⟨buf, requestedSize, bucketIndex⟩,
          { buckets := p.buckets.set bucketIndex { bucket with buffers := bucket.buffers.dropLast } })

/-- A buffer that comes back is kept below the ceiling. -/
def returnBuffer (p : BufferPool) (bucketIndex : Nat) (buffer : Bytes) : BufferPool :=
  match p.buckets[bucketIndex]? with
  | none => p
  | some bucket =>
    if bucket.buffers.length < bucket.ceiling then
      { buckets := p.buckets.set bucketIndex { bucket with buffers := bucket.buffers ++ [buffer] } }
    else p

end BufferPool

/-! ## Sessions -/

/-- What was asked for, and the bytes that were there. -/
structure Rental where
  requestedSize : Nat
  shown : Bytes

/-- The pool, the rented buffers, and what every rental so far showed when it began. -/
structure SharedPool where
  pool : BufferPool
  held : List PooledBytes
  rentals : List Rental

inductive PoolMove where
  /-- Some session rents; a new allocation would hold this memory. -/
  | rent (requestedSize : Nat) (memory : Nat → UInt8)
  /-- A holder writes into the front of what it sees. -/
  | write (i : Nat) (bytes : Bytes)
  /-- A buffer is dropped. -/
  | giveBack (i : Nat)

namespace SharedPool

def step (s : SharedPool) : PoolMove → SharedPool
  | .rent requestedSize memory =>
    match s.pool.get requestedSize memory with
    | none => s
    | some (b, pool) => { pool, held := s.held ++ [b], rentals := s.rentals ++ [⟨requestedSize, b.asSlice⟩] }
  | .write i bytes =>
    match s.held[i]? with
    | none => s
    | some b => { s with held := s.held.set i { b with buf := overwrite b.buf (bytes.take b.requestedSize) } }
  | .giveBack i =>
    match s.held[i]? with
    | none => s
    | some b => { s with pool := s.pool.returnBuffer b.bucketIndex b.buf, held := s.held.eraseIdx i }

def start (pool : BufferPool) : SharedPool := { pool, held := [], rentals := [] }

end SharedPool

/-! ## Sizes -/

namespace BufferPool

def capacities (p : BufferPool) : List Nat := p.buckets.map (·.capacity)

/-- The buckets go up in size, and hold buffers of their size. -/
structure Whole (p : BufferPool) : Prop where
  ascending : p.capacities.Pairwise (· ≤ ·)
  buffers : ∀ bucket ∈ p.buckets, ∀ buf ∈ bucket.buffers, buf.length = bucket.capacity

/-- A rented buffer is of the size of its bucket, and that is enough. -/
def Holds (capacities : List Nat) (b : PooledBytes) : Prop :=
  b.requestedSize ≤ b.buf.length ∧ capacities[b.bucketIndex]? = some b.buf.length

theorem le_getLast {l : List Nat} (h : l.Pairwise (· ≤ ·)) {n : Nat} (hn : n ∈ l) : n ≤ l.getLast?.getD 0 := by
  induction l using List.reverseRecOn with
  | nil => cases hn
  | append_singleton l m _ =>
    rw [List.getLast?_concat, Option.getD_some]
    rcases List.mem_append.mp hn with hn | hn
    · exact (List.pairwise_append.mp h).2.2 n hn m (List.mem_singleton_self m)
    · exact Nat.le_of_eq (List.mem_singleton.mp hn)

theorem Whole.le_maxCapacity {p : BufferPool} (hp : p.Whole) {n : Nat} (hn : n ∈ p.capacities) : n ≤ p.maxCapacity := by
  have h := le_getLast hp.ascending hn
  rw [capacities, List.getLast?_map] at h
  exact h

variable {p : BufferPool} {i : Nat} {bucket : BufferBucket}

theorem capacities_set (h : p.buckets[i]? = some bucket) (buffers : List Bytes) :
    ({ buckets := p.buckets.set i { bucket with buffers } } : BufferPool).capacities = p.capacities := by
  obtain ⟨hi, rfl⟩ := List.getElem?_eq_some_iff.mp h
  unfold capacities
  rw [List.map_set]
  have hi' : i < (p.buckets.map (·.capacity)).length := by rwa [List.length_map]
  have hsame : p.buckets[i].capacity = (p.buckets.map (·.capacity))[i] := by rw [List.getElem_map]
  rw [hsame, List.set_getElem_self]

/-- Other buffers in one bucket. -/
theorem Whole.set (hp : p.Whole) (h : p.buckets[i]? = some bucket) {buffers : List Bytes}
    (hbuffers : ∀ buf ∈ buffers, buf.length = bucket.capacity) :
    ({ buckets := p.buckets.set i { bucket with buffers } } : BufferPool).Whole := by
  constructor
  · rw [capacities_set h]
    exact hp.ascending
  · intro bucket' hbucket' buf hbuf
    rcases List.mem_or_eq_of_mem_set hbucket' with hmem | rfl
    · exact hp.buffers bucket' hmem buf hbuf
    · exact hbuffers buf hbuf

/-- A rental: a buffer of the right bucket, new or used, and the pool without it. -/
theorem get_some (hp : p.Whole) {n : Nat} {memory : Nat → UInt8} {b : PooledBytes} {p' : BufferPool}
    (h : p.get n memory = some (b, p')) :
    b.requestedSize = n ∧ Holds p.capacities b ∧ p'.Whole ∧ p'.capacities = p.capacities := by
  unfold get at h
  split at h
  · cases h
  · rename_i bucketIndex hfind
    obtain ⟨hlt, hfits, -⟩ := List.findIdx?_eq_some_iff_getElem.mp hfind
    split at h
    · cases h
    · rename_i bucket hbucket
      have hcapacity : p.capacities[bucketIndex]? = some bucket.capacity := by
        rw [capacities, List.getElem?_map, hbucket]
        rfl
      have hroom : n ≤ bucket.capacity := by
        rw [List.getElem?_eq_getElem hlt, Option.some.injEq] at hbucket
        rw [← hbucket]
        exact of_decide_eq_true hfits
      split at h
      · cases h
        have hlen : (allocation bucket.capacity memory).length = bucket.capacity := by simp [allocation]
        exact ⟨rfl, ⟨by rw [hlen]; exact hroom, by rw [hlen]; exact hcapacity⟩, hp, rfl⟩
      · rename_i buf hlast
        cases h
        have hbuffers := hp.buffers bucket (List.mem_of_getElem? hbucket)
        have hlen := hbuffers buf (List.mem_of_getLast? hlast)
        refine ⟨rfl, ⟨by rw [hlen]; exact hroom, by rw [hlen]; exact hcapacity⟩, ?_, capacities_set hbucket _⟩
        exact hp.set hbucket fun buf hbuf => hbuffers buf (List.mem_of_mem_dropLast hbuf)

theorem returnBuffer_whole (hp : p.Whole) {b : PooledBytes} (hb : Holds p.capacities b) :
    (p.returnBuffer b.bucketIndex b.buf).Whole ∧ (p.returnBuffer b.bucketIndex b.buf).capacities = p.capacities := by
  unfold returnBuffer
  split
  · exact ⟨hp, rfl⟩
  · rename_i bucket hbucket
    split
    · refine ⟨hp.set hbucket fun buf hbuf => ?_, capacities_set hbucket _⟩
      rcases List.mem_append.mp hbuf with hbuf | hbuf
      · exact hp.buffers bucket (List.mem_of_getElem? hbucket) buf hbuf
      · have hcapacity := hb.2
        rw [capacities, List.getElem?_map, hbucket, Option.map_some, Option.some.injEq] at hcapacity
        rw [List.mem_singleton.mp hbuf]
        exact hcapacity.symm
    · exact ⟨hp, rfl⟩

theorem pairwise_bucketSizes (maxLen fuel currentSize : Nat) :
    (bucketSizes maxLen fuel currentSize).Pairwise (· ≤ ·) ∧ ∀ n ∈ bucketSizes maxLen fuel currentSize, currentSize ≤ n := by
  induction fuel generalizing currentSize with
  | zero => exact ⟨.nil, by simp [bucketSizes]⟩
  | succ fuel ih =>
    unfold bucketSizes
    split
    · obtain ⟨hpairwise, hle⟩ := ih (currentSize * 2)
      refine ⟨.cons (fun n hn => ?_) hpairwise, fun n hn => ?_⟩
      · have := hle n hn
        omega
      · rcases List.mem_cons.mp hn with rfl | hn
        · exact Nat.le_refl _
        · have := hle n hn
          omega
    · exact ⟨.nil, by simp⟩

theorem new_whole (minLen maxLen preAllocationPerBucket : Nat) (memory : Nat → Nat → UInt8) :
    (new minLen maxLen preAllocationPerBucket memory).Whole := by
  constructor
  · simp only [new, capacities, List.map_map]
    exact List.map_id _ ▸ (pairwise_bucketSizes maxLen (maxLen + 1) minLen).1
  · intro bucket hbucket buf hbuf
    obtain ⟨capacity, -, rfl⟩ := List.mem_map.mp hbucket
    obtain ⟨i, -, rfl⟩ := List.mem_map.mp hbuf
    simp [allocation]

end BufferPool

/-! ## Every interleaving -/

namespace SharedPool

open BufferPool

/-- What holds of the pool whoever rents: its sizes are those of the beginning, and each
    rental showed what was asked for. -/
structure Sound (sizes : List Nat) (s : SharedPool) : Prop where
  whole : s.pool.Whole
  capacities : s.pool.capacities = sizes
  held : ∀ b ∈ s.held, Holds sizes b
  rentals : ∀ r ∈ s.rentals, r.shown.length = r.requestedSize ∧ ∃ n ∈ sizes, r.requestedSize ≤ n

theorem sound_step {sizes : List Nat} (s : SharedPool) (m : PoolMove) (h : Sound sizes s) :
    Sound sizes (s.step m) := by
  cases m with
  | rent requestedSize memory =>
    unfold step
    dsimp only
    split
    · exact h
    · rename_i b pool hget
      obtain ⟨hsize, hholds, hwhole, hcapacities⟩ := get_some h.whole hget
      rw [h.capacities] at hholds hcapacities
      refine ⟨hwhole, hcapacities, fun b' hb' => ?_, fun r hr => ?_⟩
      · rcases List.mem_append.mp hb' with hb' | hb'
        · exact h.held b' hb'
        · rw [List.mem_singleton.mp hb']
          exact hholds
      · rcases List.mem_append.mp hr with hr | hr
        · exact h.rentals r hr
        · rw [List.mem_singleton.mp hr]
          refine ⟨?_, b.buf.length, List.mem_of_getElem? hholds.2, hsize ▸ hholds.1⟩
          show (b.buf.take b.requestedSize).length = requestedSize
          rw [List.length_take, Nat.min_eq_left hholds.1, hsize]
  | write i bytes =>
    unfold step
    dsimp only
    split
    · exact h
    · rename_i b hb
      have hholds := h.held b (List.mem_of_getElem? hb)
      refine ⟨h.whole, h.capacities, fun b' hb' => ?_, h.rentals⟩
      rcases List.mem_or_eq_of_mem_set hb' with hb' | rfl
      · exact h.held b' hb'
      · have hlen : (overwrite b.buf (bytes.take b.requestedSize)).length = b.buf.length := by
          have := hholds.1
          simp only [overwrite, List.length_append, List.length_take, List.length_drop]
          omega
        unfold Holds
        rw [hlen]
        exact hholds
  | giveBack i =>
    unfold step
    dsimp only
    split
    · exact h
    · rename_i b hb
      have hholds := h.held b (List.mem_of_getElem? hb)
      rw [← h.capacities] at hholds
      obtain ⟨hwhole, hcapacities⟩ := returnBuffer_whole h.whole hholds
      exact ⟨hwhole, hcapacities.trans h.capacities, fun b' hb' => h.held b' (List.mem_of_mem_eraseIdx hb'), h.rentals⟩

theorem sound_run {p : BufferPool} (hp : p.Whole) (moves : List PoolMove) :
    Sound p.capacities (run step (start p) moves) := by
  have hstart : Sound p.capacities (start p) := ⟨hp, rfl, by simp [start], by simp [start]⟩
  exact run_invariant sound_step hstart moves

/-- What a session rents in the course of a run, by its own time. -/
def RentedIn (p : BufferPool) (moves : List PoolMove) (mine : Nat → Option Rental) : Prop :=
  ∀ t r, mine t = some r → r ∈ (run step (start p) moves).rentals

/-- The rentals of a session are the ones of this pool. -/
structure Serves (p : BufferPool) (mine : Nat → Option Rental) (pool : MultiBufferPool) : Prop where
  maxCapacity : pool.maxCapacity = p.maxCapacity
  rentals : ∀ t r, mine t = some r → r.requestedSize ≤ pool.maxCapacity ∧ pool.get t r.requestedSize = r.shown

/-- Whichever of the rentals a session makes, and when. -/
theorem rentals_are_gets {p : BufferPool} (hp : p.Whole) {moves : List PoolMove} {mine : Nat → Option Rental}
    (hmine : RentedIn p moves mine) : ∃ pool, Serves p mine pool := by
  refine ⟨⟨p.maxCapacity, fun t i => ((mine t).bind fun r => r.shown[i]?).getD 0⟩, rfl, fun t r hr => ?_⟩
  obtain ⟨hlen, n, hn, hle⟩ := (sound_run hp moves).rentals r (hmine t r hr)
  refine ⟨Nat.le_trans hle (hp.le_maxCapacity hn), ?_⟩
  apply List.ext_getElem
  · rw [length_get, hlen]
  · intro i _ hi
    simp [MultiBufferPool.get, hr, hi]

end SharedPool

end Wirechaos
