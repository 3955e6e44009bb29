/-
  Wirechaos.Wire.PoolMemory — the allocations behind a `MultiBufferPool` (buffer_pool.rs).

  `Wire.BufferPool` says what a buffer shows; here every allocation has an identity, so that
  who owns it can be asked. `get` and `Drop` are taken apart where another thread may come
  between: a buffer is popped, its length set, later set back, and pushed or let go (`Move`).
  A step that would panic or set a length past the allocation is a `Fault`. Whatever the
  moves, there is none, every allocation is in one place, and a bucket keeps no more buffers
  than its vector had room for in the beginning (`sound_run`).

  `new` doubles a machine word. Where the largest size is below `2 ^ 63` the loop ends and
  nothing overflows (`new_sound`).
-/

import Mathlib.Data.List.Perm.Basic
import Mathlib.Data.Nat.Log
import Wirechaos.Wire.BufferPool

namespace Wirechaos.PoolMemory

open Machine

/-! ## The pool -/

/-- What `with_capacity` gives: what was asked for, or more. -/
structure Allocator where
  bytes : Nat → Nat → Nat
  vec : Nat → Nat
  le_bytes : ∀ id n, n ≤ bytes id n
  le_vec : ∀ n, n ≤ vec n

/-- No more than it was asked for. -/
def Allocator.exactly : Allocator := ⟨fun _ n => n, id, fun _ _ => Nat.le_refl _, fun _ => Nat.le_refl _⟩

structure BytesMut where
  id : Nat
  capacity : Nat
  len : Nat
  deriving DecidableEq, Repr

/-- A vector of buffers. A push beyond its capacity moves it to a larger one. -/
structure BufferVec where
  items : List BytesMut
  capacity : Nat
  deriving DecidableEq, Repr

structure BufferBucket where
  capacity : Nat
  buffers : BufferVec
  deriving DecidableEq, Repr

/-- How far a rental is: popped by `get`, exposed to the caller, or set back by `drop`. -/
inductive Stage where
  | popped
  | exposed
  | restored
  deriving DecidableEq, Repr

structure PooledBytes where
  buf : BytesMut
  originalCapacity : Nat
  bucketIndex : Nat
  requestedSize : Nat
  stage : Stage
  deriving DecidableEq, Repr

/-- The buckets, the rentals of all threads, and how many allocations there were. -/
structure MultiBufferPool where
  buckets : List BufferBucket
  rented : List PooledBytes
  allocated : Nat
  deriving DecidableEq, Repr

inductive Fault where
  | panic
  /-- `set_len` past the end of an allocation. -/
  | setLen
  deriving DecidableEq, Repr

def BytesMut.withCapacity (a : Allocator) (id capacity : Nat) : BytesMut := ⟨id, a.bytes id capacity, 0⟩

def BytesMut.setLen (b : BytesMut) (len : Nat) : Except Fault BytesMut :=
  if len ≤ b.capacity then .ok { b with len } else .error .setLen

def BufferVec.push (v : BufferVec) (b : BytesMut) : BufferVec :=
  { items := v.items ++ [b]
    capacity := if v.items.length < v.capacity then v.capacity else max 4 (max (v.capacity * 2) (v.items.length + 1)) }

/-- The buffers a bucket begins with. -/
def preAllocate (a : Allocator) (capacity allocated : Nat) : Nat → BufferVec → BufferVec
  | 0, v => v
  | n + 1, v => preAllocate a capacity (allocated + 1) n (v.push (.withCapacity a allocated capacity))

/-- The loop of `new`, with fuel. It stands still where the doubling overflows. -/
def bucketsFrom (a : Allocator) (maxLen preAllocationPerBucket : Nat) : Nat → Nat → Nat → Option (List BufferBucket)
  | 0, _, _ => none
  | fuel + 1, currentSize, allocated =>
    if currentSize ≤ maxLen then
      let buffers := preAllocate a currentSize allocated preAllocationPerBucket ⟨[], a.vec preAllocationPerBucket⟩
      if currentSize * 2 < 2 ^ 64 then
        (bucketsFrom a maxLen preAllocationPerBucket fuel (currentSize * 2) (allocated + preAllocationPerBucket)).map
          (⟨currentSize, buffers⟩ :: ·)
      else none
    else some []

namespace MultiBufferPool

def capacities (p : MultiBufferPool) : List Nat := p.buckets.map (·.capacity)

def maxCapacity (p : MultiBufferPool) : Nat := (p.buckets.getLast?.map (·.capacity)).getD 0

/-- The part of `get` under the lock. -/
def pop (a : Allocator) (p : MultiBufferPool) (requestedSize : Nat) : Except Fault MultiBufferPool :=
  match p.buckets.findIdx? fun bucket => requestedSize ≤ bucket.capacity with
  | none => .error .panic
  | some bucketIndex =>
    match p.buckets[bucketIndex]? with
    | none => .error .panic
    | some bucket =>
      match bucket.buffers.items.getLast? with
      | none => .ok { p with
          rented := p.rented ++
            [⟨.withCapacity a p.allocated bucket.capacity, bucket.capacity, bucketIndex, requestedSize, .popped⟩]
          allocated := p.allocated + 1 }
      | some buf => .ok { p with
          buckets := p.buckets.set bucketIndex
            { bucket with buffers := { bucket.buffers with items := bucket.buffers.items.dropLast } }
          rented := p.rented ++ [⟨buf, bucket.capacity, bucketIndex, requestedSize, .popped⟩] }

/-- The `set_len` of a rental on its way from one stage to the next. -/
def resize (p : MultiBufferPool) (i : Nat) (before after : Stage) (len : PooledBytes → Nat) : Except Fault MultiBufferPool :=
  match p.rented[i]? with
  | none => .ok p
  | some b =>
    if b.stage = before then
      match b.buf.setLen (len b) with
      | .error fault => .error fault
      | .ok buf => .ok { p with rented := p.rented.set i { b with buf, stage := after } }
    else .ok p

/-- The end of `get`. -/
def expose (p : MultiBufferPool) (i : Nat) : Except Fault MultiBufferPool := p.resize i .popped .exposed (·.requestedSize)

/-- The beginning of `drop`. -/
def restore (p : MultiBufferPool) (i : Nat) : Except Fault MultiBufferPool := p.resize i .exposed .restored (·.originalCapacity)

/-- `return_buffer`. -/
def returnBuffer (p : MultiBufferPool) (i : Nat) : Except Fault MultiBufferPool :=
  match p.rented[i]? with
  | none => .ok p
  | some b =>
    if b.stage = .restored then
      match p.buckets[b.bucketIndex]? with
      | none => .error .panic
      | some bucket =>
        let p := { p with rented := p.rented.eraseIdx i }
        if bucket.buffers.items.length < bucket.buffers.capacity then
          .ok { p with buckets := p.buckets.set b.bucketIndex { bucket with buffers := bucket.buffers.push b.buf } }
        else .ok p
    else .ok p

end MultiBufferPool

/-- What some thread does next; `i` is one of the rentals. -/
inductive Move where
  | pop (requestedSize : Nat)
  | expose (i : Nat)
  | restore (i : Nat)
  | returnBuffer (i : Nat)
  deriving DecidableEq, Repr

namespace MultiBufferPool

variable (a : Allocator)

def step (p : MultiBufferPool) : Move → Except Fault MultiBufferPool
  | .pop requestedSize => p.pop a requestedSize
  | .expose i => p.expose i
  | .restore i => p.restore i
  | .returnBuffer i => p.returnBuffer i

def run (p : MultiBufferPool) : List Move → Except Fault MultiBufferPool
  | [] => .ok p
  | m :: moves =>
    match p.step a m with
    | .error fault => .error fault
    | .ok p' => p'.run moves

/-- `get`, with no other thread between its parts. -/
def get (p : MultiBufferPool) (requestedSize : Nat) : Except Fault MultiBufferPool :=
  p.run a [.pop requestedSize, .expose p.rented.length]

end MultiBufferPool

/-- How a `read_message_body` comes to its buffer: it needs none, refuses the length, or rents. -/
inductive BodyBuffer where
  | unneeded
  | refused
  | rented (p : MultiBufferPool)

/-- `Conn::read_message_body` before it reads. -/
def connBodyBuffer (a : Allocator) (p : MultiBufferPool) (length : Nat) : Except Fault BodyBuffer :=
  if length = 0 then .ok .unneeded
  else if length > p.maxCapacity then .ok .refused
  else (p.get a length).map .rented

/-- `PgClient::read_message_body` before it reads; it rents for an empty body too. -/
def clientBodyBuffer (a : Allocator) (p : MultiBufferPool) (payloadLen : Nat) : Except Fault BodyBuffer :=
  if payloadLen > p.maxCapacity then .ok .refused else (p.get a payloadLen).map .rented

/-! ## `new` -/

theorem preAllocate_eq (a : Allocator) (capacity : Nat) {allocated n : Nat} {v : BufferVec}
    (hroom : v.items.length + n ≤ v.capacity) :
    preAllocate a capacity allocated n v =
      { v with items := v.items ++ (List.range' allocated n).map fun id => .withCapacity a id capacity } := by
  induction n generalizing allocated v with
  | zero => simp [preAllocate]
  | succ n ih =>
    have hpush : v.push (.withCapacity a allocated capacity) =
        ⟨v.items ++ [.withCapacity a allocated capacity], v.capacity⟩ := by
      unfold BufferVec.push
      rw [if_pos (by omega)]
    rw [preAllocate, hpush, ih (by simp; omega)]
    simp [List.range'_succ]

/-! ## Every interleaving -/

/-- What is known of a rental, wherever it is: it is of the smallest bucket that fits, and
    shows what was asked for. -/
structure Fits (sizes : List Nat) (b : PooledBytes) : Prop where
  bucket : sizes[b.bucketIndex]? = some b.originalCapacity
  room : b.originalCapacity ≤ b.buf.capacity
  requested : b.requestedSize ≤ b.originalCapacity
  smallest : ∀ j n, j < b.bucketIndex → sizes[j]? = some n → n < b.requestedSize
  visible : b.stage = .exposed → b.buf.len = b.requestedSize

/-- A bucket within its ceiling, whose buffers are large enough. -/
structure Kept (ceiling : Nat) (bucket : BufferBucket) : Prop where
  unmoved : bucket.buffers.capacity = ceiling
  count : bucket.buffers.items.length ≤ ceiling
  room : ∀ buf ∈ bucket.buffers.items, bucket.capacity ≤ buf.capacity

def retainedIds (buckets : List BufferBucket) : List Nat := buckets.flatMap fun bucket => bucket.buffers.items.map (·.id)

namespace MultiBufferPool

/-- Every allocation the pool knows, once for each place it is in. -/
def ids (p : MultiBufferPool) : List Nat := retainedIds p.buckets ++ p.rented.map (·.buf.id)

structure Sound (sizes : List Nat) (ceiling : Nat) (p : MultiBufferPool) : Prop where
  capacities : p.capacities = sizes
  kept : ∀ bucket ∈ p.buckets, Kept ceiling bucket
  fits : ∀ b ∈ p.rented, Fits sizes b
  once : p.ids.Nodup
  known : ∀ id ∈ p.ids, id < p.allocated

variable {a : Allocator} {sizes : List Nat} {ceiling : Nat} {p : MultiBufferPool} {i : Nat} {bucket : BufferBucket}

theorem maxCapacity_eq (p : MultiBufferPool) : p.maxCapacity = p.capacities.getLast?.getD 0 := by
  rw [capacities, List.getLast?_map]
  rfl

/-- Another bucket in the place of one. -/
theorem retainedIds_set {buckets : List BufferBucket} (h : buckets[i]? = some bucket) (bucket' : BufferBucket) :
    (retainedIds (buckets.set i bucket') ++ bucket.buffers.items.map (·.id)).Perm
      (retainedIds buckets ++ bucket'.buffers.items.map (·.id)) := by
  induction buckets generalizing i with
  | nil => simp at h
  | cons first buckets ih =>
    cases i with
    | zero =>
      simp only [List.getElem?_cons_zero, Option.some.injEq] at h
      subst h
      rw [List.perm_iff_count]
      intro id
      simp only [List.set_cons_zero, retainedIds, List.flatMap_cons, List.count_append]
      omega
    | succ i =>
      simp only [List.getElem?_cons_succ] at h
      simp only [List.set_cons_succ, retainedIds, List.flatMap_cons, List.append_assoc]
      exact (ih h).append_left _

theorem capacities_set (h : p.buckets[i]? = some bucket) {bucket' : BufferBucket} (hsame : bucket'.capacity = bucket.capacity) :
    (p.buckets.set i bucket').map (·.capacity) = p.capacities := by
  obtain ⟨hi, hget⟩ := List.getElem?_eq_some_iff.mp h
  have hlength : i < p.capacities.length := by simpa [capacities] using hi
  have hsize : p.capacities[i] = bucket'.capacity := by simp [capacities, hget, hsame]
  rw [List.map_set, ← hsize]
  exact List.set_getElem_self hlength

/-- Where `get` finds a bucket, it is the smallest that fits. -/
theorem findBucket {n : Nat} (hn : n ≤ p.maxCapacity) (hne : p.buckets ≠ []) :
    ∃ i bucket, (p.buckets.findIdx? fun bucket => n ≤ bucket.capacity) = some i ∧ p.buckets[i]? = some bucket ∧
      n ≤ bucket.capacity ∧ ∀ j m, j < i → p.capacities[j]? = some m → m < n := by
  have hlast : p.maxCapacity = (p.buckets.getLast hne).capacity := by
    rw [maxCapacity, List.getLast?_eq_some_getLast hne]
    rfl
  have hsome : (p.buckets.findIdx? fun bucket => n ≤ bucket.capacity).isSome := by
    rw [List.findIdx?_isSome, List.any_eq_true]
    exact ⟨_, List.getLast_mem hne, decide_eq_true (hlast ▸ hn)⟩
  obtain ⟨i, hfind⟩ := Option.isSome_iff_exists.mp hsome
  obtain ⟨hlt, hfits, hbefore⟩ := List.findIdx?_eq_some_iff_getElem.mp hfind
  refine ⟨i, p.buckets[i], hfind, List.getElem?_eq_getElem hlt, of_decide_eq_true hfits, ?_⟩
  intro j m hj hm
  have hsmall := hbefore j hj
  simp only [capacities, List.getElem?_map, List.getElem?_eq_getElem (Nat.lt_trans hj hlt), Option.map_some,
    Option.some.injEq] at hm
  simp only [decide_eq_true_eq] at hsmall
  omega

/-- The allocations may be found in other places, as long as each is in one. -/
theorem once_of_perm {q : MultiBufferPool} (h : Sound sizes ceiling p) (hperm : q.ids.Perm p.ids)
    (hallocated : q.allocated = p.allocated) : q.ids.Nodup ∧ ∀ id ∈ q.ids, id < q.allocated := by
  refine ⟨hperm.nodup_iff.mpr h.once, ?_⟩
  intro id hid
  rw [hallocated]
  exact h.known id (hperm.mem_iff.mp hid)

theorem kept_set (h : Sound sizes ceiling p) (i : Nat) {bucket' : BufferBucket} (hkept : Kept ceiling bucket') :
    ∀ bucket ∈ p.buckets.set i bucket', Kept ceiling bucket := by
  intro bucket hbucket
  rcases List.mem_or_eq_of_mem_set hbucket with hbucket | rfl
  · exact h.kept bucket hbucket
  · exact hkept

/-- `get` takes a buffer out of its bucket, or makes one that is nowhere else. -/
theorem sound_pop (h : Sound sizes ceiling p) (hne : p.buckets ≠ []) {n : Nat} (hn : n ≤ p.maxCapacity) :
    ∃ p', p.pop a n = .ok p' ∧ Sound sizes ceiling p' ∧
      ∃ b, p'.rented = p.rented ++ [b] ∧ b.requestedSize = n ∧ b.stage = .popped := by
  obtain ⟨i, bucket, hfind, hbucket, hfits, hsmallest⟩ := findBucket hn hne
  have hsize : sizes[i]? = some bucket.capacity := by
    rw [← h.capacities, capacities, List.getElem?_map, hbucket]
    rfl
  have hkept := h.kept bucket (List.mem_of_getElem? hbucket)
  have hrented (buf : BytesMut) (hroom : bucket.capacity ≤ buf.capacity) :
      ∀ b ∈ p.rented ++ [⟨buf, bucket.capacity, i, n, .popped⟩], Fits sizes b := by
    intro b hb
    rcases List.mem_append.mp hb with hb | hb
    · exact h.fits b hb
    · rw [List.mem_singleton.mp hb]
      rw [h.capacities] at hsmallest
      exact ⟨hsize, hroom, hfits, hsmallest, by intro hstage; cases hstage⟩
  unfold pop
  simp only [hfind, hbucket]
  rcases List.eq_nil_or_concat bucket.buffers.items with hitems | ⟨rest, buf, hitems⟩
  · rw [hitems]
    refine ⟨_, rfl, ⟨h.capacities, h.kept, hrented _ (a.le_bytes _ _), ?_, ?_⟩, _, rfl, rfl, rfl⟩
    · have hfresh : p.allocated ∉ p.ids := fun hmem => Nat.lt_irrefl _ (h.known _ hmem)
      simp only [ids, List.map_append, List.map_singleton, ← List.append_assoc]
      exact List.perm_append_comm.nodup_iff.mpr (List.nodup_cons.mpr ⟨hfresh, h.once⟩)
    · intro id hid
      simp only [ids, List.map_append, List.map_singleton, ← List.append_assoc] at hid
      rcases List.mem_append.mp hid with hid | hid
      · exact Nat.lt_succ_of_lt (h.known id hid)
      · rw [List.mem_singleton.mp hid]
        exact Nat.lt_succ_self _
  · have hcount := hkept.count
    have hroom := hkept.room
    rw [List.concat_eq_append] at hitems
    rw [hitems] at hcount hroom
    rw [hitems, List.getLast?_concat, List.dropLast_concat]
    have hperm := retainedIds_set hbucket { bucket with buffers := { bucket.buffers with items := rest } }
    have hsound := once_of_perm (q := { p with
        buckets := p.buckets.set i { bucket with buffers := { bucket.buffers with items := rest } }
        rented := p.rented ++ [⟨buf, bucket.capacity, i, n, .popped⟩] }) h (by
      rw [List.perm_iff_count] at hperm ⊢
      intro id
      have := hperm id
      simp only [hitems, List.map_append, List.map_singleton, List.count_append] at this
      simp only [ids, List.map_append, List.map_singleton, List.count_append]
      omega) rfl
    refine ⟨_, rfl, ⟨?_, ?_, ?_, hsound.1, hsound.2⟩, _, rfl, rfl, rfl⟩
    · refine (capacities_set hbucket ?_).trans h.capacities
      rfl
    · refine kept_set h i ⟨hkept.unmoved, ?_, fun buf hbuf => hroom buf (by simp [hbuf])⟩
      simp only [List.length_append, List.length_singleton] at hcount
      exact Nat.le_of_succ_le hcount
    · exact hrented buf (hroom buf (by simp))

/-- A rental that goes on with the same allocation. -/
theorem sound_set (h : Sound sizes ceiling p) {b b' : PooledBytes} (hb : p.rented[i]? = some b) (hid : b'.buf.id = b.buf.id)
    (hfits : Fits sizes b') : Sound sizes ceiling { p with rented := p.rented.set i b' } := by
  have hids : (p.rented.set i b').map (·.buf.id) = p.rented.map (·.buf.id) := by
    obtain ⟨hi, hget⟩ := List.getElem?_eq_some_iff.mp hb
    have hlength : i < (p.rented.map (·.buf.id)).length := by simpa using hi
    have hsame : (p.rented.map (·.buf.id))[i] = b'.buf.id := by simp [hget, hid]
    rw [List.map_set, ← hsame]
    exact List.set_getElem_self hlength
  refine ⟨h.capacities, h.kept, ?_, ?_, ?_⟩
  · intro c hc
    rcases List.mem_or_eq_of_mem_set hc with hc | rfl
    · exact h.fits c hc
    · exact hfits
  · simp only [ids, hids]
    exact h.once
  · simp only [ids, hids]
    exact h.known

theorem sound_expose (h : Sound sizes ceiling p) (i : Nat) : ∃ p', p.expose i = .ok p' ∧ Sound sizes ceiling p' := by
  unfold expose resize
  rcases hb : p.rented[i]? with _ | b
  · exact ⟨p, rfl, h⟩
  by_cases hstage : b.stage = .popped
  · have hfits := h.fits b (List.mem_of_getElem? hb)
    have hroom : b.requestedSize ≤ b.buf.capacity := Nat.le_trans hfits.requested hfits.room
    simp only [hstage, if_true, BytesMut.setLen, if_pos hroom]
    exact ⟨_, rfl, sound_set h hb rfl ⟨hfits.bucket, hfits.room, hfits.requested, hfits.smallest, fun _ => rfl⟩⟩
  · simp only [hstage, if_false]
    exact ⟨p, rfl, h⟩

theorem sound_restore (h : Sound sizes ceiling p) (i : Nat) : ∃ p', p.restore i = .ok p' ∧ Sound sizes ceiling p' := by
  unfold restore resize
  rcases hb : p.rented[i]? with _ | b
  · exact ⟨p, rfl, h⟩
  by_cases hstage : b.stage = .exposed
  · have hfits := h.fits b (List.mem_of_getElem? hb)
    simp only [hstage, if_true, BytesMut.setLen, if_pos hfits.room]
    refine ⟨_, rfl, sound_set h hb rfl ⟨hfits.bucket, hfits.room, hfits.requested, hfits.smallest, ?_⟩⟩
    intro hexposed
    cases hexposed
  · simp only [hstage, if_false]
    exact ⟨p, rfl, h⟩

theorem eraseIdx_perm {l : List PooledBytes} {b : PooledBytes} (h : l[i]? = some b) :
    (b.buf.id :: (l.eraseIdx i).map (·.buf.id)).Perm (l.map (·.buf.id)) := by
  obtain ⟨hi, rfl⟩ := List.getElem?_eq_some_iff.mp h
  have := (List.getElem_cons_eraseIdx_perm hi).map (·.buf.id)
  rwa [List.map_cons] at this

/-- A buffer that comes back is pushed, or let go. -/
theorem sound_returnBuffer (h : Sound sizes ceiling p) (i : Nat) :
    ∃ p', p.returnBuffer i = .ok p' ∧ Sound sizes ceiling p' := by
  unfold returnBuffer
  rcases hb : p.rented[i]? with _ | b
  · exact ⟨p, rfl, h⟩
  by_cases hstage : b.stage = .restored
  · have hfits := h.fits b (List.mem_of_getElem? hb)
    have herase := eraseIdx_perm hb
    have hrest : ∀ c ∈ p.rented.eraseIdx i, Fits sizes c := fun c hc => h.fits c (List.mem_of_mem_eraseIdx hc)
    have hsize := hfits.bucket
    rw [← h.capacities, capacities, List.getElem?_map] at hsize
    rcases hbucket : p.buckets[b.bucketIndex]? with _ | bucket
    · simp [hbucket] at hsize
    rw [hbucket, Option.map_some, Option.some.injEq] at hsize
    have hkept := h.kept bucket (List.mem_of_getElem? hbucket)
    simp only [hstage, if_true, hbucket]
    by_cases hspace : bucket.buffers.items.length < bucket.buffers.capacity
    · have hpush : bucket.buffers.push b.buf = ⟨bucket.buffers.items ++ [b.buf], bucket.buffers.capacity⟩ := by
        rw [BufferVec.push, if_pos hspace]
      simp only [hspace, if_true, hpush]
      have hperm := retainedIds_set hbucket { bucket with buffers := ⟨bucket.buffers.items ++ [b.buf], bucket.buffers.capacity⟩ }
      have hsound := once_of_perm (q := { p with
          buckets := p.buckets.set b.bucketIndex
            { bucket with buffers := ⟨bucket.buffers.items ++ [b.buf], bucket.buffers.capacity⟩ }
          rented := p.rented.eraseIdx i }) h (by
        rw [List.perm_iff_count] at hperm herase ⊢
        intro id
        have := hperm id
        have := herase id
        simp only [List.map_append, List.map_singleton, List.count_append, List.count_cons, List.count_nil] at *
        simp only [ids, List.count_append]
        omega) rfl
      refine ⟨_, rfl, ?_, ?_, hrest, hsound.1, hsound.2⟩
      · refine (capacities_set hbucket ?_).trans h.capacities
        rfl
      · refine kept_set h b.bucketIndex ⟨hkept.unmoved, ?_, ?_⟩
        · have := hkept.unmoved
          simp only [List.length_append, List.length_singleton]
          omega
        · intro buf hbuf
          rcases List.mem_append.mp hbuf with hbuf | hbuf
          · exact hkept.room buf hbuf
          · rw [List.mem_singleton.mp hbuf, hsize]
            exact hfits.room
    · simp only [hspace, if_false]
      have hfewer : (retainedIds p.buckets ++ (p.rented.eraseIdx i).map (·.buf.id)).Sublist p.ids :=
        (((List.eraseIdx_sublist p.rented i).map (·.buf.id)).append_left _)
      refine ⟨_, rfl, h.capacities, h.kept, hrest, h.once.sublist hfewer, ?_⟩
      intro id hid
      exact h.known id (hfewer.subset hid)
  · simp only [hstage, if_false]
    exact ⟨p, rfl, h⟩

/-- One step of any thread. -/
theorem sound_step (h : Sound sizes ceiling p) (hne : p.buckets ≠ []) (m : Move)
    (hm : ∀ n, m = .pop n → n ≤ p.maxCapacity) : ∃ p', p.step a m = .ok p' ∧ Sound sizes ceiling p' := by
  cases m with
  | pop n =>
    obtain ⟨p', hpop, hsound, -⟩ := sound_pop (a := a) h hne (hm n rfl)
    exact ⟨p', hpop, hsound⟩
  | expose i => exact sound_expose h i
  | restore i => exact sound_restore h i
  | returnBuffer i => exact sound_returnBuffer h i

theorem Sound.maxCapacity (h : Sound sizes ceiling p) : p.maxCapacity = sizes.getLast?.getD 0 := by
  rw [maxCapacity_eq, h.capacities]

theorem Sound.buckets_ne_nil (h : Sound sizes ceiling p) (hsizes : sizes ≠ []) : p.buckets ≠ [] := by
  intro hnil
  apply hsizes
  rw [← h.capacities, MultiBufferPool.capacities, hnil, List.map_nil]

theorem sound_run (hsizes : sizes ≠ []) (h : Sound sizes ceiling p) (moves : List Move)
    (hmoves : ∀ n, .pop n ∈ moves → n ≤ sizes.getLast?.getD 0) :
    ∃ p', p.run a moves = .ok p' ∧ Sound sizes ceiling p' := by
  induction moves generalizing p with
  | nil => exact ⟨p, rfl, h⟩
  | cons m moves ih =>
    obtain ⟨p₁, hstep, hsound⟩ := sound_step (a := a) h (h.buckets_ne_nil hsizes) m (by
      intro n hn
      rw [h.maxCapacity]
      exact hmoves n (by simp [hn]))
    rw [run, hstep]
    exact ih hsound fun n hn => hmoves n (List.mem_cons_of_mem _ hn)

/-- `get` shows as many bytes as it was asked for. -/
theorem sound_get (hsizes : sizes ≠ []) (h : Sound sizes ceiling p) {n : Nat} (hn : n ≤ p.maxCapacity) :
    ∃ p' b, p.get a n = .ok p' ∧ Sound sizes ceiling p' ∧ p'.rented = p.rented ++ [b] ∧ b.requestedSize = n ∧
      b.stage = .exposed := by
  obtain ⟨p₁, hpop, hsound₁, b, hrented, hsize, hstage⟩ := sound_pop (a := a) h (h.buckets_ne_nil hsizes) hn
  have hlast : p₁.rented[p.rented.length]? = some b := by rw [hrented, List.getElem?_concat_length]
  have hfits := hsound₁.fits b (List.mem_of_getElem? hlast)
  have hroom : b.requestedSize ≤ b.buf.capacity := Nat.le_trans hfits.requested hfits.room
  obtain ⟨p₂, hexpose, hsound₂⟩ := sound_expose hsound₁ p.rented.length
  have hp₂ := hexpose
  simp only [expose, resize, hlast, hstage, if_true, BytesMut.setLen, if_pos hroom, Except.ok.injEq] at hp₂
  refine ⟨p₂, { b with buf := { b.buf with len := b.requestedSize }, stage := .exposed }, ?_, hsound₂, ?_, hsize, rfl⟩
  · simp only [get, run, step, hpop, hexpose]
  · rw [← hp₂]
    simp [hrented]

end MultiBufferPool

/-! ## The bytes in the buffers -/

/-- A pool of `Wire.BufferPool`, with bytes for identities, that is in the same state. -/
def Shows (p : MultiBufferPool) (q : BufferPool) : Prop :=
  p.buckets.map (fun bucket => (bucket.capacity, bucket.buffers.capacity, bucket.buffers.items.length)) =
    q.buckets.map fun bucket => (bucket.capacity, bucket.ceiling, bucket.buffers.length)

section Shows

variable {p p' : MultiBufferPool} {q : BufferPool}

theorem Shows.findIdx (h : Shows p q) (n : Nat) :
    (p.buckets.findIdx? fun bucket => n ≤ bucket.capacity) = q.buckets.findIdx? fun bucket => n ≤ bucket.capacity := by
  have := congrArg (List.findIdx? fun t : Nat × Nat × Nat => n ≤ t.1) h
  rwa [List.findIdx?_map, List.findIdx?_map] at this

theorem Shows.bucket (h : Shows p q) {i : Nat} {bucket : BufferBucket} (hbucket : p.buckets[i]? = some bucket) :
    ∃ shown, q.buckets[i]? = some shown ∧ shown.capacity = bucket.capacity ∧ shown.ceiling = bucket.buffers.capacity ∧
      shown.buffers.length = bucket.buffers.items.length := by
  have := congrArg (fun l => l[i]?) h
  simp only [List.getElem?_map, hbucket, Option.map_some] at this
  obtain ⟨shown, hshown, hsame⟩ := Option.map_eq_some_iff.mp this.symm
  simp only [Prod.mk.injEq] at hsame
  exact ⟨shown, hshown, hsame⟩

/-- `get` takes from the same bucket, and leaves pools in the same state. -/
theorem Shows.get (h : Shows p q) {a : Allocator} {n : Nat} (hpop : p.pop a n = .ok p') (memory : Nat → UInt8) :
    ∃ shown q' b, q.get n memory = some (shown, q') ∧ Shows p' q' ∧ p'.rented = p.rented ++ [b] ∧
      shown.bucketIndex = b.bucketIndex ∧ shown.requestedSize = b.requestedSize := by
  unfold MultiBufferPool.pop at hpop
  rcases hfind : p.buckets.findIdx? (fun bucket => n ≤ bucket.capacity) with _ | i
  · simp [hfind] at hpop
  rcases hbucket : p.buckets[i]? with _ | bucket
  · simp [hfind, hbucket] at hpop
  obtain ⟨shown, hshown, hcapacity, hceiling, hlength⟩ := h.bucket hbucket
  have hfindq := hfind
  rw [h.findIdx] at hfindq
  simp only [hfind, hbucket] at hpop
  unfold BufferPool.get
  simp only [hfindq, hshown]
  rcases List.eq_nil_or_concat bucket.buffers.items with hitems | ⟨rest, buf, hitems⟩
  · rw [hitems, List.length_nil, List.length_eq_zero_iff] at hlength
    simp only [hitems, List.getLast?_nil, Except.ok.injEq] at hpop
    subst hpop
    simp only [hlength, List.getLast?_nil]
    exact ⟨_, _, _, rfl, h, rfl, rfl, rfl⟩
  · rw [List.concat_eq_append] at hitems
    rw [hitems, List.length_append, List.length_singleton] at hlength
    rcases List.eq_nil_or_concat shown.buffers with hbuffers | ⟨others, bytes, hbuffers⟩
    · simp [hbuffers] at hlength
    rw [List.concat_eq_append] at hbuffers
    rw [hbuffers, List.length_append, List.length_singleton, Nat.add_right_cancel_iff] at hlength
    simp only [hitems, List.getLast?_concat, List.dropLast_concat, Except.ok.injEq] at hpop
    subst hpop
    simp only [hbuffers, List.getLast?_concat, List.dropLast_concat]
    refine ⟨_, _, _, rfl, ?_, rfl, rfl, rfl⟩
    simp only [Shows, List.map_set, hcapacity, hceiling, hlength]
    rw [h]

/-- A buffer that comes back is kept by both, or by neither. -/
theorem Shows.returnBuffer (h : Shows p q) {i : Nat} {b : PooledBytes} (hb : p.rented[i]? = some b)
    (hstage : b.stage = .restored) (hreturn : p.returnBuffer i = .ok p') (bytes : Text.Bytes) :
    Shows p' (q.returnBuffer b.bucketIndex bytes) := by
  unfold MultiBufferPool.returnBuffer at hreturn
  simp only [hb, hstage, if_true] at hreturn
  rcases hbucket : p.buckets[b.bucketIndex]? with _ | bucket
  · simp [hbucket] at hreturn
  obtain ⟨shown, hshown, hcapacity, hceiling, hlength⟩ := h.bucket hbucket
  simp only [hbucket] at hreturn
  unfold BufferPool.returnBuffer
  simp only [hshown, hlength, hceiling]
  by_cases hspace : bucket.buffers.items.length < bucket.buffers.capacity
  · simp only [hspace, if_true, Except.ok.injEq] at hreturn ⊢
    subst hreturn
    simp only [Shows, List.map_set, BufferVec.push, hspace, if_true, List.length_append, List.length_singleton,
      hcapacity, hlength]
    rw [h]
  · simp only [hspace, if_false, Except.ok.injEq] at hreturn ⊢
    subst hreturn
    exact h

end Shows

/-! ## The beginning -/

variable {a : Allocator} {maxLen pre fuel currentSize allocated : Nat} {buckets : List BufferBucket}

theorem bucketsFrom_more (h : bucketsFrom a maxLen pre fuel currentSize allocated = some buckets) {more : Nat}
    (hmore : fuel ≤ more) : bucketsFrom a maxLen pre more currentSize allocated = some buckets := by
  induction fuel generalizing more currentSize allocated buckets with
  | zero => cases h
  | succ fuel ih =>
    obtain ⟨more, rfl⟩ : ∃ k, more = k + 1 := ⟨more - 1, by omega⟩
    unfold bucketsFrom at h ⊢
    by_cases hle : currentSize ≤ maxLen
    · by_cases hword : currentSize * 2 < 2 ^ 64
      · simp only [if_pos hle, if_pos hword, Option.map_eq_some_iff] at h ⊢
        obtain ⟨rest, hrest, rfl⟩ := h
        exact ⟨rest, ih hrest (by omega), rfl⟩
      · simp only [if_pos hle, if_neg hword] at h
        cases h
    · simp only [if_neg hle] at h ⊢
      exact h

/-- The buckets of `new` hold allocations of their own, one after the other. -/
theorem bucketsFrom_ids (h : bucketsFrom a maxLen pre fuel currentSize allocated = some buckets) :
    retainedIds buckets = List.range' allocated (buckets.length * pre) ∧ ∀ bucket ∈ buckets, Kept (a.vec pre) bucket := by
  induction fuel generalizing currentSize allocated buckets with
  | zero => cases h
  | succ fuel ih =>
    unfold bucketsFrom at h
    by_cases hle : currentSize ≤ maxLen
    · by_cases hword : currentSize * 2 < 2 ^ 64
      · simp only [if_pos hle, if_pos hword, Option.map_eq_some_iff] at h
        obtain ⟨rest, hrest, rfl⟩ := h
        have hids := ih hrest
        have hroom := a.le_vec pre
        rw [preAllocate_eq a currentSize (by simpa using hroom)]
        constructor
        · have hfirst : ((List.range' allocated pre).map fun id => BytesMut.withCapacity a id currentSize).map (·.id) =
              List.range' allocated pre := by
            rw [List.map_map]
            exact List.map_id _
          simp only [retainedIds, List.flatMap_cons, List.nil_append, hfirst]
          rw [← retainedIds, hids.1, List.range'_append_1, List.length_cons, Nat.succ_mul, Nat.add_comm]
        · intro bucket hbucket
          rcases List.mem_cons.mp hbucket with rfl | hbucket
          · refine ⟨rfl, by simpa using hroom, ?_⟩
            intro buf hbuf
            simp only [List.nil_append, List.mem_map] at hbuf
            obtain ⟨id, -, rfl⟩ := hbuf
            exact a.le_bytes id currentSize
          · exact hids.2 bucket hbucket
      · simp only [if_pos hle, if_neg hword] at h
        cases h
    · simp only [if_neg hle, Option.some.injEq] at h
      subst h
      simp [retainedIds]

theorem bucketsFrom_end (h : maxLen < currentSize) : bucketsFrom a maxLen pre (fuel + 1) currentSize allocated = some [] := by
  rw [bucketsFrom, if_neg (by omega)]

/-- The sizes double without an overflow; the loop ends behind the last that is not above the
    maximum. -/
theorem bucketsFrom_capacities {n : Nat} (allocated : Nat) (hle : ∀ k, k < n → currentSize * 2 ^ k ≤ maxLen)
    (hlt : maxLen < currentSize * 2 ^ n)
    (hmax : maxLen < 2 ^ 63) : ∃ buckets, bucketsFrom a maxLen pre (n + 1) currentSize allocated = some buckets ∧
      buckets.map (·.capacity) = (List.range n).map fun k => currentSize * 2 ^ k := by
  induction n generalizing currentSize allocated with
  | zero =>
    rw [Nat.pow_zero, Nat.mul_one] at hlt
    exact ⟨[], bucketsFrom_end hlt, rfl⟩
  | succ n ih =>
    have hfirst := hle 0 (Nat.zero_lt_succ n)
    rw [Nat.pow_zero, Nat.mul_one] at hfirst
    have hdouble (k : Nat) : currentSize * 2 * 2 ^ k = currentSize * 2 ^ (k + 1) := by
      rw [Nat.pow_succ, Nat.mul_assoc, Nat.mul_comm 2]
    have hword : currentSize * 2 < 2 ^ 64 := by omega
    have hsizes : ∀ k, k < n → currentSize * 2 * 2 ^ k ≤ maxLen := by
      intro k hk
      rw [hdouble]
      exact hle (k + 1) (Nat.succ_lt_succ hk)
    rw [← hdouble] at hlt
    obtain ⟨rest, hrest, hcapacities⟩ := ih (allocated + pre) hsizes hlt
    rw [bucketsFrom, if_pos hfirst]
    simp only [if_pos hword, hrest, Option.map_some]
    refine ⟨_, rfl, ?_⟩
    rw [List.map_cons, hcapacities, List.range_succ_eq_map, List.map_cons, List.map_map]
    simp only [hdouble, Nat.pow_zero, Nat.mul_one]
    rfl

namespace MultiBufferPool

/-- `new`, as far as its loop gets in `fuel` rounds. -/
def new (a : Allocator) (minLen maxLen preAllocationPerBucket fuel : Nat) : Option MultiBufferPool :=
  (bucketsFrom a maxLen preAllocationPerBucket fuel minLen 0).map fun buckets =>
    { buckets, rented := [], allocated := buckets.length * preAllocationPerBucket }

variable {minLen last : Nat}

/-- The construction ends, with `last + 1` buckets. -/
theorem new_sound (a : Allocator) (pre : Nat) (hle : minLen * 2 ^ last ≤ maxLen)
    (hlt : maxLen < minLen * 2 ^ (last + 1)) (hmax : maxLen < 2 ^ 63) :
    ∃ p, (∀ fuel, last + 1 < fuel → new a minLen maxLen pre fuel = some p) ∧ p.rented = [] ∧
      Sound ((List.range (last + 1)).map fun k => minLen * 2 ^ k) (a.vec pre) p := by
  have hsizes : ∀ k, k < last + 1 → minLen * 2 ^ k ≤ maxLen := by
    intro k hk
    have hpow : 2 ^ k ≤ 2 ^ last := Nat.pow_le_pow_right Nat.zero_lt_two (Nat.le_of_lt_succ hk)
    exact Nat.le_trans (Nat.mul_le_mul_left minLen hpow) hle
  obtain ⟨buckets, hbuckets, hcapacities⟩ := bucketsFrom_capacities 0 hsizes hlt hmax
  have hids := bucketsFrom_ids (a := a) hbuckets
  refine ⟨⟨buckets, [], buckets.length * pre⟩, ?_, rfl, hcapacities, hids.2, by simp, ?_, ?_⟩
  · intro fuel hfuel
    rw [new, bucketsFrom_more hbuckets hfuel]
    rfl
  · simp only [ids, hids.1, List.map_nil, List.append_nil]
    exact List.nodup_range'
  · intro id hid
    simp only [ids, hids.1, List.map_nil, List.append_nil, List.mem_range'_1, Nat.zero_add] at hid
    exact hid.2

theorem exists_last (hmin : 1 ≤ minLen) (hle : minLen ≤ maxLen) :
    ∃ last, minLen * 2 ^ last ≤ maxLen ∧ maxLen < minLen * 2 ^ (last + 1) := by
  have hpos : 0 < maxLen / minLen := Nat.div_pos hle hmin
  refine ⟨Nat.log 2 (maxLen / minLen), ?_, ?_⟩
  · have := Nat.pow_log_le_self 2 hpos.ne'
    rwa [Nat.le_div_iff_mul_le hmin, Nat.mul_comm] at this
  · have := Nat.lt_pow_succ_log_self (b := 2) Nat.one_lt_two (maxLen / minLen)
    rwa [Nat.div_lt_iff_lt_mul hmin, Nat.mul_comm] at this

theorem pairwise_doublings (hmin : 1 ≤ minLen) (n : Nat) : ((List.range n).map fun k => minLen * 2 ^ k).Pairwise (· < ·) := by
  rw [List.pairwise_map]
  refine List.pairwise_lt_range.imp ?_
  intro j k hjk
  exact Nat.mul_lt_mul_of_pos_left (Nat.pow_lt_pow_right Nat.one_lt_two hjk) hmin

/-- A pool of `new` after whatever its threads did. -/
def Reached (a : Allocator) (p : MultiBufferPool) : Prop :=
  ∃ minLen maxLen pre fuel p₀ moves, 1 ≤ minLen ∧ minLen ≤ maxLen ∧ maxLen < 2 ^ 63 ∧ new a minLen maxLen pre fuel = some p₀ ∧
    (∀ n, .pop n ∈ moves → n ≤ p₀.maxCapacity) ∧ p₀.run a moves = .ok p

theorem Reached.sound {a : Allocator} {p : MultiBufferPool} (h : Reached a p) :
    ∃ sizes ceiling, sizes ≠ [] ∧ Sound sizes ceiling p := by
  obtain ⟨minLen, maxLen, pre, fuel, p₀, moves, hmin, hle, hmax, hnew, hmoves, hrun⟩ := h
  obtain ⟨last, hlast, hnext⟩ := exists_last hmin hle
  obtain ⟨p₁, hends, -, hsound⟩ := new_sound a pre hlast hnext hmax
  have hsame : p₁ = p₀ := by
    have hfuel := hends (max fuel (last + 2)) (by omega)
    unfold new at hnew hfuel
    obtain ⟨buckets, hbuckets, rfl⟩ := Option.map_eq_some_iff.mp hnew
    rw [bucketsFrom_more hbuckets (Nat.le_max_left _ _), Option.map_some, Option.some.injEq] at hfuel
    exact hfuel.symm
  subst hsame
  have hsizes : ((List.range (last + 1)).map fun k => minLen * 2 ^ k) ≠ [] := by simp
  rw [hsound.maxCapacity] at hmoves
  obtain ⟨p', hrun', hp'⟩ := sound_run (a := a) hsizes hsound moves hmoves
  obtain rfl : p' = p := by simpa [hrun'] using hrun
  exact ⟨_, _, hsizes, hp'⟩

/-- The pool of `new(min_len, max_len, pre)`: its sizes are `min_len` doubled as often as
    `max_len` allows. Whatever the threads do, no step panics or sets a length past its
    allocation; no allocation is in two places; no bucket outgrows its vector; a rental is of
    the smallest bucket that fits and shows what was asked for; and no announced length gets
    past the guards of the two readers into a panic. -/
theorem pool_keeps_its_buffers (a : Allocator) (pre : Nat) {minLen maxLen : Nat} (hmin : 1 ≤ minLen) (hle : minLen ≤ maxLen)
    (hmax : maxLen < 2 ^ 63) :
    ∃ last p₀, (∀ fuel, last + 1 < fuel → new a minLen maxLen pre fuel = some p₀) ∧ p₀.rented = [] ∧
      p₀.capacities = ((List.range (last + 1)).map fun k => minLen * 2 ^ k) ∧ p₀.capacities.Pairwise (· < ·) ∧
      p₀.maxCapacity = minLen * 2 ^ last ∧ minLen * 2 ^ last ≤ maxLen ∧ maxLen < minLen * 2 ^ (last + 1) ∧
      ∀ moves, (∀ n, .pop n ∈ moves → n ≤ p₀.maxCapacity) → ∃ p, p₀.run a moves = .ok p ∧ p.ids.Nodup ∧
        (∀ bucket ∈ p.buckets, bucket.buffers.capacity = a.vec pre ∧ bucket.buffers.items.length ≤ a.vec pre) ∧
        (∀ b ∈ p.rented, Fits p₀.capacities b) ∧
        (∀ n, n ≤ p₀.maxCapacity → ∃ p' b, p.get a n = .ok p' ∧ p'.rented = p.rented ++ [b] ∧
          b.requestedSize = n ∧ b.buf.len = n ∧ Fits p₀.capacities b) ∧
        (∀ length, ∃ buffer, connBodyBuffer a p length = .ok buffer) ∧
        ∀ payloadLen, ∃ buffer, clientBodyBuffer a p payloadLen = .ok buffer := by
  obtain ⟨last, hlast, hnext⟩ := exists_last hmin hle
  obtain ⟨p₀, hnew, hrented, hsound⟩ := new_sound a pre hlast hnext hmax
  have hcapacities := hsound.capacities
  have hmaximum : p₀.maxCapacity = minLen * 2 ^ last := by
    rw [hsound.maxCapacity, List.range_succ, List.map_append]
    simp
  have hne : p₀.capacities ≠ [] := by
    rw [hcapacities]
    simp
  rw [← hcapacities] at hsound
  refine ⟨last, p₀, hnew, hrented, hcapacities, ?_, hmaximum, hlast, hnext, ?_⟩
  · rw [hcapacities]
    exact pairwise_doublings hmin (last + 1)
  intro moves hmoves
  rw [hsound.maxCapacity] at hmoves
  obtain ⟨p, hrun, hp⟩ := sound_run (a := a) hne hsound moves hmoves
  have hsame : p.maxCapacity = p₀.maxCapacity := by rw [hp.maxCapacity, hsound.maxCapacity]
  have hget (n : Nat) (hn : n ≤ p.maxCapacity) : ∃ p' b, p.get a n = .ok p' ∧ p'.rented = p.rented ++ [b] ∧
      b.requestedSize = n ∧ b.buf.len = n ∧ Fits p₀.capacities b := by
    obtain ⟨p', b, hget, hsound', hb, hsize, hstage⟩ := sound_get (a := a) hne hp hn
    have hfits := hsound'.fits b (by simp [hb])
    exact ⟨p', b, hget, hb, hsize, (hfits.visible hstage).trans hsize, hfits⟩
  refine ⟨p, hrun, hp.once, fun bucket hbucket => ?_, hp.fits, fun n hn => hget n (hsame ▸ hn), fun length => ?_,
    fun payloadLen => ?_⟩
  · exact ⟨(hp.kept bucket hbucket).unmoved, (hp.kept bucket hbucket).count⟩
  · unfold connBodyBuffer
    by_cases hzero : length = 0
    · exact ⟨.unneeded, by rw [if_pos hzero]⟩
    by_cases hlong : length > p.maxCapacity
    · exact ⟨.refused, by rw [if_neg hzero, if_pos hlong]⟩
    obtain ⟨p', b, hrent, -⟩ := hget length (Nat.le_of_not_gt hlong)
    exact ⟨.rented p', by rw [if_neg hzero, if_neg hlong, hrent]; rfl⟩
  · unfold clientBodyBuffer
    by_cases hlong : payloadLen > p.maxCapacity
    · exact ⟨.refused, by rw [if_pos hlong]⟩
    obtain ⟨p', b, hrent, -⟩ := hget payloadLen (Nat.le_of_not_gt hlong)
    exact ⟨.rented p', by rw [if_neg hlong, hrent]; rfl⟩

/-- Two threads rent from a pool with sizes 4 to 64, and one of them is slow. -/
theorem pool_keeps_its_buffers_two_threads :
    ∃ p₀, new .exactly 4 64 2 7 = some p₀ ∧ p₀.maxCapacity = 64 ∧
      ∃ p, p₀.run .exactly [.pop 9, .pop 64, .expose 0, .restore 0, .returnBuffer 0, .expose 0] = .ok p ∧ p.ids.Nodup := by
  obtain ⟨last, p₀, hnew, -, -, -, hmaximum, hlast, hnext, hruns⟩ :=
    pool_keeps_its_buffers .exactly 2 (show 1 ≤ 4 by decide) (show 4 ≤ 64 by decide) (by decide)
  have hlow : 2 ^ last ≤ 2 ^ 4 := by omega
  have hhigh : 2 ^ 4 < 2 ^ (last + 1) := by omega
  rw [Nat.pow_le_pow_iff_right Nat.one_lt_two] at hlow
  rw [Nat.pow_lt_pow_iff_right Nat.one_lt_two] at hhigh
  obtain rfl : last = 4 := by omega
  obtain ⟨p, hrun, hids, -⟩ := hruns [.pop 9, .pop 64, .expose 0, .restore 0, .returnBuffer 0, .expose 0] (by
    intro n hn
    rw [hmaximum]
    simp only [List.mem_cons, Move.pop.injEq, reduceCtorEq, List.not_mem_nil, or_false] at hn
    omega)
  exact ⟨p₀, hnew 7 (by decide), hmaximum, p, hrun, hids⟩

end MultiBufferPool

end Wirechaos.PoolMemory
