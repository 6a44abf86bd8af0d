import Mathlib.Data.List.Range
import VdiWrapper.Lib.Custody
import VdiWrapper.Instruments

/-!
# Buffers shared by any number of clients

`BufferPool` is built once and then shared: a client acquires a buffer, uses it, and releases it.
Here the pool is followed down to the `data()` pointers its constructor records, and up to an
arbitrary number of clients whose calls, each atomic under `mutex_`, interleave in any order.

* `construct_separate` — the constructor records the pointers of non-overlapping vectors;
* `SharedPool.run_renamed` — every run on that pool is a run on the pool of indices in the model of
  the client, each buffer named by its pointer;
* `Step.custody` — a call on the shared pool is a move of the lender of `Custody`;
* `bufferPool_exclusive` — at all times every buffer is free or held by exactly one client, and
  buffers are handed out in the order in which they became free.
-/

namespace Vdi

open Runs

/-- A `std::vector<uint8_t>` once it has been built: its `data()` pointer and its size. -/
structure ByteVector where
  data : Nat
  size : Nat
deriving DecidableEq

/-- The two vectors share no byte. -/
def ByteVector.Separate (v w : ByteVector) : Prop :=
  v.data + v.size ≤ w.data ∨ w.data + w.size ≤ v.data

/-- The allocator behind `std::vector`: where it puts the next vector of a size beside those that
are live, or `none` when it throws `std::bad_alloc`. -/
abbrev Allocator := List ByteVector → Nat → Option Nat

/-- A new vector lies apart from the live ones. -/
def Allocator.Sound (allocate : Allocator) : Prop :=
  ∀ live size data, allocate live size = some data → ∀ v ∈ live, v.Separate ⟨data, size⟩

/-- An allocator that never reuses an address. -/
def bumpAllocate : Allocator :=
  fun live _ => some (live.foldr (fun v top => max (v.data + v.size) top) 16)

theorem le_bump {live : List ByteVector} {v : ByteVector} (h : v ∈ live) :
    v.data + v.size ≤ live.foldr (fun v top => max (v.data + v.size) top) 16 := by
  induction live with
  | nil => cases h
  | cons w live ih =>
      rw [List.foldr_cons]
      rcases List.mem_cons.mp h with h | h
      · rw [h]
        exact le_max_left _ _
      · exact (ih h).trans (le_max_right _ _)

theorem bumpAllocate_sound : bumpAllocate.Sound := by
  intro live size data h v hv
  cases h
  exact .inl (le_bump hv)

namespace BufferPool

/-- The loop of the constructor: `buffers_` and the pointers on the queue after `i` iterations.
Moving the vectors when `buffers_` grows keeps their `data()` pointers. -/
def construct (allocate : Allocator) (bufferSize : Nat) : Nat → Option (List ByteVector × List Nat)
  | 0 => some ([], [])
  | i + 1 =>
      match construct allocate bufferSize i with
      | none => none
      | some (buffers, freeBuffers) =>
          match allocate buffers bufferSize with
          | none => none
          | some data => some (buffers ++ [⟨data, bufferSize⟩], freeBuffers ++ [data])

/-- The pool a successful construction leaves behind, its buffers named by their pointers. -/
def constructed (bufferSize count : Nat) (freeBuffers : List Nat) : BufferPool :=
  { bufferSize := bufferSize, count := count, freeBuffers := freeBuffers }

/-- The same pool with its buffers named otherwise. -/
def rename (name : Nat → Nat) (pool : BufferPool) : BufferPool :=
  { pool with freeBuffers := pool.freeBuffers.map name }

variable {allocate : Allocator} {bufferSize count : Nat} {buffers : List ByteVector}
  {freeBuffers : List Nat} {pool : BufferPool}

/-- One iteration of the constructor, when it succeeds. -/
theorem construct_succ {i : Nat}
    (h : construct allocate bufferSize (i + 1) = some (buffers, freeBuffers)) :
    ∃ buffers' freeBuffers' data,
      construct allocate bufferSize i = some (buffers', freeBuffers') ∧
        allocate buffers' bufferSize = some data ∧
        buffers = buffers' ++ [⟨data, bufferSize⟩] ∧ freeBuffers = freeBuffers' ++ [data] := by
  simp only [construct] at h
  split at h
  · cases h
  · split at h
    · cases h
    · cases h
      exact ⟨_, _, _, by assumption, by assumption, rfl, rfl⟩

/-- The queue holds the pointers of `buffers_`, in the order of the vectors. -/
theorem construct_free (h : construct allocate bufferSize count = some (buffers, freeBuffers)) :
    freeBuffers = buffers.map ByteVector.data := by
  induction count generalizing buffers freeBuffers with
  | zero =>
      cases h
      rfl
  | succ i ih =>
      obtain ⟨buffers', freeBuffers', data, hrest, -, rfl, rfl⟩ := construct_succ h
      rw [ih hrest, List.map_append]
      rfl

theorem construct_length (h : construct allocate bufferSize count = some (buffers, freeBuffers)) :
    buffers.length = count := by
  induction count generalizing buffers freeBuffers with
  | zero =>
      cases h
      rfl
  | succ i ih =>
      obtain ⟨buffers', freeBuffers', data, hrest, -, rfl, -⟩ := construct_succ h
      rw [List.length_append, ih hrest]
      rfl

theorem construct_size (h : construct allocate bufferSize count = some (buffers, freeBuffers)) :
    ∀ v ∈ buffers, v.size = bufferSize := by
  induction count generalizing buffers freeBuffers with
  | zero =>
      cases h
      simp
  | succ i ih =>
      obtain ⟨buffers', freeBuffers', data, hrest, -, rfl, -⟩ := construct_succ h
      intro v hv
      rcases List.mem_append.mp hv with hv | hv
      · exact ih hrest v hv
      · rw [List.mem_singleton.mp hv]

/-- No two vectors of the pool overlap. -/
theorem construct_separate (hsound : allocate.Sound)
    (h : construct allocate bufferSize count = some (buffers, freeBuffers)) :
    buffers.Pairwise ByteVector.Separate := by
  induction count generalizing buffers freeBuffers with
  | zero =>
      cases h
      exact List.Pairwise.nil
  | succ i ih =>
      obtain ⟨buffers', freeBuffers', data, hrest, hdata, rfl, -⟩ := construct_succ h
      apply List.pairwise_append.mpr
      refine ⟨ih hrest, List.pairwise_singleton _ _, fun v hv w hw => ?_⟩
      rw [List.mem_singleton.mp hw]
      exact hsound buffers' bufferSize data hdata v hv

/-- Non-empty vectors that do not overlap have different pointers. -/
theorem construct_nodup (hsound : allocate.Sound) (hsize : 0 < bufferSize)
    (h : construct allocate bufferSize count = some (buffers, freeBuffers)) :
    (buffers.map ByteVector.data).Nodup := by
  have hpositive := construct_size h
  apply List.pairwise_map.mpr
  apply (construct_separate hsound h).imp_of_mem
  intro v w hv hw hseparate heq
  have hsizeV := hpositive v hv
  have hsizeW := hpositive w hw
  unfold ByteVector.Separate at hseparate
  omega

/-- The pointer of the vector with index `i` in `buffers_`. -/
def pointer (buffers : List ByteVector) (i : Nat) : Nat := (buffers.map ByteVector.data).getD i 0

/-- Vectors that do not overlap are told apart by their pointers. -/
theorem pointer_injOn (hsound : allocate.Sound) (hsize : 0 < bufferSize)
    (h : construct allocate bufferSize count = some (buffers, freeBuffers)) {i j : Nat}
    (hi : i ∈ List.range count) (hj : j ∈ List.range count)
    (heq : pointer buffers i = pointer buffers j) : i = j := by
  have hlength : (buffers.map ByteVector.data).length = count := by
    rw [List.length_map, construct_length h]
  rw [List.mem_range, ← hlength] at hi hj
  unfold pointer at heq
  rw [← List.getElem_eq_getD (h := hi), ← List.getElem_eq_getD (h := hj)] at heq
  exact (construct_nodup hsound hsize h).getElem_inj_iff.mp heq

/-- The pool of indices that the model of the client uses is this pool under other names. -/
theorem construct_rename (h : construct allocate bufferSize count = some (buffers, freeBuffers)) :
    constructed bufferSize count freeBuffers =
      (new bufferSize count).rename (pointer buffers) := by
  have hlength : (buffers.map ByteVector.data).length = count := by
    rw [List.length_map, construct_length h]
  have hnames : (List.range count).map (pointer buffers) = buffers.map ByteVector.data := by
    apply List.ext_getElem
    · rw [List.length_map, List.length_range, hlength]
    · intro i hi hi'
      rw [List.getElem_map, List.getElem_range]
      exact (List.getElem_eq_getD 0).symm
  unfold constructed rename new
  rw [hnames, construct_free h]

/-- `acquire` does not look at the names. -/
theorem acquire_rename (name : Nat → Nat) :
    (pool.rename name).acquire = (pool.acquire.1.map name, pool.acquire.2.rename name) := by
  obtain ⟨bufferSize, count, freeBuffers⟩ := pool
  cases freeBuffers <;> rfl

/-- Nor does `release`. -/
theorem release_rename (name : Nat → Nat) (buffer : Nat) :
    (pool.rename name).release (name buffer) = (pool.release buffer).rename name := by
  unfold release rename
  rw [List.map_append]
  rfl

theorem acquire_eq_none : pool.acquire.1 = none ↔ pool.freeBuffers = [] := by
  unfold acquire
  cases pool.freeBuffers with
  | nil => simp
  | cons buffer rest => simp

end BufferPool

/-- The pool and the buffers its clients hold. -/
structure SharedPool (C : Type) where
  pool : BufferPool
  held : List (C × Nat)

/-- A call on the pool, with the client that makes it and what `acquire` returned. -/
inductive PoolCall (C : Type)
  | acquire (client : C) (buffer : Option Nat)
  | release (client : C) (buffer : Nat)

namespace SharedPool

variable {C : Type}

/-- Pool and clients just after the constructor returned. -/
def start (bufferSize count : Nat) (freeBuffers : List Nat) : SharedPool C :=
  { pool := BufferPool.constructed bufferSize count freeBuffers, held := [] }

def custody (s : SharedPool C) : Custody C Nat :=
  { free := s.pool.freeBuffers, held := s.held }

def move : PoolCall C → Custody.Move C Nat
  | .acquire client (some buffer) => .take client buffer
  | .acquire client none => .miss client
  | .release client buffer => .give client buffer

variable [DecidableEq C]

/-- What a client has after `acquire` returned `buffer`. -/
def keep (client : C) (buffer : Option Nat) (held : List (C × Nat)) : List (C × Nat) :=
  buffer.toList.map (fun b => (client, b)) ++ held

/-- One call.  Any client may acquire at any time; it releases only a buffer it holds. -/
inductive Step : SharedPool C → PoolCall C → SharedPool C → Prop
  | acquire (s : SharedPool C) (client : C) :
      Step s (.acquire client s.pool.acquire.1)
        { pool := s.pool.acquire.2, held := keep client s.pool.acquire.1 s.held }
  | release (s : SharedPool C) (client : C) (buffer : Nat) (holds : (client, buffer) ∈ s.held) :
      Step s (.release client buffer)
        { pool := s.pool.release buffer, held := s.held.erase (client, buffer) }

variable {s t : SharedPool C} {call : PoolCall C} {calls : List (PoolCall C)}

/-- A call on the pool is a move of a lender with a queue. -/
theorem Step.custody (h : Step s call t) : Custody.Step s.custody (move call) t.custody := by
  cases h with
  | acquire client =>
      obtain ⟨⟨bufferSize, count, freeBuffers⟩, held⟩ := s
      cases freeBuffers with
      | nil => exact .miss client held
      | cons buffer rest => exact .take client buffer rest held
  | release client buffer holds => exact .give client buffer _ _ holds

/-- The pool of indices before any call. -/
def indexed (bufferSize count : Nat) : SharedPool C :=
  { pool := BufferPool.new bufferSize count, held := [] }

/-- The same pool and the same holdings, with the buffers named otherwise. -/
def rename (name : Nat → Nat) (s : SharedPool C) : SharedPool C :=
  { pool := s.pool.rename name, held := s.held.map (Prod.map id name) }

end SharedPool

/-- The same call, with its buffer named otherwise. -/
def PoolCall.rename {C : Type} (name : Nat → Nat) : PoolCall C → PoolCall C
  | .acquire client buffer => .acquire client (buffer.map name)
  | .release client buffer => .release client (name buffer)

/-- The buffers handed out, in order. -/
def handedOut {C : Type} (calls : List (PoolCall C)) : List Nat :=
  calls.filterMap fun
    | .acquire _ buffer => buffer
    | .release _ _ => none

/-- The buffers given back, in order. -/
def givenBack {C : Type} (calls : List (PoolCall C)) : List Nat :=
  calls.filterMap fun
    | .acquire _ _ => none
    | .release _ buffer => some buffer

section Exclusion

variable {C : Type} {allocate : Allocator} {bufferSize count : Nat} {buffers : List ByteVector}
  {freeBuffers : List Nat} {calls : List (PoolCall C)} {s : SharedPool C}

/-- At the start the whole stock is free. -/
theorem SharedPool.start_owns
    (h : BufferPool.construct allocate bufferSize count = some (buffers, freeBuffers)) :
    Custody.Owns (buffers.map ByteVector.data)
      (SharedPool.start (C := C) bufferSize count freeBuffers).custody := by
  unfold Custody.Owns Custody.items SharedPool.custody SharedPool.start BufferPool.constructed
  rw [BufferPool.construct_free h, List.map_nil, List.append_nil]

theorem handedOut_eq : handedOut calls =
    (calls.map SharedPool.move).filterMap Custody.Move.taken := by
  unfold handedOut
  rw [List.filterMap_map]
  apply List.filterMap_congr
  intro call _
  cases call with
  | acquire client buffer => cases buffer <;> rfl
  | release => rfl

theorem givenBack_eq : givenBack calls =
    (calls.map SharedPool.move).filterMap Custody.Move.given := by
  unfold givenBack
  rw [List.filterMap_map]
  apply List.filterMap_congr
  intro call _
  cases call with
  | acquire client buffer => cases buffer <;> rfl
  | release => rfl

variable [DecidableEq C]

/-- A run of calls is a run of the lender. -/
theorem SharedPool.path_custody {s t : SharedPool C} (h : Path SharedPool.Step s calls t) :
    Path Custody.Step s.custody (calls.map SharedPool.move) t.custody :=
  h.map SharedPool.custody SharedPool.move fun _ _ _ hstep => hstep.custody

/-- Erasing an element commutes with a map that tells it from all others. -/
theorem erase_map {α β : Type} [BEq α] [LawfulBEq α] [BEq β] [LawfulBEq β] {f : α → β} {a : α}
    {l : List α} (h : ∀ b ∈ l, f b = f a → b = a) : (l.map f).erase (f a) = (l.erase a).map f := by
  induction l with
  | nil => rfl
  | cons b l ih =>
      by_cases hb : b = a
      · rw [hb, List.map_cons, List.erase_cons_head, List.erase_cons_head]
      · have hne : f b ≠ f a := fun heq => hb (h b List.mem_cons_self heq)
        rw [List.map_cons, List.erase_cons_tail (by simpa using hne),
          List.erase_cons_tail (by simpa using hb), List.map_cons,
          ih fun c hc => h c (List.mem_cons_of_mem _ hc)]

/-- A call on a renamed pool is the renaming of a call, if the names tell the held buffers apart. -/
theorem SharedPool.Step.of_rename {name : Nat → Nat} {call : PoolCall C} {t : SharedPool C}
    (hname : ∀ i ∈ s.held.map Prod.snd, ∀ j ∈ s.held.map Prod.snd, name i = name j → i = j)
    (h : SharedPool.Step (s.rename name) call t) :
    ∃ call' t', SharedPool.Step s call' t' ∧ call = call'.rename name ∧ t = t'.rename name := by
  generalize hrenamed : s.rename name = renamed at h
  cases h with
  | acquire client =>
      refine ⟨_, _, .acquire s client, ?_, ?_⟩
      · rw [← hrenamed, SharedPool.rename, BufferPool.acquire_rename]
        rfl
      · rw [← hrenamed, SharedPool.rename, SharedPool.rename, BufferPool.acquire_rename]
        unfold SharedPool.keep
        cases s.pool.acquire.1 <;> rfl
  | release client buffer holds =>
      rw [← hrenamed] at holds
      obtain ⟨⟨owner, i⟩, hheld, hpair⟩ := List.mem_map.mp holds
      cases hpair
      refine ⟨_, _, .release s owner i hheld, rfl, ?_⟩
      have hapart : ∀ p ∈ s.held, Prod.map id name p = (owner, name i) → p = (owner, i) := by
        intro p hp heq
        obtain ⟨howner, hsame⟩ := Prod.mk.inj heq
        exact Prod.ext howner
          (hname p.2 (List.mem_map_of_mem hp) i (List.mem_map_of_mem hheld) hsame)
      have herase : (s.held.map (Prod.map id name)).erase (owner, name i) =
          (s.held.erase (owner, i)).map (Prod.map id name) :=
        erase_map (f := Prod.map id name) (a := (owner, i)) hapart
      rw [← hrenamed]
      unfold SharedPool.rename
      dsimp only [id]
      rw [BufferPool.release_rename, herase]

/-- Every run on the pool of pointers is a run on the pool of indices that the model of the client
uses, with every buffer named by its pointer. -/
theorem SharedPool.run_renamed (hsound : allocate.Sound) (hsize : 0 < bufferSize)
    (hmade : BufferPool.construct allocate bufferSize count = some (buffers, freeBuffers))
    (hrun : Path SharedPool.Step (SharedPool.start bufferSize count freeBuffers) calls s) :
    ∃ calls' s', Path SharedPool.Step (SharedPool.indexed bufferSize count) calls' s' ∧
      calls = calls'.map (PoolCall.rename (BufferPool.pointer buffers)) ∧
      s = s'.rename (BufferPool.pointer buffers) := by
  have hstart : SharedPool.start (C := C) bufferSize count freeBuffers =
      (SharedPool.indexed bufferSize count).rename (BufferPool.pointer buffers) := by
    rw [SharedPool.start, BufferPool.construct_rename hmade]
    rfl
  have howns : Custody.Owns (List.range count)
      (SharedPool.indexed (C := C) bufferSize count).custody := by
    unfold Custody.Owns Custody.items SharedPool.custody SharedPool.indexed BufferPool.new
    rw [List.map_nil, List.append_nil]
  rw [hstart] at hrun
  -- the indices in custody are those of `buffers_` all along, so the pointers tell them apart
  generalize SharedPool.indexed bufferSize count = s₀ at hrun howns ⊢
  generalize hfrom : s₀.rename (BufferPool.pointer buffers) = from₀ at hrun
  induction hrun generalizing s₀ with
  | nil => exact ⟨[], s₀, .nil _, rfl, hfrom.symm⟩
  | cons head tail ih =>
      rw [← hfrom] at head
      have hheld : ∀ i ∈ s₀.held.map Prod.snd, i ∈ List.range count := fun i hi =>
        howns.mem_iff.mp (List.mem_append_right _ hi)
      obtain ⟨call', t', hstep, rfl, rfl⟩ := head.of_rename fun i hi j hj heq =>
        BufferPool.pointer_injOn hsound hsize hmade (hheld i hi) (hheld j hj) heq
      obtain ⟨calls', s', hpath, rfl, rfl⟩ :=
        ih t' (howns.path (SharedPool.path_custody (.single hstep))) rfl
      exact ⟨call' :: calls', s', .cons hstep hpath, rfl, rfl⟩

/-- **Exclusive buffers.**  Whatever the clients and their interleaving, the free queue and the
held buffers are at all times exactly the `count` distinct buffers of the constructor; no buffer is
held twice; `acquire` returns `nullptr` exactly when all are held; and buffers are handed out in
the order in which they became free. -/
theorem bufferPool_exclusive (hsound : allocate.Sound) (hsize : 0 < bufferSize)
    (hmade : BufferPool.construct allocate bufferSize count = some (buffers, freeBuffers))
    (hrun : Path SharedPool.Step (SharedPool.start bufferSize count freeBuffers) calls s) :
    (s.pool.freeBuffers ++ s.held.map Prod.snd).Perm (buffers.map ByteVector.data) ∧
      (buffers.map ByteVector.data).length = count ∧
      (s.pool.freeBuffers ++ s.held.map Prod.snd).Nodup ∧
      (∀ client client' buffer, (client, buffer) ∈ s.held → (client', buffer) ∈ s.held →
        client = client') ∧
      (s.pool.acquire.1 = none ↔
        ∀ buffer ∈ buffers.map ByteVector.data, ∃ client, (client, buffer) ∈ s.held) ∧
      (s.pool.acquire.1 = none ↔ s.held.length = count) ∧
      handedOut calls ++ s.pool.freeBuffers =
        buffers.map ByteVector.data ++ givenBack calls := by
  have hpath := SharedPool.path_custody hrun
  have howns : Custody.Owns (buffers.map ByteVector.data) s.custody :=
    (SharedPool.start_owns hmade).path hpath
  have hnodup : (buffers.map ByteVector.data).Nodup :=
    BufferPool.construct_nodup hsound hsize hmade
  have hcount : (buffers.map ByteVector.data).length = count := by
    rw [List.length_map, BufferPool.construct_length hmade]
  have horder := Custody.fifo hpath
  refine ⟨howns, hcount, howns.nodup hnodup, ?_, ?_, ?_, ?_⟩
  · intro client client' buffer hheld hheld'
    exact howns.exclusive hnodup hheld hheld'
  · rw [BufferPool.acquire_eq_none]
    exact howns.free_eq_nil_iff_forall hnodup
  · rw [BufferPool.acquire_eq_none, ← hcount]
    exact howns.free_eq_nil_iff
  · rw [handedOut_eq, givenBack_eq, ← BufferPool.construct_free hmade]
    exact horder

/-- Three clients on a pool of two buffers: the third is refused, and gets the buffer the second
gives back. -/
theorem bufferPool_exclusive_three :
    handedOut [.acquire 0 (some 16), .acquire 1 (some 20), .acquire 2 none, .release 1 20,
      .acquire 2 (some 20)] ++ [] = [16, 20] ++ [20] ∧
      ∀ client client' buffer : Nat, (client, buffer) ∈ [(2, 20), (0, 16)] →
        (client', buffer) ∈ [(2, 20), (0, 16)] → client = client' := by
  have hmade : BufferPool.construct bumpAllocate 4 2 = some ([⟨16, 4⟩, ⟨20, 4⟩], [16, 20]) := by
    decide
  have hrun : Path SharedPool.Step (SharedPool.start 4 2 [16, 20])
      [.acquire 0 (some 16), .acquire 1 (some 20), .acquire 2 none, .release 1 20,
        .acquire 2 (some 20)]
      { pool := BufferPool.constructed 4 2 [], held := [(2, 20), (0, 16)] } :=
    .cons (.acquire _ 0) (.cons (.acquire _ 1) (.cons (.acquire _ 2)
      (.cons (.release _ 1 20 (by decide)) (.cons (.acquire _ 2) (.nil _)))))
  obtain ⟨-, -, -, hexclusive, -, -, horder⟩ :=
    bufferPool_exclusive bumpAllocate_sound (by decide) hmade hrun
  exact ⟨horder, hexclusive⟩

end Exclusion

end Vdi
