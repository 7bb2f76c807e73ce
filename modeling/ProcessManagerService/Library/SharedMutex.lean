import Mathlib.Data.Finset.Basic

/-!
# Reader and writer locks

A shared mutex is held by any number of readers or by one writer.  A request
that cannot be granted waits, so an operation that acquires the mutex is a
partial function and is tried again by whoever schedules the threads.  A
request for exclusive access waits for every reader, its own thread included.
-/

namespace ProcessManagerService

/-- The threads that hold the mutex.  While it has a writer it has no reader. -/
structure SharedMutex (Thread : Type*) where
  readers : Finset Thread
  writer : Option Thread
  exclusive : writer ≠ none → readers = ∅

namespace SharedMutex

variable {Thread : Type*}

def free : SharedMutex Thread := ⟨∅, none, fun _ => rfl⟩

def unlock (mutex : SharedMutex Thread) : SharedMutex Thread :=
  ⟨mutex.readers, none, fun hwriter => absurd rfl hwriter⟩

@[simp]
theorem readers_unlock (mutex : SharedMutex Thread) : mutex.unlock.readers = mutex.readers := rfl

variable [DecidableEq Thread]

/-- Exclusive access. -/
def lock (mutex : SharedMutex Thread) (thread : Thread) : Option (SharedMutex Thread) :=
  if mutex.readers = ∅ ∧ mutex.writer = none then some ⟨∅, some thread, fun _ => rfl⟩ else none

def lockShared (mutex : SharedMutex Thread) (thread : Thread) : Option (SharedMutex Thread) :=
  if mutex.writer = none then
    some ⟨insert thread mutex.readers, none, fun hwriter => absurd rfl hwriter⟩
  else none

def unlockShared (mutex : SharedMutex Thread) (thread : Thread) : SharedMutex Thread where
  readers := mutex.readers.erase thread
  writer := mutex.writer
  exclusive hwriter := by rw [mutex.exclusive hwriter, Finset.erase_empty]

@[simp]
theorem readers_unlockShared (mutex : SharedMutex Thread) (thread : Thread) :
    (mutex.unlockShared thread).readers = mutex.readers.erase thread := rfl

@[simp]
theorem writer_unlockShared (mutex : SharedMutex Thread) (thread : Thread) :
    (mutex.unlockShared thread).writer = mutex.writer := rfl

variable {mutex next : SharedMutex Thread} {thread : Thread}

theorem readers_of_lockShared (hlock : mutex.lockShared thread = some next) :
    next.readers = insert thread mutex.readers := by
  rw [lockShared, Option.ite_none_right_eq_some] at hlock
  rw [← Option.some.inj hlock.2]

/-- A mutex is shared only while it has no writer. -/
theorem writer_of_lockShared (hlock : mutex.lockShared thread = some next) :
    mutex.writer = none := by
  rw [lockShared, Option.ite_none_right_eq_some] at hlock
  exact hlock.1

/-- A mutex that is granted for exclusive access has no reader. -/
theorem readers_of_lock (hlock : mutex.lock thread = some next) :
    mutex.readers = ∅ ∧ next.readers = ∅ := by
  rw [lock, Option.ite_none_right_eq_some] at hlock
  exact ⟨hlock.1.1, by rw [← Option.some.inj hlock.2]⟩

theorem writer_of_lock (hlock : mutex.lock thread = some next) :
    mutex.writer = none ∧ next.writer = some thread := by
  rw [lock, Option.ite_none_right_eq_some] at hlock
  exact ⟨hlock.1.2, by rw [← Option.some.inj hlock.2]⟩

/-- While there is a reader, exclusive access is granted to no thread. -/
theorem lock_eq_none_of_mem_readers {reader : Thread} (hreader : reader ∈ mutex.readers)
    (thread : Thread) : mutex.lock thread = none := by
  rw [lock, if_neg]
  intro hfree
  rw [hfree.1] at hreader
  exact Finset.notMem_empty reader hreader

theorem lockShared_free (thread : Thread) :
    ∃ held, (free : SharedMutex Thread).lockShared thread = some held ∧ thread ∈ held.readers :=
  ⟨_, rfl, Finset.mem_insert_self thread ∅⟩

/-- A free mutex is granted, and it is free again when the writer is done. -/
theorem lock_free (thread : Thread) :
    ∃ held, (free : SharedMutex Thread).lock thread = some held ∧ held.unlock = free :=
  ⟨_, rfl, rfl⟩

end SharedMutex

end ProcessManagerService
