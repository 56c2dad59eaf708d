/-
# Sinks

The output of the client goes to two sinks. A sink may have room for a limited
number of bytes: it takes what fits, and then fails for good. It may also fail in
passing: a single write is cut off with an error, or a single flush fails, and
what comes later works again. Writing nothing never fails.

What goes wrong in passing is a script of what the next writes and the next
flushes do. Whatever a sink does in one run is such a script, since a run makes
finitely many calls.
-/

import EditorClient.Error

namespace EditorClient

/-- Room for output. Without a limit there is always some. -/
structure Room where
  limit : Option Nat := none
  deriving DecidableEq, Repr

namespace Room

/-- The part of these bytes for which there is room. -/
def taken (room : Room) (bytes : Bytes) : Bytes :=
  match room.limit with
  | none => bytes
  | some limit => bytes.take limit

/-- The room that is left after these bytes. -/
def after (room : Room) (bytes : Bytes) : Room :=
  ⟨room.limit.map fun limit => limit - bytes.length⟩

/-- Whether there is room for all of these bytes. -/
def fits (room : Room) (bytes : Bytes) : Bool :=
  match room.limit with
  | none => true
  | some limit => bytes.length ≤ limit

theorem taken_of_fits {room : Room} {bytes : Bytes} (fits : room.fits bytes = true) :
    room.taken bytes = bytes := by
  obtain ⟨_ | limit⟩ := room
  · rfl
  · exact List.take_of_length_le (of_decide_eq_true fits)

end Room

/-- A place for output. By default it takes everything. -/
structure Sink where
  room : Room := {}
  /-- What goes wrong with the next writes, if something does: after so many bytes
  the write is cut off with this error. Later writes depend on the room alone. -/
  writes : List (Option (Nat × IoError)) := []
  /-- The errors with which the next flushes fail, if they do. Later ones work. -/
  flushes : List (Option IoError) := []
  deriving DecidableEq, Repr

namespace Sink

/-- The error of a sink that is full. -/
def full : IoError := ⟨.other, "sink full"⟩

/-- What goes wrong with writing these bytes, the room apart. Nothing is written
without a call. -/
def fault (s : Sink) (bytes : Bytes) : Option (Nat × IoError) :=
  if bytes = [] then none else s.writes.head?.join

/-- The part of these bytes before the write is cut off. -/
def offered (s : Sink) (bytes : Bytes) : Bytes :=
  match s.fault bytes with
  | none => bytes
  | some (limit, _) => bytes.take limit

/-- The part of these bytes that is taken. -/
def taken (s : Sink) (bytes : Bytes) : Bytes := s.room.taken (s.offered bytes)

/-- The error with which writing these bytes fails, if it does. -/
def failure (s : Sink) (bytes : Bytes) : Option IoError :=
  match s.fault bytes with
  | some (_, error) => some error
  | none => if s.room.fits bytes then none else some full

/-- A write that does not fail takes all that it is given. -/
theorem taken_of_works {s : Sink} {bytes : Bytes} (works : s.failure bytes = none) :
    s.taken bytes = bytes := by
  rw [failure] at works
  rw [taken, offered]
  cases fault : s.fault bytes with
  | some cut =>
      rw [fault] at works
      nomatch works
  | none =>
      rw [fault] at works
      dsimp only at works ⊢
      split at works
      case isTrue fits => exact Room.taken_of_fits fits
      case isFalse => nomatch works

theorem failure_nil (s : Sink) : s.failure [] = none := by
  obtain ⟨⟨limit⟩, writes, flushes⟩ := s
  cases limit <;> simp [failure, fault, Room.fits]

/-- The sink after it was given these bytes. -/
def after (s : Sink) (bytes : Bytes) : Sink :=
  { s with
    room := s.room.after (s.offered bytes)
    writes := if bytes = [] then s.writes else s.writes.tail }

/-- The error with which a flush fails, if it does. -/
def flushFailure (s : Sink) : Option IoError := s.flushes.head?.join

/-- The sink after a flush. -/
def flushed (s : Sink) : Sink := { s with flushes := s.flushes.tail }

/-- No flush of this sink fails. -/
def Steady (s : Sink) : Prop := s.flushes = []

theorem Steady.flushFailure_eq {s : Sink} (steady : s.Steady) : s.flushFailure = none := by
  rw [flushFailure, steady]
  rfl

theorem Steady.flushed_eq {s : Sink} (steady : s.Steady) : s.flushed = s := by
  obtain ⟨room, writes, flushes⟩ := s
  cases steady
  rfl

/-- A sink that takes everything goes on doing so. -/
theorem after_takesAll (bytes : Bytes) : ({} : Sink).after bytes = {} := by
  simp only [after, List.tail_nil, ite_self]
  rfl

theorem failure_takesAll (bytes : Bytes) : ({} : Sink).failure bytes = none := by
  simp only [failure, fault, List.head?_nil, Option.join_none, ite_self]
  rfl

/-- Whatever is written to this sink, it takes all of it. -/
def TakesAll (s : Sink) : Prop := s.room = {} ∧ s.writes = []

theorem TakesAll.failure_eq {s : Sink} (takes : s.TakesAll) (bytes : Bytes) :
    s.failure bytes = none := by
  obtain ⟨room, writes, flushes⟩ := s
  obtain ⟨rfl, rfl⟩ := takes
  exact failure_takesAll bytes

theorem takesAll_after {s : Sink} (takes : s.TakesAll) (bytes : Bytes) :
    (s.after bytes).TakesAll := by
  obtain ⟨room, writes, flushes⟩ := s
  obtain ⟨rfl, rfl⟩ := takes
  exact ⟨rfl, ite_self []⟩

/-- Writing nothing changes nothing. -/
theorem after_nil (s : Sink) : s.after [] = s := by
  obtain ⟨⟨limit⟩, writes, flushes⟩ := s
  cases limit <;> simp [after, Room.after, offered, fault]

end Sink

end EditorClient
