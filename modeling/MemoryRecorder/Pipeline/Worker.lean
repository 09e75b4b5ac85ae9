import MemoryRecorder.Pipeline.Message
/-!
# Workers

A worker is a thread with a command channel and the watchers of its processes. It handles one
command at a time: the oldest one it took ahead of time, else the oldest in its channel. Before a
tick it moves everything waiting in the channel to its pending queue, and a tick with a newer tick
among those is skipped, so a worker that fell behind samples only the newest tick.

The pending queue and the channel together behave as one queue in send order (`backlog_push`,
`backlog_drain`, `backlog_of_next`).
-/

namespace MemoryRecorder
namespace Pipeline

structure Worker where
  channel : List Command := []
  /-- Commands received ahead of time by a tick, oldest first. -/
  pending : List Command := []
  watchers : List Watcher := []
  /-- A watcher being started whose mapping file is a pipe with no writer yet. -/
  waiting : Option Watcher := none
  /-- Whether the command loop has ended; the channel is closed from then on. -/
  finished : Bool := false
  deriving Repr

namespace Worker

def backlog (w : Worker) : List Command :=
  w.pending ++ w.channel

def push (w : Worker) (c : Command) : Worker :=
  { w with channel := w.channel ++ [c] }

def next? (w : Worker) : Option (Command × Worker) :=
  match w.pending with
  | c :: rest => some (c, { w with pending := rest })
  | [] =>
      match w.channel with
      | c :: rest => some (c, { w with channel := rest })
      | [] => none

/-- Moves every command waiting in the channel to the back of the pending queue. -/
def drain (w : Worker) : Worker :=
  { w with pending := w.pending ++ w.channel, channel := [] }

theorem backlog_push (w : Worker) (c : Command) : (w.push c).backlog = w.backlog ++ [c] := by
  simp [backlog, push, List.append_assoc]

theorem backlog_drain (w : Worker) : w.drain.backlog = w.backlog := by
  simp [backlog, drain]

theorem backlog_of_next {w w' : Worker} {c : Command} (h : w.next? = some (c, w')) :
    w.backlog = c :: w'.backlog := by
  unfold next? at h
  unfold backlog
  split at h
  · rename_i d rest hp
    cases h
    simp [hp]
  · rename_i hp
    split at h
    · rename_i d rest hc
      cases h
      simp [hp, hc]
    · cases h

end Worker

end Pipeline
end MemoryRecorder
