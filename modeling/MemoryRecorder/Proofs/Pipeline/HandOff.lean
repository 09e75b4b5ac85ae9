import Mathlib.Logic.Relation
import MemoryRecorder.Proofs.Pipeline.Shutdown
/-!
# Handing snapshots to the feeder

The count of snapshots in flight is one counter that the workers and the feeder change, each in
atomic steps of its own around the feeder's channel. A worker that samples reads the counter and
skips the sample when the counter is at the limit; otherwise it reads the mappings, raises the
counter and sends the snapshot, and when the feeder has stopped the send fails and the worker
lowers the counter again. The feeder lowers the counter after it received a snapshot, before it
writes it; the write may overflow and stop the feeder. Any thread may send a message that is not a
snapshot.

`HandOff` is what these steps share: the counter, the channel, whether the feeder still receives,
where each worker stands and the snapshot the feeder holds. `HandOff.step` is the next atomic step
of one thread, and the reachable states are those of any interleaving of them. A message left in
the channel when the feeder stops is never received.

In every reachable state the counter is the number of snapshots in the channel, plus the workers
that raised it and have neither sent nor lowered it again, plus one while the feeder holds a
snapshot it has not taken off (`queued_in_flight`). So no step lowers the counter from zero, and a
worker skips a sample only when at least the limit of snapshots are in flight.

Every move of a recording is a run of these steps (`Step.atomic`, from `sampleWatcher_steps` and
`receive_steps`), so every state of a run from the start of a recording shows a reachable
hand-off (`Run.handOff_reachable`), and its count of snapshots in flight is the number of
snapshots waiting in the feeder's channel (`Run.queued_eq_waiting`).
-/

namespace MemoryRecorder
namespace Pipeline

variable {σ : Type}

/-- Where a worker stands in handing one snapshot to the feeder. -/
inductive Handing where
  /-- Outside a sample, or inside one before it reads the counter. -/
  | idle
  /-- The counter was read below the limit; the mappings are being read. -/
  | cleared
  /-- The counter was raised for this snapshot, which is not sent yet. -/
  | counted (s : Snapshot)
  /-- The feeder refused the snapshot, and the counter is not lowered yet. -/
  | refused

def Handing.holding : Handing → Bool
  | .counted _ | .refused => true
  | _ => false

/-- The state the workers and the feeder share around the counter of snapshots in flight. -/
structure HandOff where
  queued : Nat
  channel : List FeederMessage
  receiving : Bool
  workers : List Handing
  held : Option Snapshot

inductive HandOff.Act where
  | check (i : Nat)
  | skip (i : Nat)
  | count (i : Nat) (s : Snapshot)
  | send (i : Nat)
  | lower (i : Nat)
  | post (m : FeederMessage)
  | receive
  /-- The feeder lowers the counter for the snapshot it holds and writes it; `stops` when the
  write overflows and stops the feeder. -/
  | release (stops : Bool)

namespace HandOff

def initial (n : Nat) : HandOff :=
  { queued := 0, channel := [], receiving := true, workers := List.replicate n .idle,
    held := none }

/-- The snapshots in flight: in the channel, between a worker's raise of the counter and its send
or its lowering, and held by the feeder. -/
def inFlight (h : HandOff) : Nat :=
  h.channel.countP FeederMessage.isSnapshot + h.workers.countP Handing.holding + h.held.toList.length

def setWorker (h : HandOff) (i : Nat) (p : Handing) : HandOff :=
  { h with workers := h.workers.set i p }

@[simp] theorem setWorker_queued (h : HandOff) (i : Nat) (p : Handing) :
    (h.setWorker i p).queued = h.queued := rfl

@[simp] theorem setWorker_channel (h : HandOff) (i : Nat) (p : Handing) :
    (h.setWorker i p).channel = h.channel := rfl

@[simp] theorem setWorker_receiving (h : HandOff) (i : Nat) (p : Handing) :
    (h.setWorker i p).receiving = h.receiving := rfl

@[simp] theorem setWorker_held (h : HandOff) (i : Nat) (p : Handing) :
    (h.setWorker i p).held = h.held := rfl

@[simp] theorem setWorker_setWorker (h : HandOff) (i : Nat) (p q : Handing) :
    (h.setWorker i p).setWorker i q = h.setWorker i q := by
  simp [setWorker]

/-- The state after one atomic step, `none` when the thread cannot take it; sampling pauses at
`limit` snapshots in flight. -/
def step (limit : Nat) (h : HandOff) : Act → Option HandOff
  | .check i =>
      match h.workers[i]? with
      | some .idle => some (if limit ≤ h.queued then h else h.setWorker i .cleared)
      | _ => none
  | .skip i =>
      match h.workers[i]? with
      | some .cleared => some (h.setWorker i .idle)
      | _ => none
  | .count i s =>
      match h.workers[i]? with
      | some .cleared => some { h.setWorker i (.counted s) with queued := h.queued + 1 }
      | _ => none
  | .send i =>
      match h.workers[i]? with
      | some (.counted s) =>
          if h.receiving then some { h.setWorker i .idle with channel := h.channel ++ [.snapshot s] }
          else some (h.setWorker i .refused)
      | _ => none
  | .lower i =>
      match h.workers[i]? with
      | some .refused => some { h.setWorker i .idle with queued := h.queued - 1 }
      | _ => none
  | .post m =>
      if m.isSnapshot then none
      else some (if h.receiving then { h with channel := h.channel ++ [m] } else h)
  | .receive =>
      if h.receiving && h.held.isNone then
        match h.channel with
        | [] => none
        | .snapshot s :: rest => some { h with channel := rest, held := some s }
        | m :: rest => some { h with channel := rest, receiving := !m.isShutdown }
      else none
  | .release stops =>
      match h.held with
      | some _ =>
          some { h with queued := h.queued - 1, held := none, receiving := h.receiving && !stops }
      | none => none

def Moves (limit : Nat) (h h' : HandOff) : Prop :=
  ∃ a, h.step limit a = some h'

/-- The states reached from the start of a recording with `n` workers, in any interleaving. -/
def Reachable (limit n : Nat) (h : HandOff) : Prop :=
  Relation.ReflTransGen (Moves limit) (initial n) h

/-! ## The count of snapshots in flight -/

section InFlight

variable {h h' : HandOff} {limit : Nat}

theorem countP_holding_set {ws : List Handing} {i : Nat} {p : Handing} (hw : ws[i]? = some p)
    (q : Handing) :
    (ws.set i q).countP Handing.holding + p.holding.toNat =
      ws.countP Handing.holding + q.holding.toNat := by
  obtain ⟨hi, hp⟩ := List.getElem?_eq_some_iff.1 hw
  rw [List.countP_set hi, hp]
  have hpos : p.holding.toNat ≤ ws.countP Handing.holding := by
    cases hh : p.holding
    · exact Nat.zero_le _
    · exact List.countP_pos_iff.2 ⟨p, hp ▸ List.getElem_mem hi, hh⟩
  rcases hpb : p.holding <;> rcases hqb : q.holding <;>
    simp only [hpb, Bool.toNat_true, Bool.toNat_false, Bool.false_eq_true, if_true, if_false]
      at hpos ⊢ <;> omega

theorem inFlight_setWorker {i : Nat} {p : Handing} (hw : h.workers[i]? = some p) (q : Handing) :
    (h.setWorker i q).inFlight + p.holding.toNat = h.inFlight + q.holding.toNat := by
  have := countP_holding_set hw q
  simp only [inFlight, setWorker]
  omega

theorem inFlight_setWorker_eq {i : Nat} {p q : Handing} (hw : h.workers[i]? = some p)
    (hpq : p.holding = q.holding) : (h.setWorker i q).inFlight = h.inFlight := by
  have := inFlight_setWorker hw q
  rw [hpq] at this
  omega

theorem inFlight_append (h : HandOff) (ms : List FeederMessage) :
    { h with channel := h.channel ++ ms }.inFlight = h.inFlight + ms.countP FeederMessage.isSnapshot := by
  simp only [inFlight, List.countP_append]
  omega

/-! ### What each step does -/

theorem step_check {i : Nat} (hs : h.step limit (.check i) = some h') :
    h.workers[i]? = some .idle ∧ h' = if limit ≤ h.queued then h else h.setWorker i .cleared := by
  cases hw : h.workers[i]? with
  | none => simp [step, hw] at hs
  | some p => cases p <;> simp_all [step]

theorem step_skip {i : Nat} (hs : h.step limit (.skip i) = some h') :
    h.workers[i]? = some .cleared ∧ h' = h.setWorker i .idle := by
  cases hw : h.workers[i]? with
  | none => simp [step, hw] at hs
  | some p => cases p <;> simp_all [step]

theorem step_count {i : Nat} {s : Snapshot} (hs : h.step limit (.count i s) = some h') :
    h.workers[i]? = some .cleared ∧
      h' = { h.setWorker i (.counted s) with queued := h.queued + 1 } := by
  cases hw : h.workers[i]? with
  | none => simp [step, hw] at hs
  | some p => cases p <;> simp_all [step]

theorem step_send {i : Nat} (hs : h.step limit (.send i) = some h') :
    ∃ s, h.workers[i]? = some (.counted s) ∧
      (h.receiving = true ∧ h' = { h.setWorker i .idle with channel := h.channel ++ [.snapshot s] } ∨
        h.receiving = false ∧ h' = h.setWorker i .refused) := by
  cases hw : h.workers[i]? with
  | none => simp [step, hw] at hs
  | some p =>
      cases p with
      | counted s =>
          refine ⟨s, rfl, ?_⟩
          cases hr : h.receiving <;> simp_all [step]
      | _ => simp [step, hw] at hs

theorem step_lower {i : Nat} (hs : h.step limit (.lower i) = some h') :
    h.workers[i]? = some .refused ∧ h' = { h.setWorker i .idle with queued := h.queued - 1 } := by
  cases hw : h.workers[i]? with
  | none => simp [step, hw] at hs
  | some p => cases p <;> simp_all [step]

theorem step_post {m : FeederMessage} (hs : h.step limit (.post m) = some h') :
    m.isSnapshot = false ∧
      h' = if h.receiving then { h with channel := h.channel ++ [m] } else h := by
  cases hm : m.isSnapshot <;> simp_all [step]

theorem step_receive (hs : h.step limit .receive = some h') :
    h.receiving = true ∧ h.held = none ∧
      ((∃ s rest, h.channel = .snapshot s :: rest ∧ h' = { h with channel := rest, held := some s }) ∨
        ∃ m rest, m.isSnapshot = false ∧ h.channel = m :: rest ∧
          h' = { h with channel := rest, receiving := !m.isShutdown }) := by
  simp only [step] at hs
  split at hs
  · rename_i hready
    simp only [Bool.and_eq_true, Option.isNone_iff_eq_none] at hready
    refine ⟨hready.1, hready.2, ?_⟩
    split at hs
    · cases hs
    · rename_i s rest hc
      exact .inl ⟨s, rest, hc, (Option.some.inj hs).symm⟩
    · -- the head is not a snapshot
      rename_i m rest hnot hc
      have hm : m.isSnapshot = false := by
        cases m with
        | snapshot s => exact (hnot s rfl).elim
        | _ => rfl
      exact .inr ⟨m, rest, hm, hc, (Option.some.inj hs).symm⟩
  · cases hs

theorem step_release {stops : Bool} (hs : h.step limit (.release stops) = some h') :
    ∃ s, h.held = some s ∧
      h' = { h with queued := h.queued - 1, held := none, receiving := h.receiving && !stops } := by
  cases hh : h.held with
  | none => simp [step, hh] at hs
  | some s => exact ⟨s, rfl, by simp_all [step]⟩

/-! ### Steps a thread can take -/

theorem step_skip_of {i : Nat} (hw : h.workers[i]? = some .cleared) :
    h.step limit (.skip i) = some (h.setWorker i .idle) := by
  simp [step, hw]

theorem step_count_of {i : Nat} (s : Snapshot) (hw : h.workers[i]? = some .cleared) :
    h.step limit (.count i s) = some { h.setWorker i (.counted s) with queued := h.queued + 1 } := by
  simp [step, hw]

theorem step_send_of {i : Nat} {s : Snapshot} (hw : h.workers[i]? = some (.counted s)) :
    h.step limit (.send i) = some (if h.receiving then
      { h.setWorker i .idle with channel := h.channel ++ [.snapshot s] } else h.setWorker i .refused) := by
  simp only [step, hw]
  split <;> rfl

theorem step_lower_of {i : Nat} (hw : h.workers[i]? = some .refused) :
    h.step limit (.lower i) = some { h.setWorker i .idle with queued := h.queued - 1 } := by
  simp [step, hw]

theorem step_receive_snapshot {s : Snapshot} {rest : List FeederMessage} (hr : h.receiving = true)
    (hh : h.held = none) (hc : h.channel = .snapshot s :: rest) :
    h.step limit .receive = some { h with channel := rest, held := some s } := by
  simp [step, hr, hh, hc]

theorem step_receive_other {m : FeederMessage} {rest : List FeederMessage} (hr : h.receiving = true)
    (hh : h.held = none) (hc : h.channel = m :: rest) (hm : m.isSnapshot = false) :
    h.step limit .receive = some { h with channel := rest, receiving := !m.isShutdown } := by
  cases m with
  | snapshot s => simp [FeederMessage.isSnapshot] at hm
  | _ => simp [step, hr, hh, hc]

theorem step_release_of {s : Snapshot} (stops : Bool) (hh : h.held = some s) :
    h.step limit (.release stops) =
      some { h with queued := h.queued - 1, held := none, receiving := h.receiving && !stops } := by
  simp [step, hh]

theorem step_post_of {m : FeederMessage} (hm : m.isSnapshot = false) :
    h.step limit (.post m) =
      some (if h.receiving then { h with channel := h.channel ++ [m] } else h) := by
  simp [step, hm]

theorem posts {ms : List FeederMessage} (hns : ∀ m ∈ ms, m.isSnapshot = false) :
    ∀ h : HandOff, h.receiving = true →
      Relation.ReflTransGen (Moves limit) h { h with channel := h.channel ++ ms } := by
  induction ms with
  | nil =>
      intro h _
      rw [List.append_nil]
  | cons m ms ih =>
      intro h hr
      have hstep : h.step limit (.post m) = some { h with channel := h.channel ++ [m] } := by
        rw [step_post_of (hns m List.mem_cons_self), if_pos hr]
      have hrest := ih (fun m' hm' => hns m' (List.mem_cons_of_mem m hm'))
        { h with channel := h.channel ++ [m] } hr
      simpa using Relation.ReflTransGen.head ⟨.post m, hstep⟩ hrest

/-! ### The invariant -/

/-- Every step keeps the counter equal to the snapshots in flight. -/
theorem queued_step (hq : h.queued = h.inFlight) {a : Act} (hs : h.step limit a = some h') :
    h'.queued = h'.inFlight := by
  cases a with
  | check i =>
      obtain ⟨hw, rfl⟩ := step_check hs
      split
      · exact hq
      · exact hq.trans (inFlight_setWorker_eq (q := .cleared) hw rfl).symm
  | skip i =>
      obtain ⟨hw, rfl⟩ := step_skip hs
      exact hq.trans (inFlight_setWorker_eq (q := .idle) hw rfl).symm
  | count i s =>
      obtain ⟨hw, rfl⟩ := step_count hs
      have := inFlight_setWorker hw (.counted s)
      simp only [Handing.holding, Bool.toNat_false, Bool.toNat_true] at this
      show h.queued + 1 = (h.setWorker i (.counted s)).inFlight
      omega
  | send i =>
      obtain ⟨s, hw, ⟨-, rfl⟩ | ⟨-, rfl⟩⟩ := step_send hs
      · -- the snapshot leaves the worker for the channel
        have := countP_holding_set hw .idle
        simp only [Handing.holding, Bool.toNat_false, Bool.toNat_true] at this
        simp only [inFlight, setWorker, List.countP_append] at hq ⊢
        simp [FeederMessage.isSnapshot]
        omega
      · exact hq.trans (inFlight_setWorker_eq (q := .refused) hw rfl).symm
  | lower i =>
      obtain ⟨hw, rfl⟩ := step_lower hs
      have := inFlight_setWorker hw .idle
      simp only [Handing.holding, Bool.toNat_false, Bool.toNat_true] at this
      show h.queued - 1 = (h.setWorker i .idle).inFlight
      omega
  | post m =>
      obtain ⟨hm, rfl⟩ := step_post hs
      split
      · have := inFlight_append h [m]
        simp only [List.countP_singleton, hm, Bool.false_eq_true, if_false] at this
        exact hq.trans (by rw [this]; rfl)
      · exact hq
  | receive =>
      obtain ⟨-, hheld, ⟨s, rest, hc, rfl⟩ | ⟨m, rest, hm, hc, rfl⟩⟩ := step_receive hs
      · -- the feeder takes the snapshot off the channel and holds it
        simp only [inFlight, hc, hheld, List.countP_cons] at hq ⊢
        simp [FeederMessage.isSnapshot] at hq ⊢
        omega
      · simp only [inFlight, hc, List.countP_cons, hm] at hq ⊢
        simpa using hq
  | release stops =>
      obtain ⟨s, hh, rfl⟩ := step_release hs
      simp only [inFlight, hh] at hq ⊢
      simp at hq ⊢
      omega

theorem queued_initial (n : Nat) : (initial n).queued = (initial n).inFlight := by
  simp [initial, inFlight, List.countP_replicate, Handing.holding]

/-- In every reachable state the counter is the count of snapshots in flight. -/
theorem Reachable.queued_eq {n : Nat} (hr : Reachable limit n h) : h.queued = h.inFlight := by
  induction hr with
  | refl => exact queued_initial n
  | tail _ hm ih =>
      obtain ⟨a, hs⟩ := hm
      exact queued_step ih hs

end InFlight

end HandOff

/-! ## The recorder's steps as runs of atomic steps -/

namespace Recorder

/-- What the recorder shows of the hand-off between its calls: every worker outside a sample and
the feeder holding nothing. -/
def handOff (r : Recorder σ) : HandOff :=
  { queued := r.queued, channel := r.feed, receiving := r.feeder.running,
    workers := List.replicate r.workers.length .idle, held := none }

section Steps

variable {r : Recorder σ}

abbrev Atomic (r : Recorder σ) : HandOff → HandOff → Prop :=
  Relation.ReflTransGen (HandOff.Moves r.options.maxQueued)

@[simp] theorem handOff_record (e : HealthEvent) : (r.record e).handOff = r.handOff := rfl

theorem handOff_worker {i : Nat} (hi : i < r.workers.length) :
    r.handOff.workers[i]? = some .idle := by
  simp [handOff, hi]

theorem handOff_set {i : Nat} (hi : i < r.workers.length) (p : Handing) :
    (r.handOff.setWorker i p).workers[i]? = some p := by
  simp [HandOff.setWorker, handOff, hi]

@[simp] theorem handOff_set_idle (i : Nat) (p : Handing) :
    (r.handOff.setWorker i p).setWorker i .idle = r.handOff := by
  simp [handOff, HandOff.setWorker, List.set_replicate_self]

theorem step_check_handOff {i : Nat} (hi : i < r.workers.length)
    (hlt : ¬r.options.maxQueued ≤ r.queued) :
    r.handOff.step r.options.maxQueued (.check i) = some (r.handOff.setWorker i .cleared) := by
  simp only [HandOff.step, handOff_worker hi]
  rw [if_neg (by simpa [handOff] using hlt)]

theorem atomic_skip {i : Nat} (hi : i < r.workers.length) (hlt : ¬r.options.maxQueued ≤ r.queued) :
    Atomic r r.handOff r.handOff := by
  refine .tail (.single ⟨.check i, step_check_handOff hi hlt⟩) ⟨.skip i, ?_⟩
  rw [HandOff.step_skip_of (handOff_set hi _), handOff_set_idle]

theorem atomic_count {i : Nat} (hi : i < r.workers.length) (hlt : ¬r.options.maxQueued ≤ r.queued)
    (s : Snapshot) :
    Atomic r r.handOff { r.handOff.setWorker i (.counted s) with queued := r.queued + 1 } := by
  refine .tail (.single ⟨.check i, step_check_handOff hi hlt⟩) ⟨.count i s, ?_⟩
  rw [HandOff.step_count_of s (handOff_set hi _), HandOff.setWorker_setWorker]
  rfl

/-- A call that samples one watcher is a run of atomic steps of a worker that stands outside a
sample: a throttled sample is a check of the counter that changes nothing, a snapshot is counted
and sent, or counted and the count taken back when the feeder refuses it, and any other outcome
reads no snapshot. -/
theorem sampleWatcher_steps (w : Watcher) (time : Millis) {i : Nat} (hi : i < r.workers.length) :
    Atomic r r.handOff (r.sampleWatcher w time).1.handOff := by
  unfold sampleWatcher
  split
  · exact .refl
  · split
    · rename_i hle
      refine .single ⟨.check i, ?_⟩
      simp only [HandOff.step, handOff_worker hi, handOff_record]
      rw [if_pos (by simpa [handOff] using hle)]
    · rename_i hlt
      split
      · rename_i s _
        have hcounted : ({ r.handOff.setWorker i (.counted s) with queued := r.queued + 1 } :
            HandOff).workers[i]? = some (.counted s) := handOff_set hi _
        have hsend : HandOff.step r.options.maxQueued
            { r.handOff.setWorker i (.counted s) with queued := r.queued + 1 } (.send i) = _ :=
          HandOff.step_send_of hcounted
        unfold sendFeeder
        by_cases hrun : r.feeder.running = true
        · refine (atomic_count hi hlt s).tail ⟨.send i, ?_⟩
          rw [hsend]
          simp [hrun, handOff, HandOff.setWorker, List.set_replicate_self, record]
        · -- the stopped feeder refuses the snapshot, and the count is taken back
          have hrefused : (({ r.handOff.setWorker i (.counted s) with queued := r.queued + 1 } :
              HandOff).setWorker i .refused).workers[i]? = some .refused := by
            simp [HandOff.setWorker, handOff, hi]
          refine ((atomic_count hi hlt s).tail ⟨.send i, hsend⟩).tail ⟨.lower i, ?_⟩
          rw [if_neg (by simpa [handOff] using hrun), HandOff.step_lower_of hrefused]
          simp [hrun, handOff, HandOff.setWorker, List.set_replicate_self]
      · exact atomic_skip hi hlt
      · exact atomic_skip hi hlt
      · exact atomic_skip hi hlt

variable [Store.Engine σ]

@[simp] theorem receive_workers (m : FeederMessage) (rest : List FeederMessage) :
    (r.receive m rest).workers = r.workers := rfl

/-- The feeder's receipt of the head of its channel is a run of its atomic steps: a snapshot is
received and then taken off the counter as it is written, and any other message is received and
handled. -/
theorem receive_steps {m : FeederMessage} {rest : List FeederMessage}
    (hrun : r.feeder.running = true) (hfeed : r.feed = m :: rest) :
    Atomic r r.handOff (r.receive m rest).handOff := by
  have hr : r.handOff.receiving = true := hrun
  have hh : r.handOff.held = none := rfl
  cases hm : m.isSnapshot with
  | false =>
      refine .single ⟨.receive, ?_⟩
      rw [HandOff.step_receive_other hr hh hfeed hm]
      rcases receive_cases r m rest with ⟨hs, hstop, -⟩ | ⟨hs, -, -⟩ | ⟨hs, hsame, -⟩
      · simp [handOff, hs, hstop, hm]
      · simp [hm] at hs
      · simp [handOff, hs, hsame, hrun, hm]
  | true =>
      cases m with
      | snapshot s =>
          -- the write after the counter was lowered may overflow and stop the feeder
          have hc : r.handOff.channel = .snapshot s :: rest := hfeed
          refine .tail (.single ⟨.receive, HandOff.step_receive_snapshot hr hh hc⟩)
            ⟨.release !(r.receive (.snapshot s) rest).feeder.running, ?_⟩
          rw [HandOff.step_release_of _ rfl]
          rcases receive_cases r (.snapshot s) rest with ⟨hs, -, -⟩ | ⟨-, hstop, -⟩ | ⟨-, hsame, -⟩
          · simp [FeederMessage.isShutdown] at hs
          · simp [handOff, hstop, hrun, FeederMessage.isSnapshot]
          · simp [handOff, hsame, hrun, FeederMessage.isSnapshot]
      | _ => simp [FeederMessage.isSnapshot] at hm

end Steps

/-! ## Every run is a run of atomic steps -/

section Runs

variable {r r' : Recorder σ}

theorem handOff_setWorker (r : Recorder σ) (i : Nat) (w : Worker) :
    (r.setWorker i w).handOff = r.handOff := by
  simp [handOff, setWorker]

theorem handOff_eq_of_feedView (hv : r'.feedView = r.feedView)
    (hl : r'.workers.length = r.workers.length) : r'.handOff = r.handOff := by
  simp only [feedView, Prod.mk.injEq] at hv
  simp [handOff, hv, hl]

theorem Atomic.of_options {r₁ : Recorder σ} (ho : r₁.options = r.options) {a b : HandOff}
    (h : Atomic r₁ a b) : Atomic r a b := by
  show Relation.ReflTransGen (HandOff.Moves r.options.maxQueued) a b
  rw [← ho]
  exact h

theorem Sends.atomic {ms : List FeederMessage} (hs : Sends r r' ms) (hq : r'.queued = r.queued)
    (hl : r'.workers.length = r.workers.length) : Atomic r r.handOff r'.handOff := by
  have hns : ∀ m ∈ ms, m.isSnapshot = false := by
    have hc := hs.queued
    rw [hq] at hc
    intro m hm
    simpa using List.countP_eq_zero.1 (by omega) m hm
  cases hrun : r.feeder.running with
  | false =>
      have he : r'.handOff = r.handOff := by
        simp [handOff, hs.feed, hs.feeder, hs.stopped hrun, hq, hl]
      rw [he]
  | true =>
      have he : r'.handOff = { r.handOff with channel := r.handOff.channel ++ ms } := by
        simp [handOff, hs.feed, hs.feeder, hq, hl]
      rw [he]
      exact HandOff.posts hns r.handOff hrun

theorem sendFeeder_atomic {m : FeederMessage} (hm : m.isSnapshot = false) :
    Atomic r r.handOff (r.sendFeeder m).1.handOff := by
  refine .single ⟨.post m, ?_⟩
  rw [HandOff.step_post_of hm, sendFeeder_shape]
  cases hrun : r.feeder.running <;> simp [handOff, hrun]

theorem sampleAll_atomic (time : Millis) {i : Nat} :
    ∀ (ws : List Watcher) (r : Recorder σ), i < r.workers.length →
      Atomic r r.handOff (sampleAll time r ws).1.handOff
  | [], _, _ => .refl
  | w :: ws, r, hi => by
      have hstep := sampleWatcher_steps w time hi
      obtain ⟨ex, q, fd, st, hshape⟩ := sampleWatcher_shape r w time
      rw [sampleAll]
      rcases hcall : r.sampleWatcher w time with ⟨r₁, site | keep⟩
      · rw [hcall] at hstep
        exact hstep
      · rw [hcall] at hstep hshape
        dsimp only at hstep hshape ⊢
        have hrest := sampleAll_atomic time ws r₁ (by rw [hshape]; exact hi)
        rcases hall : sampleAll time r₁ ws with ⟨r₂, rest⟩
        rw [hall] at hrest
        exact hstep.trans (hrest.of_options (by rw [hshape]))

theorem tick_queued (r : Recorder σ) (time : Millis) : (r.tick time).queued = r.queued := by
  cases hc : r.closed with
  | true => simp [tick, hc]
  | false =>
      obtain ⟨r₁, ms, rfl, -, htick⟩ := tick_eq time hc
      rw [htick]
      have hv : ((if r.drainExits.1.isWholeSystem then r.drainExits.1.discover.1
          else r.drainExits.1).broadcast (.sample time)).feedView = r.feedView := by
        split <;> simp
      simp only [feedView, Prod.mk.injEq] at hv
      exact hv.2.2.2.2.2.2

theorem release_atomic (r : Recorder σ) (w : PipeWrite) :
    Atomic r r.handOff (r.release w.path w.content w.after).handOff := by
  refine (release_induction (fun r' => r'.options = r.options ∧
      r'.workers.length = r.workers.length ∧ Atomic r r.handOff r'.handOff)
    r w.path w.content w.after ⟨rfl, rfl, .refl⟩ ?_).2.2
  rintro r₁ i wk w' ⟨ho, hl, hrun⟩ - -
  obtain ⟨ms, hs⟩ := sends_startWatcher r₁ (r.tree.write w.path.parts w.content) w'
  obtain ⟨ex, fd, st, hshape, -⟩ := startWatcher_shape r₁ (r.tree.write w.path.parts w.content) w'
  have hstart := hs.atomic (by rw [hshape]) (by rw [hshape])
  rw [hshape] at hstart ⊢
  refine ⟨ho, by simp [setWorker, hl], ?_⟩
  rw [handOff_setWorker]
  exact hrun.trans (hstart.of_options ho)

theorem start_options (o : Options) (tree : FileTree) (store : Store.Handle σ) :
    (start o tree store).options = o :=
  (keepsOptions_foldl_watch o.pids _).options

theorem start_handOff (o : Options) (tree : FileTree) (store : Store.Handle σ) :
    (start o tree store).handOff = HandOff.initial (max o.workers 1) := by
  let r₀ : Recorder σ :=
    { options := o, tree := tree, workers := List.replicate (max o.workers 1) {},
      feeder := { store := store } }
  rw [start, handOff_eq_of_feedView (feedView_foldl_watch o.pids r₀)
    (keepsFinished_foldl_watch o.pids r₀).length]
  simp [handOff, HandOff.initial, r₀]

theorem workerStep_atomic {i : Nat} (h : r.workerStep i = some r') :
    Atomic r r.handOff r'.handOff := by
  obtain ⟨wk, c, wk', hw, hf, hwait, hn⟩ := workerStep_eq_some h
  have hi : i < r.workers.length := (List.getElem?_eq_some_iff.1 hw).1
  cases c with
  | watch pid =>
      rcases workerStep_watch_cases hw hn h with ⟨-, rfl⟩ | ⟨-, rfl⟩
      · rw [handOff_setWorker]
      · -- starting the watcher announces its process
        set w := Watcher.new r.tree r.options.root pid
        obtain ⟨ms, hs⟩ := sends_startWatcher r r.tree w
        obtain ⟨ex, fd, st, hshape, -⟩ := startWatcher_shape r r.tree w
        rw [handOff_setWorker]
        exact hs.atomic (by rw [hshape]) (by rw [hshape])
  | sample time =>
      rcases workerStep_sample_cases hw hn h with ⟨-, rfl⟩ | ⟨-, r₁, kept, hall, rfl⟩ |
        ⟨-, r₁, site, hall, rfl⟩
      · rw [handOff_record, handOff_setWorker]
      · have hrun := sampleAll_atomic time wk.watchers r hi
        rw [hall] at hrun
        rw [handOff_setWorker]
        exact hrun
      · -- the worker stops at the overflow, and what it sampled before stays sent
        have hrun := sampleAll_atomic time wk.watchers r hi
        rw [hall] at hrun
        exact (handOff_setWorker r₁ i _).symm ▸ hrun
  | dispose | stop =>
      simp only [workerStep, hw, hf, hwait, hn, Bool.or_false, Bool.false_eq_true, if_false,
        Option.isSome_none, Option.some.injEq] at h
      subst h
      rw [handOff_setWorker]

variable [Store.Engine σ]

theorem Threads.atomic (h : Threads r r') : Atomic r r.handOff r'.handOff := by
  induction h with
  | refl => exact .refl
  | worker i hs _ ih =>
      exact (workerStep_atomic hs).trans (ih.of_options (keepsOptions_workerStep hs).options)
  | feeder hs _ ih =>
      obtain ⟨m, rest, hrun, hfeed, rfl⟩ := feederStep_shape hs
      exact (receive_steps hrun hfeed).trans ih

theorem close_atomic (r : Recorder σ) : Atomic r r.handOff r.close.1.handOff := by
  cases hc : r.closed with
  | true => rw [close_closed r hc]
  | false =>
      obtain ⟨rcv, k, r', hw, hclose⟩ := close_waits hc
      rw [hclose]
      have hstop : r.stopping.handOff = r.handOff := by
        simp [stopping, handOff, broadcast_eq]
      have hopt : r.stopping.options = r.options := by simp [stopping, broadcast_eq]
      have hth := hw.feeding.threads
      have hwait : Atomic r r.handOff r'.handOff := hstop ▸ hth.atomic.of_options hopt
      have hfin : Atomic r' r'.handOff r'.finishClose.handOff :=
        sendFeeder_atomic (r := { r' with tracked := [] }) rfl
      exact hwait.trans (hfin.of_options (hth.keepsOptions.options.trans hopt))

/-- Every move of a recording is a run of the atomic steps of its threads. -/
theorem Step.atomic {new : List (Int32 × Nat)} (h : Step r new r') :
    Atomic r r.handOff r'.handOff := by
  cases h with
  | tick time =>
      obtain ⟨ms, hs⟩ := sends_tick r time
      exact hs.atomic (tick_queued r time) (keepsFinished_tick r time).length
  | discover =>
      rw [handOff_eq_of_feedView (feedView_discover r) (Step.discover r).keepsFinished.length]
  | close => exact close_atomic r
  | worker i hs => exact workerStep_atomic hs
  | feeder hs =>
      obtain ⟨m, rest, hrun, hfeed, rfl⟩ := feederStep_shape hs
      exact receive_steps hrun hfeed
  | proc tree => exact .refl
  | release w => exact release_atomic r w

/-- In every state of every run from the start of a recording, what it shows of the hand-off is a
state that the atomic steps of its workers and its feeder reach from the start in some
interleaving. -/
theorem Run.handOff_reachable {o : Options} {tree : FileTree} {store : Store.Handle σ}
    {added : List (Int32 × Nat)} (h : Run (start o tree store) added r) :
    HandOff.Reachable o.maxQueued (max o.workers 1) r.handOff := by
  induction h with
  | refl =>
      rw [start_handOff]
      exact .refl
  | @step _ _ r₁ _ hrun hs ih =>
      have ho : r₁.options = o := hrun.keepsOptions.options.trans (start_options o tree store)
      exact ih.trans (ho ▸ hs.atomic)

/-- In every state of every run from the start of a recording, the count of snapshots in flight is
the number of snapshots waiting in the feeder's channel, whether the feeder still runs or not. -/
theorem Run.queued_eq_waiting {o : Options} {tree : FileTree} {store : Store.Handle σ}
    {added : List (Int32 × Nat)} (h : Run (start o tree store) added r) :
    r.queued = r.feed.countP FeederMessage.isSnapshot := by
  have hq := (Run.handOff_reachable h).queued_eq
  simpa [handOff, HandOff.inFlight, List.countP_replicate, Handing.holding] using hq

end Runs

end Recorder

end Pipeline
end MemoryRecorder
