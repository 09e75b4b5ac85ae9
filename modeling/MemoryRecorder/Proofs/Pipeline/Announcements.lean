import Mathlib
import MemoryRecorder.Proofs.Pipeline.Shutdown
/-!
# Announcements come first

A worker that starts a watcher announces its process to the feeder, with the name it read, before
the watcher joins the worker's watchers; only those watchers are sampled, and every message to the
feeder joins the back of its one channel. So whatever the interleaving of the threads, the feeder
receives an announcement of each process before any snapshot of it. A snapshot asks the store for
its process row under the empty name, an announcement under the name it carries, and the store
keeps the row of the first request under an id: so the first row requested under any id is an
announcement's, never the empty name of a snapshot.

Every labelled move keeps the invariant `AnnouncedBefore` (`AnnouncedBefore.delivers`), so it holds
in every run of a recording labelled with what the feeder receives (`announced_before_snapshots`).
-/

namespace MemoryRecorder
namespace Pipeline

variable {σ : Type}

/-! ## Announcements in a sequence of messages -/

def Announced (p : ProcessId) (ms : List FeederMessage) : Prop :=
  ∃ name, FeederMessage.announced p name ∈ ms

/-- Every snapshot in `ms` comes after an announcement of its process. -/
def AnnouncedFirst (ms : List FeederMessage) : Prop :=
  ∀ pre s post, ms = pre ++ FeederMessage.snapshot s :: post → Announced s.process pre

/-- The process row a message asks the store for, to be inserted unless its id is there: an
announcement's under the name it carries, a snapshot's under the empty name. -/
def FeederMessage.processRow : FeederMessage → Option (ProcessId × String)
  | .announced p name => some (p, name)
  | .snapshot s => some (s.process, "")
  | _ => none

def FeederMessage.announcement : FeederMessage → Option (ProcessId × String)
  | .announced p name => some (p, name)
  | _ => none

section Order

variable {p : ProcessId} {ms ms' : List FeederMessage}

theorem Announced.mono (h : Announced p ms) (hp : ms <+: ms') : Announced p ms' := by
  obtain ⟨name, hn⟩ := h
  exact ⟨name, hp.subset hn⟩

theorem AnnouncedFirst.nil : AnnouncedFirst [] := by
  intro pre s post h
  simp at h

theorem AnnouncedFirst.of_prefix (h : AnnouncedFirst ms') (hp : ms <+: ms') : AnnouncedFirst ms := by
  obtain ⟨t, rfl⟩ := hp
  intro pre s post heq
  exact h pre s (post ++ t) (by rw [heq]; simp)

theorem AnnouncedFirst.snoc {m : FeederMessage} (h : AnnouncedFirst ms)
    (hm : ∀ s, m = .snapshot s → Announced s.process ms) : AnnouncedFirst (ms ++ [m]) := by
  intro pre s post heq
  rcases List.eq_nil_or_concat post with rfl | ⟨post', b, rfl⟩
  · -- the message that joined is the snapshot
    obtain ⟨rfl, rfl⟩ := List.append_singleton_inj.1 heq
    exact hm s rfl
  · rw [List.concat_eq_append] at heq
    have heq' : ms ++ [m] = (pre ++ FeederMessage.snapshot s :: post') ++ [b] := by
      rw [heq]; simp
    exact h pre s post' (List.append_singleton_inj.1 heq').1

theorem AnnouncedFirst.append_of_not_snapshot (h : AnnouncedFirst ms)
    (hms : ∀ m ∈ ms', m.isSnapshot = false) : AnnouncedFirst (ms ++ ms') := by
  induction ms' generalizing ms with
  | nil => simpa using h
  | cons m ms' ih =>
      have hm : ∀ s, m = .snapshot s → Announced s.process ms := fun s hs => by
        simpa [hs, FeederMessage.isSnapshot] using hms m (List.mem_cons_self ..)
      have := ih (h.snoc hm) fun m' hm' => hms m' (List.mem_cons_of_mem _ hm')
      simpa using this

/-- When every snapshot comes after an announcement of its process, the first row requested for
any of a set of processes is the first announcement of one of them. -/
theorem AnnouncedFirst.find?_processRow (h : AnnouncedFirst ms) (q : ProcessId → Bool) :
    (ms.filterMap FeederMessage.processRow).find? (fun e => q e.1) =
      (ms.filterMap FeederMessage.announcement).find? (fun e => q e.1) := by
  induction ms using List.reverseRecOn with
  | nil => rfl
  | append_singleton ms m ih =>
      rw [List.filterMap_append, List.filterMap_append, List.find?_append, List.find?_append,
        ih (h.of_prefix (List.prefix_append ms [m]))]
      cases hf : (ms.filterMap FeederMessage.announcement).find? (fun e => q e.1) with
      | some e => rfl
      | none =>
          cases m with
          | snapshot s =>
              -- the announcement before the snapshot would have been found first
              obtain ⟨name, hn⟩ := h ms s [] rfl
              have hq : q s.process = false := by
                have hmem : (s.process, name) ∈ ms.filterMap FeederMessage.announcement :=
                  List.mem_filterMap.2 ⟨_, hn, rfl⟩
                simpa using List.find?_eq_none.1 hf _ hmem
              simp [FeederMessage.processRow, FeederMessage.announcement, hq]
          | _ => simp [FeederMessage.processRow, FeederMessage.announcement]

end Order

theorem Watcher.sample_snapshot {t : FileTree} {w : Watcher} {time : Millis} {s : Snapshot}
    (h : w.sample t time = .ok (.snapshot s)) : s.process = w.process := by
  unfold Watcher.sample at h
  split at h
  · cases h
  · split at h
    · cases h
    · -- past the two exit checks a snapshot is built from the watcher's process
      revert h
      cases readStatm t (w.dir.join "statm") <;> split <;> (try split) <;> simp
      all_goals (intro h; rw [← h])

namespace Recorder

/-! ## Where watchers come from -/

/-- Every watcher of a worker of `r'` is a watcher of a worker of `r`. -/
def WatchersFrom (r r' : Recorder σ) : Prop :=
  ∀ wk' ∈ r'.workers, ∀ w ∈ wk'.watchers, ∃ wk ∈ r.workers, w ∈ wk.watchers

namespace WatchersFrom

variable {r r₁ r₂ : Recorder σ}

theorem refl (r : Recorder σ) : WatchersFrom r r := fun wk hwk _ hw => ⟨wk, hwk, hw⟩

theorem trans (h₁ : WatchersFrom r r₁) (h₂ : WatchersFrom r₁ r₂) : WatchersFrom r r₂ :=
  fun wk hwk w hw => by
    obtain ⟨wk₁, hwk₁, hw₁⟩ := h₂ wk hwk w hw
    exact h₁ wk₁ hwk₁ w hw₁

theorem of_workers (h : r₁.workers = r.workers) : WatchersFrom r r₁ := by
  intro wk hwk w hw
  exact ⟨wk, h ▸ hwk, hw⟩

theorem set {i : Nat} {wk w : Worker} (hw : r.workers[i]? = some wk)
    (hsub : ∀ x ∈ w.watchers, x ∈ wk.watchers) (h : r₁.workers = r.workers.set i w) :
    WatchersFrom r r₁ := by
  intro wk' hwk' x hx
  rw [h] at hwk'
  rcases List.mem_or_eq_of_mem_set hwk' with hmem | rfl
  · exact ⟨wk', hmem, hx⟩
  · exact ⟨wk, List.mem_of_getElem? hw, hsub x hx⟩

theorem map {f : Worker → Worker} (hf : ∀ wk, (f wk).watchers = wk.watchers)
    (h : r₁.workers = r.workers.map f) : WatchersFrom r r₁ := by
  intro wk' hwk' x hx
  rw [h] at hwk'
  obtain ⟨wk, hwk, rfl⟩ := List.mem_map.1 hwk'
  exact ⟨wk, hwk, hf wk ▸ hx⟩

end WatchersFrom

theorem watchersFrom_sendWorker (r : Recorder σ) (i : Nat) (c : Command) :
    WatchersFrom r (r.sendWorker i c).1 := by
  unfold sendWorker
  split
  · rename_i wk hw
    split
    · exact .refl r
    · -- the command joins the worker's channel, and its watchers stay
      exact .set (w := wk.push c) hw (fun x hx => hx) rfl
  · exact .refl r

theorem watchersFrom_watch (r : Recorder σ) (pid : Int32) : WatchersFrom r (r.watch pid) := by
  unfold watch
  split
  · exact .refl r
  · have h := watchersFrom_sendWorker { r with nextWorker := r.nextWorker + 1 }
      (r.nextWorker % r.workers.length) (.watch pid)
    simp only
    split <;> rename_i r' hs <;> rw [hs] at h <;> exact h

theorem watchersFrom_foldl_watch (pids : List Int32) :
    ∀ r : Recorder σ, WatchersFrom r (pids.foldl (fun r pid => r.watch pid) r) := by
  induction pids with
  | nil => exact WatchersFrom.refl
  | cons pid pids ih => exact fun r => (watchersFrom_watch r pid).trans (ih _)

theorem watchersFrom_broadcast (r : Recorder σ) (c : Command) : WatchersFrom r (r.broadcast c) :=
  .map (Worker.offer_watchers c) (by rw [broadcast_eq])

/-! ## The invariant -/

/-- What a recording keeps about announcements, `rcv` being what the feeder received so far:
everything sent to the feeder announces each process before any snapshot of it, and while the
feeder runs, the process of every watcher that a worker samples has been announced. -/
structure AnnouncedBefore (rcv : List FeederMessage) (r : Recorder σ) : Prop where
  sent : AnnouncedFirst (rcv ++ r.feed)
  watched : r.feeder.running = true → ∀ wk ∈ r.workers, ∀ w ∈ wk.watchers,
    Announced w.process (rcv ++ r.feed)

section Invariant

variable {rcv : List FeederMessage} {r r' : Recorder σ}

theorem AnnouncedBefore.keep (inv : AnnouncedBefore rcv r) (hfeed : r'.feed = r.feed)
    (hrun : r'.feeder.running = true → r.feeder.running = true) (hw : WatchersFrom r r') :
    AnnouncedBefore rcv r' where
  sent := hfeed ▸ inv.sent
  watched := fun h wk' hwk' w hx => by
    obtain ⟨wk, hwk, hx'⟩ := hw wk' hwk' w hx
    exact hfeed ▸ inv.watched (hrun h) wk hwk w hx'

/-- A send keeps the invariant when a snapshot sent to the running feeder is of an announced
process. -/
theorem AnnouncedBefore.send (inv : AnnouncedBefore rcv r) {m : FeederMessage}
    (hm : ∀ s, m = .snapshot s → r.feeder.running = true → Announced s.process (rcv ++ r.feed)) :
    AnnouncedBefore rcv (r.sendFeeder m).1 := by
  rw [sendFeeder_shape]
  by_cases hrun : r.feeder.running = true
  · simp only [hrun, if_true]
    have hp : rcv ++ r.feed <+: rcv ++ (r.feed ++ [m]) := ⟨[m], by simp⟩
    refine ⟨?_, fun _ wk hwk w hw => (inv.watched hrun wk hwk w hw).mono hp⟩
    rw [← List.append_assoc]
    exact inv.sent.snoc fun s hs => hm s hs hrun
  · simp only [hrun, Bool.false_eq_true, if_false]
    exact inv

/-- Starting a watcher keeps the invariant, and while the feeder runs, the watcher started is of an
announced process. -/
theorem AnnouncedBefore.startWatcher (inv : AnnouncedBefore rcv r) (seen : FileTree) (w : Watcher) :
    AnnouncedBefore rcv (r.startWatcher seen w).1 ∧
      ((r.startWatcher seen w).1.feeder.running = true → ∀ w' ∈ (r.startWatcher seen w).2.toList,
        Announced w'.process (rcv ++ (r.startWatcher seen w).1.feed)) := by
  have hproc : (w.init seen).1.process = w.process := by
    unfold Watcher.init; split <;> rfl
  unfold Recorder.startWatcher
  dsimp only
  split
  · exact ⟨inv.keep rfl id (.of_workers rfl), fun _ w' hw' => by simp at hw'⟩
  · -- the announcement is sent before the watcher is handed back
    have inv₁ : AnnouncedBefore rcv ((if (w.init seen).1.accessible then r
        else r.record .processInaccessible).record .processStarted) := by
      split <;> exact inv.keep rfl id (.of_workers rfl)
    refine ⟨inv₁.send (fun s hs _ => by cases hs), fun hrun w' hw' => ?_⟩
    simp only [Option.toList_some, List.mem_singleton] at hw'
    subst hw'
    rw [sendFeeder_shape] at hrun ⊢
    simp only at hrun
    rw [if_pos hrun, hproc]
    exact ⟨_, List.mem_append_right _ (List.mem_append_right _ (List.mem_singleton_self _))⟩

theorem AnnouncedBefore.sampleWatcher (inv : AnnouncedBefore rcv r) (w : Watcher) (time : Millis)
    (hw : r.feeder.running = true → Announced w.process (rcv ++ r.feed)) :
    AnnouncedBefore rcv (r.sampleWatcher w time).1 := by
  unfold Recorder.sampleWatcher
  split
  · exact inv.keep rfl id (.of_workers rfl)
  · split
    · exact inv.keep rfl id (.of_workers rfl)
    · split
      · rename_i s hs
        have inv₁ : AnnouncedBefore rcv (({ r with queued := r.queued + 1 } : Recorder σ).sendFeeder
            (.snapshot s)).1 := by
          have inv₀ : AnnouncedBefore rcv { r with queued := r.queued + 1 } :=
            inv.keep rfl id (.of_workers rfl)
          refine inv₀.send fun s' hs' hrun => ?_
          cases hs'
          rw [Watcher.sample_snapshot hs]
          exact hw hrun
        rcases hsend : ({ r with queued := r.queued + 1 } : Recorder σ).sendFeeder (.snapshot s)
          with ⟨r', sent⟩
        rw [hsend] at inv₁
        cases sent
        · exact inv₁.keep rfl id (.of_workers rfl)
        · exact inv₁.keep rfl id (.of_workers rfl)
      · exact inv.keep rfl id (.of_workers rfl)
      · exact inv
      · exact inv.keep rfl id (.of_workers rfl)

theorem AnnouncedBefore.sampleAll (time : Millis) (ws : List Watcher) :
    ∀ r : Recorder σ, AnnouncedBefore rcv r →
      (r.feeder.running = true → ∀ w ∈ ws, Announced w.process (rcv ++ r.feed)) →
      AnnouncedBefore rcv (sampleAll time r ws).1 := by
  induction ws with
  | nil => exact fun r inv _ => inv
  | cons w ws ih =>
      intro r inv hws
      have inv₁ := inv.sampleWatcher w time fun h => hws h w (List.mem_cons_self ..)
      obtain ⟨ms, hs⟩ := sends_sampleWatcher r w time
      rw [Recorder.sampleAll]
      rcases hcall : r.sampleWatcher w time with ⟨r₁, site | keep⟩
      · rw [hcall] at inv₁
        exact inv₁
      · rw [hcall] at inv₁ hs
        dsimp only
        -- the feeder stood still and its channel only grew
        refine ih r₁ inv₁ fun hrun w' hw' => ?_
        rw [hs.feeder] at hrun
        exact (hws hrun w' (List.mem_cons_of_mem _ hw')).mono ⟨ms, by rw [hs.feed]; simp⟩

theorem AnnouncedBefore.setWorker (inv : AnnouncedBefore rcv r) (i : Nat) (w : Worker)
    (hw : r.feeder.running = true → ∀ x ∈ w.watchers, Announced x.process (rcv ++ r.feed)) :
    AnnouncedBefore rcv (r.setWorker i w) := by
  refine ⟨inv.sent, fun hrun wk hwk x hx => ?_⟩
  rcases List.mem_or_eq_of_mem_set hwk with hmem | rfl
  · exact inv.watched hrun wk hmem x hx
  · exact hw hrun x hx

theorem Sampled.sublist {time : Millis} {r r' : Recorder σ} {ws kept : List Watcher}
    (h : Sampled time r ws r' kept) : kept.Sublist ws := by
  induction h with
  | nil => exact .slnil
  | cons _ _ _ ih =>
      split
      · exact ih.cons_cons _
      · exact ih.cons _

theorem AnnouncedBefore.workerStep (inv : AnnouncedBefore rcv r) {i : Nat}
    (h : r.workerStep i = some r') : AnnouncedBefore rcv r' := by
  obtain ⟨wk, c, wk', hw, hf, hwait, hn⟩ := workerStep_eq_some h
  obtain ⟨hwatchers, -, -⟩ := Worker.next?_fields hn
  have hwk : wk ∈ r.workers := List.mem_of_getElem? hw
  have hown : r.feeder.running = true → ∀ x ∈ wk.watchers, Announced x.process (rcv ++ r.feed) :=
    fun hrun x hx => inv.watched hrun wk hwk x hx
  cases c with
  | watch pid =>
      rcases workerStep_watch_cases hw hn h with ⟨-, rfl⟩ | ⟨-, rfl⟩
      · exact inv.setWorker i _ (hwatchers ▸ hown)
      · obtain ⟨inv₁, hnew⟩ := inv.startWatcher r.tree (Watcher.new r.tree r.options.root pid)
        refine inv₁.setWorker i _ fun hrun x hx => ?_
        rcases List.mem_append.1 hx with hx | hx
        · have := inv₁.watched hrun wk (by rw [startWatcher_workers]; exact hwk) x
          exact this (hwatchers ▸ hx)
        · exact hnew hrun x hx
  | sample time =>
      rcases workerStep_sample_cases hw hn h with ⟨-, rfl⟩ | ⟨-, r₁, kept, hall, rfl⟩ |
        ⟨-, r₁, site, hall, rfl⟩
      · exact (inv.setWorker i _ (hwatchers ▸ hown)).keep rfl id (.of_workers rfl)
      · have inv₁ := AnnouncedBefore.sampleAll time wk.watchers r inv hown
        rw [hall] at inv₁
        have hw₁ := sampleAll_workers time wk.watchers r
        rw [hall] at hw₁
        refine inv₁.setWorker i _ fun hrun x hx => ?_
        have hx' : x ∈ wk.watchers := (Sampled.sublist (sampleAll_eq_ok hall)).subset hx
        exact inv₁.watched hrun wk (hw₁ ▸ hwk) x hx'
      · have inv₁ := AnnouncedBefore.sampleAll time wk.watchers r inv hown
        rw [hall] at inv₁
        exact (inv₁.setWorker i _ fun _ x hx => by simp at hx).keep rfl id (.of_workers rfl)
  | dispose =>
      simp only [Recorder.workerStep, hw, hf, hwait, hn, Bool.or_false, Bool.false_eq_true, if_false,
        Option.isSome_none, Option.some.injEq] at h
      subst h
      exact inv.setWorker i _ fun _ x hx => by simp at hx
  | stop =>
      simp only [Recorder.workerStep, hw, hf, hwait, hn, Bool.or_false, Bool.false_eq_true, if_false,
        Option.isSome_none, Option.some.injEq] at h
      subst h
      exact inv.setWorker i _ (hwatchers ▸ hown)

theorem AnnouncedBefore.of_feedView (inv : AnnouncedBefore rcv r) (hv : r'.feedView = r.feedView)
    (hw : WatchersFrom r r') : AnnouncedBefore rcv r' := by
  simp only [feedView, Prod.mk.injEq] at hv
  exact inv.keep hv.2.2.1 (fun h => by rw [← hv.2.1]; exact h) hw

theorem AnnouncedBefore.discover (inv : AnnouncedBefore rcv r) : AnnouncedBefore rcv r.discover.1 :=
  inv.of_feedView (feedView_discover r) (by rw [discover_fst]; exact watchersFrom_foldl_watch _ r)

theorem AnnouncedBefore.tick (inv : AnnouncedBefore rcv r) (time : Millis) :
    AnnouncedBefore rcv (r.tick time) := by
  cases hc : r.closed with
  | true => rwa [show r.tick time = r by simp [Recorder.tick, hc]]
  | false =>
      obtain ⟨r₁, ms, hr₁, hms, htick⟩ := tick_eq time hc
      have inv₁ : AnnouncedBefore rcv r₁ := by
        rw [hr₁]
        have hd : WatchersFrom r r.drainExits.1 := .of_workers (by rw [drainExits_eq])
        split
        · exact (inv.of_feedView (by simp) (hd.trans (by
            rw [discover_fst]; exact watchersFrom_foldl_watch _ _))).of_feedView (by simp)
            (watchersFrom_broadcast _ _)
        · exact (inv.of_feedView (by simp) hd).of_feedView (by simp) (watchersFrom_broadcast _ _)
      rw [htick]
      refine ⟨?_, fun hrun wk hwk w hw => (inv₁.watched hrun wk hwk w hw).mono ⟨ms, by simp⟩⟩
      rw [← List.append_assoc]
      exact inv₁.sent.append_of_not_snapshot fun m hm => by
        obtain ⟨s, rfl⟩ := hms m hm
        rfl

theorem AnnouncedBefore.release (inv : AnnouncedBefore rcv r) (w : PipeWrite) :
    AnnouncedBefore rcv (r.release w.path w.content w.after) := by
  apply release_induction (AnnouncedBefore rcv) r w.path w.content w.after
    (inv.keep rfl id (.of_workers rfl))
  intro r₁ i wk W inv₁ hw _
  obtain ⟨inv₂, hnew⟩ := inv₁.startWatcher (r.tree.write w.path.parts w.content) W
  refine inv₂.setWorker i _ fun hrun x hx => ?_
  rcases List.mem_append.1 hx with hx | hx
  · exact inv₂.watched hrun wk (by rw [startWatcher_workers]; exact List.mem_of_getElem? hw) x hx
  · exact hnew hrun x hx

theorem announcedBefore_start (o : Options) (tree : FileTree) (store : Store.Handle σ) :
    AnnouncedBefore [] (start o tree store) := by
  have hv := feedView_foldl_watch o.pids
    { options := o, tree := tree, workers := List.replicate (max o.workers 1) {},
      feeder := { store := store } }
  simp only [feedView, Prod.mk.injEq] at hv
  refine ⟨?_, fun _ wk hwk w hw => ?_⟩
  · rw [Recorder.start, List.nil_append, hv.2.2.1]
    exact AnnouncedFirst.nil
  · obtain ⟨wk₀, hwk₀, hw₀⟩ := watchersFrom_foldl_watch o.pids _ wk hwk w hw
    rw [(List.mem_replicate.1 hwk₀).2] at hw₀
    cases hw₀

end Invariant

/-! ## Runs labelled with what the feeder receives -/

section Delivery

variable [Store.Engine σ] {rcv : List FeederMessage} {r r' : Recorder σ}

/-- The feeder's receipt moves the head of its channel to what it received. -/
theorem AnnouncedBefore.receive (inv : AnnouncedBefore rcv r) {m : FeederMessage}
    {rest : List FeederMessage} (hfeed : r.feed = m :: rest) :
    AnnouncedBefore (rcv ++ [m]) (r.receive m rest) := by
  have hlog : rcv ++ [m] ++ (r.receive m rest).feed = rcv ++ r.feed := by
    rw [receive_feed, hfeed]
    simp
  -- the feeder never starts again
  have hrun : (r.receive m rest).feeder.running = true → r.feeder.running = true := by
    intro h
    rcases receive_cases r m rest with ⟨-, h', -⟩ | ⟨-, h', -⟩ | ⟨-, h', -⟩
    · rw [h'] at h; cases h
    · rw [h'] at h; cases h
    · rwa [← h']
  exact ⟨hlog ▸ inv.sent, fun h wk hwk w hw => hlog ▸ inv.watched (hrun h) wk hwk w hw⟩

theorem AnnouncedBefore.feeding {rcv' : List FeederMessage} (inv : AnnouncedBefore rcv r)
    (h : Feeding r rcv' r') : AnnouncedBefore (rcv ++ rcv') r' := by
  induction h generalizing rcv with
  | refl => simpa using inv
  | worker i hs _ ih => exact ih (inv.workerStep hs)
  | feeder _ hfeed _ ih => simpa using ih (inv.receive hfeed)

/-- A close keeps the invariant: it starts no watcher while the threads move during its wait, and
the shutdown it sends is no snapshot. -/
theorem AnnouncedBefore.close {rcv' : List FeederMessage} {r₁ : Recorder σ}
    (inv : AnnouncedBefore rcv r) (h : Feeding r.stopping rcv' r₁) :
    AnnouncedBefore (rcv ++ rcv') r₁.finishClose := by
  have inv₀ : AnnouncedBefore rcv { r with closed := true } := inv.keep rfl id (.of_workers rfl)
  have inv₁ : AnnouncedBefore rcv r.stopping :=
    inv₀.of_feedView (by simp [stopping]) ((watchersFrom_broadcast _ _).trans (watchersFrom_broadcast _ _))
  have inv₂ : AnnouncedBefore (rcv ++ rcv') { r₁ with tracked := [] } :=
    (inv₁.feeding h).keep rfl id (.of_workers rfl)
  exact inv₂.send fun s hs _ => by cases hs

theorem AnnouncedBefore.delivers {rcv' : List FeederMessage} (inv : AnnouncedBefore rcv r)
    (h : Delivers r rcv' r') : AnnouncedBefore (rcv ++ rcv') r' := by
  cases h with
  | threads hf => exact inv.feeding hf
  | tick time => simpa using inv.tick time
  | discover => simpa using inv.discover
  | proc tree =>
      have inv' : AnnouncedBefore rcv { r with tree := tree } := inv.keep rfl id (.of_workers rfl)
      simpa using inv'
  | release w => simpa using inv.release w
  | close _ hw => exact inv.close hw.feeding
  | closed => simpa using inv

theorem AnnouncedBefore.delivery {r₀ : Recorder σ} (h₀ : AnnouncedBefore [] r₀)
    (h : Delivery r₀ rcv r) : AnnouncedBefore rcv r := by
  induction h with
  | refl => exact h₀
  | step _ hs ih => exact ih.delivers hs

/-- In every run of a recording from its start, with any interleaving of the scheduler, the
workers and the feeder, every snapshot that the feeder received or that waits in its channel comes
after an announcement of its process: the feeder receives an announcement of each process before
any snapshot of it. So the first process row the feeder asks the store for under any id is an
announcement's, under the name it carries, and never a snapshot's under the empty name. -/
theorem announced_before_snapshots {o : Options} {tree : FileTree} {store : Store.Handle σ}
    {rcv : List FeederMessage} {r : Recorder σ} (h : Delivery (start o tree store) rcv r) :
    AnnouncedFirst (rcv ++ r.feed) ∧
      ∀ id : Int64,
        (rcv.filterMap FeederMessage.processRow).find? (fun e => e.1.hash.toInt64 == id) =
          (rcv.filterMap FeederMessage.announcement).find? (fun e => e.1.hash.toInt64 == id) := by
  have inv := (announcedBefore_start o tree store).delivery h
  refine ⟨inv.sent, fun id => ?_⟩
  exact (inv.sent.of_prefix (List.prefix_append _ _)).find?_processRow fun p => p.hash.toInt64 == id

end Delivery

end Recorder

end Pipeline
end MemoryRecorder
