import Mathlib.Control.Monad.Basic
import MemoryRecorder.Process.Watcher
import MemoryRecorder.Proofs.Text.Written
/-!
# What a sample of a watched process gives

A watcher is made for a pid below a proc root, with the identity of the process read then; it
learns the terminator of the process's mapping file once, at its start, and is accessible
exactly when that succeeded (`init_accessible_iff`). A sample taken later, on whatever the proc
root holds by then, checks four sources in a fixed order, and the first that decides wins:

* the mapping file is gone: the process exited;
* the pid now belongs to a process started at another time: it exited too, but only when both
  start times are known; a missing or unreadable `stat` never counts (`isReused_iff`);
* the watcher is accessible and its mapping file cannot be read: the sample fails;
* the page counters cannot be read: the sample fails.

Otherwise the sample is a snapshot of the watcher's process at the given time, with the mappings
read with the learned terminator when the watcher is accessible and none otherwise, the page
counters, and the OOM values (`sample_after_init`).
-/

namespace MemoryRecorder
namespace Watcher

variable {t : FileTree} {w : Watcher} {time : Millis}

/-! ## Starting a watcher -/

theorem new_process (t : FileTree) (root : Location) (pid : Int32) :
    (Watcher.new t root pid).process = ProcessId.read t root pid :=
  rfl

theorem new_dir (t : FileTree) (root : Location) (pid : Int32) :
    (Watcher.new t root pid).dir = root.join (toString pid.toInt) :=
  rfl

theorem init_of_ok {key : String} (h : discoverTerminator t w.smapsPath = .ok key) :
    (w.init t).1 = { w with terminator := some key, accessible := true } := by
  simp [init, h]

theorem init_of_error {e : ProcError} (h : discoverTerminator t w.smapsPath = .error e) :
    (w.init t).1 = { w with accessible := false } := by
  simp [init, h]

@[simp]
theorem init_process (t : FileTree) (w : Watcher) : (w.init t).1.process = w.process := by
  unfold init
  split <;> rfl

@[simp]
theorem init_dir (t : FileTree) (w : Watcher) : (w.init t).1.dir = w.dir := by
  unfold init
  split <;> rfl

theorem init_accessible_iff (t : FileTree) (w : Watcher) :
    (w.init t).1.accessible = true ↔ ∃ key, discoverTerminator t w.smapsPath = .ok key := by
  cases h : discoverTerminator t w.smapsPath with
  | ok key => simp [init_of_ok h]
  | error e => simp [init_of_error h]

/-! ## The checks of a sample -/

theorem isReused_iff (t : FileTree) (w : Watcher) :
    w.isReused t = true ↔
      w.process.startTime ≠ 0 ∧ ∃ v, readStartTime t w.dir = .ok v ∧ v ≠ w.process.startTime := by
  unfold isReused
  by_cases h0 : w.process.startTime = 0
  · simp [h0]
  · cases h : readStartTime t w.dir with
    | ok v => simp [h0]
    | error e => simp [h0]

/-- Whether a sample takes the process as exited: its mapping file is gone, or its pid was
reused. -/
def Exits (t : FileTree) (w : Watcher) : Prop :=
  w.isAlive t = false ∨ w.isReused t = true

theorem sample_of_exits (h : w.Exits t) : w.sample t time = .ok (.exited w.process) := by
  unfold sample
  rcases h with h | h <;> simp [h]

/-- The mappings a sample reads past the exit checks: those of the mapping file, read with the
learned terminator, when the watcher is accessible, and none otherwise. -/
def mappingsRead (t : FileTree) (w : Watcher) : Except ReadFault (List Mapping) :=
  match w.terminator, w.accessible with
  | some key, true => (parseSmaps t w.smapsPath w.process key).mapError .source
  | _, _ => .ok []

/-- Past the exit checks, a sample reads the mappings and then the page counters; the first
failure is its outcome, and otherwise it is the snapshot. -/
theorem sample_of_not_exits (h : ¬ w.Exits t) :
    w.sample t time = (w.mappingsRead t).bind fun ms =>
      (readStatm t (w.dir.join "statm")).map fun statm =>
        .snapshot ⟨time, w.process, ms, statm, readOomScore t w.dir⟩ := by
  simp only [Exits, not_or, Bool.not_eq_false] at h
  unfold sample mappingsRead
  simp only [h.1, h.2, Bool.not_true, Bool.false_eq_true, if_false]
  rcases hk : w.terminator with _ | key <;> cases ha : w.accessible <;> dsimp only <;>
    (try cases parseSmaps t w.smapsPath w.process key) <;>
    cases readStatm t (w.dir.join "statm") <;> rfl

theorem sample_eq_exited_iff : w.sample t time = .ok (.exited w.process) ↔ w.Exits t := by
  refine ⟨fun hs => ?_, sample_of_exits⟩
  by_cases h : w.Exits t
  · exact h
  · rw [sample_of_not_exits h] at hs
    cases hm : w.mappingsRead t <;> cases hs' : readStatm t (w.dir.join "statm") <;>
      simp [hm, hs', Except.bind, Except.map] at hs

theorem sample_error_iff (h : ¬ w.Exits t) :
    (∃ e, w.sample t time = .error e) ↔
      (∃ e, w.mappingsRead t = .error e) ∨ ∃ e, readStatm t (w.dir.join "statm") = .error e := by
  rw [sample_of_not_exits h]
  cases w.mappingsRead t <;> cases readStatm t (w.dir.join "statm") <;>
    simp [Except.bind, Except.map]

theorem sample_of_reads (h : ¬ w.Exits t) {ms : List Mapping} {statm : Statm}
    (hm : w.mappingsRead t = .ok ms) (hs : readStatm t (w.dir.join "statm") = .ok statm) :
    w.sample t time = .ok (.snapshot ⟨time, w.process, ms, statm, readOomScore t w.dir⟩) := by
  rw [sample_of_not_exits h, hm, hs]
  rfl

/-! ## A started watcher -/

theorem mappingsRead_init_ok {key : String} (h : discoverTerminator t w.smapsPath = .ok key)
    (t' : FileTree) :
    (w.init t).1.mappingsRead t' = (parseSmaps t' w.smapsPath w.process key).mapError .source := by
  rw [init_of_ok h]
  rfl

theorem mappingsRead_init_error {e : ProcError} (h : discoverTerminator t w.smapsPath = .error e)
    (t' : FileTree) : (w.init t).1.mappingsRead t' = .ok [] := by
  rw [init_of_error h]
  unfold mappingsRead
  cases w.terminator <;> rfl

/-- A watcher made for a pid below a proc root and started: it is accessible exactly when it
learned the terminator of the process's mapping file at its start. A later sample reports the
exit of the process identified at the making, and of no other, exactly when the mapping file is
gone or the pid was reused: both start times known and different; a `stat` that cannot be read
or parsed never counts. Otherwise the sample fails exactly when the watcher is accessible and
its mapping file cannot be read with the learned terminator, or the page counters cannot be
read; and when neither fails it is the snapshot of that process at the given time, with the
mappings read, or none when the watcher is not accessible, the page counters and the OOM
values. -/
theorem sample_after_init (t₀ t₁ t₂ : FileTree) (root : Location) (pid : Int32) (time : Millis) :
    let dir := root.join (toString pid.toInt)
    let id := ProcessId.read t₀ root pid
    let w := ((Watcher.new t₀ root pid).init t₁).1
    let exits := t₂.exists (dir.join "smaps") = false ∨
      id.startTime ≠ 0 ∧ ∃ v, readStartTime t₂ dir = .ok v ∧ v ≠ id.startTime
    (w.accessible = true ↔ ∃ key, discoverTerminator t₁ (dir.join "smaps") = .ok key) ∧
    (w.sample t₂ time = .ok (.exited id) ↔ exits) ∧
    (¬ exits →
      ((∃ e, w.sample t₂ time = .error e) ↔
        (∃ key e, discoverTerminator t₁ (dir.join "smaps") = .ok key ∧
          parseSmaps t₂ (dir.join "smaps") id key = .error e) ∨
        ∃ e, readStatm t₂ (dir.join "statm") = .error e) ∧
      ∀ ms statm,
        (∀ key, discoverTerminator t₁ (dir.join "smaps") = .ok key →
          parseSmaps t₂ (dir.join "smaps") id key = .ok ms) →
        ((∀ key, discoverTerminator t₁ (dir.join "smaps") ≠ .ok key) → ms = []) →
        readStatm t₂ (dir.join "statm") = .ok statm →
        w.sample t₂ time = .ok (.snapshot ⟨time, id, ms, statm, readOomScore t₂ dir⟩)) := by
  intro dir id w exits
  have hw : w.process = id ∧ w.dir = dir :=
    ⟨init_process t₁ (Watcher.new t₀ root pid), init_dir t₁ (Watcher.new t₀ root pid)⟩
  -- the new watcher parses the mapping file of the statement as the process of the statement
  have hpath : ∀ key, parseSmaps t₂ (Watcher.new t₀ root pid).smapsPath
      (Watcher.new t₀ root pid).process key = parseSmaps t₂ (dir.join "smaps") id key :=
    fun _ => rfl
  -- the exit checks of a sample of the started watcher are the checks of the statement
  have hexits : w.Exits t₂ ↔ exits := by
    unfold Exits isAlive smapsPath
    rw [hw.2, isReused_iff, hw.1, hw.2]
  refine ⟨init_accessible_iff t₁ _, hw.1 ▸ sample_eq_exited_iff.trans hexits, fun hne => ?_⟩
  have hlive : ¬ w.Exits t₂ := mt hexits.1 hne
  refine ⟨?_, fun ms statm hparse hnone hstatm => ?_⟩
  · rw [sample_error_iff hlive, hw.2]
    cases hd : discoverTerminator t₁ (dir.join "smaps") with
    | ok key =>
        rw [mappingsRead_init_ok (w := Watcher.new t₀ root pid) hd, hpath]
        cases hp : parseSmaps t₂ (dir.join "smaps") id key <;> simp [hp, Except.mapError]
    | error e =>
        rw [mappingsRead_init_error (w := Watcher.new t₀ root pid) hd]
        simp
  · -- the mappings read are those of the statement: parsed when a key was learned, else none
    have hm : w.mappingsRead t₂ = .ok ms := by
      cases hd : discoverTerminator t₁ (dir.join "smaps") with
      | ok key =>
          rw [mappingsRead_init_ok (w := Watcher.new t₀ root pid) hd, hpath, hparse key hd]
          rfl
      | error e =>
          rw [mappingsRead_init_error (w := Watcher.new t₀ root pid) hd,
            hnone fun key hk => by rw [hd] at hk; cases hk]
    rw [← hw.1, ← hw.2]
    exact sample_of_reads hlive hm (hw.2 ▸ hstatm)

/-- A watcher whose mapping file is empty learns no terminator and is not accessible; with no
`stat` file the start time is unknown, so a later sample never takes the pid as reused and is
the snapshot with no mappings. -/
theorem sample_after_init_empty_smaps :
    let t : FileTree := ⟨[(["1"], .dir), (["1", "smaps"], .file []),
      (["1", "statm"], .file (Text.utf8Bytes "1 2 3 4 5 6 7\n"))]⟩
    let root : Location := ⟨"", [], false, false⟩
    ((Watcher.new t root 1).init t).1.accessible = false ∧
      ((Watcher.new t root 1).init t).1.sample t 0 =
        .ok (.snapshot ⟨0, ⟨1, 0⟩, [], ⟨4, 8, 12, 16, 20, 24, 28⟩, {}⟩) := by
  intro t root
  obtain ⟨hacc, -, hlive⟩ := sample_after_init t t t root 1 0
  have hid : ProcessId.read t root 1 = ⟨1, 0⟩ := by decide
  have hex : t.exists ((root.join (toString (1 : Int32).toInt)).join "smaps") = true := by decide
  have hd : (discoverTerminator t ((root.join (toString (1 : Int32).toInt)).join "smaps")).isOk =
      false := by decide
  have hstatm : readStatm t ((root.join (toString (1 : Int32).toInt)).join "statm") =
      .ok ⟨4, 8, 12, 16, 20, 24, 28⟩ := by decide
  have hoom : readOomScore t (root.join (toString (1 : Int32).toInt)) = {} := by decide
  have hnokey : ∀ key, discoverTerminator t
      ((root.join (toString (1 : Int32).toInt)).join "smaps") ≠ .ok key := by
    intro key hk
    rw [hk] at hd
    simp [Except.isOk, Except.toBool] at hd
  refine ⟨Bool.eq_false_iff.2 fun h => ?_, ?_⟩
  · obtain ⟨key, hk⟩ := hacc.1 h
    exact hnokey key hk
  · obtain ⟨-, hsnap⟩ := hlive (by rw [hex, hid]; simp)
    rw [hsnap [] _ (fun key hk => absurd hk (hnokey key)) (fun _ => rfl) hstatm, hid, hoom]

end Watcher
end MemoryRecorder
