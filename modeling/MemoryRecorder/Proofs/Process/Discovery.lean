import MemoryRecorder.Process.Scan
import MemoryRecorder.Process.Watcher
import MemoryRecorder.Proofs.Text.Written
/-!
# Finding the processes below a proc root

Scanning a proc root lists its names, keeps those that are all ASCII digits, hold a mapping file
and read as a signed 32-bit word, and sorts the words read (`collectProcEntries`). A name is
read with leading zeros and all, so `007` and `7` are both pid 7, while the watcher made for a
pid looks in the directory named by the pid's own decimal. So the pids found strictly increase
and each one's watcher finds its mapping file exactly when every name that counts is the decimal
of the pid it reads as: a name such as `007` either stands alone, and its watcher looks in `7`,
which is missing, or stands beside `7`, and pid 7 is found twice (`collectProcEntries_spec`).

A tree names each node once (`FileTree.Wf`); every tree made by writing, making directories and
pipes and removing keeps that, and then a directory lists each name once.
-/

namespace MemoryRecorder

/-! ## Partial maps over lists without repeats -/

theorem nodup_filterMap_of_injOn {α β : Type} {f : α → Option β} :
    ∀ {l : List α}, l.Nodup → (∀ a ∈ l, ∀ a' ∈ l, ∀ b, f a = some b → f a' = some b → a = a') →
      (l.filterMap f).Nodup
  | [], _, _ => List.nodup_nil
  | a :: l, hl, hf => by
      rw [List.nodup_cons] at hl
      have hrest : (l.filterMap f).Nodup := nodup_filterMap_of_injOn hl.2
        fun x hx y hy => hf x (List.mem_cons_of_mem a hx) y (List.mem_cons_of_mem a hy)
      rw [List.filterMap_cons]
      cases ha : f a with
      | none => exact hrest
      | some b =>
          refine List.nodup_cons.2 ⟨fun hb => ?_, hrest⟩
          obtain ⟨a', ha', hfa'⟩ := List.mem_filterMap.1 hb
          have heq := hf a List.mem_cons_self a' (List.mem_cons_of_mem a ha') b ha hfa'
          exact hl.1 (heq ▸ ha')

theorem eq_of_nodup_filterMap {α β : Type} {f : α → Option β} :
    ∀ {l : List α}, (l.filterMap f).Nodup → ∀ {a a' : α} {b : β}, a ∈ l → a' ∈ l →
      f a = some b → f a' = some b → a = a'
  | [], _, _, _, _, ha, _, _, _ => absurd ha List.not_mem_nil
  | x :: l, hl, a, a', b, ha, ha', hfa, hfa' => by
      rw [List.filterMap_cons] at hl
      have hrest : (l.filterMap f).Nodup := by
        cases hx : f x with
        | none => rwa [hx] at hl
        | some c =>
            rw [hx] at hl
            exact (List.nodup_cons.1 hl).2
      rcases List.mem_cons.1 ha with rfl | hal <;> rcases List.mem_cons.1 ha' with rfl | hal'
      · rfl
      · rw [hfa] at hl
        exact absurd (List.mem_filterMap.2 ⟨a', hal', hfa'⟩) (List.nodup_cons.1 hl).1
      · rw [hfa'] at hl
        exact absurd (List.mem_filterMap.2 ⟨a, hal, hfa⟩) (List.nodup_cons.1 hl).1
      · exact eq_of_nodup_filterMap hrest hal hal' hfa hfa'

/-! ## Trees that name each node once -/

namespace FileTree

/-- A tree names each node once. -/
def Wf (t : FileTree) : Prop :=
  (t.nodes.map Prod.fst).Nodup

theorem wf_empty : ({} : FileTree).Wf :=
  List.nodup_nil

theorem Wf.put {t : FileTree} (h : t.Wf) (p : List String) (n : Node) : (t.put p n).Wf := by
  unfold FileTree.put
  split
  · -- the node is replaced in place: the paths stay as they were
    unfold Wf
    rw [List.map_map]
    refine (congrArg List.Nodup (List.map_congr_left fun e _ => ?_)).mpr h
    simp only [Function.comp_apply]
    split <;> rfl
  · -- the path is new: no node has it yet
    rename_i hnone
    unfold Wf
    rw [List.map_append, List.map_singleton, List.nodup_append]
    refine ⟨h, List.pairwise_singleton _ _, fun a ha b hb hab => ?_⟩
    rw [List.mem_singleton] at hb
    subst hb hab
    obtain ⟨e, he, rfl⟩ := List.mem_map.1 ha
    simp only [Option.isSome_iff_ne_none, ne_eq, Decidable.not_not, List.find?_eq_none,
      beq_iff_eq] at hnone
    exact hnone e he rfl

theorem Wf.mkdirAll {t : FileTree} (h : t.Wf) (p : List String) : (t.mkdirAll p).Wf := by
  unfold FileTree.mkdirAll
  suffices hgo : ∀ (t : FileTree) (seen : List String), t.Wf → (mkdirAll.go t seen p).Wf from
    hgo t [] h
  induction p with
  | nil => exact fun t _ h => h
  | cons n rest ih =>
      intro t seen h
      unfold mkdirAll.go
      dsimp only
      split
      · exact ih t _ h
      · exact h
      · exact ih _ _ (h.put _ _)

theorem Wf.write {t : FileTree} (h : t.Wf) (p : List String) (bs : List UInt8) :
    (t.write p bs).Wf := by
  unfold FileTree.write
  split
  · exact h
  · exact (h.mkdirAll _).put _ _

theorem Wf.makePipe {t : FileTree} (h : t.Wf) (p : List String) : (t.makePipe p).Wf := by
  unfold FileTree.makePipe
  split
  · exact h
  · exact (h.mkdirAll _).put _ _

theorem Wf.remove {t : FileTree} (h : t.Wf) (p : List String) : (t.remove p).Wf := by
  unfold FileTree.remove
  split
  · exact h
  · exact List.Nodup.sublist (List.Sublist.map _ List.filter_sublist) h

/-- The children of a directory, read off the paths: a path one name below it gives that name. -/
def childName (q p : List String) : Option String :=
  if p.dropLast == q && p.length == q.length + 1 then p.getLast? else none

theorem childName_eq_some {q p : List String} {name : String} :
    childName q p = some name ↔ p = q ++ [name] := by
  constructor
  · intro h
    unfold childName at h
    split at h
    · rename_i hc
      simp only [Bool.and_eq_true, beq_iff_eq] at hc
      obtain ⟨init, hinit⟩ := List.getLast?_eq_some_iff.1 h
      rw [hinit, List.dropLast_concat] at hc
      rw [hinit, hc.1]
    · cases h
  · rintro rfl
    simp [childName]

/-- A listing is the children read off the paths below a directory of the tree, or nothing for a
directory of the host. -/
theorem listDir_eq_ok {t : FileTree} {l : Location} {names : List String}
    (hl : t.listDir l = .ok names) :
    (∃ q, t.locate l = .ok (.tree q) ∧ names = (t.nodes.map Prod.fst).filterMap (childName q)) ∨
      (names = [] ∧ ∀ q, t.locate l ≠ .ok (.tree q)) := by
  unfold listDir at hl
  split at hl
  · cases hl
  · rename_i q _ hloc
    cases hl
    refine .inl ⟨q, hloc, ?_⟩
    rw [List.filterMap_map]
    rfl
  · rename_i hnottree
    cases hl
    exact .inr ⟨rfl, hnottree⟩
  · cases hl

theorem Wf.listDir_nodup {t : FileTree} (h : t.Wf) {l : Location} {names : List String}
    (hl : t.listDir l = .ok names) : names.Nodup := by
  rcases listDir_eq_ok hl with ⟨q, _, rfl⟩ | ⟨rfl, _⟩
  · refine nodup_filterMap_of_injOn h fun a _ a' _ name ha ha' => ?_
    rw [childName_eq_some.1 ha, childName_eq_some.1 ha']
  · exact List.nodup_nil

/-! ## Walking to a name inside a directory -/

section

variable {t : FileTree}

theorem walkFrom_cons_of_dir {pl : Place} {n : String} {rest : List String} (hrest : rest ≠ [])
    (hdir : t.nodeAt? (pl.child n) = some .dir) :
    t.walkFrom pl (n :: rest) = t.walkFrom (pl.child n) rest := by
  obtain ⟨y, ys, rfl⟩ := List.exists_cons_of_ne_nil hrest
  simp only [walkFrom, hdir]

theorem walkFrom_cons_eq_ok {pl pl' : Place} {n : String} {rest : List String} (hrest : rest ≠ [])
    (h : t.walkFrom pl (n :: rest) = .ok pl') :
    t.nodeAt? (pl.child n) = some .dir ∧ t.walkFrom (pl.child n) rest = .ok pl' := by
  obtain ⟨y, ys, rfl⟩ := List.exists_cons_of_ne_nil hrest
  simp only [walkFrom] at h
  split at h
  · exact ⟨by assumption, h⟩
  · cases h
  · cases h

theorem walkFrom_append_singleton {c : String} :
    ∀ {xs : List String} {pl pl' : Place}, t.walkFrom pl (xs ++ [c]) = .ok pl' →
      ∃ q, t.walkFrom pl xs = .ok q ∧ pl' = q.child c
  | [], pl, pl', h => ⟨pl, rfl, by simpa [walkFrom] using h.symm⟩
  | x :: xs, pl, pl', h => by
      have hne : xs ++ [c] ≠ [] := List.append_ne_nil_of_right_ne_nil xs (List.cons_ne_nil c [])
      obtain ⟨hdir, hrest⟩ := walkFrom_cons_eq_ok hne h
      obtain ⟨q, hq, rfl⟩ := walkFrom_append_singleton hrest
      refine ⟨q, ?_, rfl⟩
      -- the walk to `x :: xs` stops at `x` or goes on through it as a directory
      cases xs with
      | nil => simpa [walkFrom] using hq
      | cons y ys =>
          rw [walkFrom_cons_of_dir (List.cons_ne_nil y ys) hdir]
          exact hq

theorem walkFrom_append_pair {c s : String} :
    ∀ {xs : List String} {pl pl'' : Place}, t.walkFrom pl (xs ++ [c, s]) = .ok pl'' →
      ∃ pl', t.walkFrom pl (xs ++ [c]) = .ok pl' ∧ t.nodeAt? pl' = some .dir
  | [], pl, pl'', h => ⟨pl.child c, rfl, (walkFrom_cons_eq_ok (List.cons_ne_nil s []) h).1⟩
  | x :: xs, pl, pl'', h => by
      have hne : xs ++ [c, s] ≠ [] := List.append_ne_nil_of_right_ne_nil xs (List.cons_ne_nil c _)
      obtain ⟨hdir, hrest⟩ := walkFrom_cons_eq_ok hne h
      obtain ⟨pl', hwalk, hdir'⟩ := walkFrom_append_pair hrest
      have hne' : xs ++ [c] ≠ [] := List.append_ne_nil_of_right_ne_nil xs (List.cons_ne_nil c [])
      refine ⟨pl', ?_, hdir'⟩
      rw [List.cons_append, walkFrom_cons_of_dir hne' hdir]
      exact hwalk

theorem locate_of_exists {l : Location} (h : t.exists l = true) : ∃ pl, t.locate l = .ok pl := by
  cases hloc : t.locate l with
  | error e => simp [FileTree.exists, resolve, hloc] at h
  | ok pl => exact ⟨pl, rfl⟩

theorem hostNode?_ne_dir_of_digits {q : List String} {c : String}
    (hc : c.toList.all Char.isDigit = true) : hostNode? (q ++ [c]) ≠ some .dir := by
  have hlast : (q ++ [c]).getLast? = some c := List.getLast?_concat
  intro h
  unfold hostNode? at h
  split at h
  case h_1 heq => exact List.append_ne_nil_of_right_ne_nil q (List.cons_ne_nil c []) heq
  case h_7 => cases h
  case h_8 => cases h
  all_goals
    rename_i heq
    rw [heq, List.getLast?_singleton, Option.some.injEq] at hlast
    subst hlast
    exact absurd hc (by decide)

/-- A digit name with something inside it, below a directory, is listed in that directory. -/
theorem mem_listDir_of_exists {root : Location} {names : List String} {c s : String}
    (hl : t.listDir root = .ok names) (hc : c.toList.all Char.isDigit = true)
    (hs : t.exists ((root.join c).join s) = true) : c ∈ names := by
  obtain ⟨pl'', hloc⟩ := locate_of_exists hs
  have hwalk : t.walkFrom (if root.outside then .host [] else .tree []) (root.parts ++ [c, s]) =
      .ok pl'' := by
    simpa [locate, Location.join] using hloc
  obtain ⟨pl', hpl', hdir⟩ := walkFrom_append_pair hwalk
  obtain ⟨q, hroot, rfl⟩ := walkFrom_append_singleton hpl'
  have hdots : (c == "..") = false := by
    cases h : c == ".." with
    | false => rfl
    | true =>
        rw [beq_iff_eq.1 h] at hc
        exact absurd hc (by decide)
  change t.locate root = .ok q at hroot
  rcases listDir_eq_ok hl with ⟨q0, hloc, rfl⟩ | ⟨_, hnottree⟩
  · -- `root/c` is a directory node, one name below `root`
    rw [hroot] at hloc
    cases hloc
    simp only [nodeAt?, Place.child, hdots, Bool.false_eq_true, if_false, find?, List.isEmpty_iff,
      List.append_eq_nil_iff, List.cons_ne_self, and_false, Option.map_eq_some_iff, Prod.exists,
      exists_eq_right] at hdir
    obtain ⟨a, hfind⟩ := hdir
    have ha : a = q0 ++ [c] := by simpa using List.find?_some hfind
    subst ha
    exact List.mem_filterMap.2 ⟨q0 ++ [c],
      List.mem_map.2 ⟨_, List.mem_of_find?_eq_some hfind, rfl⟩, childName_eq_some.2 rfl⟩
  · -- the root lies on the host, where no digit name is a directory
    cases q with
    | tree q0 => exact absurd hroot (hnottree q0)
    | host q0 =>
        simp only [Place.child, hdots, Bool.false_eq_true, if_false, nodeAt?] at hdir
        exact absurd hdir (hostNode?_ne_dir_of_digits hc)

end

end FileTree

/-! ## Pids and their decimals -/

theorem isDigit_of_mem_toDigits {n : Nat} {c : Char} (hc : c ∈ Nat.toDigits 10 n) :
    c.isDigit = true := by
  obtain ⟨d, hd, rfl⟩ := Text.digitChar_of_mem_toDigits (by decide) hc
  have h : ∀ k < 10, (Nat.digitChar k).isDigit = true := by decide
  exact h d hd

theorem signedValue?_of_digits {n : String} (hd : n.toList.all Char.isDigit = true) :
    Text.signedValue? 10 n = (Text.digitsValue? 10 n.toList).map Int.ofNat := by
  unfold Text.signedValue?
  split
  · rename_i cs hcs
    rw [hcs] at hd
    exact absurd hd (by simp)
  · rename_i cs hcs
    rw [hcs] at hd
    exact absurd hd (by simp)
  · rfl

/-- A name of digits alone reads as a non-negative pid. -/
theorem nonneg_of_i32? {n : String} {p : Int32} (hd : n.toList.all Char.isDigit = true)
    (h : Text.i32? n = some p) : 0 ≤ p.toInt := by
  unfold Text.i32? at h
  split at h
  · rename_i v hv
    rw [signedValue?_of_digits hd] at hv
    obtain ⟨k, _, rfl⟩ := Option.map_eq_some_iff.1 hv
    split at h
    · rename_i hbound
      cases h
      rw [Int32.toInt_ofInt_of_le hbound.1 hbound.2]
      exact Int.natCast_nonneg k
    · cases h
  · cases h

theorem toString_toInt_of_nonneg {p : Int32} (hp : 0 ≤ p.toInt) :
    toString p.toInt = String.ofList (Nat.toDigits 10 p.toInt.toNat) := by
  obtain ⟨k, hk⟩ := Int.eq_ofNat_of_zero_le hp
  rw [hk]
  rfl

theorem i32?_toString {p : Int32} (hp : 0 ≤ p.toInt) :
    (toString p.toInt).toList.all Char.isDigit = true ∧ Text.i32? (toString p.toInt) = some p := by
  have hd : (toString p.toInt).toList.all Char.isDigit = true := by
    rw [toString_toInt_of_nonneg hp, String.toList_ofList]
    exact List.all_eq_true.2 fun c hc => isDigit_of_mem_toDigits hc
  have hne : (Nat.toDigits 10 p.toInt.toNat).isEmpty = false :=
    List.isEmpty_eq_false_iff.2 Nat.toDigits_ne_nil
  have hvalue : Text.signedValue? 10 (toString p.toInt) = some p.toInt := by
    rw [signedValue?_of_digits hd, toString_toInt_of_nonneg hp, String.toList_ofList]
    simp only [Text.digitsValue?, hne, Bool.false_eq_true, if_false,
      Text.digitsValueFrom?_toDigits (by decide : 1 < 10) (by decide), Option.map_some]
    exact congrArg some (Int.toNat_of_nonneg hp)
  have hlo : -Int.pow 2 31 ≤ p.toInt := p.le_toInt
  have hhi : p.toInt < Int.pow 2 31 := p.toInt_lt
  refine ⟨hd, ?_⟩
  simp only [Text.i32?, hvalue, hlo, hhi, and_self, if_true, Int32.ofInt_toInt]

/-! ## Scanning -/

section

variable {t : FileTree} {root : Location}

/-- Whether a listed name counts as a process: all digits, with a mapping file inside. -/
def IsProcName (t : FileTree) (root : Location) (n : String) : Prop :=
  n.toList.all Char.isDigit = true ∧ t.exists ((root.join n).join "smaps") = true

def procEntry (t : FileTree) (root : Location) (n : String) : Option Int32 :=
  if n.toList.all Char.isDigit && t.exists ((root.join n).join "smaps") then Text.i32? n else none

theorem procEntry_eq_some {n : String} {p : Int32} :
    procEntry t root n = some p ↔ IsProcName t root n ∧ Text.i32? n = some p := by
  unfold procEntry IsProcName
  by_cases hc : (n.toList.all Char.isDigit && t.exists ((root.join n).join "smaps")) = true
  · rw [if_pos hc]
    simp only [Bool.and_eq_true] at hc
    simp only [hc, and_self, true_and]
  · rw [if_neg hc]
    simp only [Bool.and_eq_true] at hc
    constructor
    · intro h
      cases h
    · intro h
      exact absurd h.1 hc

theorem collectProcEntries_of_listDir {names : List String} (h : t.listDir root = .ok names) :
    collectProcEntries t root =
      (names.filterMap (procEntry t root)).mergeSort fun a b => a.toInt ≤ b.toInt := by
  simp only [collectProcEntries, h]
  rfl

theorem collectProcEntries_of_listDir_error {e : IoFault} (h : t.listDir root = .error e) :
    collectProcEntries t root = [] := by
  simp only [collectProcEntries, h]

theorem collectProcEntries_sorted (t : FileTree) (root : Location) :
    (collectProcEntries t root).Pairwise (fun a b => a.toInt ≤ b.toInt) := by
  cases h : t.listDir root with
  | error e => simp [collectProcEntries_of_listDir_error h]
  | ok names =>
      rw [collectProcEntries_of_listDir h]
      have htrans : ∀ a b c : Int32, decide (a.toInt ≤ b.toInt) = true →
          decide (b.toInt ≤ c.toInt) = true → decide (a.toInt ≤ c.toInt) = true := by
        intro a b c hab hbc
        simp only [decide_eq_true_eq] at hab hbc ⊢
        omega
      have htotal : ∀ a b : Int32,
          (decide (a.toInt ≤ b.toInt) || decide (b.toInt ≤ a.toInt)) = true := by
        intro a b
        simp only [Bool.or_eq_true, decide_eq_true_eq]
        omega
      exact (List.pairwise_mergeSort htrans htotal _).imp fun h => by simpa using h

/-- A pid is found exactly when some listed name counts as a process and reads as it. -/
theorem mem_collectProcEntries {p : Int32} :
    p ∈ collectProcEntries t root ↔
      ∃ names, t.listDir root = .ok names ∧ ∃ n ∈ names, IsProcName t root n ∧ Text.i32? n = some p := by
  cases h : t.listDir root with
  | error e => simp [collectProcEntries_of_listDir_error h]
  | ok names =>
      rw [collectProcEntries_of_listDir h, List.mem_mergeSort, List.mem_filterMap]
      simp only [Except.ok.injEq, exists_eq_left', procEntry_eq_some]

/-- When every name that counts is the decimal of the pid it reads as, in a tree that names each
node once, the pids found strictly increase and each one's watcher finds its mapping file. -/
theorem watched_of_canonical (ht : t.Wf) {names : List String} (hl : t.listDir root = .ok names)
    (hcanon : ∀ n ∈ names, ∀ p, IsProcName t root n → Text.i32? n = some p →
      n = toString p.toInt) :
    (collectProcEntries t root).Pairwise (fun a b => a.toInt < b.toInt) ∧
      ∀ p ∈ collectProcEntries t root, (Watcher.new t root p).isAlive t = true := by
  -- two names that give one pid are both its decimal, so the names listed once give it once
  have hnodup : (collectProcEntries t root).Nodup := by
    rw [collectProcEntries_of_listDir hl]
    refine (List.mergeSort_perm _ _).nodup_iff.2
      (nodup_filterMap_of_injOn (ht.listDir_nodup hl) ?_)
    intro a ha a' ha' p hpa hpa'
    obtain ⟨hproc, hread⟩ := procEntry_eq_some.1 hpa
    obtain ⟨hproc', hread'⟩ := procEntry_eq_some.1 hpa'
    rw [hcanon a ha p hproc hread, hcanon a' ha' p hproc' hread']
  refine ⟨?_, fun p hp => ?_⟩
  · -- sorted and without repeats, so strictly increasing
    refine ((collectProcEntries_sorted t root).and hnodup).imp fun ⟨hle, hne⟩ => ?_
    have : _ ≠ _ := fun h => hne (Int32.toInt_inj.1 h)
    omega
  · -- the name found is the pid's own decimal, where the watcher looks
    obtain ⟨names', hl', n, hn, hproc, hread⟩ := mem_collectProcEntries.1 hp
    rw [hl] at hl'
    cases hl'
    have hname := hcanon n hn p hproc hread
    subst hname
    exact hproc.2

/-- When the pids found strictly increase and each one's watcher finds its mapping file, every
name that counts is the decimal of the pid it reads as: that decimal is listed too, and a second
name reading as the pid would give it twice. -/
theorem canonical_of_watched {names : List String} (hl : t.listDir root = .ok names)
    (hstrict : (collectProcEntries t root).Pairwise (fun a b => a.toInt < b.toInt))
    (halive : ∀ p ∈ collectProcEntries t root, (Watcher.new t root p).isAlive t = true) :
    ∀ n ∈ names, ∀ p, IsProcName t root n → Text.i32? n = some p → n = toString p.toInt := by
  intro n hn p hproc hread
  have hp : p ∈ collectProcEntries t root :=
    mem_collectProcEntries.2 ⟨names, hl, n, hn, hproc, hread⟩
  obtain ⟨hdigits, hcread⟩ := i32?_toString (nonneg_of_i32? hproc.1 hread)
  have hsmaps : t.exists ((root.join (toString p.toInt)).join "smaps") = true := halive p hp
  have hc : toString p.toInt ∈ names := FileTree.mem_listDir_of_exists hl hdigits hsmaps
  have hnodup : (names.filterMap (procEntry t root)).Nodup := by
    rw [collectProcEntries_of_listDir hl] at hstrict
    refine (List.mergeSort_perm _ _).nodup_iff.1 (hstrict.imp fun h heq => ?_)
    subst heq
    omega
  exact eq_of_nodup_filterMap hnodup hn hc (procEntry_eq_some.2 ⟨hproc, hread⟩)
    (procEntry_eq_some.2 ⟨⟨hdigits, hsmaps⟩, hcread⟩)

end

/-- Scanning a proc root: the pids found are sorted, and a pid is found exactly when a listed name
that is all ASCII digits and holds a mapping file reads as it, leading zeros and all. Every
listed name that is the decimal of a non-negative pid and holds a mapping file gives its pid.
In a tree that names each node once, the pids strictly increase and the watcher made for each
finds its mapping file exactly when every name that counts is the decimal of the pid it reads
as. -/
theorem collectProcEntries_spec (t : FileTree) (root : Location) :
    (collectProcEntries t root).Pairwise (fun a b => a.toInt ≤ b.toInt) ∧
    (∀ p, p ∈ collectProcEntries t root ↔
      ∃ names, t.listDir root = .ok names ∧ ∃ n ∈ names,
        n.toList.all Char.isDigit = true ∧ t.exists ((root.join n).join "smaps") = true ∧
        Text.i32? n = some p) ∧
    (∀ names, t.listDir root = .ok names → ∀ p : Int32, 0 ≤ p.toInt →
      toString p.toInt ∈ names → t.exists ((root.join (toString p.toInt)).join "smaps") = true →
      p ∈ collectProcEntries t root) ∧
    (t.Wf → ∀ names, t.listDir root = .ok names →
      (((collectProcEntries t root).Pairwise (fun a b => a.toInt < b.toInt) ∧
          ∀ p ∈ collectProcEntries t root, (Watcher.new t root p).isAlive t = true) ↔
        ∀ n ∈ names, ∀ p, n.toList.all Char.isDigit = true →
          t.exists ((root.join n).join "smaps") = true → Text.i32? n = some p →
          n = toString p.toInt)) := by
  refine ⟨collectProcEntries_sorted t root, fun p => ?_, fun names hl p hp hmem hsmaps => ?_,
    fun ht names hl => ⟨fun hwatched => ?_, fun hcanon => ?_⟩⟩
  · simp only [mem_collectProcEntries, IsProcName, and_assoc]
  · obtain ⟨hdigits, hread⟩ := i32?_toString hp
    exact mem_collectProcEntries.2 ⟨names, hl, _, hmem, ⟨hdigits, hsmaps⟩, hread⟩
  · intro n hn p hd hs hread
    exact canonical_of_watched hl hwatched.1 hwatched.2 n hn p ⟨hd, hs⟩ hread
  · exact watched_of_canonical ht hl fun n hn p hproc hread => hcanon n hn p hproc.1 hproc.2 hread

/-- The tree of a proc root with processes 3, 12 and 40, a directory `self` with a mapping file,
and a directory `99` without one. -/
def sampleProcTree : FileTree :=
  ((((({} : FileTree).write ["12", "smaps"] []).write ["3", "smaps"] []).write ["self", "smaps"]
    []).write ["40", "smaps"] []).mkdirAll ["99"]

theorem collectProcEntries_spec_sample :
    sampleProcTree.Wf ∧
      sampleProcTree.listDir { shown := "", parts := [] } = .ok ["12", "3", "self", "40", "99"] ∧
      (collectProcEntries sampleProcTree { shown := "", parts := [] }).Pairwise
          (fun a b => a.toInt < b.toInt) ∧
        ∀ p ∈ collectProcEntries sampleProcTree { shown := "", parts := [] },
          (Watcher.new sampleProcTree { shown := "", parts := [] } p).isAlive sampleProcTree =
            true := by
  have hwf : sampleProcTree.Wf :=
    ((((FileTree.wf_empty.write _ _).write _ _).write _ _).write _ _).mkdirAll _
  have hlist : sampleProcTree.listDir { shown := "", parts := [] } =
      .ok ["12", "3", "self", "40", "99"] :=
    rfl
  -- `self` is not digits and `99` holds no mapping file; the others are decimals
  have hcanon : ∀ n ∈ ["12", "3", "self", "40", "99"], ∀ p, n.toList.all Char.isDigit = true →
      sampleProcTree.exists ((Location.join { shown := "", parts := [] } n).join "smaps") = true →
      Text.i32? n = some p → n = toString p.toInt := by
    intro n hn p hd hs hp
    simp only [List.mem_cons, List.not_mem_nil, or_false] at hn
    rcases hn with rfl | rfl | rfl | rfl | rfl
    · rw [show Text.i32? "12" = some 12 by decide, Option.some.injEq] at hp
      subst hp
      decide
    · rw [show Text.i32? "3" = some 3 by decide, Option.some.injEq] at hp
      subst hp
      decide
    · exact absurd hd (by decide)
    · rw [show Text.i32? "40" = some 40 by decide, Option.some.injEq] at hp
      subst hp
      decide
    · exact absurd hs (by decide)
  exact ⟨hwf, hlist, ((collectProcEntries_spec _ _).2.2.2 hwf _ hlist).2 hcanon⟩

def leadingZeroTree : FileTree :=
  ({} : FileTree).write ["007", "smaps"] []

/-- The directory `007` is found as pid 7, but the watcher of pid 7 looks in `7`, which does not
exist. -/
theorem collectProcEntries_leading_zero :
    7 ∈ collectProcEntries leadingZeroTree { shown := "", parts := [] } ∧
      (Watcher.new leadingZeroTree { shown := "", parts := [] } 7).isAlive leadingZeroTree =
        false := by
  refine ⟨mem_collectProcEntries.2 ⟨["007"], rfl, "007", List.mem_singleton_self _,
    ⟨by decide, by decide⟩, by decide⟩, by decide⟩

end MemoryRecorder
