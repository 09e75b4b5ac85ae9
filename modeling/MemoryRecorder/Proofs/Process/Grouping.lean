import Mathlib
import MemoryRecorder.Process.Groups
/-!
# Where grouping puts each mapping

`group` reads the mappings of a measurement once, in order, and keeps an anchor: the name of the
last code segment and where the segments behind it end. This module states where each mapping
goes without the anchor. A mapping of value zero goes nowhere. Any other goes to one bucket, chosen
by its own name (`Bucket.own`); an anonymous private data range may instead be a library's `.bss`.
Whether it is depends on the trail of the mappings before it that went to named groups: read back
from its newest entry, read-only and data segments of one name down to a code segment of that name
form a chain (`lastChain`, `lastChain_eq_some_iff`), and a range that starts where that chain ends
joins the library's group (`route`, `routes`).

The scan and the routing are related by `Tallied`: each bucket holds the exact sum of the values
routed to it, and the anchor is the chain at the end of the trail. `Tallied.step` shows that one
mapping keeps the relation; `Tallied.foldlM` extends it to the whole list.

For every list of mappings:
* `group_routes`: grouping succeeds exactly when the values fit in a word, each nonzero mapping is
  routed once and zero mappings are passed over, each bucket is the sum of the values routed to
  it, and the named groups are the names routed to, once each.
* `group_overflow_iff`: grouping fails with an addition overflow exactly when the values add up
  past a word. Otherwise the total is the sum of the buckets, no addition to a bucket leaves the
  word, the named groups add up without overflow in any order, and each of them is positive.
-/

namespace MemoryRecorder

namespace Word

@[simp] theorem exactSum_nil : exactSum [] = 0 := rfl

@[simp] theorem exactSum_cons (x : UInt64) (xs : List UInt64) :
    exactSum (x :: xs) = x.toNat + exactSum xs := rfl

@[simp] theorem exactSum_append (xs ys : List UInt64) :
    exactSum (xs ++ ys) = exactSum xs + exactSum ys := by
  induction xs with
  | nil => simp
  | cons x xs ih => simp [ih, Nat.add_assoc]

theorem exactSum_perm {xs ys : List UInt64} (h : xs.Perm ys) : exactSum xs = exactSum ys := by
  induction h with
  | nil => rfl
  | cons x _ ih => simp [ih]
  | swap x y xs => simp; omega
  | trans _ _ ih₁ ih₂ => exact ih₁.trans ih₂

theorem foldlM_addChecked_error (xs : List UInt64) :
    ∀ {init : UInt64} {o : Overflow}, xs.foldlM addChecked init = .error o → o = .add := by
  induction xs with
  | nil => intro init o h; cases h
  | cons x xs ih =>
      intro init o h
      rw [List.foldlM_cons] at h
      cases hx : addChecked init x with
      | error o' =>
          rw [hx] at h
          cases h
          exact addChecked_ne_error_sub init x o hx
      | ok s =>
          rw [hx] at h
          exact ih h

/-- A checked sum does not depend on the order of the words: it fails, by an addition overflow,
for both orders or gives one total. -/
theorem sumChecked_perm {xs ys : List UInt64} (h : xs.Perm ys) : sumChecked xs = sumChecked ys := by
  cases hx : sumChecked xs with
  | ok c =>
      rw [sumChecked_eq_ok_iff, exactSum_perm h] at hx
      exact ((sumChecked_eq_ok_iff ys c).2 hx).symm
  | error o =>
      cases hy : sumChecked ys with
      | ok c =>
          rw [sumChecked_eq_ok_iff, ← exactSum_perm h, ← sumChecked_eq_ok_iff, hx] at hy
          cases hy
      | error o' =>
          rw [foldlM_addChecked_error xs hx, foldlM_addChecked_error ys hy]

end Word

/-- A bucket of a grouping. -/
inductive Bucket where
  | threadStacks
  | sockets
  | heap
  | anonymous
  | named (name : String)
  deriving DecidableEq, Repr

namespace Bucket

/-- The bucket a range's own name picks: the thread stacks, the sockets when they are grouped, the
heap, anonymous memory when the range has no name, and the group of its name otherwise. -/
def own (groupSockets : Bool) (k : RangeKey) : Bucket :=
  if k.name.startsWith "[stack" then .threadStacks
  else if groupSockets && k.name.startsWith "socket:" then .sockets
  else if k.name == "[heap]" then .heap
  else if k.name.isEmpty then .anonymous
  else .named k.name

def isNamed : Bucket → Bool
  | named _ => true
  | _ => false

end Bucket

namespace Groups

def sizeOf (ms : List MappingSize) (name : String) : UInt64 :=
  ((ms.find? (·.name == name)).map (·.size)).getD 0

def bucketSize (g : Groups) : Bucket → UInt64
  | .threadStacks => g.threadStacks
  | .sockets => g.sockets
  | .heap => g.heap
  | .anonymous => g.anonymous
  | .named name => sizeOf g.mappings name

def add (g : Groups) (b : Bucket) (v : UInt64) : Groups :=
  match b with
  | .threadStacks => { g with threadStacks := g.threadStacks + v }
  | .sockets => { g with sockets := g.sockets + v }
  | .heap => { g with heap := g.heap + v }
  | .anonymous => { g with anonymous := g.anonymous + v }
  | .named name => { g with mappings := addTo g.mappings name v }

def bucketTotal (g : Groups) : Nat :=
  g.threadStacks.toNat + g.heap.toNat + g.anonymous.toNat + g.sockets.toNat +
    Word.exactSum (g.mappings.map (·.size))

end Groups

/-- The chain at the newest end of a trail of ranges, given newest first: read-only and data
segments of one name back to a code segment of that name. Its name, and where its newest range
ends. -/
def lastChain : List RangeKey → Option (String × UInt64)
  | [] => none
  | k :: older =>
      if k.permission == "r-xp" then some (k.name, k.hi)
      else if k.permission == "r--p" || k.permission == "rw-p" then
        match lastChain older with
        | some (name, _) => if name == k.name then some (name, k.hi) else none
        | none => none
      else none

theorem lastChain_cons_eq_some {k : RangeKey} {older : List RangeKey} {name : String}
    {hi : UInt64} :
    lastChain (k :: older) = some (name, hi) ↔
      (k.permission = "r-xp" ∧ k.name = name ∧ k.hi = hi) ∨
      ((k.permission = "r--p" ∨ k.permission = "rw-p") ∧ k.name = name ∧ k.hi = hi ∧
        ∃ hi', lastChain older = some (name, hi')) := by
  by_cases hx : k.permission = "r-xp"
  · simp [lastChain, hx]
  · by_cases hd : k.permission = "r--p" ∨ k.permission = "rw-p"
    · have hd' : (k.permission == "r--p" || k.permission == "rw-p") = true := by simpa using hd
      cases hl : lastChain older with
      | none => simp [lastChain, hx, hd', hl]
      | some p =>
          obtain ⟨n, h'⟩ := p
          by_cases hn : n = k.name
          · subst hn
            simp [lastChain, hx, hd, hl]
            exact fun h _ => h
          · -- the chain behind has another name, so this segment ends it
            simp only [lastChain, hx, hd', hl, hn, beq_iff_eq, ↓reduceIte, reduceCtorEq, false_iff,
              not_or, not_and]
            refine ⟨False.elim, fun _ hk _ ⟨_, he⟩ => hn ?_⟩
            cases he
            exact hk.symm
    · simp [lastChain, hx, hd]

/-- The chain at the end of a trail, said without the scan: the newest ranges are read-only or
data segments of one name, and the range before them is a code segment of that name. -/
theorem lastChain_eq_some_iff {keys : List RangeKey} {name : String} {hi : UInt64} :
    lastChain keys = some (name, hi) ↔
      ∃ conts code older, keys = conts ++ code :: older ∧ code.permission = "r-xp" ∧
        code.name = name ∧
        (∀ k ∈ conts, (k.permission = "r--p" ∨ k.permission = "rw-p") ∧ k.name = name) ∧
        hi = (conts.head?.getD code).hi := by
  induction keys generalizing hi with
  | nil => simp [lastChain]
  | cons k older ih =>
      rw [lastChain_cons_eq_some]
      constructor
      · rintro (⟨hx, rfl, rfl⟩ | ⟨hd, rfl, rfl, hi', hl⟩)
        · exact ⟨[], k, older, rfl, hx, rfl, by simp, rfl⟩
        · obtain ⟨conts, code, older', rfl, hcode, hname, hconts, -⟩ := ih.1 hl
          refine ⟨k :: conts, code, older', rfl, hcode, hname, ?_, rfl⟩
          intro k' hk'
          rcases List.mem_cons.1 hk' with rfl | hk'
          · exact ⟨hd, rfl⟩
          · exact hconts k' hk'
      · rintro ⟨conts, code, older', hk, hcode, hname, hconts, rfl⟩
        rcases List.cons_eq_append_iff.1 hk with ⟨rfl, hk⟩ | ⟨cs, rfl, rfl⟩
        · -- no continuation: the newest range is the code segment
          cases hk
          exact .inl ⟨hcode, hname, rfl⟩
        · obtain ⟨hd, hn⟩ := hconts k List.mem_cons_self
          exact .inr ⟨hd, hn, rfl, _, ih.2 ⟨cs, code, older', rfl, hcode, hname,
            fun k' hk' => hconts k' (List.mem_cons_of_mem _ hk'), rfl⟩⟩

/-- The bucket of a range with a nonzero value, given the trail of the ranges before it that went
to named groups, newest first. An anonymous private data range that starts where the chain at the
end of the trail ends is the `.bss` of that chain's library. -/
def route (groupSockets : Bool) (trail : List RangeKey) (k : RangeKey) : Bucket :=
  match Bucket.own groupSockets k, lastChain trail with
  | .anonymous, some (name, hi) =>
      if hi == k.lo && k.permission == "rw-p" then .named name else .anonymous
  | b, _ => b

/-- How far the routing of a list of ranges has got: the nonzero ranges with their buckets, oldest
first, and the trail of those that went to named groups, newest first. -/
structure Routing where
  routed : List (Mapping × Bucket) := []
  trail : List RangeKey := []

/-- Routes one more range. A range of value zero goes nowhere and leaves no trail. -/
def Routing.push (t : MemoryType) (groupSockets : Bool) (r : Routing) (m : Mapping) : Routing :=
  if t.rangeValue m = 0 then r
  else
    let b := route groupSockets r.trail m.key
    { routed := r.routed ++ [(m, b)], trail := if b.isNamed then m.key :: r.trail else r.trail }

/-- The nonzero ranges of a list, in order, each with the bucket it goes to. -/
def routes (t : MemoryType) (groupSockets : Bool) (ms : List Mapping) : List (Mapping × Bucket) :=
  (ms.foldl (Routing.push t groupSockets) {}).routed

def routedValues (t : MemoryType) (rs : List (Mapping × Bucket)) (b : Bucket) : List UInt64 :=
  (rs.filter (·.2 == b)).map (t.rangeValue ·.1)

/-! ## Adding to a bucket -/

namespace Word

theorem toNat_add_of_lt {a b : UInt64} (h : a.toNat + b.toNat < UInt64.size) :
    (a + b).toNat = a.toNat + b.toNat := by
  rw [UInt64.toNat_add]
  exact Nat.mod_eq_of_lt h

end Word

namespace Groups

theorem find?_bump (ms : List MappingSize) (name n : String) (v : UInt64) :
    (ms.map fun g => if g.name == name then { g with size := g.size + v } else g).find?
        (·.name == n) =
      (ms.find? (·.name == n)).map fun g =>
        if g.name == name then { g with size := g.size + v } else g := by
  rw [List.find?_map]
  congr 2
  funext g
  simp only [Function.comp]
  split <;> rfl

theorem sizeOf_addTo (ms : List MappingSize) (name : String) (v : UInt64) (n : String) :
    sizeOf (addTo ms name v) n = if n = name then sizeOf ms name + v else sizeOf ms n := by
  unfold addTo sizeOf
  split
  · rename_i hany
    rw [find?_bump]
    cases hf : ms.find? (·.name == n) with
    | none =>
        have hne : n ≠ name := by
          rintro rfl
          obtain ⟨g, hg, hgn⟩ := List.any_eq_true.1 hany
          exact List.find?_eq_none.1 hf g hg hgn
        simp [hne]
    | some g =>
        have hgn : g.name = n := by simpa using List.find?_some hf
        by_cases hn : n = name
        · subst hn
          simp [hf, hgn]
        · simp [hn, hgn]
  · rename_i hany
    rw [List.find?_append]
    by_cases hn : n = name
    · subst hn
      have hf : ms.find? (·.name == n) = none :=
        List.find?_eq_none.2 fun g hg hgn => hany (List.any_eq_true.2 ⟨g, hg, hgn⟩)
      simp [hf]
    · simp [hn, Ne.symm hn]

theorem names_addTo (ms : List MappingSize) (name : String) (v : UInt64) :
    (addTo ms name v).map (·.name) =
      if ms.any (·.name == name) then ms.map (·.name) else ms.map (·.name) ++ [name] := by
  unfold addTo
  split
  · rw [List.map_map]
    congr 1
    funext g
    simp only [Function.comp]
    split <;> rfl
  · simp

theorem size_le_exactSum {ms : List MappingSize} {g : MappingSize} (hg : g ∈ ms) :
    g.size.toNat ≤ Word.exactSum (ms.map (·.size)) := by
  induction ms with
  | nil => cases hg
  | cons e rest ih =>
      rcases List.mem_cons.1 hg with rfl | hg
      · simp
      · have := ih hg
        simp
        omega

theorem sizeOf_le (ms : List MappingSize) (n : String) :
    (sizeOf ms n).toNat ≤ Word.exactSum (ms.map (·.size)) := by
  unfold sizeOf
  cases hf : ms.find? (·.name == n) with
  | none => simp
  | some g => exact size_le_exactSum (List.mem_of_find?_eq_some hf)

section Bump

variable {ms : List MappingSize} {name : String} {v : UInt64}

theorem exactSum_bump (hnd : (ms.map (·.name)).Nodup)
    (hfit : Word.exactSum (ms.map (·.size)) + v.toNat < UInt64.size) :
    Word.exactSum ((ms.map fun g => if g.name == name then { g with size := g.size + v } else g).map
        (·.size)) =
      Word.exactSum (ms.map (·.size)) + if ms.any (·.name == name) then v.toNat else 0 := by
  induction ms with
  | nil => simp
  | cons e rest ih =>
      simp only [List.map_cons, List.nodup_cons, List.mem_map, not_exists, not_and] at hnd
      have hfit' : Word.exactSum (rest.map (·.size)) + v.toNat < UInt64.size := by
        simp at hfit; omega
      by_cases he : e.name = name
      · -- no other group has this name, so only `e` grows
        have hrest : (rest.map fun g => if g.name == name then { g with size := g.size + v } else g) =
            rest := by
          conv => rhs; rw [← List.map_id rest]
          apply List.map_congr_left
          intro g hg
          have : g.name ≠ name := fun h => hnd.1 g hg (h.trans he.symm)
          simp [this]
        have hadd : (e.size + v).toNat = e.size.toNat + v.toNat :=
          Word.toNat_add_of_lt (by simp at hfit; omega)
        have hname : (e.name == name) = true := by simp [he]
        simp only [List.map_cons, hrest, hname, if_true, Word.exactSum_cons, hadd, List.any_cons,
          Bool.true_or]
        omega
      · have hname : (e.name == name) = false := by simp [he]
        simp only [List.map_cons, hname, Bool.false_eq_true, if_false, Word.exactSum_cons,
          ih hnd.2 hfit', List.any_cons, Bool.false_or]
        omega

theorem exactSum_addTo (hnd : (ms.map (·.name)).Nodup)
    (hfit : Word.exactSum (ms.map (·.size)) + v.toNat < UInt64.size) :
    Word.exactSum ((addTo ms name v).map (·.size)) = Word.exactSum (ms.map (·.size)) + v.toNat := by
  unfold addTo
  split
  · rename_i hany
    rw [exactSum_bump hnd hfit, if_pos hany]
  · simp

theorem positive_addTo (hpos : ∀ e ∈ ms, 0 < e.size) (hv : v ≠ 0)
    (hfit : Word.exactSum (ms.map (·.size)) + v.toNat < UInt64.size) :
    ∀ e ∈ addTo ms name v, 0 < e.size := by
  unfold addTo
  split
  · intro e he
    obtain ⟨g, hg, rfl⟩ := List.mem_map.1 he
    split
    · -- the grown group is positive because the addition does not wrap
      have hle := size_le_exactSum hg
      have hadd : (g.size + v).toNat = g.size.toNat + v.toNat := Word.toNat_add_of_lt (by omega)
      have hv' : v.toNat ≠ 0 := fun h => hv (UInt64.toNat_inj.mp (by simp [h]))
      rw [UInt64.lt_iff_toNat_lt]
      simp only [UInt64.toNat_zero, hadd]
      omega
    · exact hpos g hg
  · intro e he
    rcases List.mem_append.1 he with he | he
    · exact hpos e he
    · simp at he
      subst he
      exact UInt64.pos_iff_ne_zero.2 hv

end Bump

section Add

variable (g : Groups) (b : Bucket) (v : UInt64)

@[simp] theorem add_sum : (g.add b v).sum = g.sum := by cases b <;> rfl

@[simp] theorem add_statm : (g.add b v).statm = g.statm := by cases b <;> rfl

theorem bucketSize_add (b' : Bucket) :
    (g.add b v).bucketSize b' = if b' = b then g.bucketSize b + v else g.bucketSize b' := by
  cases b <;> cases b' <;> simp [add, bucketSize, sizeOf_addTo]

theorem mem_names_add (n : String) :
    n ∈ (g.add b v).mappings.map (·.name) ↔ n ∈ g.mappings.map (·.name) ∨ b = .named n := by
  cases b with
  | named name =>
      simp only [add, names_addTo]
      split
      · rename_i hany
        obtain ⟨e, he, hen⟩ := List.any_eq_true.1 hany
        simp only [beq_iff_eq] at hen
        simp only [Bucket.named.injEq]
        constructor
        · exact .inl
        · rintro (h | rfl)
          · exact h
          · exact List.mem_map.2 ⟨e, he, hen⟩
      · simp [eq_comm]
  | _ => simp [add]

theorem nodup_add (h : (g.mappings.map (·.name)).Nodup) : ((g.add b v).mappings.map (·.name)).Nodup := by
  cases b with
  | named name =>
      simp only [add, names_addTo]
      split
      · exact h
      · rename_i hany
        refine List.nodup_append.2 ⟨h, by simp, ?_⟩
        intro a ha c hc hac
        simp only [List.mem_singleton] at hc
        subst hc hac
        obtain ⟨e, he, rfl⟩ := List.mem_map.1 ha
        exact hany (List.any_eq_true.2 ⟨e, he, by simp⟩)
  | _ => exact h

theorem bucketSize_le (b : Bucket) : (g.bucketSize b).toNat ≤ g.bucketTotal := by
  cases b with
  | named name =>
      have := sizeOf_le g.mappings name
      simp only [bucketSize, bucketTotal]
      omega
  | _ => simp only [bucketSize, bucketTotal]; omega

variable {g b v}

theorem bucketTotal_add (hnd : (g.mappings.map (·.name)).Nodup)
    (hfit : g.bucketTotal + v.toNat < UInt64.size) :
    (g.add b v).bucketTotal = g.bucketTotal + v.toNat := by
  have hle := bucketSize_le g b
  have hadd : (g.bucketSize b + v).toNat = (g.bucketSize b).toNat + v.toNat :=
    Word.toNat_add_of_lt (by omega)
  cases b with
  | named name =>
      have hfit' : Word.exactSum (g.mappings.map (·.size)) + v.toNat < UInt64.size := by
        unfold bucketTotal at hfit; omega
      simp only [bucketTotal, add, exactSum_addTo hnd hfit']
      omega
  | _ =>
      simp only [bucketSize] at hadd
      simp only [bucketTotal, add, hadd]
      omega

theorem positive_add (hpos : ∀ e ∈ g.mappings, 0 < e.size) (hv : v ≠ 0)
    (hfit : g.bucketTotal + v.toNat < UInt64.size) : ∀ e ∈ (g.add b v).mappings, 0 < e.size := by
  cases b with
  | named name =>
      exact positive_addTo hpos hv (by unfold bucketTotal at hfit; omega)
  | _ => exact hpos

end Add

end Groups

namespace Groups

theorem mappingsTotal_eq_ok {g : Groups} (h : Word.exactSum (g.mappings.map (·.size)) < UInt64.size) :
    ∃ total, g.mappingsTotal = .ok total ∧ total.toNat = Word.exactSum (g.mappings.map (·.size)) := by
  obtain ⟨total, htotal⟩ : ∃ total : UInt64, total.toNat = Word.exactSum (g.mappings.map (·.size)) :=
    ⟨UInt64.ofNat _, UInt64.toNat_ofNat_of_lt' h⟩
  exact ⟨total, (Word.sumChecked_eq_ok_iff _ _).2 ⟨h, htotal⟩, htotal⟩

end Groups

/-! ## The anchor is the chain at the end of the trail -/

namespace GroupScan

/-- The anchor of a scan stands where the chain at the end of a trail does: the same name and
end, and a name that is never empty. -/
structure Anchored (s : GroupScan) (trail : List RangeKey) : Prop where
  chain : s.anchor.map (fun a => (a.name, a.hi)) = lastChain trail
  named : ∀ a ∈ s.anchor, a.name ≠ ""

/-- Placing a range adds its value to the bucket the routing picks, and the anchor moves with the
trail: a range that goes to a named group joins the trail, any other leaves it as it is. -/
theorem place_spec {s : GroupScan} {trail : List RangeKey} (h : s.Anchored trail) (gs : Bool)
    (k : RangeKey) (v : UInt64) :
    (s.place gs k v).groups = s.groups.add (route gs trail k) v ∧
      (s.place gs k v).Anchored (if (route gs trail k).isNamed then k :: trail else trail) := by
  obtain ⟨hc, hn⟩ := h
  unfold place
  by_cases h1 : k.name.startsWith "[stack" = true
  · have hr : route gs trail k = .threadStacks := by simp [route, Bucket.own, h1]
    simp only [h1, ↓reduceIte, hr, Bucket.isNamed]
    exact ⟨rfl, hc, hn⟩
  by_cases h2 : (gs && k.name.startsWith "socket:") = true
  · have hr : route gs trail k = .sockets := by simp [route, Bucket.own, h1, h2]
    simp only [h1, h2, ↓reduceIte, hr, Bucket.isNamed]
    exact ⟨rfl, hc, hn⟩
  by_cases h3 : (k.name == "[heap]") = true
  · have hr : route gs trail k = .heap := by simp [route, Bucket.own, h1, h2, h3]
    simp only [h1, h2, h3, ↓reduceIte, hr, Bucket.isNamed]
    exact ⟨rfl, hc, hn⟩
  by_cases h4 : k.name.isEmpty = true
  · -- an anonymous range: the anchor decides whether it is a library's `.bss`
    have hown : Bucket.own gs k = .anonymous := by simp [Bucket.own, h1, h2, h3, h4]
    have hempty : k.name = "" := by simpa using h4
    simp only [h1, h2, h3, h4, Bool.false_eq_true, ↓reduceIte]
    cases ha : s.anchor with
    | none =>
        have hlc : lastChain trail = none := by rw [← hc, ha]; rfl
        have hr : route gs trail k = .anonymous := by simp [route, hown, hlc]
        simp only [hr, Bucket.isNamed, Bool.false_eq_true, ↓reduceIte]
        exact ⟨rfl, by simp [hlc], by simp⟩
    | some a =>
        have hlc : lastChain trail = some (a.name, a.hi) := by rw [← hc, ha]; rfl
        by_cases hfold : (a.hi == k.lo && k.permission == "rw-p") = true
        · have hr : route gs trail k = .named a.name := by simp [route, hown, hlc, hfold]
          have hperm : k.permission = "rw-p" := by simp at hfold; exact hfold.2
          have ha' : a.name ≠ "" := hn a (by simp [ha])
          simp only [hfold, ↓reduceIte, hr, Bucket.isNamed]
          refine ⟨rfl, ?_, by simp⟩
          simp [lastChain, hperm, hlc, hempty, ha']
        · have hr : route gs trail k = .anonymous := by simp [route, hown, hlc, hfold]
          simp only [hfold, Bool.false_eq_true, ↓reduceIte, hr, Bucket.isNamed]
          exact ⟨rfl, by simp [hlc], by simpa using hn a (by simp [ha])⟩
  · -- a named range: a code segment sets the anchor, a segment of the anchor's name extends it
    have hr : route gs trail k = .named k.name := by simp [route, Bucket.own, h1, h2, h3, h4]
    have hk : k.name ≠ "" := by simpa using h4
    simp only [h1, h2, h3, h4, Bool.false_eq_true, ↓reduceIte, hr, Bucket.isNamed]
    refine ⟨rfl, ?_, ?_⟩
    · cases ha : s.anchor with
      | none =>
          have hlc : lastChain trail = none := by rw [← hc, ha]; rfl
          by_cases hx : (k.permission == "r-xp") = true
          · simp [lastChain, hx]
          · simp [lastChain, hx, hlc]
      | some a =>
          have hlc : lastChain trail = some (a.name, a.hi) := by rw [← hc, ha]; rfl
          by_cases hx : (k.permission == "r-xp") = true
          · simp [lastChain, hx]
          · by_cases hd : k.permission = "r--p" ∨ k.permission = "rw-p" <;>
              simp [lastChain, hx, hlc, hd]
    · intro a' ha'
      split at ha'
      · simp only [Option.mem_def, Option.some.injEq] at ha'
        rw [← ha']
        exact hk
      · split at ha'
        · simp only [Option.mem_def] at ha'
          obtain ⟨a, ha, rfl⟩ := Option.map_eq_some_iff.1 ha'
          exact hn a ha
        · cases ha'

theorem step_error {t : MemoryType} {gs : Bool} {s : GroupScan} {m : Mapping} {o : Overflow}
    (h : step t gs s m = .error o) :
    o = .add ∧ UInt64.size ≤ s.groups.sum.toNat + (t.rangeValue m).toNat := by
  unfold step at h
  by_cases hv : t.rangeValue m = 0
  · rw [if_pos hv] at h
    cases h
  · rw [if_neg hv] at h
    cases hc : Word.addChecked s.groups.sum (t.rangeValue m) with
    | error o' =>
        rw [hc] at h
        cases h
        have ho := Word.addChecked_ne_error_sub _ _ _ hc
        subst ho
        exact ⟨rfl, (Word.addChecked_eq_error_iff _ _).1 hc⟩
    | ok total => rw [hc] at h; cases h

theorem step_ok_of_lt {t : MemoryType} {gs : Bool} {s : GroupScan} {m : Mapping}
    (h : s.groups.sum.toNat + (t.rangeValue m).toNat < UInt64.size) :
    ∃ s', step t gs s m = .ok s' := by
  unfold step
  by_cases hv : t.rangeValue m = 0
  · rw [if_pos hv]
    exact ⟨s, rfl⟩
  · rw [if_neg hv, Word.addChecked, if_pos h]
    exact ⟨_, rfl⟩

end GroupScan

/-! ## The scan follows the routing -/

theorem routedValues_snoc (t : MemoryType) (rs : List (Mapping × Bucket)) (m : Mapping)
    (b b' : Bucket) :
    routedValues t (rs ++ [(m, b)]) b' =
      routedValues t rs b' ++ if b = b' then [t.rangeValue m] else [] := by
  by_cases hb : b = b' <;> simp [routedValues, List.filter_append, hb]

theorem named_snoc {rs : List (Mapping × Bucket)} {m : Mapping} {b : Bucket} {n : String} :
    (∃ m', (m', Bucket.named n) ∈ rs ++ [(m, b)]) ↔
      (∃ m', (m', Bucket.named n) ∈ rs) ∨ b = .named n := by
  simp only [List.mem_append, List.mem_singleton, Prod.mk.injEq]
  constructor
  · rintro ⟨m', hm' | ⟨rfl, hb⟩⟩
    · exact .inl ⟨m', hm'⟩
    · exact .inr hb.symm
  · rintro (⟨m', hm'⟩ | hb)
    · exact ⟨m', .inl hm'⟩
    · exact ⟨m, .inr ⟨rfl, hb.symm⟩⟩

/-- The scan has read the ranges that `r` routed: each bucket holds the exact sum of what was
routed to it, the named groups are the names routed to, once each and positive, the buckets add
up to the total, and the anchor is the chain at the end of the trail. -/
structure Tallied (t : MemoryType) (statm : Statm) (r : Routing) (s : GroupScan) : Prop where
  statm : s.groups.statm = statm
  sum : s.groups.sum.toNat = Word.exactSum (r.routed.map (t.rangeValue ·.1))
  bucket : ∀ b, (s.groups.bucketSize b).toNat = Word.exactSum (routedValues t r.routed b)
  nodup : (s.groups.mappings.map (·.name)).Nodup
  names : ∀ n, n ∈ s.groups.mappings.map (·.name) ↔ ∃ m, (m, Bucket.named n) ∈ r.routed
  positive : ∀ e ∈ s.groups.mappings, 0 < e.size
  balance : s.groups.bucketTotal = s.groups.sum.toNat
  anchored : s.Anchored r.trail

namespace Tallied

variable {t : MemoryType} {statm : Statm} {gs : Bool} {r : Routing} {s s' : GroupScan}
  {m : Mapping}

theorem start (t : MemoryType) (statm : Statm) : Tallied t statm {} { groups := { statm := statm } } where
  statm := rfl
  sum := rfl
  bucket := fun b => by cases b <;> rfl
  nodup := List.nodup_nil
  names := fun n => by simp
  positive := fun e he => by cases he
  balance := rfl
  anchored := ⟨rfl, fun a ha => by cases ha⟩

/-- Placing a nonzero value once the total has taken it keeps the scan in step with the routing
that sends the range where `route` says. -/
theorem place (h : Tallied t statm r s) (hv : t.rangeValue m ≠ 0) {total : UInt64}
    (hfit : s.groups.sum.toNat + (t.rangeValue m).toNat < UInt64.size)
    (htotal : total.toNat = s.groups.sum.toNat + (t.rangeValue m).toNat) :
    Tallied t statm
      { routed := r.routed ++ [(m, route gs r.trail m.key)],
        trail := if (route gs r.trail m.key).isNamed then m.key :: r.trail else r.trail }
      (({ s with groups := { s.groups with sum := total } } : GroupScan).place gs m.key
        (t.rangeValue m)) := by
  generalize hs₀ : ({ s with groups := { s.groups with sum := total } } : GroupScan) = s₀
  have hsize : ∀ b, s₀.groups.bucketSize b = s.groups.bucketSize b := by
    subst hs₀; intro b; cases b <;> rfl
  have hsum : s₀.groups.sum = total := by subst hs₀; rfl
  have hnames : s₀.groups.mappings = s.groups.mappings := by subst hs₀; rfl
  have hbal : s₀.groups.bucketTotal = s.groups.bucketTotal := by subst hs₀; rfl
  have hanch : s₀.Anchored r.trail := by subst hs₀; exact ⟨h.anchored.chain, h.anchored.named⟩
  obtain ⟨hg, ha⟩ := GroupScan.place_spec hanch gs m.key (t.rangeValue m)
  -- the bucket the range goes to had room for its value, since the total had
  have hroom : s₀.groups.bucketTotal + (t.rangeValue m).toNat < UInt64.size := by
    rw [hbal, h.balance]; exact hfit
  refine ⟨?_, ?_, ?_, ?_, ?_, ?_, ?_, ha⟩
  · rw [hg, Groups.add_statm, ← hs₀]; exact h.statm
  · rw [hg, Groups.add_sum, hsum, htotal, h.sum]
    simp
  · intro b'
    rw [hg, Groups.bucketSize_add, routedValues_snoc, hsize, hsize]
    by_cases hb : b' = route gs r.trail m.key
    · subst hb
      have hle := Groups.bucketSize_le s.groups (route gs r.trail m.key)
      rw [if_pos rfl, if_pos rfl, Word.toNat_add_of_lt (by omega), h.bucket]
      simp
    · rw [if_neg hb, if_neg (Ne.symm hb), h.bucket]
      simp
  · rw [hg]; exact Groups.nodup_add _ _ _ (hnames ▸ h.nodup)
  · intro n
    rw [hg, Groups.mem_names_add, hnames, named_snoc]
    exact or_congr_left (h.names n)
  · rw [hg]; exact Groups.positive_add (hnames ▸ h.positive) hv hroom
  · rw [hg, Groups.bucketTotal_add (hnames ▸ h.nodup) hroom, Groups.add_sum, hbal, h.balance,
      hsum, htotal]

/-- Reading one more mapping keeps the scan in step with the routing. -/
theorem step (h : Tallied t statm r s) (hs : GroupScan.step t gs s m = .ok s') :
    Tallied t statm (r.push t gs m) s' := by
  unfold GroupScan.step at hs
  by_cases hv : t.rangeValue m = 0
  · -- a zero value changes neither the scan nor the routing
    rw [if_pos hv] at hs
    cases hs
    rwa [Routing.push, if_pos hv]
  rw [if_neg hv] at hs
  cases hc : Word.addChecked s.groups.sum (t.rangeValue m) with
  | error o => rw [hc] at hs; cases hs
  | ok total =>
      rw [hc] at hs
      cases hs
      obtain ⟨hfit, htotal⟩ := (Word.addChecked_eq_ok_iff _ _ _).1 hc
      rw [Routing.push, if_neg hv]
      exact h.place hv hfit htotal

end Tallied

/-! ## The routing of a list -/

namespace Routing

variable (t : MemoryType) (gs : Bool)

theorem exactSum_push (r : Routing) (m : Mapping) :
    Word.exactSum ((r.push t gs m).routed.map (t.rangeValue ·.1)) =
      Word.exactSum (r.routed.map (t.rangeValue ·.1)) + (t.rangeValue m).toNat := by
  unfold push
  split
  · rename_i hv
    simp [hv]
  · simp

theorem foldl_push_fst (ms : List Mapping) (r : Routing) :
    (ms.foldl (push t gs) r).routed.map Prod.fst =
      r.routed.map Prod.fst ++ ms.filter (fun m => t.rangeValue m != 0) := by
  induction ms generalizing r with
  | nil => simp
  | cons m ms ih =>
      rw [List.foldl_cons, ih]
      unfold push
      by_cases hv : t.rangeValue m = 0
      · simp [hv]
      · simp [hv]

theorem exactSum_foldl_push (ms : List Mapping) (r : Routing) :
    Word.exactSum ((ms.foldl (push t gs) r).routed.map (t.rangeValue ·.1)) =
      Word.exactSum (r.routed.map (t.rangeValue ·.1)) + Word.exactSum (ms.map t.rangeValue) := by
  induction ms generalizing r with
  | nil => simp
  | cons m ms ih =>
      rw [List.foldl_cons, ih, exactSum_push]
      simp only [List.map_cons, Word.exactSum_cons]
      omega

end Routing

theorem routes_fst (t : MemoryType) (gs : Bool) (ms : List Mapping) :
    (routes t gs ms).map Prod.fst = ms.filter (fun m => t.rangeValue m != 0) := by
  simp [routes, Routing.foldl_push_fst]

/-! ## Folding the scan over the list -/

namespace Tallied

variable {t : MemoryType} {statm : Statm} {gs : Bool}

theorem sum_step {r : Routing} {s s' : GroupScan} {m : Mapping} (h : Tallied t statm r s)
    (hs : GroupScan.step t gs s m = .ok s') :
    s'.groups.sum.toNat = s.groups.sum.toNat + (t.rangeValue m).toNat := by
  rw [(h.step hs).sum, Routing.exactSum_push, h.sum]

theorem foldlM_ok {ms : List Mapping} :
    ∀ {r : Routing} {s s' : GroupScan}, Tallied t statm r s →
      ms.foldlM (GroupScan.step t gs) s = .ok s' → Tallied t statm (ms.foldl (Routing.push t gs) r) s' := by
  induction ms with
  | nil => intro r s s' h hs; cases hs; exact h
  | cons m ms ih =>
      intro r s s' h hs
      rw [List.foldlM_cons] at hs
      cases hm : GroupScan.step t gs s m with
      | error o => rw [hm] at hs; cases hs
      | ok s₁ =>
          rw [hm] at hs
          exact ih (h.step hm) hs

theorem foldlM_error {ms : List Mapping} :
    ∀ {r : Routing} {s : GroupScan} {o : Overflow}, Tallied t statm r s →
      ms.foldlM (GroupScan.step t gs) s = .error o →
        o = .add ∧ UInt64.size ≤ s.groups.sum.toNat + Word.exactSum (ms.map t.rangeValue) := by
  induction ms with
  | nil => intro r s o h hs; cases hs
  | cons m ms ih =>
      intro r s o h hs
      rw [List.foldlM_cons] at hs
      cases hm : GroupScan.step t gs s m with
      | error o' =>
          rw [hm] at hs
          cases hs
          obtain ⟨rfl, hover⟩ := GroupScan.step_error hm
          refine ⟨rfl, ?_⟩
          simp only [List.map_cons, Word.exactSum_cons]
          omega
      | ok s₁ =>
          rw [hm] at hs
          obtain ⟨rfl, hover⟩ := ih (h.step hm) hs
          refine ⟨rfl, ?_⟩
          rw [h.sum_step hm] at hover
          simp only [List.map_cons, Word.exactSum_cons]
          omega

theorem foldlM_exists {ms : List Mapping} :
    ∀ {r : Routing} {s : GroupScan}, Tallied t statm r s →
      s.groups.sum.toNat + Word.exactSum (ms.map t.rangeValue) < UInt64.size →
        ∃ s', ms.foldlM (GroupScan.step t gs) s = .ok s' := by
  induction ms with
  | nil => intro r s _ _; exact ⟨s, rfl⟩
  | cons m ms ih =>
      intro r s h hfit
      simp only [List.map_cons, Word.exactSum_cons] at hfit
      obtain ⟨s₁, hm⟩ := @GroupScan.step_ok_of_lt t gs s m (by omega)
      obtain ⟨s', hs'⟩ := ih (h.step hm) (by rw [h.sum_step hm]; omega)
      exact ⟨s', by rw [List.foldlM_cons, hm]; exact hs'⟩

end Tallied

/-! ## Grouping -/

section Group

variable (ms : List Mapping) (statm : Statm) (t : MemoryType) (gs : Bool)

/-- A grouping that succeeds is read off a scan in step with the routing of the whole list. -/
theorem group_tallied {g : Groups} (h : group ms statm t gs = .ok g) :
    ∃ s : GroupScan, s.groups = g ∧ Tallied t statm (ms.foldl (Routing.push t gs) {}) s := by
  unfold group at h
  split at h
  · cases h
  · rename_i s hs
    cases h
    exact ⟨s, rfl, (Tallied.start t statm).foldlM_ok hs⟩

/-- Grouping fails exactly when the values add up past a word, and then by an addition
overflow. -/
theorem group_eq_error_iff (o : Overflow) :
    group ms statm t gs = .error o ↔
      o = .add ∧ UInt64.size ≤ Word.exactSum (ms.map t.rangeValue) := by
  unfold group
  split
  · rename_i o' hs
    have := (Tallied.start t statm).foldlM_error hs
    simp only [UInt64.toNat_zero, Nat.zero_add] at this
    constructor
    · intro h; cases h; exact this
    · rintro ⟨rfl, -⟩; rw [this.1]
  · rename_i s hs
    -- a scan that gets through has a total that fits
    have hsum := ((Tallied.start t statm).foldlM_ok hs).sum
    simp only [Routing.exactSum_foldl_push, List.map_nil, Word.exactSum_nil, Nat.zero_add] at hsum
    simp only [reduceCtorEq, false_iff, not_and, Nat.not_le]
    intro _
    rw [← hsum]
    exact UInt64.toNat_lt _

theorem group_ok_iff :
    (∃ g, group ms statm t gs = .ok g) ↔ Word.exactSum (ms.map t.rangeValue) < UInt64.size := by
  constructor
  · rintro ⟨g, hg⟩
    obtain ⟨s, rfl, h⟩ := group_tallied ms statm t gs hg
    have hsum := h.sum
    simp only [Routing.exactSum_foldl_push, List.map_nil, Word.exactSum_nil, Nat.zero_add] at hsum
    rw [← hsum]
    exact UInt64.toNat_lt _
  · intro hfit
    obtain ⟨s, hs⟩ := @Tallied.foldlM_exists t statm gs ms {} _ (Tallied.start t statm)
      (by simpa using hfit)
    exact ⟨s.groups, by rw [group, hs]⟩

/-- Grouping routes every mapping: each one of nonzero value is routed once, in order, and the
others are passed over; grouping succeeds exactly when the values fit in a word; and then each
bucket holds the exact sum of the values routed to it, and the named groups are the names routed
to, once each. -/
theorem group_routes :
    (routes t gs ms).map Prod.fst = ms.filter (fun m => t.rangeValue m != 0) ∧
    ((∃ g, group ms statm t gs = .ok g) ↔ Word.exactSum (ms.map t.rangeValue) < UInt64.size) ∧
    ∀ g, group ms statm t gs = .ok g →
      (∀ b, (g.bucketSize b).toNat = Word.exactSum (routedValues t (routes t gs ms) b)) ∧
      (g.mappings.map (·.name)).Nodup ∧
      ∀ n, n ∈ g.mappings.map (·.name) ↔ ∃ m, (m, Bucket.named n) ∈ routes t gs ms := by
  refine ⟨routes_fst t gs ms, group_ok_iff ms statm t gs, fun g hg => ?_⟩
  obtain ⟨s, rfl, h⟩ := group_tallied ms statm t gs hg
  exact ⟨h.bucket, h.nodup, h.names⟩

/-- A library's code segment, its read-only data right behind it, and its `.bss` right behind
that. -/
def libraryLayout : List Mapping :=
  [⟨⟨⟨1, 1⟩, 0x1000, 0x2000, "r-xp", "lib.so"⟩, 10, 5⟩,
    ⟨⟨⟨1, 1⟩, 0x2000, 0x3000, "r--p", "lib.so"⟩, 20, 10⟩,
    ⟨⟨⟨1, 1⟩, 0x3000, 0x5000, "rw-p", ""⟩, 30, 15⟩]

/-- The three pieces of the library are grouped back under its name. -/
theorem group_routes_library :
    group libraryLayout {} .rss true = .ok { sum := 60, mappings := [⟨"lib.so", 60⟩] } ∧
      (∀ b, (Groups.bucketSize { sum := 60, mappings := [⟨"lib.so", 60⟩] } b).toNat =
        Word.exactSum (routedValues .rss (routes .rss true libraryLayout) b)) ∧
      (([⟨"lib.so", 60⟩] : List MappingSize).map (·.name)).Nodup ∧
      ∀ n, n ∈ ([⟨"lib.so", 60⟩] : List MappingSize).map (·.name) ↔
        ∃ m, (m, Bucket.named n) ∈ routes .rss true libraryLayout := by
  have h : group libraryLayout {} .rss true = .ok { sum := 60, mappings := [⟨"lib.so", 60⟩] } := by
    cbv
  exact ⟨h, (group_routes libraryLayout {} .rss true).2.2 _ h⟩

/-- Grouping fails with an addition overflow exactly when the values add up past a word, and
succeeds otherwise. Then the total is that sum and the sum of the buckets; the values routed to
each bucket add up one by one without leaving the word; the named groups add up without leaving
the word in whatever order they are taken; and every named group is positive. -/
theorem group_overflow_iff :
    (group ms statm t gs = .error .add ↔ UInt64.size ≤ Word.exactSum (ms.map t.rangeValue)) ∧
    ((∃ g, group ms statm t gs = .ok g) ↔ Word.exactSum (ms.map t.rangeValue) < UInt64.size) ∧
    ∀ g, group ms statm t gs = .ok g →
      g.sum.toNat = Word.exactSum (ms.map t.rangeValue) ∧
      (∃ total, g.mappingsTotal = .ok total ∧
        g.sum.toNat = g.threadStacks.toNat + g.heap.toNat + g.anonymous.toNat + g.sockets.toNat +
          total.toNat ∧
        ∀ sizes, sizes.Perm (g.mappings.map (·.size)) → Word.sumChecked sizes = .ok total) ∧
      (∀ b, Word.sumChecked (routedValues t (routes t gs ms) b) = .ok (g.bucketSize b)) ∧
      ∀ e ∈ g.mappings, 0 < e.size := by
  refine ⟨by simpa using group_eq_error_iff ms statm t gs .add, group_ok_iff ms statm t gs,
    fun g hg => ?_⟩
  obtain ⟨s, rfl, h⟩ := group_tallied ms statm t gs hg
  have hsum : s.groups.sum.toNat = Word.exactSum (ms.map t.rangeValue) := by
    simpa [Routing.exactSum_foldl_push] using h.sum
  -- every bucket, and the named groups together, are at most the total, which fits
  have hfit := UInt64.toNat_lt s.groups.sum
  have hsize : UInt64.size = 18446744073709551616 := rfl
  have hbal := h.balance
  unfold Groups.bucketTotal at hbal
  obtain ⟨total, hok, htotal⟩ := Groups.mappingsTotal_eq_ok (g := s.groups) (by omega)
  refine ⟨hsum, ⟨total, hok, by omega, fun sizes hp => ?_⟩, fun b => ?_, h.positive⟩
  · rw [Word.sumChecked_perm hp]
    exact hok
  · have hle := Groups.bucketSize_le s.groups b
    unfold Groups.bucketTotal at hle
    rw [Word.sumChecked_eq_ok_iff, routes, ← h.bucket b]
    exact ⟨by omega, rfl⟩

def specialLayout : List Mapping :=
  [⟨⟨⟨1, 1⟩, 0x1000, 0x2000, "rw-p", "[heap]"⟩, 100, 50⟩,
    ⟨⟨⟨1, 1⟩, 0x2000, 0x3000, "rw-p", "[stack]"⟩, 8, 4⟩,
    ⟨⟨⟨1, 1⟩, 0x3000, 0x4000, "rw-p", "[stack:1234]"⟩, 4, 2⟩,
    ⟨⟨⟨1, 1⟩, 0x4000, 0x5000, "rw-s", "socket:[8812]"⟩, 16, 8⟩,
    ⟨⟨⟨1, 1⟩, 0x5000, 0x6000, "rw-p", ""⟩, 32, 16⟩]

/-- The special buckets add up to the total, and there is no named group. -/
theorem group_overflow_iff_special :
    group specialLayout {} .rss true =
        .ok { threadStacks := 12, heap := 100, anonymous := 32, sockets := 16, sum := 160 } ∧
      (160 : UInt64).toNat = Word.exactSum (specialLayout.map MemoryType.rss.rangeValue) ∧
      (∃ total, Groups.mappingsTotal
          { threadStacks := 12, heap := 100, anonymous := 32, sockets := 16, sum := 160 } =
          .ok total ∧
        (160 : UInt64).toNat = (12 : UInt64).toNat + (100 : UInt64).toNat + (32 : UInt64).toNat +
          (16 : UInt64).toNat + total.toNat ∧
        ∀ sizes : List UInt64, sizes.Perm [] → Word.sumChecked sizes = .ok total) ∧
      (∀ b, Word.sumChecked (routedValues .rss (routes .rss true specialLayout) b) =
        .ok (Groups.bucketSize
          { threadStacks := 12, heap := 100, anonymous := 32, sockets := 16, sum := 160 } b)) ∧
      ∀ e ∈ ([] : List MappingSize), 0 < e.size := by
  have h : group specialLayout {} .rss true =
      .ok { threadStacks := 12, heap := 100, anonymous := 32, sockets := 16, sum := 160 } := by
    cbv
  exact ⟨h, (group_overflow_iff specialLayout {} .rss true).2.2 _ h⟩

end Group

end MemoryRecorder
