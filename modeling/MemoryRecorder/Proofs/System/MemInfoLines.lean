import MemoryRecorder.System.MemInfo
import MemoryRecorder.Proofs.Process.StartTime
/-!
# Reading the system's memory counters

`meminfo` is read line by line. A line carries a key when it holds a colon: the key is the text
before the first colon. Each of the twelve counters takes the value of the last line that
carries its key, and zero when no line does; the value of a line is its middle word when the line
has exactly three words, the last `kB` and the middle one a decimal word, and zero otherwise.
Lines of other keys and lines without a colon change nothing (`get_parse`).

A line feed ends a line and takes a carriage return before it along. A carriage return is a
blank, so dropping it changes neither the key nor the words of a line, and a text made of lines
joined by line feeds reads like those lines (`parse_intercalate`).

The law above holds for every text, and a text with one `Key: value kB` line per counter, in any
order and among lines of other keys, reads as exactly those values (`parse_last_line_per_key`).
-/

namespace MemoryRecorder
namespace MemInfo

open Text

/-- The twelve counters, each named by the key of its line. -/
inductive Field where
  | memTotal
  | memFree
  | memAvailable
  | buffers
  | cached
  | swapCache
  | swapTotal
  | swapFree
  | anonPages
  | mapped
  | shmem
  | sReclaimable
  deriving DecidableEq, Repr

namespace Field

def key : Field → String
  | memTotal => "MemTotal"
  | memFree => "MemFree"
  | memAvailable => "MemAvailable"
  | buffers => "Buffers"
  | cached => "Cached"
  | swapCache => "SwapCached"
  | swapTotal => "SwapTotal"
  | swapFree => "SwapFree"
  | anonPages => "AnonPages"
  | mapped => "Mapped"
  | shmem => "Shmem"
  | sReclaimable => "SReclaimable"

def all : List Field :=
  [memTotal, memFree, memAvailable, buffers, cached, swapCache, swapTotal, swapFree, anonPages,
    mapped, shmem, sReclaimable]

theorem filter_key_eq (f : Field) : all.filter (fun g => decide (g.key = f.key)) = [f] := by
  cases f <;> decide

theorem colon_not_mem_key (f : Field) : ':' ∉ f.key.toList := by
  cases f <;> decide

theorem key_not_blank (f : Field) : ∀ c ∈ f.key.toList, isBlank c = false := by
  have h : f.key.toList.all (fun c => !isBlank c) = true := by cases f <;> decide
  simpa using h

end Field

def get (m : MemInfo) : Field → UInt64
  | .memTotal => m.memTotal
  | .memFree => m.memFree
  | .memAvailable => m.memAvailable
  | .buffers => m.buffers
  | .cached => m.cached
  | .swapCache => m.swapCache
  | .swapTotal => m.swapTotal
  | .swapFree => m.swapFree
  | .anonPages => m.anonPages
  | .mapped => m.mapped
  | .shmem => m.shmem
  | .sReclaimable => m.sReclaimable

theorem ext_get {m m' : MemInfo} (h : ∀ f, m.get f = m'.get f) : m = m' := by
  cases m
  cases m'
  simp only [mk.injEq]
  exact ⟨h .memTotal, h .memFree, h .memAvailable, h .buffers, h .cached, h .swapCache,
    h .swapTotal, h .swapFree, h .anonPages, h .mapped, h .shmem, h .sReclaimable⟩

theorem get_setKey (m : MemInfo) (k : String) (v : UInt64) (f : Field) :
    (m.setKey k v).get f = if k = f.key then v else m.get f := by
  unfold setKey
  split <;> cases f <;> simp_all [get, Field.key]

/-! ## Lines -/

/-- The key a line carries: its text before the first colon, if it has one. -/
def keyOf (line : String) : Option String :=
  (splitOnce ':' line).map Prod.fst

def Field.carries (f : Field) (line : String) : Bool :=
  decide (keyOf line = some f.key)

/-- Reads one line into the counters. -/
def readLine (m : MemInfo) (line : String) : MemInfo :=
  match keyOf line with
  | some k => m.setKey k (lineValue line)
  | none => m

theorem parse_eq_foldl (content : String) : parse content = (lines content).foldl readLine {} := by
  unfold parse
  refine congrArg (fun g => List.foldl g ({} : MemInfo) (lines content)) ?_
  funext m line
  unfold readLine keyOf
  rcases splitOnce ':' line with _ | ⟨k, rest⟩ <;> rfl

theorem get_readLine (m : MemInfo) (line : String) (f : Field) :
    (readLine m line).get f = if f.carries line then lineValue line else m.get f := by
  unfold readLine Field.carries
  cases keyOf line with
  | none => rfl
  | some k => simp [get_setKey]

/-- Reading lines sets each counter to the value of the last line that carries its key, and
leaves it as it was when none does. -/
theorem get_foldl_readLine (ls : List String) (m : MemInfo) (f : Field) :
    (ls.foldl readLine m).get f = ((ls.filter f.carries).getLast?.map lineValue).getD (m.get f) := by
  induction ls generalizing m with
  | nil => rfl
  | cons l ls ih =>
      rw [List.foldl_cons, ih, get_readLine]
      cases hl : f.carries l with
      | false => simp [List.filter_cons_of_neg, hl]
      | true =>
          -- a later carrying line overrides this one
          rw [List.filter_cons_of_pos hl, List.getLast?_cons]
          cases (ls.filter f.carries).getLast? <;> rfl

/-- Each counter of a text is the value of its last line that carries the counter's key, zero
when there is none. -/
theorem get_parse (content : String) (f : Field) :
    (parse content).get f =
      (((lines content).filter f.carries).getLast?.map lineValue).getD 0 := by
  rw [parse_eq_foldl, get_foldl_readLine]
  cases f <;> rfl

/-! ## Values -/

theorem lineValue_of_words {line w v : String} {n : UInt64} (hw : words line = [w, v, "kB"])
    (hn : u64? v = some n) : lineValue line = n := by
  simp [lineValue, hw, hn]

theorem lineValue_of_not_words {line : String}
    (h : ¬ ∃ w v n, words line = [w, v, "kB"] ∧ u64? v = some n) : lineValue line = 0 := by
  unfold lineValue
  split
  · rename_i w v hw
    cases hn : u64? v with
    | none => rfl
    | some n => exact absurd ⟨w, v, n, hw, hn⟩ h
  · rfl

/-! ## Line ends -/

theorem wordsFrom_append_blank {c : Char} (hc : isBlank c = true) (cs acc : List Char) :
    wordsFrom acc (cs ++ [c]) = wordsFrom acc cs := by
  induction cs generalizing acc with
  | nil => simp [wordsFrom, hc]
  | cons d ds ih =>
      rw [List.cons_append, wordsFrom, wordsFrom]
      split
      · split
        · exact ih []
        · rw [ih []]
      · exact ih (d :: acc)

theorem keyOf_append_of_ne {c : Char} (hc : c ≠ ':') (cs : List Char) :
    keyOf (String.ofList (cs ++ [c])) = keyOf (String.ofList cs) := by
  have hmem : ':' ∈ cs ++ [c] ↔ ':' ∈ cs := by
    simp only [List.mem_append, List.mem_singleton]
    exact ⟨fun h => h.resolve_right (Ne.symm hc), Or.inl⟩
  unfold keyOf splitOnce
  simp only [String.toList_ofList]
  by_cases h : ':' ∈ cs
  · -- the first colon lies in front of the added character
    have htake : (cs.takeWhile (· ≠ ':')).length ≠ cs.length := by
      intro hlen
      have hall := List.all_takeWhile (p := fun x => decide (x ≠ ':')) (l := cs)
      rw [(List.takeWhile_prefix _).eq_of_length hlen, List.all_eq_true] at hall
      simpa using hall ':' h
    rw [if_pos (hmem.2 h), if_pos h, List.takeWhile_append, if_neg htake]
    rfl
  · rw [if_neg (fun h' => h (hmem.1 h')), if_neg h]

/-- Dropping a carriage return at the end of a line changes how it reads into no counter. -/
theorem readLine_dropReturn (m : MemInfo) (line : String) :
    readLine m (String.ofList (dropReturn line.toList)) = readLine m line := by
  unfold dropReturn
  split
  · rename_i hlast
    obtain ⟨cs, hcs⟩ := List.getLast?_eq_some_iff.1 hlast
    have hline : line = String.ofList (cs ++ ['\r']) := by
      rw [← hcs, String.ofList_toList]
    have hdrop : line.toList.dropLast = cs := by rw [hcs, List.dropLast_concat]
    have hkey := keyOf_append_of_ne (by decide : '\r' ≠ ':') cs
    have hwords : words (String.ofList cs) = words line := by
      rw [hline, words, words, String.toList_ofList, String.toList_ofList,
        wordsFrom_append_blank (by decide) cs []]
    rw [hdrop]
    unfold readLine lineValue
    rw [hwords, hline, hkey]
  · rw [String.ofList_toList]

theorem readLine_of_keyOf_none {line : String} (h : keyOf line = none) (m : MemInfo) :
    readLine m line = m := by
  simp [readLine, h]

theorem splitFeeds_intercalate {ls : List (List Char)} (h : ∀ l ∈ ls, '\n' ∉ l) (hne : ls ≠ []) :
    splitFeeds (['\n'].intercalate ls) = ls := by
  induction ls with
  | nil => exact absurd rfl hne
  | cons l ls ih =>
      have hl : '\n' ∉ l := h l List.mem_cons_self
      cases ls with
      | nil => simp [Stat.splitFeeds_of_lf_not_mem hl]
      | cons l' ls' =>
          rw [List.intercalate_cons_cons, List.append_assoc, List.singleton_append,
            Stat.splitFeeds_append_lf hl,
            ih (fun x hx => h x (List.mem_cons_of_mem l hx)) (List.cons_ne_nil _ _)]

/-- A text of lines joined by line feeds reads like the lines themselves. -/
theorem parse_intercalate {ls : List String} (h : ∀ l ∈ ls, '\n' ∉ l.toList) :
    parse ("\n".intercalate ls) = ls.foldl readLine {} := by
  rw [parse_eq_foldl]
  rcases List.eq_nil_or_concat ls with rfl | ⟨front, last, rfl⟩
  · rfl
  · rw [List.concat_eq_append] at h ⊢
    have hpieces : splitFeeds ("\n".intercalate (front ++ [last])).toList =
        front.map String.toList ++ [last.toList] := by
      have hlf : ∀ l ∈ (front ++ [last]).map String.toList, '\n' ∉ l := by
        intro l hl
        obtain ⟨s, hs, rfl⟩ := List.mem_map.1 hl
        exact h s hs
      rw [String.toList_intercalate, show ("\n" : String).toList = ['\n'] from rfl,
        splitFeeds_intercalate hlf (by simp), List.map_append, List.map_singleton]
    have hfront : (front.map fun l => String.ofList (dropReturn l.toList)).foldl readLine {} =
        front.foldl readLine {} := by
      rw [List.foldl_map]
      refine congrArg (fun g => List.foldl g ({} : MemInfo) front) ?_
      funext m l
      exact readLine_dropReturn m l
    -- the closed lines lose a carriage return, and an empty last line is no line
    unfold lines
    simp only [hpieces, List.dropLast_concat, List.getLast?_concat, Option.getD_some,
      List.map_map, Function.comp_def, List.foldl_append, List.foldl_cons, List.foldl_nil]
    by_cases hlast : last = ""
    · subst hlast
      rw [readLine_of_keyOf_none (by decide)]
      simp only [show ("" : String).toList.isEmpty = true from rfl, if_true, List.map_map,
        Function.comp_def]
      exact hfront
    · have hne : last.toList.isEmpty = false := by simpa using hlast
      simp only [hne, Bool.false_eq_true, if_false, List.map_append, List.map_map,
        Function.comp_def, List.foldl_append, List.map_singleton, String.ofList_toList,
        List.foldl_cons, List.foldl_nil, hfront]

/-! ## Counter lines -/

section

variable (f : Field) {gap : String} (v : UInt64)

theorem keyOf_key_colon (rest : String) : keyOf (f.key ++ ":" ++ rest) = some f.key := by
  unfold keyOf
  rw [show f.key ++ ":" ++ rest = f.key ++ String.singleton ':' ++ rest from rfl,
    splitOnce_append (Field.colon_not_mem_key f)]
  rfl

theorem carries_key_colon (g : Field) (rest : String) :
    g.carries (f.key ++ ":" ++ rest) = decide (f.key = g.key) := by
  simp [Field.carries, keyOf_key_colon]

theorem wordsFrom_blanks_append {g : List Char} (hg : ∀ c ∈ g, isBlank c = true)
    (rest : List Char) : wordsFrom [] (g ++ rest) = wordsFrom [] rest := by
  induction g with
  | nil => rfl
  | cons c cs ih =>
      rw [List.cons_append, wordsFrom, if_pos (hg c List.mem_cons_self),
        if_pos (by rfl), ih (fun d hd => hg d (List.mem_cons_of_mem c hd))]

/-- The words of a counter's line: the key with its colon, the value, and `kB`. -/
theorem words_counterLine (hgap : gap ≠ "" ∧ ∀ c ∈ gap.toList, isBlank c = true) :
    words (f.key ++ ":" ++ gap ++ toString v ++ " kB") = [f.key ++ ":", toString v, "kB"] := by
  obtain ⟨c, cs, hgc⟩ := List.exists_cons_of_ne_nil (String.toList_eq_nil_iff.not.2 hgap.1)
  have hc : isBlank c = true := hgap.2 c (hgc ▸ List.mem_cons_self)
  have hcs : ∀ d ∈ cs, isBlank d = true := fun d hd => hgap.2 d (hgc ▸ List.mem_cons_of_mem c hd)
  have hkey : ∀ d ∈ (f.key ++ ":").toList, isBlank d = false := by
    intro d hd
    simp only [String.toList_append, List.mem_append] at hd
    rcases hd with hd | hd
    · exact Field.key_not_blank f d hd
    · have : d = ':' := by simpa using hd
      subst this
      rfl
  have hv := (Smaps.isWord_toString v).2
  have hvne : (toString v).toList ≠ [] := by
    simpa using (Smaps.isWord_toString v).1
  have hlist : (f.key ++ ":" ++ gap ++ toString v ++ " kB").toList =
      (f.key ++ ":").toList ++ c :: (cs ++ ((toString v).toList ++ [' ', 'k', 'B'])) := by
    simp [hgc]
  unfold words
  rw [hlist, ← List.append_nil (f.key ++ ":").toList, List.append_assoc,
    wordsFrom_append_of_not_blank hkey, List.nil_append, List.append_nil, wordsFrom, if_pos hc,
    if_neg (by simp), wordsFrom_blanks_append hcs,
    wordsFrom_append_of_not_blank hv, wordsFrom, if_pos (by rfl), if_neg (by simpa using hvne)]
  have hkB : wordsFrom [] ['k', 'B'] = [['k', 'B']] := by decide
  have hkBText : String.ofList ['k', 'B'] = "kB" := by decide
  simp only [hkB, List.append_nil, List.reverse_reverse, List.map_cons, List.map_nil,
    String.ofList_toList, hkBText]

theorem lineValue_counterLine (hgap : gap ≠ "" ∧ ∀ c ∈ gap.toList, isBlank c = true) :
    lineValue (f.key ++ ":" ++ gap ++ toString v ++ " kB") = v :=
  lineValue_of_words (words_counterLine f v hgap) (u64?_toString v)

end

/-- Among one line per counter, exactly one carries a given counter's key. -/
theorem filter_counterLines (gap : Field → String) (m : MemInfo) (f : Field) :
    (Field.all.map fun g => g.key ++ ":" ++ gap g ++ toString (m.get g) ++ " kB").filter
        f.carries = [f.key ++ ":" ++ gap f ++ toString (m.get f) ++ " kB"] := by
  rw [List.filter_map]
  have hpred : (f.carries ∘ fun g => g.key ++ ":" ++ gap g ++ toString (m.get g) ++ " kB") =
      fun g => decide (g.key = f.key) := by
    funext g
    have hassoc : g.key ++ ":" ++ gap g ++ toString (m.get g) ++ " kB" =
        g.key ++ ":" ++ (gap g ++ toString (m.get g) ++ " kB") := by
      simp only [String.append_assoc]
    rw [Function.comp_apply, hassoc, carries_key_colon]
  rw [hpred, Field.filter_key_eq]
  rfl

/-- Reading the counters of `meminfo`: in every text, each counter is zero when no line carries
its key, and otherwise read from the last line that carries it: the middle word of a line of
exactly three words ending in `kB` whose middle word is a decimal word, and zero for any other
line. So a text of one `Key: value kB` line per counter, each key followed by a colon and at
least one blank before the value, in any order and among lines without a colon or whose text
before the first colon is no counter's key, reads as exactly those values. -/
theorem parse_last_line_per_key :
    (∀ (m : MemInfo) (gap : Field → String) (others ls : List String),
      (∀ f, gap f ≠ "" ∧ ∀ c ∈ (gap f).toList, isBlank c = true ∧ c ≠ '\n') →
      (∀ l ∈ others, '\n' ∉ l.toList ∧ ∀ f : Field, keyOf l ≠ some f.key) →
      ls.Perm ((Field.all.map fun f => f.key ++ ":" ++ gap f ++ toString (m.get f) ++ " kB") ++
        others) →
      parse ("\n".intercalate ls) = m) ∧
    ∀ (content : String) (f : Field),
      ((∀ l ∈ lines content, f.carries l = false) → (parse content).get f = 0) ∧
      ∀ l, ((lines content).filter f.carries).getLast? = some l →
        (∀ w v n, words l = [w, v, "kB"] → u64? v = some n → (parse content).get f = n) ∧
        ((¬ ∃ w v n, words l = [w, v, "kB"] ∧ u64? v = some n) → (parse content).get f = 0) := by
  refine ⟨fun m gap others ls hgap hothers hperm => ?_, fun content f => ⟨fun habsent => ?_,
    fun l hl => ⟨fun w v n hw hn => ?_, fun hshape => ?_⟩⟩⟩
  · -- the one line of each counter decides it
    have hlf : ∀ l ∈ ls, '\n' ∉ l.toList := by
      intro l hl
      rcases List.mem_append.1 (hperm.subset hl) with hl | hl
      · obtain ⟨g, -, rfl⟩ := List.mem_map.1 hl
        intro hmem
        simp only [String.toList_append, List.mem_append] at hmem
        rcases hmem with (((hmem | hmem) | hmem) | hmem) | hmem
        · exact absurd (Field.key_not_blank g '\n' hmem) (by decide)
        · simp at hmem
        · exact (hgap g).2 '\n' hmem |>.2 rfl
        · exact absurd ((Smaps.isWord_toString (m.get g)).2 '\n' hmem) (by decide)
        · simp at hmem
      · exact (hothers l hl).1
    apply ext_get
    intro f
    have hfilter : ls.filter f.carries = [f.key ++ ":" ++ gap f ++ toString (m.get f) ++ " kB"] := by
      have hp := hperm.filter f.carries
      have hnone : others.filter f.carries = [] := by
        rw [List.filter_eq_nil_iff]
        intro l hl
        simpa [Field.carries] using (hothers l hl).2 f
      rw [List.filter_append, filter_counterLines, hnone, List.append_nil] at hp
      exact List.perm_singleton.1 hp
    rw [parse_intercalate hlf, get_foldl_readLine, hfilter]
    exact lineValue_counterLine f (m.get f) ⟨(hgap f).1, fun c hc => ((hgap f).2 c hc).1⟩
  · have hnil : (lines content).filter f.carries = [] := List.filter_eq_nil_iff.2 (by simpa using habsent)
    rw [get_parse, hnil]
    rfl
  · rw [get_parse, hl]
    exact lineValue_of_words hw hn
  · rw [get_parse, hl]
    exact lineValue_of_not_words hshape

def sampleInfo : MemInfo :=
  { memTotal := 16314516, memFree := 1021364, memAvailable := 9234880, buffers := 527700,
    cached := 7880520, swapCache := 1024, swapTotal := 2097148, swapFree := 2000000,
    anonPages := 5100000, mapped := 900000, shmem := 600000, sReclaimable := 400000 }

/-- The blanks between each key of the sample and its value, which end in one column. -/
def sampleGap : Field → String
  | .memTotal => "       "
  | .memFree => "         "
  | .memAvailable => "    "
  | .buffers => "          "
  | .cached => "          "
  | .swapCache => "         "
  | .swapTotal => "       "
  | .swapFree => "        "
  | .anonPages => "       "
  | .mapped => "           "
  | .shmem => "            "
  | .sReclaimable => "     "

def sampleOthers : List String :=
  ["Active:          8050996 kB", "HugePages_Total:       0", ""]

/-- The sample's lines in the order of the file, the other keys among the counters. -/
def sampleLines : List String :=
  ["MemTotal:       16314516 kB", "MemFree:         1021364 kB", "MemAvailable:    9234880 kB",
    "Buffers:          527700 kB", "Cached:          7880520 kB", "SwapCached:         1024 kB",
    "Active:          8050996 kB", "SwapTotal:       2097148 kB", "SwapFree:        2000000 kB",
    "AnonPages:       5100000 kB", "Mapped:           900000 kB", "Shmem:            600000 kB",
    "SReclaimable:     400000 kB", "HugePages_Total:       0", ""]

theorem parse_last_line_per_key_sample :
    (∀ f, sampleGap f ≠ "" ∧ ∀ c ∈ (sampleGap f).toList, isBlank c = true ∧ c ≠ '\n') ∧
    (∀ l ∈ sampleOthers, '\n' ∉ l.toList ∧ ∀ f : Field, keyOf l ≠ some f.key) ∧
    sampleLines.Perm ((Field.all.map fun f =>
      f.key ++ ":" ++ sampleGap f ++ toString (sampleInfo.get f) ++ " kB") ++ sampleOthers) ∧
    parse ("\n".intercalate sampleLines) = sampleInfo := by
  have hgap : ∀ f, sampleGap f ≠ "" ∧ ∀ c ∈ (sampleGap f).toList, isBlank c = true ∧ c ≠ '\n' := by
    intro f
    have hall : (sampleGap f).toList.all (fun c => isBlank c && c != '\n') = true := by
      cases f <;> decide
    refine ⟨by cases f <;> decide, fun c hc => ?_⟩
    have := List.all_eq_true.1 hall c hc
    simpa using this
  have hothers : ∀ l ∈ sampleOthers, '\n' ∉ l.toList ∧ ∀ f : Field, keyOf l ≠ some f.key := by
    intro l hl
    simp only [sampleOthers, List.mem_cons, List.not_mem_nil, or_false] at hl
    refine ⟨by rcases hl with rfl | rfl | rfl <;> decide, fun f => ?_⟩
    rcases hl with rfl | rfl | rfl <;> cases f <;> decide
  have hperm : sampleLines.Perm ((Field.all.map fun f =>
      f.key ++ ":" ++ sampleGap f ++ toString (sampleInfo.get f) ++ " kB") ++ sampleOthers) := by
    decide
  exact ⟨hgap, hothers, hperm, parse_last_line_per_key.1 sampleInfo sampleGap sampleOthers
    sampleLines hgap hothers hperm⟩

end MemInfo
end MemoryRecorder
