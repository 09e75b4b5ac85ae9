import MemoryRecorder.Process.Identity
import MemoryRecorder.Proofs.Process.SmapsRoundTrip
/-!
# The start time in a stat line

The first line of a process's `stat` file is its pid, its command name in parentheses, and then
its fields, one space before each (`Stat.line`). The command name is any text without a line
feed, so it may hold blanks and parentheses itself; a field is a word without a closing
parenthesis (`Stat.IsField`). Cutting after the last closing parenthesis therefore leaves exactly
the fields, whatever the command name (`afterLast_append`, `words_fieldsText`), and the start
time is the twentieth of them, field 22 of the line.

`readStartTime_field22` says what reading the start time gives for every such
file: the value of field 22 when the line has one and it is a decimal word, the fault
`invalid starttime field` when it is not, `too few fields` when the line stops before field 22,
and `missing command name` for a first line without a closing parenthesis. Only the first line
is read, whether a line feed or a carriage return and a line feed ends it, and the fields after
field 22 do not matter.
-/

namespace MemoryRecorder
namespace Stat

open Text

/-- A field of a stat line: a word without a closing parenthesis. -/
def IsField (f : String) : Prop :=
  Smaps.IsWord f ∧ ')' ∉ f.toList

instance : DecidablePred IsField := fun f =>
  inferInstanceAs (Decidable (Smaps.IsWord f ∧ ')' ∉ f.toList))

def fieldsText (fields : List String) : String :=
  String.join (fields.map (" " ++ ·))

/-- A stat line: the pid, the command name in parentheses, and the fields. -/
def line (pid comm : String) (fields : List String) : String :=
  pid ++ " (" ++ comm ++ ")" ++ fieldsText fields

/-- What may follow the first line of a file: nothing, or a line end and any text, the line end a
line feed or a carriage return and a line feed. -/
def Follows (rest : String) : Prop :=
  rest = "" ∨ ∃ r, rest = "\n" ++ r ∨ rest = "\r\n" ++ r

/-! ## The first line -/

theorem splitFeeds_ne_nil (cs : List Char) : splitFeeds cs ≠ [] := by
  cases cs with
  | nil => simp [splitFeeds]
  | cons c cs =>
      simp only [splitFeeds]
      split
      · simp
      · split <;> simp

theorem splitFeeds_of_lf_not_mem {cs : List Char} (h : '\n' ∉ cs) : splitFeeds cs = [cs] := by
  induction cs with
  | nil => rfl
  | cons c cs ih =>
      have hc : c ≠ '\n' := fun hc => h (hc ▸ List.mem_cons_self)
      simp only [splitFeeds, ih (fun hm => h (List.mem_cons_of_mem c hm)), hc, if_false]

theorem splitFeeds_append_lf {cs : List Char} (h : '\n' ∉ cs) (rest : List Char) :
    splitFeeds (cs ++ '\n' :: rest) = cs :: splitFeeds rest := by
  induction cs with
  | nil =>
      obtain ⟨p, ps, hps⟩ := List.exists_cons_of_ne_nil (splitFeeds_ne_nil rest)
      simp only [List.nil_append, splitFeeds, hps, if_true]
  | cons c cs ih =>
      have hc : c ≠ '\n' := fun hc => h (hc ▸ List.mem_cons_self)
      simp only [List.cons_append, splitFeeds, ih (fun hm => h (List.mem_cons_of_mem c hm)), hc,
        if_false]

theorem firstLine_of_closed {s : String} (cs rest : List Char) (hs : s.toList = cs ++ '\n' :: rest)
    (h : '\n' ∉ cs) : ((lines s).head?).getD "" = String.ofList (dropReturn cs) := by
  obtain ⟨p, ps, hps⟩ := List.exists_cons_of_ne_nil (splitFeeds_ne_nil rest)
  rw [lines, hs, splitFeeds_append_lf h, hps]
  simp only [List.dropLast_cons_cons, List.map_cons]
  split <;> simp

/-- The first line of a text that begins with a line without a line feed, followed by nothing or
by a line end: the line, or the line with one carriage return at its end dropped. -/
theorem firstLine_append_cases {l rest : String} (hl : '\n' ∉ l.toList) (hrest : Follows rest) :
    ((lines (l ++ rest)).head?).getD "" = l ∨
      ((lines (l ++ rest)).head?).getD "" = String.ofList (dropReturn l.toList) := by
  rcases hrest with rfl | ⟨r, rfl | rfl⟩
  · -- the whole text is the line: one piece, kept unless it is empty
    left
    by_cases he : l.toList = []
    · obtain rfl := String.toList_eq_nil_iff.1 he
      rfl
    · simp [lines, splitFeeds_of_lf_not_mem hl, he]
  · -- the line is the first closed piece
    right
    exact firstLine_of_closed l.toList r.toList (by simp) hl
  · -- the line and its carriage return are the first closed piece, which drops the return
    left
    have hd : dropReturn (l.toList ++ ['\r']) = l.toList := by simp [dropReturn]
    rw [firstLine_of_closed (l.toList ++ ['\r']) r.toList (by simp) (by simp [hl]), hd,
      String.ofList_toList]

theorem firstLine_append {l rest : String} (hl : '\n' ∉ l.toList)
    (hcr : l.toList.getLast? ≠ some '\r') (hrest : Follows rest) :
    ((lines (l ++ rest)).head?).getD "" = l := by
  have hdrop : dropReturn l.toList = l.toList := by simp [dropReturn, hcr]
  rcases firstLine_append_cases hl hrest with h | h
  · exact h
  · rw [h, hdrop, String.ofList_toList]

theorem mem_firstLine {l rest : String} (hl : '\n' ∉ l.toList) (hrest : Follows rest) {c : Char}
    (hc : c ∈ (((lines (l ++ rest)).head?).getD "").toList) : c ∈ l.toList := by
  rcases firstLine_append_cases hl hrest with h | h
  · rwa [h] at hc
  · rw [h, String.toList_ofList] at hc
    unfold dropReturn at hc
    split at hc
    · exact List.dropLast_subset _ hc
    · exact hc

/-! ## Cutting after the last closing parenthesis -/

theorem afterLast_append {c : Char} (a : List Char) {b : List Char} (hb : c ∉ b) :
    afterLast c (a ++ c :: b) = some b := by
  have hpos : ∀ x ∈ b.reverse, decide (x ≠ c) = true := fun x hx => by
    have hx' : x ∈ b := List.mem_reverse.1 hx
    exact decide_eq_true fun hxc => hb (hxc ▸ hx')
  have htake : (b.reverse ++ c :: a.reverse).takeWhile (· ≠ c) = b.reverse := by
    rw [List.takeWhile_append_of_pos hpos]
    simp
  have hrev : (a ++ c :: b).reverse = b.reverse ++ c :: a.reverse := by simp
  unfold afterLast
  rw [if_pos (List.mem_append_right a List.mem_cons_self), hrev, htake, List.reverse_reverse]

theorem afterLast_of_not_mem {c : Char} {cs : List Char} (h : c ∉ cs) : afterLast c cs = none := by
  simp [afterLast, h]

/-! ## The fields -/

theorem words_space_append (s : String) : words (" " ++ s) = words s := by
  have hs : (" " ++ s).toList = ' ' :: s.toList := by simp
  simp only [words, hs, wordsFrom]
  rfl

theorem fieldsText_cons (f : String) (fs : List String) :
    fieldsText (f :: fs) = " " ++ f ++ fieldsText fs := by
  simp [fieldsText, String.append_assoc]

theorem fieldsText_eq_intercalate {fields : List String} (h : fields ≠ []) :
    fieldsText fields = " " ++ " ".intercalate fields := by
  induction fields with
  | nil => exact absurd rfl h
  | cons f fs ih =>
      cases fs with
      | nil => simp [fieldsText]
      | cons g gs =>
          rw [fieldsText_cons, ih (List.cons_ne_nil g gs), String.intercalate_cons_cons]
          simp [String.append_assoc]

/-- The fields of a stat line read back as its words. -/
theorem words_fieldsText {fields : List String} (h : ∀ f ∈ fields, IsField f) :
    words (fieldsText fields) = fields := by
  cases fields with
  | nil => rfl
  | cons f fs =>
      rw [fieldsText_eq_intercalate (List.cons_ne_nil f fs), words_space_append]
      exact words_intercalate fun g hg => (h g hg).1

theorem mem_fieldsText {fields : List String} {c : Char} (hc : c ∈ (fieldsText fields).toList) :
    c = ' ' ∨ ∃ f ∈ fields, c ∈ f.toList := by
  induction fields with
  | nil => simp [fieldsText] at hc
  | cons f fs ih =>
      rw [fieldsText_cons] at hc
      simp only [String.toList_append, List.mem_append] at hc
      rcases hc with (hc | hc) | hc
      · simp at hc
        exact .inl hc
      · exact .inr ⟨f, List.mem_cons_self, hc⟩
      · rcases ih hc with hc | ⟨g, hg, hcg⟩
        · exact .inl hc
        · exact .inr ⟨g, List.mem_cons_of_mem f hg, hcg⟩

/-! ## The line -/

section

variable {pid comm : String} {fields : List String}

theorem toList_line (pid comm : String) (fields : List String) :
    (line pid comm fields).toList =
      (pid ++ " (" ++ comm).toList ++ ')' :: (fieldsText fields).toList := by
  simp [line]

theorem closeParen_not_mem_fieldsText (h : ∀ f ∈ fields, IsField f) :
    ')' ∉ (fieldsText fields).toList := by
  intro hc
  rcases mem_fieldsText hc with hc | ⟨f, hf, hcf⟩
  · simp at hc
  · exact (h f hf).2 hcf

theorem lf_not_mem_line (hpid : '\n' ∉ pid.toList) (hcomm : '\n' ∉ comm.toList)
    (h : ∀ f ∈ fields, IsField f) : '\n' ∉ (line pid comm fields).toList := by
  rw [toList_line]
  simp only [String.toList_append, List.mem_append, List.mem_cons, not_or]
  refine ⟨⟨⟨hpid, by simp⟩, hcomm⟩, by simp, fun hc => ?_⟩
  -- a line feed is blank, so no field holds one
  rcases mem_fieldsText hc with hc | ⟨f, hf, hcf⟩
  · simp at hc
  · have := (h f hf).1.2 _ hcf
    simp [isBlank] at this

theorem getLast?_line_ne_cr (h : ∀ f ∈ fields, IsField f) :
    (line pid comm fields).toList.getLast? ≠ some '\r' := by
  have hnot : ∀ c ∈ ')' :: (fieldsText fields).toList, c ≠ '\r' := by
    intro c hc hcr
    subst hcr
    rcases List.mem_cons.1 hc with hc | hc
    · simp at hc
    · rcases mem_fieldsText hc with hc | ⟨f, hf, hcf⟩
      · simp at hc
      · have := (h f hf).1.2 _ hcf
        simp [isBlank] at this
  rw [toList_line, List.getLast?_append_of_ne_nil _ (List.cons_ne_nil _ _)]
  intro hlast
  exact hnot _ (List.mem_of_getLast? hlast) rfl

/-! ## Reading the start time -/

/-- The fields read after the last closing parenthesis of the first line of a file that begins
with a stat line are its fields. -/
theorem startTimeOfStat_line (hpid : '\n' ∉ pid.toList) (hcomm : '\n' ∉ comm.toList)
    (h : ∀ f ∈ fields, IsField f) {rest : String} (hrest : Follows rest) :
    startTimeOfStat (line pid comm fields ++ rest) =
      match fields[19]? with
      | none => .error .tooFewFields
      | some f =>
          match u64? f with
          | some v => .ok v
          | none => .error .badStartTime := by
  unfold startTimeOfStat
  dsimp only
  rw [firstLine_append (lf_not_mem_line hpid hcomm h) (getLast?_line_ne_cr h) hrest,
    toList_line, afterLast_append _ (closeParen_not_mem_fieldsText h)]
  dsimp only
  -- split on the field and its numeral first: the statement's match and the definition's are
  -- compiled apart, and only on a constructor do both reduce to the same answer
  rcases hf : fields[19]? with _ | f
  · simp only [String.ofList_toList, words_fieldsText h, hf]
  · rcases hv : u64? f with _ | v <;> simp only [String.ofList_toList, words_fieldsText h, hf, hv]

theorem startTimeOfStat_noCommand {l rest : String} (hl : '\n' ∉ l.toList)
    (hp : ')' ∉ l.toList) (hrest : Follows rest) :
    startTimeOfStat (l ++ rest) = .error .noCommand := by
  unfold startTimeOfStat
  dsimp only
  rw [afterLast_of_not_mem fun hc => hp (mem_firstLine hl hrest hc)]

end

theorem readStartTime_eq_mapError {t : FileTree} {dir : Location} {content : String}
    (h : t.readText (dir.join "stat") = .ok content) :
    readStartTime t dir =
      (startTimeOfStat content).mapError fun f => .malformed (dir.join "stat").shown f.reason := by
  unfold readStartTime
  dsimp only
  rw [h]
  cases hs : startTimeOfStat content <;> simp [hs, Except.mapError]

/-- Reading the start time of a process whose `stat` file begins with a stat line gives field 22
of the line: its value when it is a decimal word, the fault `invalid starttime field` when it is
not, and `too few fields` when the line stops before it. The text after the first line and the
fields after field 22 do not matter. A file whose first line holds no closing parenthesis gives
`missing command name`. -/
theorem readStartTime_field22 (t : FileTree) (dir : Location) :
    (∀ (pid comm : String) (fields : List String) (rest : String),
      '\n' ∉ pid.toList → '\n' ∉ comm.toList → (∀ f ∈ fields, IsField f) → Follows rest →
      t.readText (dir.join "stat") = .ok (line pid comm fields ++ rest) →
        (∀ f v, fields[19]? = some f → u64? f = some v → readStartTime t dir = .ok v) ∧
        (∀ f, fields[19]? = some f → u64? f = none →
          readStartTime t dir =
            .error (.malformed (dir.join "stat").shown "invalid starttime field")) ∧
        (fields.length < 20 →
          readStartTime t dir = .error (.malformed (dir.join "stat").shown "too few fields"))) ∧
    (∀ l rest : String, '\n' ∉ l.toList → ')' ∉ l.toList → Follows rest →
      t.readText (dir.join "stat") = .ok (l ++ rest) →
        readStartTime t dir =
          .error (.malformed (dir.join "stat").shown "missing command name")) := by
  refine ⟨fun pid comm fields rest hpid hcomm h hrest hread => ?_,
    fun l rest hl hp hrest hread => ?_⟩
  · rw [readStartTime_eq_mapError hread, startTimeOfStat_line hpid hcomm h hrest]
    refine ⟨fun f v hf hv => ?_, fun f hf hv => ?_, fun hlen => ?_⟩
    · simp [hf, hv, Except.mapError]
    · simp [hf, hv, Except.mapError, StatFault.reason]
    · have hnone : fields[19]? = none := List.getElem?_eq_none (by omega)
      simp [hnone, Except.mapError, StatFault.reason]
  · rw [readStartTime_eq_mapError hread, startTimeOfStat_noCommand hl hp hrest]
    rfl

theorem readText_of_readBytes {t : FileTree} {l : Location} {s : String}
    (h : t.readBytes l = .ok (utf8Bytes s)) : t.readText l = .ok s := by
  simp [FileTree.readText, h, Utf8.decode?_utf8Bytes]

def sampleFields : List String :=
  ["R", "1", "77", "77", "0", "-1", "0", "0", "0", "0", "0", "0", "0", "0", "0", "20", "0", "1",
    "0", "999", "0", "0"]

/-- The start time of a process whose command name holds a closing parenthesis and a blank. -/
theorem readStartTime_weird_name :
    '\n' ∉ "77".toList ∧ '\n' ∉ "weird) name".toList ∧ (∀ f ∈ sampleFields, IsField f) ∧
      Follows "" ∧
      readStartTime ⟨[(["stat"], .file (utf8Bytes (line "77" "weird) name" sampleFields)))]⟩
        ⟨"", [], false, false⟩ = .ok 999 := by
  have hread : FileTree.readText
      ⟨[(["stat"], .file (utf8Bytes (line "77" "weird) name" sampleFields)))]⟩
      (Location.join ⟨"", [], false, false⟩ "stat") =
        .ok (line "77" "weird) name" sampleFields ++ "") := by
    rw [String.append_empty]
    exact readText_of_readBytes rfl
  have hfields : ∀ f ∈ sampleFields, IsField f := by decide
  exact ⟨by decide, by decide, hfields, .inl rfl,
    ((readStartTime_field22 _ _).1 "77" "weird) name" sampleFields "" (by decide) (by decide)
      hfields (.inl rfl) hread).1 "999" 999 rfl rfl⟩

end Stat
end MemoryRecorder
