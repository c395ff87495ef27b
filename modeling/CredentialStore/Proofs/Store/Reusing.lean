import CredentialStore.Proofs.Store.Passes
import CredentialStore.Proofs.Store.Sublines

namespace CredentialStore.Rewrite

open CredentialStore.Action FileSystem

variable {r : Rewrite} {strikes : Strikes} {file : FileId} {state state' : State} {s s' : Scene}
  {before tr : Trace}

/-- The use of a rewrite: it makes its moves in any order, whichever calls fail. Between two moves others do what
    they like, except that they leave what lies in the file that the rewrite has open. -/
inductive Used (strikes : Strikes) (r : Rewrite) : Trace → State → Scene → Prop
  | new (s : Scene) : Used strikes r [] {} s
  | move {before tr : Trace} {state state' : State} {s s' : Scene} {outcome : Except Failure Scenario.Result}
      (hused : Used strikes r before state s) (move : Scenario.Move)
      (hruns : (move.action r).Runs strikes state s tr outcome state' s') :
      Used strikes r (before ++ tr) state' s'
  | others {before : Trace} {state : State} {s s' : Scene} (hused : Used strikes r before state s)
      (hspared : ∀ file, state.stream = some file → s'.world.files.data? file = s.world.files.data? file) :
      Used strikes r before state s'

theorem Used.agrees (hused : Used strikes r tr state s) : Agrees tr state s := by
  induction hused with
  | new s => exact .initial s
  | move hused move hruns ih => exact keeps_move move ih hruns
  | others hused hspared ih =>
    exact ih.of_leaving rfl fun file octets hstream hdata => (hspared file hstream).trans hdata

/-- Whether the mark is left over from an earlier pass: nothing was written in the latest one, and what was written
    before ends in the middle of a line. -/
def leftOver (current : Bytes) (earlier : List Bytes) : Bool :=
  current.isEmpty && Bytes.endsOpen earlier.reverse.flatten

@[simp] theorem leftOver_nil (current : Bytes) : leftOver current [] = false := by
  rw [leftOver, List.reverse_nil, List.flatten_nil, Bytes.endsOpen_nil, Bool.and_false]

theorem endsOpen_passes (current : Bytes) (earlier : List Bytes) :
    Bytes.endsOpen (current :: earlier).reverse.flatten = (current.endsOpen || leftOver current earlier) := by
  rw [List.reverse_cons, List.flatten_append, List.flatten_singleton, leftOver]
  by_cases hcurrent : current = []
  · simp [hcurrent]
  · simp [hcurrent, Bytes.endsOpen_append]

/-- What an append makes of a file: the lines that were there, each of them ended, and then those of the record;
    a mark that was left over puts an empty line first. -/
structure Appended (leftOver : Bool) (before after line : Bytes) : Prop where
  octets : after = (if leftOver then [lineFeed] else []) ++ before.terminated ++ line
  lines : Bytes.lines after =
    (if leftOver then [[lineFeed]] else []) ++ (Bytes.lines before).map Bytes.terminated ++ Bytes.lines line
  /-- A record without line feeds in its fields is one line. -/
  single : lineFeed ∉ line.dropLast → Bytes.lines line = [line]
  unblank : [lineFeed] ∈ Bytes.lines after →
    leftOver = true ∨ [lineFeed] ∈ Bytes.lines before ∨ lineFeed ∈ line.dropLast

theorem Appended.of_octets {leftOver : Bool} {before after line : Bytes} {record : Record}
    (hline : record.toLine? = some line)
    (hafter : after = (if leftOver then [lineFeed] else []) ++ before.terminated ++ line) :
    Appended leftOver before after line := by
  obtain ⟨front, hfront, rfl⟩ := Record.exists_front_of_toLine? hline
  have hblank : Bytes.endsOpen (if leftOver then [lineFeed] else []) = false := by cases leftOver <;> rfl
  have hended : Bytes.endsOpen ((if leftOver then [lineFeed] else []) ++ before.terminated) = false := by
    by_cases hbefore : before.terminated = []
    · rw [hbefore, List.append_nil, hblank]
    · rw [Bytes.endsOpen_append _ hbefore, Bytes.endsOpen_terminated]
  have hlines : Bytes.lines after = (if leftOver then [[lineFeed]] else []) ++
      (Bytes.lines before).map Bytes.terminated ++ Bytes.lines (front ++ [lineFeed]) := by
    rw [hafter, Bytes.lines_append hended, Bytes.lines_append hblank, Bytes.lines_terminated]
    cases leftOver <;> rfl
  have hsingle : lineFeed ∉ (front ++ [lineFeed]).dropLast →
      Bytes.lines (front ++ [lineFeed]) = [front ++ [lineFeed]] := by
    rw [List.dropLast_concat]
    exact Bytes.lines_eq_singleton
  refine ⟨hafter, hlines, hsingle, fun hmem => ?_⟩
  rw [hlines, List.mem_append, List.mem_append] at hmem
  rcases hmem with (hmem | hmem) | hmem
  · cases leftOver with
    | true => exact .inl rfl
    | false => cases hmem
  · obtain ⟨old, hold, hended⟩ := List.mem_map.1 hmem
    rw [Bytes.terminated] at hended
    split at hended
    · exact absurd (List.append_left_eq_self.1 hended) (Bytes.ne_nil_of_mem_lines hold)
    · exact .inr (.inl (hended ▸ hold))
  · refine .inr (.inr ?_)
    by_contra hfree
    rw [hsingle hfree, List.mem_singleton] at hmem
    exact hfront (List.self_eq_append_left.1 hmem)

theorem of_calm_write {octets : Bytes} {outcome : Except Failure Unit} (hstream : state.stream = some file)
    (hcalm : ¬tr.Disturbed) (hruns : (write octets).Runs strikes state s tr outcome state' s') :
    outcome = .ok () ∧ state'.stream = some file ∧ s'.world.files = s.world.files.append file octets := by
  obtain ⟨rfl, -, rfl, hfiles⟩ | ⟨_, _, -, rfl, -, -⟩ := of_write hstream hruns
  · exact ⟨rfl, hstream, hfiles⟩
  · exact absurd ⟨_, List.mem_singleton_self _, rfl⟩ hcalm

/-- What an append writes when no failure strikes. -/
theorem of_calm_append {record : Record} {line : Bytes} {outcome : Except Failure Unit}
    (hline : record.toLine? = some line) (hstream : state.stream = some file) (hcalm : ¬tr.Disturbed)
    (hruns : (append record).Runs strikes state s tr outcome state' s') :
    outcome = .ok () ∧
      s'.world.files = s.world.files.append file ((if state.needsNewline then [lineFeed] else []) ++ line) := by
  rw [append_eq, hline] at hruns
  have hwrites := Runs.of_get_bind hruns
  cases hmark : state.needsNewline with
  | false =>
    simp only [hmark, Bool.false_eq_true, if_false] at hwrites
    obtain ⟨hok, -, hfiles⟩ := of_calm_write hstream hcalm hwrites
    exact ⟨hok, hfiles⟩
  | true =>
    simp only [hmark, if_true] at hwrites
    obtain ⟨_, state₁, s₁, tr₁, tr₂, rfl, hended, hadded⟩ | ⟨failure, -, hended⟩ := hwrites.of_bind
    · have hcalm₁ : ¬tr₁.Disturbed := fun hstruck => hcalm (hstruck.extended (List.prefix_append _ _))
      have hcalm₂ : ¬Trace.Disturbed tr₂ :=
        fun ⟨e, he, hstruck⟩ => hcalm ⟨e, List.mem_append_right _ he, hstruck⟩
      obtain ⟨-, hstream₁, hfiles₁⟩ := of_calm_write hstream hcalm₁ hended
      obtain ⟨hok, -, hfiles⟩ := of_calm_write hstream₁ hcalm₂ hadded
      exact ⟨hok, by rw [hfiles, hfiles₁, append_append]; rfl⟩
    · cases (of_calm_write hstream hcalm hended).1

/-- How a rewrite stands to the file that it has open. -/
structure Marks (current : Bytes) (earlier : List Bytes) (state : State) (s : Scene) (file : FileId) : Prop where
  /-- The file holds what was written in the latest pass. -/
  data : s.world.files.data? file = some current
  mark : state.needsNewline = (current.endsOpen || leftOver current earlier)
  /-- In the first pass the mark is that of the file. -/
  first : earlier = [] → state.needsNewline = current.endsOpen
  append : ∀ record line, record.toLine? = some line → s.session.faults = [] →
    (s.run state (append record)).1.1 = .ok () ∧
      Appended (leftOver current earlier) current ((s.run state (append record)).2.world.files.dataOf file) line

/-- A line feed that the mark asks for ends the last line, or it makes an empty line in an empty file. -/
theorem append_mark (current : Bytes) (earlier : List Bytes) :
    current ++ (if current.endsOpen || leftOver current earlier then [lineFeed] else []) =
      (if leftOver current earlier then [lineFeed] else []) ++ current.terminated := by
  by_cases hcurrent : current = []
  · simp [hcurrent, Bytes.terminated]
  · have hover : leftOver current earlier = false := by simp [leftOver, hcurrent]
    cases hopen : current.endsOpen <;> simp [hover, hopen, Bytes.terminated]

/-- However a rewrite is used, its mark is right for the file that it has open, unless it is left over from an
    earlier pass; in the first pass it never is. An append without failures adds the lines of its record after the
    lines that are there, none of which it joins or splits, and adds no empty line unless the mark was left over. -/
theorem marks_of_used (hused : Used strikes r tr state s) (hopen : state.stream = some file) :
    ∃ current earlier, tr.passes = current :: earlier ∧ Marks current earlier state s file := by
  have hagrees := hused.agrees
  obtain ⟨current, earlier, hpasses, hdata⟩ := hagrees.stream file hopen
  have hmark := hagrees.mark
  rw [hpasses, endsOpen_passes] at hmark
  refine ⟨current, earlier, hpasses, hdata, hmark, fun hfirst => ?_, fun record line hline hfaults => ?_⟩
  · rw [hmark, hfirst, leftOver_nil, Bool.or_false]
  obtain ⟨tr', hruns, hcalm⟩ := s.runs_of_run strikes state (append record) hfaults
  generalize s.run state (append record) = result at hruns ⊢
  obtain ⟨⟨outcome, state'⟩, s'⟩ := result
  obtain ⟨rfl, hfiles⟩ := of_calm_append hline hopen hcalm hruns
  refine ⟨rfl, .of_octets hline ?_⟩
  rw [hfiles, dataOf_of_data? (data?_append hdata _), ← List.append_assoc, hmark, append_mark]

/-- Moves one after the other, up to the first that fails. -/
def moves (r : Rewrite) : List Scenario.Move → Action State Unit
  | [] => pure ()
  | move :: rest => do
    let _ ← move.action r
    r.moves rest

theorem Used.moves {chosen : List Scenario.Move} {outcome : Except Failure Unit}
    (hused : Used strikes r before state s)
    (hruns : (r.moves chosen).Runs strikes state s tr outcome state' s') :
    Used strikes r (before ++ tr) state' s' := by
  induction chosen generalizing before state s tr with
  | nil =>
    obtain ⟨rfl, -, rfl, rfl⟩ := Runs.of_pure hruns
    rwa [List.append_nil]
  | cons move rest ih =>
    obtain ⟨_, _, _, _, _, rfl, hmove, hrest⟩ | ⟨_, -, hmove⟩ := Runs.of_bind hruns
    · rw [← List.append_assoc]
      exact ih (hused.move move hmove) hrest
    · exact hused.move move hmove

/-- A store of one record, whose line lacks its line feed. -/
def unendedStore : Scene where
  world.files := {
    entries := [([StorePaths.primaryOctets], .file 0)]
    files := [⟨[0x61, 0x6C, 0x3A, 0x73, 0x79, 0x73, 0x3A, 0x30], 0o600⟩]
    umask := 0o22 }
  session := {}

/-- A rewrite that leaves out another record. -/
def leavingOther : Rewrite where
  primary := (StorePaths.locate (text "/")).primary
  staging := (StorePaths.locate (text "/")).staging
  identity := text "cy"
  realm := text "sys"
  mode := 0o600

/-- A record that is not in the store. -/
def newcomer : Record := ⟨text "bo", text "sys", text "1"⟩

/-- In the first pass the line that was copied is marked as not ended, and a record is added after it. -/
theorem unendedStore_marked : ∃ tr state s file, Used (fun _ _ _ => False) leavingOther tr state s ∧
    state.stream = some file ∧ state.needsNewline = true ∧
      ∃ current earlier line, tr.passes = current :: earlier ∧ Marks current earlier state s file ∧
        newcomer.toLine? = some line ∧ Appended (leftOver current earlier) current
          ((s.run state (append newcomer)).2.world.files.dataOf file) line := by
  obtain ⟨tr, hruns, -⟩ :=
    unendedStore.runs_of_run (fun _ _ _ => False) {} (leavingOther.moves [.acquire, .merge]) rfl
  have hopen : (unendedStore.run {} (leavingOther.moves [.acquire, .merge])).1.2.stream = some 1 := by
    decide +kernel
  have hmark : (unendedStore.run {} (leavingOther.moves [.acquire, .merge])).1.2.needsNewline = true := by
    decide +kernel
  have hfaults : (unendedStore.run {} (leavingOther.moves [.acquire, .merge])).2.session.faults = [] := by
    decide +kernel
  generalize unendedStore.run {} (leavingOther.moves [.acquire, .merge]) = result at hruns hopen hmark hfaults
  obtain ⟨⟨_, state⟩, s⟩ := result
  have hused := (Used.new unendedStore).moves hruns
  obtain ⟨current, earlier, hpasses, hmarks⟩ := marks_of_used hused hopen
  have hline : newcomer.toLine? = some [0x62, 0x6F, 0x3A, 0x73, 0x79, 0x73, 0x3A, 0x31, 0x0A] := by decide +kernel
  exact ⟨_, state, s, 1, hused, hopen, hmark, current, earlier, _, hpasses, hmarks, hline,
    (hmarks.append newcomer _ hline hfaults).2⟩

/-- The store is copied, and acquired again after the copy was given up. -/
def twoPasses : List Scenario.Move := [.acquire, .merge, .discard, .acquire]

/-- In a second pass the mark is left over: nothing was written to the file that is open, and an append begins with
    an empty line. -/
theorem unendedStore_left_over : ∃ tr state s file, Used (fun _ _ _ => False) leavingOther tr state s ∧
    state.stream = some file ∧ s.world.files.data? file = some [] ∧ state.needsNewline = true ∧
      ∃ line, newcomer.toLine? = some line ∧
        (s.run state (append newcomer)).2.world.files.data? file = some (lineFeed :: line) := by
  obtain ⟨tr, hruns, -⟩ :=
    unendedStore.runs_of_run (fun _ _ _ => False) {} (leavingOther.moves twoPasses) rfl
  have hopen : (unendedStore.run {} (leavingOther.moves twoPasses)).1.2.stream = some 2 := by decide +kernel
  have hempty : (unendedStore.run {} (leavingOther.moves twoPasses)).2.world.files.data? 2 = some [] := by
    decide +kernel
  have hmark : (unendedStore.run {} (leavingOther.moves twoPasses)).1.2.needsNewline = true := by decide +kernel
  have hadded : ((unendedStore.run {} (leavingOther.moves twoPasses)).2.run
      (unendedStore.run {} (leavingOther.moves twoPasses)).1.2 (append newcomer)).2.world.files.data? 2 =
        some (lineFeed :: [0x62, 0x6F, 0x3A, 0x73, 0x79, 0x73, 0x3A, 0x31, 0x0A]) := by decide +kernel
  generalize unendedStore.run {} (leavingOther.moves twoPasses) = result at hruns hopen hempty hmark hadded
  obtain ⟨⟨_, state⟩, s⟩ := result
  exact ⟨_, state, s, 2, (Used.new unendedStore).moves hruns, hopen, hempty, hmark, _, by decide +kernel, hadded⟩

end CredentialStore.Rewrite
