import CredentialStore.Proofs.Run.Keeping
import CredentialStore.Proofs.Store.Accounting
import CredentialStore.Scenario.Run

namespace CredentialStore

open CredentialStore.Action FileSystem

/-- The octets that were written in each pass, the latest pass first, after an event. -/
def Event.passes (passes : List Bytes) : Event → List Bytes
  | ⟨.openStream _, .ok _, _⟩ => [] :: passes
  | ⟨.write _ octets, .ok _, _⟩ => passes.modifyHead (· ++ octets)
  | _ => passes

/-- The octets that were written in each pass, the latest pass first. -/
def Trace.passes (tr : Trace) : List Bytes := tr.foldl Event.passes []

theorem Trace.passes_concat (tr : Trace) (e : Event) : passes (tr ++ [e]) = e.passes tr.passes := by
  rw [passes, List.foldl_append]
  rfl

theorem Event.passes_error (passes : List Bytes) (c : Call) (failure : Failure) (struck : Bool) :
    Event.passes passes ⟨c, .error failure, struck⟩ = passes := by
  cases c <;> rfl

/-- Whether a call begins no pass and leaves what lies in the files as it is. -/
def Call.LeavesData : Call → Prop
  | createStaging _ _ | abandonStream _ | flush _ | sync _ | closeStaging _ => True
  | openPrimary _ | fetchLine _ _ _ | closePrimary _ | unlinkStaging _ | log _ => True
  | _ => False

theorem Call.LeavesData.passes_eq {c : Call} (hleaves : c.LeavesData) (passes : List Bytes) (answer : c.Answer)
    (struck : Bool) : Event.passes passes ⟨c, answer, struck⟩ = passes := by
  cases c <;> first | exact False.elim hleaves | rfl

namespace FileSystem

/-- What lies in the file of a number, if there is one. -/
def data? (fs : FileSystem) (id : FileId) : Option Bytes := (fs.file? id).map File.data

variable {fs fs' : FileSystem} {id : FileId} {octets : Bytes}

theorem dataOf_of_data? (hdata : fs.data? id = some octets) : fs.dataOf id = octets := by
  rw [dataOf, ← data?, hdata, Option.getD_some]

theorem data?_append (hdata : fs.data? id = some octets) (more : Bytes) :
    (fs.append id more).data? id = some (octets ++ more) := by
  rw [data?, append, file?_change, if_pos rfl, Option.map_map]
  obtain ⟨file, hfile, rfl⟩ := Option.map_eq_some_iff.1 hdata
  rw [hfile]
  rfl

/-- Creating a file leaves the others as they are. -/
theorem data?_create {path : Text} {mode : Nat} {created : FileId}
    (hcreate : fs.create path mode = .ok (created, fs')) (hdata : fs.data? id = some octets) : fs'.data? id = some octets := by
  have hid : id < fs.files.length := by
    obtain ⟨file, hfile, -⟩ := Option.map_eq_some_iff.1 hdata
    exact (List.getElem?_eq_some_iff.1 hfile).1
  simp only [create, Bind.bind, Except.bind] at hcreate
  split at hcreate
  · cases hcreate
  · split at hcreate
    · cases hcreate
    · cases hcreate
      rwa [data?, file?_bindNew_of_lt fs _ _ hid]

theorem data?_unlink {path : Text} (hunlink : fs.unlink path = .ok fs') : fs'.data? id = fs.data? id := by
  simp only [unlink, Bind.bind, Except.bind] at hunlink
  split at hunlink
  · cases hunlink
  · split at hunlink
    · cases hunlink
    · cases hunlink
    · cases hunlink
      rfl

end FileSystem

theorem Scene.Answers.data?_of_leaving {strikes : Strikes} {s s' : Scene} {c : Call} {answer : c.Answer}
    {struck : Bool} (hleaves : c.LeavesData) (hanswer : Scene.Answers strikes s ⟨c, answer, struck⟩ s')
    {id : FileId} {octets : Bytes} (hdata : s.world.files.data? id = some octets) :
    s'.world.files.data? id = some octets := by
  have hfiles : c.LeavesFiles → s'.world.files.data? id = some octets := fun hfiles => by
    rw [hanswer.files_of_leaving hfiles, hdata]
  obtain ⟨-, -, rfl⟩ | ⟨_, -, -, -, rfl⟩ := hanswer.performed_or_struck
  · cases c with
    | createStaging path mode =>
      simp only [Scene.perform, World.answer]
      split
      · rename_i hcreate
        exact data?_create hcreate hdata
      · exact hdata
    | unlinkStaging path =>
      simp only [Scene.perform, World.answer, World.changing]
      split
      · rename_i hunlink
        rw [data?_unlink hunlink, hdata]
      · exact hdata
    | _ => first | exact False.elim hleaves | exact hfiles trivial
  · exact hdata

namespace Rewrite

/-- How the mark and the open file of a rewrite go together with what it wrote: the mark is that of all passes
    together, and the file holds what was written in the latest one. -/
structure Agrees (tr : Trace) (state : State) (s : Scene) : Prop where
  mark : state.needsNewline = Bytes.endsOpen tr.passes.reverse.flatten
  stream : ∀ file, state.stream = some file →
    ∃ current earlier, tr.passes = current :: earlier ∧ s.world.files.data? file = some current

variable {r : Rewrite} {strikes : Strikes} {file : FileId} {state state' : State} {s s' : Scene}
  {before tr : Trace}

namespace Agrees

theorem initial (s : Scene) : Agrees [] {} s := ⟨rfl, fun _ h => by cases h⟩

/-- What is done without a new pass and without writing. -/
theorem of_leaving (hagrees : Agrees before state s) (hpasses : tr.passes = before.passes)
    (hdata : ∀ file octets, state.stream = some file → s.world.files.data? file = some octets →
      s'.world.files.data? file = some octets) : Agrees tr state s' := by
  refine ⟨hpasses ▸ hagrees.mark, fun file hstream => ?_⟩
  obtain ⟨current, earlier, hpassed, hcurrent⟩ := hagrees.stream file hstream
  exact ⟨current, earlier, hpasses.trans hpassed, hdata file current hstream hcurrent⟩

theorem of_error {c : Call} {failure : Failure} {struck : Bool} (hagrees : Agrees before state s)
    (hfiles : s'.world.files = s.world.files) : Agrees (before ++ [⟨c, .error failure, struck⟩]) state s' := by
  refine hagrees.of_leaving ?_ fun file octets _ hdata => hfiles ▸ hdata
  rw [Trace.passes_concat, Event.passes_error]

theorem of_closed (hagrees : Agrees tr state s) : Agrees tr { state with stream := none } s :=
  ⟨hagrees.mark, fun _ h => by cases h⟩

theorem of_owned (hagrees : Agrees tr state s) (owned : Bool) : Agrees tr { state with owned } s :=
  ⟨hagrees.mark, hagrees.stream⟩

/-- A pass begins with an empty file; the mark stays as it is. -/
theorem of_opened {struck : Bool} (hagrees : Agrees before state s)
    (hempty : s'.world.files.data? file = some []) :
    Agrees (before ++ [⟨.openStream file, .ok (), struck⟩]) { state with stream := some file } s' := by
  have hpasses : Trace.passes (before ++ [⟨.openStream file, .ok (), struck⟩]) = [] :: before.passes :=
    Trace.passes_concat _ _
  refine ⟨?_, fun file' hstream => ?_⟩
  · rw [hpasses, List.reverse_cons, List.flatten_append]
    simpa using hagrees.mark
  · cases hstream
    exact ⟨[], before.passes, hpasses, hempty⟩

/-- The mark is that of the last octet that was written. -/
theorem of_written {octets : Bytes} {struck : Bool} (hagrees : Agrees before state s)
    (hstream : state.stream = some file) (hfiles : s'.world.files = s.world.files.append file octets) :
    Agrees (before ++ [⟨.write file octets, .ok (), struck⟩])
      { state with needsNewline := if octets = [] then state.needsNewline else octets.endsOpen } s' := by
  obtain ⟨current, earlier, hpassed, hcurrent⟩ := hagrees.stream file hstream
  have hpasses : Trace.passes (before ++ [⟨.write file octets, .ok (), struck⟩]) =
      (current ++ octets) :: earlier := by
    rw [Trace.passes_concat, hpassed]
    rfl
  refine ⟨?_, fun file' hstream' => ?_⟩
  · have hmark := hagrees.mark
    rw [hpassed, List.reverse_cons, List.flatten_append] at hmark
    rw [hpasses, List.reverse_cons, List.flatten_append]
    by_cases hoctets : octets = []
    · subst hoctets
      simpa using hmark
    · rw [if_neg hoctets, List.flatten_singleton, ← List.append_assoc, Bytes.endsOpen_append _ hoctets]
  · cases hstream.symm.trans hstream'
    exact ⟨_, earlier, hpasses, hfiles ▸ data?_append hcurrent octets⟩

end Agrees

theorem keeps_leaving {c : Call} (hleaves : c.LeavesData) : (ask c : Action State c.Reply).Keeps strikes Agrees := by
  refine keeps_ask fun before state s answer struck s' hagrees hanswer => ?_
  refine hagrees.of_leaving ?_ fun file octets _ hdata => hanswer.data?_of_leaving hleaves hdata
  rw [Trace.passes_concat, hleaves.passes_eq]

theorem keeps_note (event : Log.Event) : (note event : Action State Unit).Keeps strikes Agrees :=
  keeps_leaving (c := .log event) trivial

theorem keeps_write (octets : Bytes) : (write octets).Keeps strikes Agrees := by
  intro before tr state state' s s' outcome hagrees hruns
  cases hstream : state.stream with
  | none =>
    have hwrites := Runs.of_get_bind hruns
    simp only [hstream] at hwrites
    obtain ⟨rfl, -, rfl, rfl⟩ := Runs.of_throw hwrites
    rwa [List.append_nil]
  | some file =>
    obtain ⟨-, rfl, rfl, hfiles⟩ | ⟨_, _, -, rfl, rfl, rfl⟩ := of_write hstream hruns
    · exact hagrees.of_written hstream hfiles
    · exact hagrees.of_error rfl

theorem keeps_closeGivenUp (file : FileId) : (r.closeGivenUp file).Keeps strikes Agrees :=
  keeps_onSystemError (keeps_leaving (c := .closeStaging file) trivial) fun _ => keeps_note _

theorem keeps_removeOwned : r.removeOwned.Keeps strikes Agrees := by
  have hremove : (removeStaging .merging r.staging : Action State Unit).Keeps strikes Agrees := by
    refine keeps_onSystemError (keeps_leaving (c := .unlinkStaging r.staging) trivial) fun cause => ?_
    cases cause with
    | unnumbered description => exact keeps_note _
    | numbered errno => cases errno <;> first | exact keeps_pure _ | exact keeps_note _
  refine keeps_bind keeps_get fun state => ?_
  split
  · exact keeps_bind (keeps_modify fun _ _ _ hagrees => hagrees.of_owned false) fun _ => hremove
  · exact keeps_pure _

theorem keeps_discard : r.discard.Keeps strikes Agrees := by
  rw [discard_eq]
  refine keeps_bind keeps_get fun state => ?_
  cases state.stream with
  | none => exact keeps_removeOwned
  | some file =>
    refine keeps_bind (keeps_modify fun _ _ _ hagrees => hagrees.of_closed) fun _ => ?_
    exact keeps_bind (keeps_closeGivenUp file) fun _ => keeps_removeOwned

theorem keeps_handleLine (number : Nat) (seen : Summary) (line : Bytes) :
    (r.handleLine number seen line).Keeps strikes Agrees := by
  unfold handleLine
  cases r.fate seen.matched line with
  | copied => exact keeps_bind (keeps_write line) fun _ => keeps_pure _
  | dropped => exact keeps_bind (keeps_note _) fun _ => keeps_pure _
  | matched record => exact keeps_pure _

/-- The induction is on how many lines may still be fetched. -/
theorem keeps_handleLines (opened : OpenedFile) (limit offset number : Nat) (seen : Summary) :
    (r.handleLines opened limit offset number seen).Keeps strikes Agrees := by
  induction limit generalizing offset number seen with
  | zero => exact keeps_pure _
  | succ limit ih =>
    refine keeps_bind (keeps_leaving (c := .fetchLine opened.id offset opened.size) trivial) fun line => ?_
    split
    · exact keeps_pure _
    · exact keeps_bind (keeps_handleLine number seen line) fun seen => ih _ _ seen

theorem keeps_openPrimary : r.openPrimary.Keeps strikes Agrees := by
  refine keeps_onSystemError (keeps_bind (keeps_leaving (c := .openPrimary r.primary) trivial)
    fun _ => keeps_pure _) fun cause => ?_
  split
  · exact keeps_pure _
  · exact keeps_throw _

theorem keeps_copyStore : r.copyStore.Keeps strikes Agrees := by
  refine keeps_bind keeps_openPrimary fun opened? => ?_
  cases opened? with
  | none => exact keeps_pure _
  | some opened =>
    have hcopy : (r.copyLines opened).Keeps strikes Agrees :=
      keeps_thenAlways (keeps_onSystemError (keeps_handleLines opened _ 0 1 {}) fun _ => keeps_throw _)
        (keeps_leaving (c := .closePrimary opened.id) trivial)
    exact keeps_bind hcopy fun _ => keeps_bind (keeps_note _) fun _ => keeps_pure _

theorem keeps_merge : r.merge.Keeps strikes Agrees := by
  rw [merge_eq]
  refine keeps_bind keeps_get fun state => ?_
  split
  · exact keeps_bind (keeps_throw _) fun _ => keeps_copyStore
  · exact keeps_copyStore

theorem keeps_append (record : Record) : (append record).Keeps strikes Agrees := by
  have hline : (writeLine record.toLine?).Keeps strikes Agrees := by
    cases record.toLine? with
    | none => exact keeps_throw _
    | some line => exact keeps_write line
  rw [append_eq]
  refine keeps_bind keeps_get fun state => ?_
  split
  · exact keeps_bind (keeps_write [lineFeed]) fun _ => hline
  · exact hline

theorem keeps_close : r.close.Keeps strikes Agrees := by
  refine keeps_bind keeps_get fun state => ?_
  cases state.stream with
  | none => exact keeps_pure _
  | some file =>
    refine keeps_bind (keeps_modify fun _ _ _ hagrees => hagrees.of_closed) fun _ => ?_
    refine keeps_bind (keeps_onSystemError (keeps_bind ?_ fun _ => ?_) fun _ => ?_) fun _ => ?_
    · exact keeps_leaving (c := .flush file) trivial
    · exact keeps_leaving (c := .sync file) trivial
    · exact keeps_bind (keeps_closeGivenUp file) fun _ => keeps_throw _
    · exact keeps_onSystemError (keeps_leaving (c := .closeStaging file) trivial) fun _ => keeps_throw _

/-- Opening an empty file begins a pass; where that fails nothing was written and the file is given up. -/
theorem agrees_of_openStream {outcome : Except Failure Unit} (hagrees : Agrees before state s)
    (hempty : s.world.files.data? file = some [])
    (hruns : (r.openStream file).Runs strikes state s tr outcome state' s') : Agrees (before ++ tr) state' s' := by
  have hfailed : ∀ {failure tr₁ state₁ s₁}, Action.Runs strikes (do
      Action.ask (.openStream file)
      modify fun s : State => { s with stream := some file }) state s tr₁ (.error failure) state₁ s₁ →
      Agrees (before ++ tr₁) state₁ s₁ := by
    intro failure tr₁ state₁ s₁ hruns
    obtain ⟨_, _, _, _, _, -, -, hmodify⟩ | ⟨failure, -, hask⟩ := hruns.of_bind
    · cases (Runs.of_done hmodify).2.1
    · obtain ⟨rfl, struck, rfl, hanswer⟩ := Runs.of_ask hask
      exact hagrees.of_error (hanswer.files_of_leaving (c := .openStream file) trivial)
  have hgiveUp : ∀ cause, Action.Keeps strikes Agrees (do
      Action.ask (.abandonStream file)
      r.discard
      throw (cannotOpen cause) : Action State Unit) := fun cause =>
    keeps_bind (keeps_leaving (c := .abandonStream file) trivial) fun _ =>
      keeps_bind keeps_discard fun _ => keeps_throw _
  obtain ⟨_, -, hopened⟩ | ⟨_, -, -, hopened⟩ | ⟨cause, _, _, _, _, rfl, hopened, hmet⟩ :=
    Runs.of_onSystemError hruns
  · obtain ⟨_, _, _, _, _, rfl, hask, hmodify⟩ := hopened.of_bind_ok
    obtain ⟨rfl, rfl, -, rfl⟩ := Runs.of_ask_ok hask
    obtain ⟨rfl, hresult, rfl⟩ := Runs.of_done hmodify
    cases hresult
    exact hagrees.of_opened hempty
  · exact hfailed hopened
  · rw [← List.append_assoc]
    exact hgiveUp cause (hfailed hopened) hmet

theorem keeps_createFile : r.createFile.Keeps strikes Agrees := by
  refine keeps_onSystemError (keeps_leaving (c := .createStaging r.staging r.mode) trivial) fun cause => ?_
  split <;> exact keeps_throw _

theorem keeps_acquire : r.acquire.Keeps strikes Agrees := by
  intro before tr state state' s s' outcome hagrees hruns
  rw [acquire_eq_bind] at hruns
  obtain ⟨file, state₁, s₁, tr₁, tr₂, rfl, hcreated, hrest⟩ | ⟨_, -, hfailed⟩ := hruns.of_bind
  · have hagrees₁ := keeps_createFile hagrees hcreated
    rw [← List.append_assoc]
    refine agrees_of_openStream (hagrees₁.of_owned true) ?_ (Runs.of_modify_bind hrest)
    exact congrArg (Option.map File.data) (file?_of_create (create_of_createFile hcreated))
  · exact keeps_createFile hagrees hfailed

theorem keeps_move (move : Scenario.Move) : (move.action r).Keeps strikes Agrees := by
  cases move with
  | acquire => exact keeps_bind keeps_acquire fun _ => keeps_pure _
  | merge => exact keeps_map keeps_merge
  | append record => exact keeps_bind (keeps_append record) fun _ => keeps_pure _
  | close => exact keeps_bind keeps_close fun _ => keeps_pure _
  | discard => exact keeps_bind keeps_discard fun _ => keeps_pure _
  | release =>
    exact keeps_bind (keeps_modify fun _ _ _ hagrees => hagrees.of_owned false) fun _ => keeps_pure _

end Rewrite

end CredentialStore
