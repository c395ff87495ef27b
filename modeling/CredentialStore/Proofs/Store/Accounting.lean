import CredentialStore.Proofs.Store.Copying
import CredentialStore.Proofs.Store.Generations
import CredentialStore.Proofs.Store.Numbering
import CredentialStore.Proofs.Store.Tallying
import CredentialStore.Proofs.Store.Telling

namespace CredentialStore

open CredentialStore.Action FileSystem

namespace FileSystem

variable (fs : FileSystem) (file : FileId)

theorem append_nil : fs.append file [] = fs := by
  have hsame : (fun contents : File => { contents with data := contents.data ++ [] }) = id := by
    funext contents
    rw [List.append_nil]
    rfl
  rw [append, change, hsame, List.modify_id]

theorem append_append (a b : Bytes) : (fs.append file a).append file b = fs.append file (a ++ b) := by
  simp only [append, change, List.modify_modify_eq, Function.comp_def, List.append_assoc]

theorem dataOf_append_of_ne {other : FileId} (hother : other ≠ file) (octets : Bytes) :
    (fs.append file octets).dataOf other = fs.dataOf other := by
  rw [dataOf, dataOf, append, file?_change, if_neg (Ne.symm hother)]

end FileSystem

namespace Rewrite

/-- What work on the lines did: these octets came to the staging file, which is open, and these audit events
    were written. -/
structure Wrote (file : FileId) (octets : Bytes) (events : List Log.AuditEvent) (s : Scene) (tr : Trace)
    (state' : State) (s' : Scene) : Prop where
  stream : state'.stream = some file
  files : s'.world.files = s.world.files.append file octets
  audited : tr.audited = events

variable {r : Rewrite} {strikes : Strikes} {file : FileId} {state state' : State} {s s' : Scene} {tr : Trace}

namespace Wrote

theorem nothing (hstream : state'.stream = some file) (hfiles : s'.world.files = s.world.files)
    (hsilent : tr.audited = []) : Wrote file [] [] s tr state' s' :=
  ⟨hstream, hfiles.trans (append_nil _ file).symm, hsilent⟩

theorem trans {state₁ : State} {s₁ : Scene} {tr₁ tr₂ : Trace} {a b : Bytes} {events events' : List Log.AuditEvent}
    (hfirst : Wrote file a events s tr₁ state₁ s₁) (hrest : Wrote file b events' s₁ tr₂ state' s') :
    Wrote file (a ++ b) (events ++ events') s (tr₁ ++ tr₂) state' s' where
  stream := hrest.stream
  files := by rw [hrest.files, hfirst.files, append_append]
  audited := by rw [Trace.audited_append, hfirst.audited, hrest.audited]

end Wrote

/-- A call that leaves the files alone and is no audit event. -/
theorem wrote_of_ask {c : Call} {outcome : Except Failure c.Reply} (hleaves : c.LeavesFiles)
    (hsilent : c.audit? = none) (hstream : state.stream = some file)
    (hruns : (ask c).Runs strikes state s tr outcome state' s') : Wrote file [] [] s tr state' s' := by
  obtain ⟨rfl, struck, rfl, hanswer⟩ := Runs.of_ask hruns
  refine .nothing hstream ?_ (Trace.audited_eq_nil (by simpa using hsilent))
  cases hanswer with
  | performed =>
    rw [hleaves.perform_eq]
    exact hleaves.files_answer s.world
  | struck => rfl

/-- A write that fails leaves everything as it is, and one that succeeds marks whether its last octet ends a
    line. -/
theorem of_write {octets : Bytes} {outcome : Except Failure Unit} (hstream : state.stream = some file)
    (hruns : (write octets).Runs strikes state s tr outcome state' s') :
    (outcome = .ok () ∧ tr = [⟨.write file octets, .ok (), false⟩] ∧
      state' = { state with needsNewline := if octets = [] then state.needsNewline else octets.endsOpen } ∧
      s'.world.files = s.world.files.append file octets) ∨
    ∃ failure failure', outcome = .error failure ∧ tr = [⟨.write file octets, .error failure', true⟩] ∧
      state' = state ∧ s' = s := by
  have hwrites := Runs.of_get_bind hruns
  simp only [hstream] at hwrites
  obtain ⟨_, state₁, s₁, tr₁, tr₂, rfl, hask, hrest⟩ | ⟨failure, rfl, hask⟩ := hwrites.of_bind
  · obtain ⟨rfl, rfl, -, rfl⟩ := Runs.of_ask_ok (Runs.of_renaming hask)
    left
    cases hlast : octets.getLast? with
    | none =>
      rw [hlast] at hrest
      obtain ⟨rfl, rfl, rfl, rfl⟩ := Runs.of_pure hrest
      rw [List.getLast?_eq_none_iff.1 hlast]
      exact ⟨rfl, rfl, rfl, rfl⟩
    | some last =>
      rw [hlast] at hrest
      obtain ⟨rfl, hresult, rfl⟩ := Runs.of_done hrest
      cases hresult
      have hoctets : octets ≠ [] := by
        rintro rfl
        cases hlast
      refine ⟨rfl, rfl, ?_, rfl⟩
      simp [hoctets, Bytes.endsOpen, hlast]
  · obtain ⟨failure', hfailed⟩ := Runs.of_renaming_error hask
    obtain ⟨rfl, struck, rfl, hanswer⟩ := Runs.of_ask hfailed
    obtain ⟨-, hperformed, -⟩ | ⟨_, hstruck, -, -, hs⟩ := hanswer.performed_or_struck
    · cases hperformed
    · cases hstruck
      exact .inr ⟨failure, failure', rfl, rfl, rfl, hs⟩

theorem wrote_of_write {octets : Bytes} (hstream : state.stream = some file)
    (hruns : (write octets).Runs strikes state s tr (.ok ()) state' s') :
    Wrote file octets [] s tr state' s' := by
  obtain ⟨-, rfl, rfl, hfiles⟩ | ⟨_, _, hfailed, -⟩ := of_write hstream hruns
  · exact ⟨hstream, hfiles, rfl⟩
  · cases hfailed

/-- A line is dealt with as its fate is. -/
theorem wrote_of_handleLine {number : Nat} {seen seen' : Summary} {line : Bytes}
    (hstream : state.stream = some file)
    (hruns : (r.handleLine number seen line).Runs strikes state s tr (.ok seen') state' s') :
    seen' = r.seenOf seen [line] ∧ Wrote file (r.copiedOf seen [line]).flatten
      ((r.droppedOf seen number [line]).map r.drop) s tr state' s' := by
  simp only [seenOf, copiedOf, droppedOf]
  rw [handleLine] at hruns
  cases hfate : r.fate seen.matched line with
  | copied =>
    rw [hfate] at hruns
    obtain ⟨_, state₁, s₁, tr₁, tr₂, rfl, hwrite, hrest⟩ := hruns.of_bind_ok
    obtain ⟨rfl, hseen, rfl, rfl⟩ := Runs.of_pure hrest
    cases hseen
    have hwrote := wrote_of_write hstream hwrite
    refine ⟨rfl, hwrote.stream, ?_, by simp [hwrote.audited]⟩
    simpa using hwrote.files
  | dropped =>
    rw [hfate] at hruns
    obtain ⟨_, state₁, s₁, tr₁, tr₂, rfl, hnote, hrest⟩ := hruns.of_bind_ok
    obtain ⟨rfl, hseen, rfl, rfl⟩ := Runs.of_pure hrest
    cases hseen
    obtain ⟨rfl, rfl, -, rfl⟩ := Runs.of_ask_ok hnote
    have hleaves : Call.LeavesFiles (.log (.audit (r.drop number))) := trivial
    exact ⟨rfl, hstream, (hleaves.files_answer s.world).trans (append_nil _ file).symm, rfl⟩
  | matched record =>
    rw [hfate] at hruns
    obtain ⟨rfl, hseen, rfl, rfl⟩ := Runs.of_pure hruns
    cases hseen
    exact ⟨rfl, .nothing hstream rfl rfl⟩

/-- The induction is on how many lines may still be fetched. What is written goes to another file, so that
    the lines are those that the primary file had when it was opened. -/
theorem wrote_of_handleLines {opened : OpenedFile} {limit offset number : Nat} {seen seen' : Summary}
    (hother : opened.id ≠ file) (hsize : opened.size = (s.world.files.dataOf opened.id).length)
    (hlimit : opened.size < offset + limit) (hstream : state.stream = some file)
    (hruns : (r.handleLines opened limit offset number seen).Runs strikes state s tr (.ok seen') state' s') :
    seen' = r.seenOf seen (Bytes.lines ((s.world.files.dataOf opened.id).drop offset)) ∧
      Wrote file (r.copiedOf seen (Bytes.lines ((s.world.files.dataOf opened.id).drop offset))).flatten
        ((r.droppedOf seen number (Bytes.lines ((s.world.files.dataOf opened.id).drop offset))).map r.drop)
        s tr state' s' := by
  induction limit generalizing offset number seen state s tr with
  | zero =>
    have hdrop : (s.world.files.dataOf opened.id).drop offset = [] := by
      rw [List.drop_eq_nil_iff]
      omega
    obtain ⟨rfl, hseen, rfl, rfl⟩ := Runs.of_pure hruns
    cases hseen
    rw [hdrop]
    exact ⟨rfl, .nothing hstream rfl rfl⟩
  | succ limit ih =>
    obtain ⟨line, state₁, s₁, tr₁, tr₂, rfl, hfetch, hrest⟩ := hruns.of_bind_ok
    have hfetched := wrote_of_ask (c := .fetchLine opened.id offset opened.size) trivial rfl hstream hfetch
    obtain ⟨rfl, rfl, hline, rfl⟩ := Runs.of_ask_ok hfetch
    have hfirst : firstLine ((s.world.files.dataOf opened.id).drop offset) = line := by
      rw [← lineAt_eq_firstLine _ _ hsize]
      exact Except.ok.inj hline
    by_cases hend : (s.world.files.dataOf opened.id).drop offset = []
    · rw [hend, firstLine] at hfirst
      subst hfirst
      simp only [List.isEmpty_nil, if_true] at hrest
      obtain ⟨rfl, hseen, rfl, rfl⟩ := Runs.of_pure hrest
      cases hseen
      rw [hend]
      exact ⟨rfl, .nothing hstream rfl rfl⟩
    · have hlines := Bytes.lines_eq_firstLine_cons hend
      have hnonempty : line ≠ [] := by
        rw [← hfirst]
        simpa [Bytes.firstLine_eq_nil_iff] using hend
      have hpositive := List.length_pos_iff.2 hnonempty
      rw [if_neg (by simpa using hnonempty)] at hrest
      obtain ⟨middle, state₂, s₂, tr₃, tr₄, rfl, hhandle, hothers⟩ := hrest.of_bind_ok
      obtain ⟨rfl, hwrote⟩ := wrote_of_handleLine hstream hhandle
      have hdata : s₂.world.files.dataOf opened.id = s.world.files.dataOf opened.id := by
        rw [hwrote.files]
        exact dataOf_append_of_ne _ _ hother _
      obtain ⟨rfl, hwrote'⟩ := ih (by rw [hdata, hsize]) (by omega) hwrote.stream hothers
      rw [hdata] at hwrote' ⊢
      rw [hlines, List.drop_drop, hfirst, seenOf_cons, copiedOf_cons, droppedOf_cons, List.flatten_append,
        List.map_append]
      exact ⟨rfl, hfetched.trans (hwrote.trans hwrote')⟩

theorem wrote_of_copyLines {opened : OpenedFile} {seen : Summary} (hother : opened.id ≠ file)
    (hsize : opened.size = (s.world.files.dataOf opened.id).length) (hstream : state.stream = some file)
    (hruns : (r.copyLines opened).Runs strikes state s tr (.ok seen) state' s') :
    seen = r.seenOf {} (Bytes.lines (s.world.files.dataOf opened.id)) ∧
      Wrote file (r.copiedOf {} (Bytes.lines (s.world.files.dataOf opened.id))).flatten
        ((r.droppedOf {} 1 (Bytes.lines (s.world.files.dataOf opened.id))).map r.drop) s tr state' s' := by
  obtain ⟨state₁, s₁, tr₁, tr₂, rfl, hlines, hclose⟩ := Runs.of_thenAlways_ok hruns
  obtain ⟨rfl, hwrote⟩ := wrote_of_handleLines hother hsize (by omega) hstream (Runs.of_renaming hlines)
  rw [List.drop_zero] at hwrote ⊢
  have hclosed := wrote_of_ask (c := .closePrimary opened.id) trivial rfl hwrote.stream hclose
  refine ⟨rfl, ?_⟩
  simpa only [List.append_nil] using hwrote.trans hclosed

/-- What the answer to an opening tells of the path. -/
theorem entry?_of_answer {w : World} {path : Text} {there : Location}
    (hlocate : w.files.locate path = .ok there) :
    (∀ opened, (w.answer (.openPrimary path)).1 = .ok opened →
      ∃ id, opened = ⟨id, (w.files.dataOf id).length⟩ ∧ w.files.entry? there = some (.file id)) ∧
    ((w.answer (.openPrimary path)).1 = .error (.numbered .notFound) → w.files.entry? there = none) := by
  rw [World.answer_openPrimary, openFile_of_locate hlocate]
  rcases w.files.entry? there with _ | ⟨id | _⟩
  · exact ⟨fun _ h => (by cases h), fun _ => rfl⟩
  · refine ⟨fun opened hanswer => ?_, fun h => (by cases h)⟩
    cases hanswer
    exact ⟨id, rfl, rfl⟩
  · exact ⟨fun _ h => (by cases h), fun h => (by cases h)⟩

/-- The primary file is opened as it is, or nothing lies at its path. -/
theorem of_openPrimary (hhonest : strikes.Honest) {there : Location}
    (hlocate : s.world.files.locate r.primary = .ok there) (hstream : state.stream = some file)
    {opened? : Option OpenedFile} (hruns : r.openPrimary.Runs strikes state s tr (.ok opened?) state' s') :
    Wrote file [] [] s tr state' s' ∧
      ((opened? = none ∧ s.world.files.entry? there = none) ∨
        ∃ id, opened? = some ⟨id, (s.world.files.dataOf id).length⟩ ∧
          s.world.files.entry? there = some (.file id)) := by
  obtain ⟨hfile, hmissing⟩ := entry?_of_answer hlocate
  obtain hopened | ⟨cause, state₁, s₁, tr₁, tr₂, rfl, hfailed, hmet⟩ := Runs.of_onSystemError_ok hruns
  · obtain ⟨opened, _, _, _, _, rfl, hask, hpure⟩ := hopened.of_bind_ok
    obtain ⟨rfl, hopened, rfl, rfl⟩ := Runs.of_pure hpure
    cases hopened
    have hwrote := wrote_of_ask (c := .openPrimary r.primary) trivial rfl hstream hask
    obtain ⟨-, rfl, hanswer, -⟩ := Runs.of_ask_ok hask
    obtain ⟨id, rfl, hentry⟩ := hfile opened hanswer
    rw [List.append_nil]
    exact ⟨hwrote, .inr ⟨id, rfl, hentry⟩⟩
  · split at hmet
    · obtain ⟨rfl, hnone, rfl, rfl⟩ := Runs.of_pure hmet
      cases hnone
      obtain ⟨_, _, _, _, _, -, -, hpure⟩ | ⟨_, hfailure, hask⟩ := hfailed.of_bind
      · cases (Runs.of_pure hpure).2.1
      · cases hfailure
        have hwrote := wrote_of_ask (c := .openPrimary r.primary) trivial rfl hstream hask
        obtain ⟨rfl, struck, rfl, hanswer⟩ := Runs.of_ask hask
        refine ⟨hwrote, .inl ⟨rfl, ?_⟩⟩
        obtain ⟨-, hanswered, -⟩ | ⟨_, -, hanswered, hstruck, -⟩ := hanswer.performed_or_struck
        · exact hmissing hanswered.symm
        · cases hanswered
          rw [← entryAt?_of_locate hlocate]
          exact hhonest.missing _ _ hstruck _ rfl
    · cases (Runs.of_throw hmet).2.1

/-- The lines that the primary file has; none where there is no such file. -/
def primaryLines (r : Rewrite) (fs : FileSystem) : List Bytes :=
  Bytes.lines ((fs.contents? r.primary).getD [])

/-- What a merge has seen before the first line. -/
def start (r : Rewrite) (fs : FileSystem) : Summary := { storeExists := (fs.contents? r.primary).isSome }

/-- A merge deals with the lines of the primary file, which it finds as it was. -/
theorem wrote_of_merge (hhonest : strikes.Honest) {there : Location}
    (hlocate : s.world.files.locate r.primary = .ok there)
    (hother : ∀ id, s.world.files.entry? there = some (.file id) → id ≠ file)
    (hstream : state.stream = some file) {seen : Summary}
    (hruns : r.merge.Runs strikes state s tr (.ok seen) state' s') :
    seen = r.seenOf (r.start s.world.files) (r.primaryLines s.world.files) ∧
      Wrote file (r.copiedOf (r.start s.world.files) (r.primaryLines s.world.files)).flatten
        ((r.droppedOf (r.start s.world.files) 1 (r.primaryLines s.world.files)).map r.drop) s tr state' s' := by
  simp only [start, primaryLines, contents?_eq hlocate]
  rw [merge_eq] at hruns
  have hcopies := Runs.of_get_bind hruns
  rw [hstream] at hcopies
  obtain ⟨opened?, state₁, s₁, tr₁, tr₂, rfl, hopen, hrest⟩ := Runs.of_bind_ok hcopies
  obtain ⟨hopened, ⟨rfl, hentry⟩ | ⟨id, rfl, hentry⟩⟩ := of_openPrimary hhonest hlocate hstream hopen
  · obtain ⟨rfl, hseen, rfl, rfl⟩ := Runs.of_pure hrest
    cases hseen
    rw [hentry, List.append_nil]
    exact ⟨rfl, hopened⟩
  · obtain ⟨seen', state₂, s₂, tr₃, tr₄, rfl, hcopy, hnoted⟩ := Runs.of_bind_ok hrest
    obtain ⟨_, state₃, s₃, tr₅, tr₆, rfl, hnote, hpure⟩ := hnoted.of_bind_ok
    obtain ⟨rfl, hseen, rfl, rfl⟩ := Runs.of_pure hpure
    cases hseen
    have hdata : s₁.world.files.dataOf id = s.world.files.dataOf id := by
      rw [hopened.files, append_nil]
    obtain ⟨rfl, hwrote⟩ := wrote_of_copyLines (hother id hentry) (by rw [hdata]) hopened.stream hcopy
    have hmerged := wrote_of_ask (c := .log (.merged r.primary _ _ _)) trivial rfl hwrote.stream hnote
    have hall := hopened.trans (hwrote.trans hmerged)
    simp only [hdata, List.nil_append, List.append_nil] at hall ⊢
    simp only [hentry]
    exact ⟨rfl, hall⟩

/-- A merge that succeeds right after the store was acquired accounts for every line of the primary file. It
    returns how many there are, copied, dropped and found; the staging file holds those that were copied, as
    they were; and a log that keeps warnings has one event for each that was dropped, by its number. -/
theorem merge_accounts {root : Text} (hprimary : r.primary = (StorePaths.locate root).primary)
    (hstaging : r.staging = (StorePaths.locate root).staging) (hsound : s.world.files.Sound) {seen : Summary}
    (hruns : Action.Runs .faithful (do
      r.acquire
      r.merge) state s tr (.ok seen) state' s') :
    ∃ front rest numbers,
      r.Accounts (r.primaryLines s.world.files) seen front rest numbers ∧
      seen.storeExists = (s.world.files.contents? r.primary).isSome ∧
      s'.world.files.contents? r.staging =
        some (front.filter (fun line => (Record.parse line).isSome) ++ rest.tail).flatten ∧
      ∀ level, s.world.threshold = some level → level ≤ Log.Level.warning →
        ∃ added, s'.world.entries = s.world.entries ++ added ∧
          added.filterMap LogEntry.audit? = numbers.map r.drop := by
  obtain ⟨_, state₁, s₁, tr₁, tr₂, rfl, hacquire, hmerge⟩ := hruns.of_bind_ok
  obtain ⟨file, hcreate, hstream⟩ := create_of_acquire hacquire
  rw [hstaging] at hcreate
  obtain ⟨directory, -, -, -, hheld, hempty⟩ := Held.of_create hsound hcreate
  have hlocate : s₁.world.files.locate r.primary = .ok (StorePaths.primaryAt directory) := by
    rw [hprimary]
    exact hheld.lead.primary
  have hother : ∀ id, s₁.world.files.entry? (StorePaths.primaryAt directory) = some (.file id) → id ≠ file := by
    rintro id hentry rfl
    exact StorePaths.primaryAt_ne_stagingAt directory (hheld.eq_stagingAt _ hentry)
  obtain ⟨rfl, hwrote⟩ := wrote_of_merge Strikes.honest_faithful hlocate hother hstream hmerge
  have hcontents : s₁.world.files.contents? r.primary = s.world.files.contents? r.primary := by
    rw [hprimary]
    exact hheld.contents?_primary
  have hstart : r.start s₁.world.files = r.start s.world.files := by rw [start, hcontents, start]
  have hlines : r.primaryLines s₁.world.files = r.primaryLines s.world.files := by
    rw [primaryLines, hcontents, primaryLines]
  rw [hstart, hlines] at hwrote ⊢
  refine ⟨_, _, _, r.accounts_seenOf _ _, storeExists_seenOf r _ _, ?_, fun level hlevel hwarning => ?_⟩
  · obtain ⟨hafter, hdata⟩ := hheld.append
      (r.copiedOf (r.start s.world.files) (r.primaryLines s.world.files)).flatten
    rw [← hwrote.files] at hafter hdata
    rw [hempty, List.nil_append, copiedOf_eq_survivors r rfl] at hdata
    rw [hstaging, contents?_eq hafter.lead.staging, hafter.entry_staging]
    exact congrArg some hdata
  · have hsilent : tr₁.audited = [] :=
      Trace.audited_eq_nil (hacquire.calls (uses_acquire.mono fun _ => audit?_of_gates))
    have haudited : (tr₁ ++ tr₂).audited = (r.droppedOf (r.start s.world.files) 1
        (r.primaryLines s.world.files)).map r.drop := by
      rw [Trace.audited_append, hsilent, hwrote.audited, List.nil_append]
    have hbegins : ∀ e ∈ tr₁ ++ tr₂, e.call ≠ .beginTransaction := by
      have huses : Action.Uses (· ≠ .beginTransaction) (do
          r.acquire
          r.merge) := by
        refine uses_bind (uses_acquire.mono ?_) fun _ => uses_merge.mono ?_
        · rintro _ hgates rfl
          exact hgates
        · rintro _ hmerges rfl
          exact hmerges
      exact hruns.calls huses
    have hkeeps : ∀ audit ∈ (tr₁ ++ tr₂).audited, level ≤ audit.level := by
      intro audit haudit
      rw [haudited] at haudit
      obtain ⟨n, -, rfl⟩ := List.mem_map.1 haudit
      exact hwarning
    have hsteps := Program.Runs.steps (hruns.mono fun _ _ _ hstrikes => hstrikes.1)
    obtain ⟨added, hlogs, hevents⟩ := hsteps.logs hbegins hlevel hkeeps
    exact ⟨added, hlogs.entries, hevents.trans haudited⟩

/-- A store of three lines, of which the second is a record, and a log that keeps warnings. -/
def threeLines : Scene where
  world := {
    files := {
      entries := [([StorePaths.primaryOctets], .file 0)]
      files := [⟨[0x62, 0x0A, 0x61, 0x6C, 0x3A, 0x73, 0x79, 0x73, 0x3A, 0x30, 0x0A, 0x63, 0x0A], 0o600⟩]
      umask := 0o22 }
    threshold := some Log.Level.warning }
  session := {}

/-- The rewrite that leaves that record out. -/
def leavingOut : Rewrite where
  primary := (StorePaths.locate (text "/")).primary
  staging := (StorePaths.locate (text "/")).staging
  identity := text "al"
  realm := text "sys"
  mode := 0o600

/-- The first line is dropped, the second is found and the third is copied. -/
theorem threeLines_accounts : ∃ tr state' s' seen front rest numbers,
    Action.Runs .faithful (do
      leavingOut.acquire
      leavingOut.merge) {} threeLines tr (.ok seen) state' s' ∧
      seen = ⟨some ⟨text "al", text "sys", text "0"⟩, true, 1, 1⟩ ∧
      leavingOut.Accounts (leavingOut.primaryLines threeLines.world.files) seen front rest numbers ∧
      ∃ added, s'.world.entries = threeLines.world.entries ++ added ∧
        added.filterMap LogEntry.audit? = numbers.map leavingOut.drop := by
  have hsound : threeLines.world.files.Sound := by
    refine Sound.of_entries (fun there id hmem => ?_) (by decide)
    simp only [threeLines, List.mem_singleton, Prod.mk.injEq, Entry.file.injEq] at hmem
    rw [hmem.2]
    exact Nat.zero_lt_one
  obtain ⟨tr, hruns, -⟩ := threeLines.runs_of_run .faithful {} (do
    leavingOut.acquire
    leavingOut.merge) rfl
  have hseen : (threeLines.run {} (do
      leavingOut.acquire
      leavingOut.merge)).1.1 = .ok ⟨some ⟨text "al", text "sys", text "0"⟩, true, 1, 1⟩ := by decide +kernel
  generalize threeLines.run {} (do
    leavingOut.acquire
    leavingOut.merge) = result at hruns hseen
  obtain ⟨⟨outcome, state'⟩, s'⟩ := result
  cases hseen
  have hprimary : leavingOut.primary = (StorePaths.locate (text "/")).primary := rfl
  have hstaging : leavingOut.staging = (StorePaths.locate (text "/")).staging := rfl
  obtain ⟨front, rest, numbers, haccounts, -, -, hlogged⟩ := merge_accounts hprimary hstaging hsound hruns
  exact ⟨tr, state', s', _, front, rest, numbers, hruns, rfl, haccounts,
    hlogged Log.Level.warning rfl (Int.le_refl _)⟩

end Rewrite

end CredentialStore
