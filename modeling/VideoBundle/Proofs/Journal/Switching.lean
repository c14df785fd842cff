import Mathlib.Tactic.SplitIfs
import VideoBundle.Journal.Basic

/-!
# Switching the journal off

The store behind a journal can fail at every call: when the host connects to it, when the collection is
opened, and when a document is written.  No failure reaches the host; the first write that fails
switches the journal off, and nothing is written until it is opened again.

Main results:

- `move_perform`: the few things that a call can do.
- `move_of_mem_history`: every call of a run does one of them, on a sound journal.
- `exists_restart`: a journal that is off writes nothing until it is opened.
- `journal_of_failures`: what the host sees of a journal whose store can fail at any time.
-/

namespace VideoBundle

/-! ## Calls and runs -/

/-- Events whose texts are given or missing and whose count is an integer. -/
structure CompileEvent.Plain (fields : Fields) : Prop where
  text_or_missing : ∀ key ∈ ["session_id", "tool", "result", "entry_file", "error"],
    ∀ v, lookupEntry key fields = some v → v = .null ∨ ∃ s, v = .text s
  integer_count : ∀ v, lookupEntry "file_count" fields = some v → ∃ n, v = .number (.int n)

/-- Whether an effect is a document that is handed to the store. -/
def JournalEffect.isWrite : JournalEffect → Bool
  | .wrote _ | .refused _ _ => true
  | .warned _ | .connected _ _ | .opened _ => false

/-- What a host does with its journal. -/
inductive JournalOperation where
  | start
  | record (fields : Fields)

/-- An operation with the failures of the store at its time. -/
structure JournalCall where
  operation : JournalOperation
  connectError : Option String
  openError : Option String
  writeError : Option String

/-- Whether a call records, if anything, a plain event. -/
def JournalCall.IsPlain (call : JournalCall) : Prop :=
  ∀ fields, call.operation = .record fields → CompileEvent.Plain fields

/-- The host at the time of a call. -/
def JournalCall.hostAt (call : JournalCall) (host : JournalHost) : JournalHost :=
  { host with
    connectError := call.connectError
    openError := call.openError
    writeError := fun _ => call.writeError }

/-- A call with the journal before it and what it leaves. -/
structure JournalTurn where
  before : Journal
  call : JournalCall
  step : JournalStep (Except CountError (Option JournalEntry))

/-- The documents that a turn hands to the store, with the fate of each. -/
def JournalTurn.writes (turn : JournalTurn) : List JournalEffect :=
  turn.step.effects.filter JournalEffect.isWrite

namespace Journal

/-- Perform an operation; opening the journal gives no entry. -/
def perform (host : JournalHost) (call : JournalCall) (j : Journal) :
    JournalStep (Except CountError (Option JournalEntry)) :=
  match call.operation with
  | .start =>
      let step := start (call.hostAt host) j
      ⟨step.journal, step.effects, .ok none⟩
  | .record fields => recordFields (call.hostAt host) fields j

/-- The turns of a run. -/
def history (host : JournalHost) (j : Journal) : List JournalCall → List JournalTurn
  | [] => []
  | call :: calls =>
      ⟨j, call, perform host call j⟩ :: history host (perform host call j).journal calls

/-! ## One call -/

/-- A journal that is on has no reason to be off, and a connection. -/
structure Sound (j : Journal) : Prop where
  reason : j.active = true → j.reason = none
  connected : j.active = true → j.connected = true

/-- A journal that is off is sound, whatever else it holds. -/
theorem sound_of_inactive {j : Journal} (h : j.active = false) : j.Sound := by
  constructor <;> simp [h]

/-- What a call can do to a journal, with the documents it hands to the store and its answer. -/
inductive Move (j : Journal) : JournalOperation → Journal → List JournalEffect →
    Except CountError (Option JournalEntry) → Prop
  | idle (fields : Fields) (hoff : j.active = false) : Move j (.record fields) j [] (.ok none)
  | opened (q : Journal) (hon : q.active = true) (hreason : q.reason = none)
      (hconnected : q.connected = true) : Move j .start q [] (.ok none)
  | closed (q : Journal) (problem : String) (hstatus : q.status = (false, some problem)) :
      Move j .start q [] (.ok none)
  | wrote (fields : Fields) (q : Journal) (event : CompileEvent) (document : String)
      (hon : j.active = true) (hstatus : q.status = j.status) (hconnected : q.connected = true) :
      Move j (.record fields) q [.wrote event.payload] (.ok (some (event.entry document)))
  | refused (fields : Fields) (q : Journal) (event : CompileEvent) (problem : String)
      (hon : j.active = true) (hstatus : q.status = (false, some problem)) :
      Move j (.record fields) q [.refused event.payload problem] (.ok none)

variable {host : JournalHost} {j q : Journal} {writes : List JournalEffect}
  {answer : Except CountError (Option JournalEntry)} {operation : JournalOperation}

/-- Connecting writes no entry. -/
theorem writes_connect (host : JournalHost) (j : Journal) :
    (connect host j).effects.filter JournalEffect.isWrite = [] := by
  have hreading : (readCredentials host j).effects.filter JournalEffect.isWrite = [] := by
    unfold readCredentials
    split
    · rfl
    · simp [JournalEffect.isWrite]
  unfold connect
  split_ifs
  · rfl
  · rfl
  · dsimp only
    split <;> simp [hreading, JournalEffect.isWrite]

/-- A connection that was answered well is kept. -/
theorem connected_of_connect (h : (connect host j).answer = .ok ()) :
    (connect host j).journal.connected = true := by
  unfold connect at h ⊢
  split_ifs at h ⊢ with hconnected
  · exact hconnected
  · cases hproject : projectOf host <;> cases hproblem : host.connectError <;> simp_all

theorem writes_openCollection (host : JournalHost) (j : Journal) :
    (openCollection host j).effects.filter JournalEffect.isWrite = [] := by
  unfold openCollection
  dsimp only
  split <;> simp [writes_connect, JournalEffect.isWrite]

/-- A collection that was opened has a connection behind it. -/
theorem connected_of_openCollection (h : (openCollection host j).answer = .ok ()) :
    (openCollection host j).journal.connected = true := by
  unfold openCollection at h ⊢
  dsimp only at h ⊢
  cases hconnect : (connect host j).answer with
  | error problem => simp [hconnect] at h
  | ok _ => exact connected_of_connect hconnect

theorem writes_disable (reason : String) (j : Journal) :
    (disable reason j).effects.filter JournalEffect.isWrite = [] := by
  unfold disable
  dsimp only
  split <;> simp [JournalEffect.isWrite]

/-- Opening the journal hands no document to the store and leaves it on, or off with a reason. -/
theorem move_start (host : JournalHost) (j : Journal) :
    Move j .start (start host j).journal ((start host j).effects.filter JournalEffect.isWrite)
      (.ok none) := by
  unfold start
  split_ifs
  · rw [writes_disable]
    exact .closed _ _ rfl
  · dsimp only
    split
    · rename_i problem hproblem
      rw [List.filter_append, writes_openCollection, writes_disable]
      exact .closed _ problem rfl
    · rename_i hok
      rw [writes_openCollection]
      refine .opened _ rfl rfl (connected_of_openCollection ?_)
      cases hanswer : (openCollection host j).answer with
      | error problem => simp [hanswer, Except.bind] at hok
      | ok _ => rfl

/-- Counts that are integers or missing are read. -/
theorem exists_ofFields {fields : Fields} (h : CompileEvent.Plain fields) :
    ∃ event, CompileEvent.ofFields fields = .ok event := by
  unfold CompileEvent.ofFields
  cases hcount : lookupEntry "file_count" fields with
  | none => exact ⟨_, rfl⟩
  | some v =>
      obtain ⟨n, rfl⟩ := h.integer_count v hcount
      exact ⟨_, rfl⟩

/-- An event is handed to the store exactly when the journal is on. -/
theorem move_recordFields (hsound : j.Sound) {fields : Fields} (hplain : CompileEvent.Plain fields) :
    Move j (.record fields) (recordFields host fields j).journal
      ((recordFields host fields j).effects.filter JournalEffect.isWrite)
      (recordFields host fields j).answer := by
  cases hactive : j.active with
  | false =>
      simp only [recordFields, hactive, Bool.not_false, if_true]
      exact .idle fields hactive
  | true =>
      obtain ⟨event, hevent⟩ := exists_ofFields hplain
      have hopening : openCollection host j = ⟨j, [.opened host.collection], .ok ()⟩ := by
        simp [openCollection, connect, hsound.connected hactive]
      simp only [recordFields, hactive, Bool.not_true, Bool.false_eq_true, if_false, hevent, record,
        hopening]
      cases hproblem : host.writeError (j.documents + 1) with
      | none =>
          exact .wrote fields _ event _ hactive (by simp [status, hactive]) (hsound.connected hactive)
      | some problem =>
          simp only [refuse, List.filter_append, writes_disable]
          exact .refused fields _ event problem hactive rfl

/-- A call makes one of the moves. -/
theorem move_perform (host : JournalHost) (hsound : j.Sound) {call : JournalCall}
    (hplain : call.IsPlain) :
    Move j call.operation (perform host call j).journal
      ((perform host call j).effects.filter JournalEffect.isWrite) (perform host call j).answer := by
  unfold perform
  split
  · rename_i hstart
    rw [hstart]
    exact move_start _ j
  · rename_i fields hrecord
    rw [hrecord]
    exact move_recordFields hsound (hplain fields hrecord)

/-- Every move keeps the journal sound. -/
theorem Move.sound (h : Move j operation q writes answer) (hsound : j.Sound) : q.Sound := by
  cases h with
  | idle fields hoff => exact hsound
  | opened q hon hreason hconnected => exact ⟨fun _ => hreason, fun _ => hconnected⟩
  | closed q problem hstatus => exact sound_of_inactive (Prod.mk.inj hstatus).1
  | wrote fields q event document hon hstatus hconnected =>
      obtain ⟨_, hreason⟩ := Prod.mk.inj hstatus
      exact ⟨fun _ => hreason.trans (hsound.reason hon), fun _ => hconnected⟩
  | refused fields q event problem hon hstatus => exact sound_of_inactive (Prod.mk.inj hstatus).1

/-- A document is handed to the store exactly when an event is recorded while the journal is on. -/
theorem Move.writes_iff (h : Move j operation q writes answer) :
    writes ≠ [] ↔ j.active = true ∧ ∃ fields, operation = .record fields := by
  cases h with
  | idle fields hoff => simp [hoff]
  | opened q hon hreason hconnected => simp
  | closed q problem hstatus => simp
  | wrote fields q event document hon hstatus hconnected => simp [hon]
  | refused fields q event problem hon hstatus => simp [hon]

/-- A journal goes on only when it is opened. -/
theorem Move.restart (h : Move j operation q writes answer) (hoff : j.active = false)
    (hon : q.active = true) : operation = .start := by
  cases h with
  | idle fields hoff => simp [hoff] at hon
  | opened q hon hreason hconnected => rfl
  | closed q problem hstatus => rfl
  | wrote fields q event document hwas hstatus hconnected => simp [hoff] at hwas
  | refused fields q event problem hwas hstatus => simp [hoff] at hwas

/-- An entry is given for the document that the store took, and for no other. -/
theorem Move.answered (h : Move j operation q writes answer) :
    (∃ entry, answer = .ok entry) ∧
      ((∃ entry, answer = .ok (some entry)) ↔ ∃ payload, .wrote payload ∈ writes) ∧
      ∀ entry payload, answer = .ok (some entry) → .wrote payload ∈ writes →
        ∃ event : CompileEvent, entry = event.entry entry.document ∧ payload = event.payload := by
  cases h with
  | idle fields hoff => simp
  | opened q hon hreason hconnected => simp
  | closed q problem hstatus => simp
  | refused fields q event problem hon hstatus => simp
  | wrote fields q event document hon hstatus hconnected =>
      refine ⟨⟨_, rfl⟩, by simp, fun entry payload hentry hpayload => ⟨event, ?_, ?_⟩⟩
      · cases hentry
        rfl
      · simpa using hpayload

/-- A document that the store refuses switches the journal off, for the store's reason. -/
theorem Move.status_of_refused (h : Move j operation q writes answer) {payload : Fields}
    {problem : String} (hrefused : .refused payload problem ∈ writes) :
    q.status = (false, some problem) := by
  cases h with
  | idle fields hoff => cases hrefused
  | opened q hon hreason hconnected => cases hrefused
  | closed q problem hstatus => cases hrefused
  | wrote fields q event document hon hstatus hconnected => simp at hrefused
  | refused fields q event problem hon hstatus =>
      rw [List.mem_singleton, JournalEffect.refused.injEq] at hrefused
      rw [hrefused.2, hstatus]

/-! ## What an entry holds -/

/-- An entry is of a success or of a failure. -/
theorem result_entry (document : String) (event : CompileEvent) :
    (event.entry document).result = "success" ∨ (event.entry document).result = "fail" := by
  simp only [CompileEvent.entry, CompileEvent.resultWord]
  split <;> simp

/-- The error text of an entry is cut at its limit. -/
theorem length_error_entry {document error : String} {event : CompileEvent}
    (h : (event.entry document).error = some error) : error.length ≤ CompileEvent.maxErrorLength := by
  obtain ⟨full, _, rfl⟩ := Option.map_eq_some_iff.1 h
  rw [String.length_ofList, List.length_take]
  exact Nat.min_le_left _ _

/-- The entry of an event holds what is written of it. -/
theorem payload_entry (document : String) (event : CompileEvent) :
    (event.entry document).payload = event.payload := by
  simp only [JournalEntry.payload, CompileEvent.entry, CompileEvent.payload]

/-! ## Runs -/

variable {calls : List JournalCall}

/-- Every turn of a run makes a move on a sound journal. -/
theorem move_of_mem_history (hsound : j.Sound) (hplain : ∀ call ∈ calls, call.IsPlain)
    {turn : JournalTurn} (h : turn ∈ history host j calls) :
    turn.before.Sound ∧ Move turn.before turn.call.operation turn.step.journal turn.writes
      turn.step.answer := by
  induction calls generalizing j with
  | nil => cases h
  | cons call calls ih =>
      rw [List.forall_mem_cons] at hplain
      have hmove := move_perform host hsound hplain.1
      rcases List.mem_cons.1 h with rfl | h
      · exact ⟨hsound, hmove⟩
      · exact ih (hmove.sound hsound) hplain.2 h

/-- While the journal is off, nothing is handed to the store until the journal is opened. -/
theorem exists_restart (hoff : j.active = false) (hplain : ∀ call ∈ calls, call.IsPlain)
    {between rest : List JournalTurn} {turn : JournalTurn}
    (h : history host j calls = between ++ turn :: rest) (hwrites : turn.writes ≠ []) :
    ∃ restart ∈ between, restart.call.operation = .start ∧ restart.step.journal.active = true := by
  induction calls generalizing j between with
  | nil => simp [history] at h
  | cons call calls ih =>
      rw [List.forall_mem_cons] at hplain
      have hmove := move_perform host (sound_of_inactive hoff) hplain.1
      cases between with
      | nil =>
          obtain ⟨rfl, -⟩ := List.cons.inj h
          simp [(hmove.writes_iff.1 hwrites).1] at hoff
      | cons first between =>
          obtain ⟨rfl, htail⟩ := List.cons.inj h
          cases hon : (perform host call j).journal.active with
          | true => exact ⟨_, List.mem_cons_self, hmove.restart hoff hon, hon⟩
          | false =>
              obtain ⟨restart, hrestart, hopened⟩ := ih hon hplain.2 htail
              exact ⟨restart, List.mem_cons_of_mem _ hrestart, hopened⟩

/-- The turns after one of a run are those of a run from the journal that it leaves. -/
theorem exists_history_of_split {earlier later : List JournalTurn} {turn : JournalTurn}
    (h : history host j calls = earlier ++ turn :: later) :
    ∃ more, later = history host turn.step.journal more ∧ ∀ call ∈ more, call ∈ calls := by
  induction calls generalizing j earlier with
  | nil => simp [history] at h
  | cons call calls ih =>
      cases earlier with
      | nil =>
          obtain ⟨rfl, rfl⟩ := List.cons.inj h
          exact ⟨calls, rfl, fun _ => List.mem_cons_of_mem _⟩
      | cons first earlier =>
          obtain ⟨more, hmore, hcalls⟩ := ih (List.cons.inj h).2
          exact ⟨more, hmore, fun call hcall => List.mem_cons_of_mem _ (hcalls call hcall)⟩

/-- Whenever the store fails, no call raises, and a journal that is on has no reason to be off.  A
document is handed to the store exactly when an event is recorded while the journal is on.  A call gives
an entry exactly when the store took its document, and the entry holds what was written.  A document
that the store refuses switches the journal off for the store's reason, and no other follows before the
journal is opened again. -/
theorem journal_of_failures (hplain : ∀ call ∈ calls, call.IsPlain) {turns : List JournalTurn}
    (hturns : history host initial calls = turns) :
    (∀ turn ∈ turns, ∃ entry, turn.step.answer = .ok entry) ∧
    (∀ turn ∈ turns, turn.step.journal.active = true → turn.step.journal.reason = none) ∧
    (∀ turn ∈ turns, turn.writes ≠ [] ↔
      turn.before.active = true ∧ ∃ fields, turn.call.operation = .record fields) ∧
    (∀ turn ∈ turns, (∃ entry, turn.step.answer = .ok (some entry)) ↔
      ∃ payload, .wrote payload ∈ turn.step.effects) ∧
    (∀ turn ∈ turns, ∀ entry payload, turn.step.answer = .ok (some entry) →
      .wrote payload ∈ turn.step.effects →
        lookupEntry "session_id" payload = some (CompileEvent.textOrNull entry.session) ∧
        lookupEntry "tool" payload = some (.text entry.tool) ∧
        lookupEntry "result" payload = some (.text entry.result) ∧
        lookupEntry "error" payload = some (CompileEvent.textOrNull entry.error) ∧
        (entry.result = "success" ∨ entry.result = "fail") ∧
        ∀ error, entry.error = some error → error.length ≤ 1500) ∧
    (∀ earlier turn later, turns = earlier ++ turn :: later →
      ∀ payload problem, .refused payload problem ∈ turn.step.effects →
        turn.step.journal.status = (false, some problem) ∧
        ∀ between other rest, later = between ++ other :: rest → other.writes ≠ [] →
          ∃ restart ∈ between,
            restart.call.operation = .start ∧ restart.step.journal.active = true) := by
  subst hturns
  have hmoves : ∀ turn ∈ history host initial calls, turn.before.Sound ∧
      Move turn.before turn.call.operation turn.step.journal turn.writes turn.step.answer :=
    fun turn hturn => move_of_mem_history (sound_of_inactive rfl) hplain hturn
  refine ⟨fun turn hturn => (hmoves turn hturn).2.answered.1,
    fun turn hturn => ((hmoves turn hturn).2.sound (hmoves turn hturn).1).reason,
    fun turn hturn => (hmoves turn hturn).2.writes_iff, ?entries, ?contents, ?refusals⟩
  case entries =>
    intro turn hturn
    rw [(hmoves turn hturn).2.answered.2.1]
    simp [JournalTurn.writes, JournalEffect.isWrite]
  case contents =>
    intro turn hturn entry payload hentry hpayload
    have hwrite : .wrote payload ∈ turn.writes := List.mem_filter.2 ⟨hpayload, rfl⟩
    obtain ⟨event, hevent, rfl⟩ := (hmoves turn hturn).2.answered.2.2 entry payload hentry hwrite
    rw [← payload_entry entry.document event, ← hevent]
    refine ⟨rfl, rfl, rfl, rfl, ?_, fun error herror => ?_⟩
    · rw [hevent]
      exact result_entry _ event
    · rw [hevent] at herror
      exact length_error_entry herror
  case refusals =>
    intro earlier turn later hsplit payload problem hrefused
    have hturn : turn ∈ history host initial calls := by simp [hsplit]
    have hstatus := (hmoves turn hturn).2.status_of_refused (List.mem_filter.2 ⟨hrefused, rfl⟩)
    refine ⟨hstatus, fun between other rest hlater hwrites => ?_⟩
    obtain ⟨more, hmore, hcalls⟩ := exists_history_of_split hsplit
    rw [hmore] at hlater
    exact exists_restart (Prod.mk.inj hstatus).1 (fun call hcall => hplain call (hcalls call hcall))
      hlater hwrites

/-- A store that serves one project. -/
def videoStore : JournalHost where
  enabled := true
  collection := "compile_logs"
  project := some "video"
  credentials := none
  credentialWarnings := []
  installed := true
  connectError := none
  openError := none
  writeError := fun _ => none

/-- The fields of a plain event. -/
def successFields : Fields :=
  [("session_id", .text "s1"), ("tool", .text "create_video"), ("result", .text "success"),
   ("file_count", .number (.int 1)), ("error", .null)]

/-- The store refuses the second of three documents. -/
def refusedCalls : List JournalCall :=
  [⟨.start, none, none, none⟩, ⟨.record successFields, none, none, none⟩,
   ⟨.record successFields, none, none, some "quota exceeded"⟩,
   ⟨.record successFields, none, none, none⟩]

/-- The write that the store refuses leaves the journal off, with the reason; one more call follows. -/
theorem journal_of_refusedCalls :
    ∃ earlier turn later, history videoStore initial refusedCalls = earlier ++ turn :: later ∧
      turn.step.journal.status = (false, some "quota exceeded") ∧ later.length = 1 := by
  have hfields : CompileEvent.Plain successFields := by
    constructor
    · intro key hkey v hv
      simp only [List.mem_cons, List.not_mem_nil, or_false] at hkey
      rcases hkey with rfl | rfl | rfl | rfl | rfl <;>
        simp [successFields, lookupEntry] at hv <;> simp [← hv]
    · intro v hv
      simp [successFields, lookupEntry] at hv
      exact ⟨1, hv.symm⟩
  have hplain : ∀ call ∈ refusedCalls, call.IsPlain := by
    intro call hcall fields hrecord
    simp only [refusedCalls, List.mem_cons, List.not_mem_nil, or_false] at hcall
    rcases hcall with rfl | rfl | rfl | rfl <;> cases hrecord <;> exact hfields
  obtain ⟨earlier, turn, later, payload, hsplit, hrefused, hlater⟩ :
      ∃ earlier turn later payload, history videoStore initial refusedCalls = earlier ++ turn :: later ∧
        .refused payload "quota exceeded" ∈ turn.step.effects ∧ later.length = 1 :=
    ⟨[_, _], _, [_], _, rfl, List.mem_cons_of_mem _ List.mem_cons_self, rfl⟩
  obtain ⟨-, -, -, -, -, hrefusals⟩ := journal_of_failures hplain rfl
  exact ⟨earlier, turn, later, hsplit, (hrefusals earlier turn later hsplit payload _ hrefused).1,
    hlater⟩

end Journal
end VideoBundle
