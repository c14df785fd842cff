import VideoBundle.Project.Call
import VideoBundle.Proofs.Number.Measures
import VideoBundle.Proofs.Outcomes

/-!
# Which calls are answered

A call that cannot be served is answered with an artifact that carries an error.  Two kinds of calls
are not answered at all: a measure that is an integer beyond the binary numbers breaks its own test,
and an update mode that holds an integer with too many digits breaks the message that would refuse it.

Main results:

- `ofValue_eq_unwritableMode_iff`: the update modes that no message can show.
- `toDocument_eq_measureTooLarge_iff`: the drafts whose measures cannot be tested.
- `run_answer`: which calls are answered, and what their artifacts carry.
-/

namespace VideoBundle

/-! ## Requests -/

namespace Request

/-- Of all the parts of a request only the mode can fail for a number too long to be shown: an
optional field cannot. -/
theorem optional_ne_unwritableMode {α : Type} {kind : FieldKind} {read? : Value String → Option α}
    {payload : Fields} {field : String} {e : TooManyDigits} :
    optional kind read? payload field ≠ .error (.unwritableMode e) := by
  unfold optional
  split
  · simp
  · split <;> simp

theorem deletionsOf_ne_unwritableMode {payload : Fields} {e : TooManyDigits} :
    deletionsOf payload ≠ .error (.unwritableMode e) := by
  unfold deletionsOf
  split
  · simp
  · split <;> simp
  · simp

theorem filesOfFields_ne_unwritableMode {entries : Fields} {e : TooManyDigits} :
    filesOfFields entries ≠ .error (.unwritableMode e) := by
  induction entries with
  | nil => simp [filesOfFields]
  | cons entry entries ih =>
      unfold filesOfFields
      split
      · simp
      · split
        · simp
        · rename_i hentries
          cases ‹_ :: _ = _ :: _›
          exact hentries ▸ ih
      · simp

theorem filesOfObject_ne_unwritableMode {v : Value String} {e : TooManyDigits} :
    filesOfObject v ≠ .error (.unwritableMode e) := by
  unfold filesOfObject
  split
  · rw [ne_eq, map_eq_error_iff]
    exact filesOfFields_ne_unwritableMode
  · simp

/-- Nor can the file map, in either form. -/
theorem filesOfValue_ne_unwritableMode {v : Value String} {e : TooManyDigits} :
    filesOfValue v ≠ .error (.unwritableMode e) := by
  unfold filesOfValue
  split
  · simp
  · split
    · rw [ne_eq, map_eq_error_iff]
      exact filesOfObject_ne_unwritableMode
    · simp
  · rw [ne_eq, map_eq_error_iff]
    exact filesOfObject_ne_unwritableMode

/-- The mode fails for such a number exactly if its value holds one. -/
theorem modeOf_eq_unwritableMode_iff {payload : Fields} {e : TooManyDigits} :
    modeOf payload = .error (.unwritableMode e) ↔
      e = ⟨none⟩ ∧ ∃ v, given? payload "updateMode" = some v ∧ v.isWritable = false := by
  unfold modeOf
  cases given? payload "updateMode" with
  | none => simp
  | some v =>
      cases hmode : v.text?.bind UpdateMode.ofName? with
      | some mode =>
          cases v <;> simp [Value.text?] at hmode
          simp [Value.isWritable, Value.text?, hmode]
      | none =>
          by_cases hwritable : v.isWritable = true
          · simp [hmode, hwritable]
          · simp only [hmode, hwritable, Bool.false_eq_true, if_false, Except.error.injEq,
              RequestError.unwritableMode.injEq, Option.some.injEq]
            constructor
            · rintro rfl
              exact ⟨rfl, v, rfl, by simpa using hwritable⟩
            · rintro ⟨rfl, _⟩
              rfl

/-- The update modes that no message can show are those with an integer that has too many digits. -/
theorem ofValue_eq_unwritableMode_iff {v : Value String} {e : TooManyDigits} :
    ofValue v = .error (.unwritableMode e) ↔
      e = ⟨none⟩ ∧ ∃ payload mode, v = .object payload ∧
        given? payload "updateMode" = some mode ∧ mode.isWritable = false := by
  cases v with
  | object payload =>
      simp only [ofValue, ofFields, optionalText, optionalNumber, optionalBool, optionalObject,
        bind_eq_error_iff, modeOf_eq_unwritableMode_iff, optional_ne_unwritableMode,
        deletionsOf_ne_unwritableMode, filesOfValue_ne_unwritableMode, and_false,
        exists_false, or_false, pure, Except.pure, reduceCtorEq, Value.object.injEq]
      constructor
      · rintro ⟨he, mode, hgiven, hmode⟩
        exact ⟨he, payload, mode, rfl, hgiven, hmode⟩
      · rintro ⟨he, _, mode, rfl, hgiven, hmode⟩
        exact ⟨he, mode, hgiven, hmode⟩
  | _ => simp [ofValue]

end Request

/-! ## Drafts -/

/-- The measures of a description. -/
def Meta.measures (m : Meta) : List Number := [m.width, m.height, m.fps, m.durationInFrames]

namespace Draft

open Binary64 (overflowBound)

/-- The measures of a draft in the order in which they are checked. -/
def measures (d : Draft) : List (String × Number) :=
  [("width", d.info.width), ("height", d.info.height), ("fps", d.info.fps),
   ("durationInFrames", d.info.durationInFrames)]

/-- Check measures one after another. -/
def checkMeasures : List (String × Number) → Except DraftError Unit
  | [] => .ok ()
  | (name, n) :: rest =>
      match checkMeasure name n with
      | .ok _ => checkMeasures rest
      | .error e => .error e

/-- The first measure that is no positive number is an integer beyond the binary numbers. -/
def Overflows (measures : List (String × Number)) : Prop :=
  ∃ before name i after, measures = before ++ (name, .int i) :: after ∧
    (∀ m ∈ before, m.2.isPositive = .ok true) ∧ overflowBound ≤ i.natAbs

/-- A draft becomes a document when it has files and its measures pass. -/
theorem toDocument_eq (d : Draft) : d.toDocument =
    match d.files with
    | none => .error .noFiles
    | some files =>
        if files.isEmpty then .error .noFiles
        else (checkMeasures d.measures).map fun _ =>
          ⟨d.info, d.entryFile, files, d.defaultProps, d.inputProps⟩ := by
  unfold toDocument
  cases d.files with
  | none => rfl
  | some files =>
      by_cases hempty : files.isEmpty = true
      · simp [hempty, bind, Except.bind, throw, throwThe, MonadExceptOf.throw]
      · simp only [hempty, Bool.false_eq_true, if_false, bind, Except.bind, pure, Except.pure,
          measures, checkMeasures]
        cases checkMeasure "width" d.info.width with
        | error e => rfl
        | ok _ =>
            cases checkMeasure "height" d.info.height with
            | error e => rfl
            | ok _ =>
                cases checkMeasure "fps" d.info.fps with
                | error e => rfl
                | ok _ => cases checkMeasure "durationInFrames" d.info.durationInFrames <;> rfl

/-- Measures pass when each of them is positive. -/
theorem checkMeasures_eq_ok_iff {measures : List (String × Number)} :
    checkMeasures measures = .ok () ↔ ∀ m ∈ measures, m.2.isPositive = .ok true := by
  induction measures with
  | nil => simp [checkMeasures]
  | cons m measures ih =>
      obtain ⟨name, n⟩ := m
      rw [List.forall_mem_cons, ← ih]
      simp only [checkMeasures, checkMeasure]
      cases n.isPositive with
      | error e => simp
      | ok positive => cases positive <;> simp

/-- A measure overflows exactly if it is the first too large one behind positive ones. -/
theorem overflows_cons_iff {name : String} {n : Number} {measures : List (String × Number)} :
    Overflows ((name, n) :: measures) ↔
      (∃ i : Int, n = .int i ∧ overflowBound ≤ i.natAbs) ∨
        (n.isPositive = .ok true ∧ Overflows measures) := by
  constructor
  · rintro ⟨before, name', i, after, heq, hbefore, hlarge⟩
    cases before with
    | nil =>
        cases heq
        exact .inl ⟨i, rfl, hlarge⟩
    | cons m before =>
        cases heq
        rw [List.forall_mem_cons] at hbefore
        exact .inr ⟨hbefore.1, before, name', i, after, rfl, hbefore.2, hlarge⟩
  · rintro (⟨i, rfl, hlarge⟩ | ⟨hpositive, before, name', i, after, rfl, hbefore, hlarge⟩)
    · exact ⟨[], name, i, measures, rfl, by simp, hlarge⟩
    · exact ⟨(name, n) :: before, name', i, after, rfl,
        List.forall_mem_cons.2 ⟨hpositive, hbefore⟩, hlarge⟩

/-- Checking measures breaks exactly when they overflow. -/
theorem checkMeasures_eq_measureTooLarge_iff {measures : List (String × Number)} {e : NumberError} :
    checkMeasures measures = .error (.measureTooLarge e) ↔
      e = .integerTooLarge ∧ Overflows measures := by
  induction measures with
  | nil => simp [checkMeasures, Overflows]
  | cons m measures ih =>
      obtain ⟨name, n⟩ := m
      rw [overflows_cons_iff]
      simp only [checkMeasures, checkMeasure]
      cases hpositive : n.isPositive with
      | error e' =>
          obtain ⟨rfl, hlarge⟩ := Number.isPositive_eq_error_iff.1 hpositive
          simp only [Except.error.injEq, DraftError.measureTooLarge.injEq]
          exact ⟨fun heq => ⟨heq.symm, .inl hlarge⟩, fun heq => heq.1.symm⟩
      | ok positive =>
          have hsmall : ¬∃ i : Int, n = .int i ∧ overflowBound ≤ i.natAbs := fun hlarge => by
            have := Number.isPositive_eq_error_iff.2 ⟨rfl, hlarge⟩
            rw [hpositive] at this
            cases this
          cases positive with
          | false => simp [hsmall]
          | true => simp [hsmall, ih]

/-- The drafts whose measures cannot be tested have files, and measures that overflow. -/
theorem toDocument_eq_measureTooLarge_iff {d : Draft} {e : NumberError} :
    d.toDocument = .error (.measureTooLarge e) ↔
      e = .integerTooLarge ∧ (∃ files, d.files = some files ∧ files.isEmpty = false) ∧
        Overflows d.measures := by
  rw [toDocument_eq]
  cases d.files with
  | none => simp
  | some files =>
      by_cases hempty : files.isEmpty = true
      · simp [hempty]
      · simp [hempty, map_eq_error_iff, checkMeasures_eq_measureTooLarge_iff]

/-- The drafts that become documents have files and measures that pass; the document holds what the
draft holds. -/
theorem toDocument_eq_ok_iff {draft : Draft} {d : Document} :
    draft.toDocument = .ok d ↔
      draft = ⟨d.info, d.entryFile, some d.files, d.defaultProps, d.inputProps⟩ ∧
        d.files.isEmpty = false ∧ checkMeasures draft.measures = .ok () := by
  rw [toDocument_eq]
  constructor
  · intro h
    split at h
    · cases h
    · rename_i files hfiles
      split at h
      · cases h
      · rename_i hfilled
        cases hcheck : checkMeasures draft.measures with
        | error e => simp [hcheck, Except.map] at h
        | ok _ =>
            simp only [hcheck, Except.map, Except.ok.injEq] at h
            rw [← h, ← hfiles]
            exact ⟨rfl, by simpa using hfilled, rfl⟩
  · rintro ⟨hdraft, hfilled, hcheck⟩
    rw [hcheck, hdraft]
    simp [hfilled, Except.map]

/-- The measures of a document have passed the check. -/
theorem isPositive_of_toDocument {draft : Draft} {d : Document} (h : draft.toDocument = .ok d) :
    ∀ n ∈ d.info.measures, n.isPositive = .ok true := by
  obtain ⟨hdraft, -, hcheck⟩ := toDocument_eq_ok_iff.1 h
  have hmeasures : d.info.measures = draft.measures.map Prod.snd := by
    rw [hdraft]
    rfl
  rw [hmeasures, List.forall_mem_map]
  exact checkMeasures_eq_ok_iff.1 hcheck

/-- The measures of a document can be divided. -/
theorem exists_divide_of_toDocument {d : Draft} {document : Document}
    (h : d.toDocument = .ok document) : ∃ x, Status.seconds document.info = .ok x := by
  have hpositive := isPositive_of_toDocument h
  exact Number.exists_divide_of_isPositive (hpositive _ (by simp [Meta.measures]))
    (hpositive _ (by simp [Meta.measures]))

end Draft

/-! ## Answers -/

theorem append_ne_empty_left {s t : String} (h : s ≠ "") : s ++ t ≠ "" :=
  fun hempty => h (String.append_eq_empty_iff.1 hempty).1

theorem append_ne_empty_right {s t : String} (h : t ≠ "") : s ++ t ≠ "" :=
  fun hempty => h (String.append_eq_empty_iff.1 hempty).2

/-- Every message about a draft says something. -/
theorem DraftError.message_ne_empty {e : DraftError} (h : ∀ e', e ≠ .measureTooLarge e') :
    e.message ≠ "" := by
  cases e with
  | noFiles | notPositive measure =>
      unfold DraftError.message
      exact append_ne_empty_right (by simp)
  | measureTooLarge e' => exact absurd rfl (h e')

/-- A response carries the bundle that shows nothing, and an error. -/
def Response.Failed (r : Response) : Prop :=
  r.artifact.bundle = fallbackBundle ∧ ∃ e, e ≠ "" ∧ r.artifact.compileError = some e

/-- A failed response with a message is an error artifact. -/
theorem Response.failed_failed {message : String} (h : message ≠ "")
    (info defaultProps inputProps : Fields) :
    (Response.failed message info defaultProps inputProps).Failed :=
  ⟨rfl, message, h, by simp [Response.failed, Artifact.ofParts, h]⟩

namespace Call

/-- A response carries the bundle that the compiler has given for the document of a call, and no
error. -/
def Served (compile : DocumentCompiler) (c : Call) (sessions : Sessions) (r : Response) : Prop :=
  ∃ request d, Request.ofValue c.payload = .ok request ∧
    (c.resolve request sessions).2.draft.toDocument = .ok d ∧
      compile d.files d.entryFile = .ok r.artifact.bundle ∧ r.artifact.compileError = none

/-- A call is not answered: its update mode holds an integer with too many digits, or it has files and
its first measure that is no positive number is an integer beyond the binary numbers. -/
def Faults (c : Call) (sessions : Sessions) : Prop :=
  (∃ payload mode, c.payload = .object payload ∧
    Request.given? payload "updateMode" = some mode ∧ mode.isWritable = false) ∨
  ∃ request, Request.ofValue c.payload = .ok request ∧
    (∃ files, (c.resolve request sessions).2.draft.files = some files ∧ files.isEmpty = false) ∧
      Draft.Overflows (c.resolve request sessions).2.draft.measures

variable {compile : DocumentCompiler} {c : Call} {sessions : Sessions}

/-- A call without a request is answered, if a message can say why. -/
theorem run_of_error {e : RequestError} (hrequest : Request.ofValue c.payload = .error e)
    (hshown : ∀ e', e ≠ .unwritableMode e') :
    (c.run compile sessions).answer = .ok (.failed ("Invalid input: " ++ e.message) [] [] []) := by
  rw [run, hrequest]
  cases e <;> first | rfl | exact absurd rfl (hshown _)

/-- A call whose draft is no document is answered, if its measures can be tested. -/
theorem runRequest_of_error {request : Request} {e : DraftError}
    (hdocument : (c.resolve request sessions).2.draft.toDocument = .error e)
    (htested : ∀ e', e ≠ .measureTooLarge e') :
    ∃ response, (c.runRequest compile request sessions).answer = .ok response ∧
      response.Failed := by
  have hmessage := DraftError.message_ne_empty htested
  simp only [runRequest, hdocument]
  cases e with
  | noFiles | notPositive measure => exact ⟨_, rfl, Response.failed_failed hmessage _ _ _⟩
  | measureTooLarge e' => exact absurd rfl (htested e')

/-- A call with a document is answered, whatever the compiler gives. -/
theorem runRequest_of_ok {request : Request} {d : Document}
    (hcompile : ∀ f, compile d.files d.entryFile ≠ .error (.fault f))
    (hdocument : (c.resolve request sessions).2.draft.toDocument = .ok d) :
    ∃ response, (c.runRequest compile request sessions).answer = .ok response ∧
      ((compile d.files d.entryFile = .ok response.artifact.bundle ∧
        response.artifact.compileError = none) ∨ response.Failed) := by
  simp only [runRequest, hdocument]
  cases houtcome : compile d.files d.entryFile with
  | error e =>
      cases e with
      | fault f => exact absurd houtcome (hcompile f)
      | error e =>
          have hmessage : "Project compilation error: " ++ e.message ≠ "" :=
            append_ne_empty_left (by simp)
          exact ⟨_, rfl, .inr (Response.failed_failed hmessage _ _ _)⟩
  | ok bundle =>
      obtain ⟨seconds, hseconds⟩ := Draft.exists_divide_of_toDocument hdocument
      simp only [answerCompiled, Status.ofDocument, hseconds, Except.map]
      exact ⟨_, rfl, .inl ⟨rfl, rfl⟩⟩

/-- Without a request only an update mode that no message can show is a fault. -/
theorem faults_iff_of_error {e : RequestError} (hrequest : Request.ofValue c.payload = .error e) :
    c.Faults sessions ↔ e = .unwritableMode ⟨none⟩ := by
  rw [Faults, hrequest]
  constructor
  · rintro (hmode | ⟨request, hok, _⟩)
    · have hunwritable := Request.ofValue_eq_unwritableMode_iff.2 ⟨rfl, hmode⟩
      exact Except.error.inj (hrequest.symm.trans hunwritable)
    · cases hok
  · rintro rfl
    exact .inl (Request.ofValue_eq_unwritableMode_iff.1 hrequest).2

/-- With a request only measures that cannot be tested are a fault. -/
theorem faults_iff_of_ok {request : Request} (hrequest : Request.ofValue c.payload = .ok request) :
    c.Faults sessions ↔
      (c.resolve request sessions).2.draft.toDocument =
        .error (.measureTooLarge .integerTooLarge) := by
  rw [Draft.toDocument_eq_measureTooLarge_iff, Faults, hrequest]
  constructor
  · rintro (hmode | ⟨request', hok, hdraft⟩)
    · have hunwritable := Request.ofValue_eq_unwritableMode_iff.2 ⟨rfl, hmode⟩
      rw [hrequest] at hunwritable
      cases hunwritable
    · cases hok
      exact ⟨rfl, hdraft⟩
  · rintro ⟨_, hdraft⟩
    exact .inr ⟨request, rfl, hdraft⟩

/-- A call is answered unless it faults; the answer carries the compiled bundle and no error, or the
bundle that shows nothing and an error. -/
theorem run_answer (hcompile : ∀ files entryFile f, compile files entryFile ≠ .error (.fault f))
    (c : Call) (sessions : Sessions) :
    (¬c.Faults sessions → ∃ response, (c.run compile sessions).answer = .ok response ∧
        (c.Served compile sessions response ∨ response.Failed)) ∧
      (c.Faults sessions → ∃ f, (c.run compile sessions).answer = .error f ∧
        (f = .number .integerTooLarge ∨ f = .tooManyDigits ⟨none⟩)) := by
  cases hrequest : Request.ofValue c.payload with
  | error e =>
      rw [faults_iff_of_error hrequest]
      constructor
      · intro hshown
        have hmessage : "Invalid input: " ++ e.message ≠ "" :=
          append_ne_empty_left (by simp)
        refine ⟨_, run_of_error hrequest ?_, .inr (Response.failed_failed hmessage _ _ _)⟩
        rintro e' rfl
        obtain ⟨rfl, _⟩ := Request.ofValue_eq_unwritableMode_iff.1 hrequest
        exact hshown rfl
      · rintro rfl
        exact ⟨_, by rw [run, hrequest], .inr rfl⟩
  | ok request =>
      have hrun : c.run compile sessions = c.runRequest compile request sessions := by
        rw [run, hrequest]
      rw [faults_iff_of_ok hrequest, hrun]
      cases hdocument : (c.resolve request sessions).2.draft.toDocument with
      | error e =>
          constructor
          · intro htested
            obtain ⟨response, hresponse, hfailed⟩ := runRequest_of_error hdocument (by
              rintro e' rfl
              obtain ⟨rfl, _⟩ := Draft.toDocument_eq_measureTooLarge_iff.1 hdocument
              exact htested rfl)
            exact ⟨response, hresponse, .inr hfailed⟩
          · intro heq
            cases heq
            exact ⟨.number .integerTooLarge, by simp only [runRequest, hdocument], .inl rfl⟩
      | ok d =>
          refine ⟨fun _ => ?_, by simp⟩
          obtain ⟨response, hresponse, hserved | hfailed⟩ :=
            runRequest_of_ok (hcompile d.files d.entryFile) hdocument
          · exact ⟨response, hresponse, .inl ⟨request, d, hrequest, hdocument, hserved⟩⟩
          · exact ⟨response, hresponse, .inr hfailed⟩

/-- A compiler that gives the same bundle for every project. -/
def constantCompiler : DocumentCompiler := fun _ _ => .ok "bundle"

/-- A call with one file and a width. -/
def callOfWidth (width : Int) : Call where
  payload := .object
    [("width", .number (.int width)), ("files", .object [("/src/Video.tsx", .text "video;")])]
  session := none
  tool := "create_video"

/-- A call with an ordinary width is answered. -/
theorem run_callOfWidth :
    (∀ files entryFile f, constantCompiler files entryFile ≠ .error (.fault f)) ∧
      ∃ response,
        ((callOfWidth 640).run constantCompiler (Sessions.empty 10)).answer = .ok response ∧
          ((callOfWidth 640).Served constantCompiler (Sessions.empty 10) response ∨
            response.Failed) := by
  have hcompile : ∀ files entryFile f, constantCompiler files entryFile ≠ .error (.fault f) :=
    fun _ _ _ => nofun
  obtain ⟨hanswered, hfaulty⟩ := run_answer hcompile (callOfWidth 640) (Sessions.empty 10)
  refine ⟨hcompile, hanswered fun hfaults => ?_⟩
  obtain ⟨f, hanswer, _⟩ := hfaulty hfaults
  have hok :
      ((callOfWidth 640).run constantCompiler (Sessions.empty 10)).answer.toBool = true := by
    decide +kernel
  rw [hanswer] at hok
  cases hok

/-- A width beyond the binary numbers is not refused but breaks the call. -/
theorem run_callOfWidth_fault :
    (∀ files entryFile f, constantCompiler files entryFile ≠ .error (.fault f)) ∧
      ((callOfWidth (10 ^ 400)).run constantCompiler (Sessions.empty 10)).answer =
        .error (.number .integerTooLarge) := by
  refine ⟨fun _ _ _ => nofun, ?_⟩
  have hfault : (match ((callOfWidth (10 ^ 400)).run constantCompiler (Sessions.empty 10)).answer with
      | .error f => decide (f = .number .integerTooLarge)
      | .ok _ => false) = true := by
    decide +kernel
  split at hfault
  · rename_i f hanswer
    rw [hanswer, of_decide_eq_true hfault]
  · cases hfault

end Call
end VideoBundle
