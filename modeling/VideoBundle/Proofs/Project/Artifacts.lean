import VideoBundle.Proofs.Json.Strict
import VideoBundle.Proofs.Project.Effects

/-!
# The texts of artifacts

An artifact describes the draft of its call, whether the draft became a document or was turned away, and
carries the props of the request or of the document before it.  A measure for which a draft is turned
away goes into the artifact with the rest of the description, and JSON has no number that is not finite.

Main results:

- `artifact_of_answer`: an artifact describes the draft of its call, however the call ends.
- `plainProps_draft`: where the props of a draft come from.
- `haveFiniteProps_runAll`: requests with finite props leave documents with finite props.
- `text_spec`: what the text of an artifact is, by its description and props.
- `run_text`: when an artifact has a text, and when this is strict JSON.
-/

namespace VideoBundle

/-! ## Props -/

/-- The fields of a request and of a document that go into an artifact as they are. -/
def propFields : List String := ["defaultProps", "inputProps"]

/-- Props that a strict JSON text can hold. -/
structure PlainProps (props : Fields) : Prop where
  keys : (Value.object props).HasDistinctKeys
  floats : (Value.object props).HasFiniteFloats

theorem plainProps_nil : PlainProps [] where
  keys := Value.hasDistinctKeys_object_iff.2 (by simp)
  floats := Value.hasFiniteFloats_object_iff.2 (by simp)

/-- A request or a document whose keys are distinct and whose props hold only finite binary numbers. -/
structure Value.HasFiniteProps (v : Value String) : Prop where
  keys : v.HasDistinctKeys
  floats : ∀ field ∈ propFields, ∀ props, v.field? field = some props → props.HasFiniteFloats

/-- The fields of a value with distinct keys have distinct keys. -/
theorem Value.HasDistinctKeys.field? {v w : Value String} (h : v.HasDistinctKeys) {field : String}
    (hfield : v.field? field = some w) : w.HasDistinctKeys := by
  cases v with
  | object entries =>
      obtain ⟨hnodup, hentries⟩ := hasDistinctKeys_object_iff.1 h
      exact hentries (field, w) ((lookupEntry_eq_some_iff hnodup).1 hfield)
  | _ => cases hfield

/-- Given properties are plain if the payload has finite ones. -/
theorem Value.HasFiniteProps.plainProps {v : Value String} (h : v.HasFiniteProps) {field : String}
    (hmem : field ∈ propFields) {props : Fields} (hfield : v.field? field = some (.object props)) :
    PlainProps props :=
  ⟨h.keys.field? hfield, h.floats field hmem _ hfield⟩

/-- The fields of a document have distinct names. -/
theorem Document.nodup_keys_fields (d : Document) : (d.fields.map Prod.fst).Nodup := by
  simp [fields, Meta.fields]

/-- The wire form of a document has finite props when its props do; its other fields hold texts and
measures only. -/
theorem Document.hasFiniteProps_toValue_iff {d : Document} :
    d.toValue.HasFiniteProps ↔ PlainProps d.defaultProps ∧ PlainProps d.inputProps := by
  have hdefault : d.toValue.field? "defaultProps" = some (.object d.defaultProps) := rfl
  have hinput : d.toValue.field? "inputProps" = some (.object d.inputProps) := rfl
  constructor
  · intro h
    exact ⟨h.plainProps (by simp [propFields]) hdefault, h.plainProps (by simp [propFields]) hinput⟩
  · rintro ⟨hd, hi⟩
    constructor
    · refine Value.hasDistinctKeys_object_iff.2 ⟨d.nodup_keys_fields, ?_⟩
      have hfiles : (Value.object (ProjectFiles.fields d.files)).HasDistinctKeys := by
        refine Value.hasDistinctKeys_object_iff.2 ⟨?_, ?_⟩
        · rw [ProjectFiles.fields, List.map_map]
          exact d.files.distinctKeys
        · rw [ProjectFiles.fields, List.forall_mem_map]
          exact fun _ _ => trivial
      simp only [fields, Meta.fields, List.cons_append, List.nil_append, List.forall_mem_cons]
      exact ⟨trivial, trivial, trivial, trivial, trivial, trivial, trivial, hfiles, hd.keys, hi.keys,
        List.forall_mem_nil _⟩
    · intro field hmem props hfield
      rw [propFields, List.mem_cons, List.mem_singleton] at hmem
      rcases hmem with rfl | rfl
      · cases hdefault.symm.trans hfield
        exact hd.floats
      · cases hinput.symm.trans hfield
        exact hi.floats

/-! ## Props of requests -/

namespace Request

/-- The props of a request are read from the fields that hold them. -/
theorem props_ofFields {payload : Fields} {request : Request}
    (h : ofFields payload = .ok request) :
    optionalObject payload "defaultProps" = .ok request.defaultProps ∧
      optionalObject payload "inputProps" = .ok request.inputProps := by
  simp only [ofFields, bind_eq_ok_iff, pure, Except.pure, Except.ok.injEq] at h
  obtain ⟨_, _, _, _, _, _, _, _, _, _, _, _, _, _, _, _, _, _, _, _, defaultProps, hdefault,
    inputProps, hinput, _, _, _, _, rfl⟩ := h
  exact ⟨hdefault, hinput⟩

/-- An optional object that was read is the one in the payload. -/
theorem lookupEntry_of_optionalObject {payload props : Fields} {field : String}
    (h : optionalObject payload field = .ok (some props)) :
    lookupEntry field payload = some (.object props) := by
  unfold optionalObject optional at h
  cases hgiven : given? payload field with
  | none => simp [hgiven] at h
  | some v =>
      obtain ⟨w, hlookup, hnonNull⟩ := Option.bind_eq_some_iff.1 hgiven
      have hvw : w = v := by
        cases w <;> simp [Value.nonNull?] at hnonNull <;> exact hnonNull
      rw [hlookup, hvw]
      cases v <;> simp [hgiven, Value.object?] at h
      rw [h]

/-- Whatever props a request has are props of its payload. -/
theorem plainProps_ofValue {payload : Value String} {request : Request}
    (hpayload : payload.HasFiniteProps) (h : ofValue payload = .ok request) :
    (∀ props, request.defaultProps = some props → PlainProps props) ∧
      ∀ props, request.inputProps = some props → PlainProps props := by
  cases payload with
  | object payload =>
      obtain ⟨hdefault, hinput⟩ := props_ofFields h
      constructor
      · intro props hprops
        exact hpayload.plainProps (by simp [propFields])
          (lookupEntry_of_optionalObject (hprops ▸ hdefault))
      · intro props hprops
        exact hpayload.plainProps (by simp [propFields])
          (lookupEntry_of_optionalObject (hprops ▸ hinput))
  | _ => cases h

end Request

/-! ## Props of drafts and sessions -/

/-- Sessions whose documents have finite props. -/
def Sessions.HaveFiniteProps (s : Sessions) : Prop :=
  ∀ id d, s.find? id = some d → d.toValue.HasFiniteProps

/-- An empty store holds no property at all. -/
theorem Sessions.haveFiniteProps_empty (capacity : Nat) : (empty capacity).HaveFiniteProps := by
  intro id d hfind
  cases (OrderedMap.find?_empty id).symm.trans hfind

namespace Call

variable {c : Call} {request : Request} {s : Sessions}

/-- Props of a draft come from the request or from the document before it, or there are none. -/
theorem plainProps_draft (hpayload : c.payload.HasFiniteProps)
    (hstored : ∀ d, s.find? c.sessionId = some d → d.toValue.HasFiniteProps)
    (hrequest : Request.ofValue c.payload = .ok request) :
    PlainProps (c.draft request s).defaultProps ∧ PlainProps (c.draft request s).inputProps := by
  obtain ⟨hdefault, hinput⟩ := Request.plainProps_ofValue hpayload hrequest
  -- The document below is the stored one, if there is one below at all.
  have hbelow : ∀ props : Document → Fields,
      (∀ d, s.find? c.sessionId = some d → PlainProps (props d)) →
        PlainProps ((Option.map props (if request.usePreviousProject then
          (c.resetSessions request s).find? c.sessionId else none)).getD []) := by
    intro props hprops
    rw [find?_resetSessions]
    split
    · split
      · exact plainProps_nil
      · cases hfind : s.find? c.sessionId with
        | none => exact plainProps_nil
        | some d => exact hprops d hfind
    · exact plainProps_nil
  constructor
  · cases hgiven : request.defaultProps with
    | some props =>
        simpa [draft, Resolution.ofRequest, hgiven] using hdefault props hgiven
    | none =>
        simpa [draft, Resolution.ofRequest, hgiven] using
          hbelow _ fun d hd => (Document.hasFiniteProps_toValue_iff.1 (hstored d hd)).1
  · cases hgiven : request.inputProps with
    | some props =>
        simpa [draft, Resolution.ofRequest, hgiven] using hinput props hgiven
    | none =>
        simpa [draft, Resolution.ofRequest, hgiven] using
          hbelow _ fun d hd => (Document.hasFiniteProps_toValue_iff.1 (hstored d hd)).2

/-- A request with finite props leaves documents with finite props. -/
theorem haveFiniteProps_run (compile : DocumentCompiler) (hcapacity : 0 < s.capacity)
    (hpayload : c.payload.HasFiniteProps) (h : s.HaveFiniteProps) :
    (c.run compile s).sessions.HaveFiniteProps := by
  have hreset : ∀ request, (c.resetSessions request s).HaveFiniteProps := by
    intro request id d hfind
    rw [find?_resetSessions] at hfind
    split at hfind
    · cases hfind
    · exact h id d hfind
  rw [sessions_run]
  rcases prepare_cases c s with ⟨_, _, hs⟩ | ⟨request, hrequest, ⟨_, _, hs⟩ | ⟨d, hd, hs⟩⟩ <;> rw [hs]
  · exact h
  · exact hreset request
  · intro id e hfind
    rw [Sessions.find?_remember c.sessionId_ne_empty (by simpa using hcapacity)] at hfind
    split at hfind
    · cases hfind
      have hplain := plainProps_draft hpayload (h c.sessionId) hrequest
      rw [(Draft.toDocument_eq_ok_iff.1 hd).1] at hplain
      exact Document.hasFiniteProps_toValue_iff.2 hplain
    · split at hfind
      · cases hfind
      · exact hreset request id e hfind

end Call

/-- Requests with finite props leave documents with finite props. -/
theorem Job.haveFiniteProps_runAll {s : Sessions} (hbounded : s.Bounded) (h : s.HaveFiniteProps)
    {jobs : List Job} (hjobs : ∀ j ∈ jobs, j.call.payload.HasFiniteProps) :
    (runAll s jobs).1.HaveFiniteProps := by
  induction jobs generalizing s with
  | nil => exact h
  | cons j jobs ih =>
      rw [List.forall_mem_cons] at hjobs
      have hnext : (j.run s).sessions.Bounded := bounded_runAll hbounded [j]
      exact ih hnext (j.call.haveFiniteProps_run j.compile hbounded.capacity_pos hjobs.1 h) hjobs.2

/-! ## Parts of artifacts -/

/-- A description has all the standard fields. -/
theorem Artifact.completeInfo_fields (m : Meta) : completeInfo m.fields = m.fields := rfl

/-- Completed from nothing, the information is the standard one. -/
theorem Artifact.completeInfo_nil : completeInfo [] = Meta.standard.fields := rfl

/-- An artifact that shows a draft: its description and its props. -/
structure Artifact.Shows (a : Artifact) (info : Meta) (defaultProps inputProps : Fields) : Prop where
  info : a.info = info.fields
  defaultProps : a.defaultProps = defaultProps
  inputProps : a.inputProps = inputProps

/-- An error artifact shows the information and the properties that it is given. -/
theorem Response.shows_failed (message : String) (info : Meta) (defaultProps inputProps : Fields) :
    (failed message info.fields defaultProps inputProps).artifact.Shows info defaultProps
      inputProps :=
  ⟨Artifact.completeInfo_fields info, rfl, rfl⟩

namespace Call

variable {compile : DocumentCompiler} {c : Call} {request : Request} {s : Sessions}
  {response : Response}

/-- A document is shown whether it was compiled or not. -/
theorem shows_of_answerCompiled {r : Resolution} {d : Document}
    {outcome : Except CompileFailure String}
    (h : (c.answerCompiled request r d s outcome).answer = .ok response) :
    response.artifact.Shows d.info d.defaultProps d.inputProps := by
  unfold answerCompiled at h
  split at h
  · cases h
  · cases h
    exact Response.shows_failed _ _ _ _
  · dsimp only at h
    split at h
    · cases h
      exact ⟨Artifact.completeInfo_fields d.info, rfl, rfl⟩
    · cases h

/-- A draft is shown whether it was turned away or became a document. -/
theorem shows_of_runRequest (h : (c.runRequest compile request s).answer = .ok response) :
    response.artifact.Shows (c.draft request s).info (c.draft request s).defaultProps
      (c.draft request s).inputProps := by
  cases hdocument : (c.resolve request s).2.draft.toDocument with
  | error e =>
      simp only [runRequest, hdocument] at h
      cases e <;> cases h <;> exact Response.shows_failed _ _ _ _
  | ok d =>
      simp only [runRequest, hdocument] at h
      rw [show c.draft request s = _ from (Draft.toDocument_eq_ok_iff.1 hdocument).1]
      exact shows_of_answerCompiled h

/-- Without a request an artifact shows the standard description and no props; with one it shows the
draft. -/
theorem artifact_of_answer (h : (c.run compile s).answer = .ok response) :
    (∃ e, Request.ofValue c.payload = .error e ∧ response.artifact.Shows Meta.standard [] []) ∨
      ∃ request, Request.ofValue c.payload = .ok request ∧
        response.artifact.Shows (c.draft request s).info (c.draft request s).defaultProps
          (c.draft request s).inputProps := by
  unfold run at h
  cases hrequest : Request.ofValue c.payload with
  | error e =>
      rw [hrequest] at h
      refine .inl ⟨e, rfl, ?_⟩
      cases e <;> cases h <;> exact ⟨Artifact.completeInfo_nil, rfl, rfl⟩
  | ok request =>
      rw [hrequest] at h
      exact .inr ⟨request, rfl, shows_of_runRequest h⟩

end Call

/-! ## Strict texts -/

/-- Whether the measures of a description that are binary numbers are finite. -/
def Meta.HasFiniteMeasures (m : Meta) : Prop :=
  ∀ n ∈ [m.width, m.height, m.fps, m.durationInFrames], ∀ x, n = .float x → x.isFinite = true

/-- The measures of a document are finite. -/
theorem Draft.hasFiniteMeasures_of_toDocument {draft : Draft} {d : Document}
    (h : draft.toDocument = .ok d) : draft.info.HasFiniteMeasures := by
  have hinfo : draft.info = d.info := by rw [(toDocument_eq_ok_iff.1 h).1]
  intro n hmem x hx
  rw [hinfo] at hmem
  have hn := isPositive_of_toDocument h n hmem
  rw [hx] at hn
  exact (Number.isPositive_float_iff.1 hn).1

namespace Artifact

variable {a : Artifact} {info : Meta} {defaultProps inputProps : Fields}

/-- An artifact has distinct keys at every depth. -/
theorem hasDistinctKeys_toValue (h : a.Shows info defaultProps inputProps)
    (hdefault : PlainProps defaultProps) (hinput : PlainProps inputProps) :
    a.toValue.HasDistinctKeys := by
  refine Value.hasDistinctKeys_object_iff.2 ⟨?_, ?_⟩
  · cases hcompile : a.compileError <;> simp [fields, hcompile]
  · have hinfo : (Value.object info.fields).HasDistinctKeys := by
      refine Value.hasDistinctKeys_object_iff.2 ⟨by simp [Meta.fields], ?_⟩
      simp only [Meta.fields, List.forall_mem_cons]
      exact ⟨trivial, trivial, trivial, trivial, trivial, trivial, List.forall_mem_nil _⟩
    cases hcompile : a.compileError <;>
      simp only [fields, hcompile, h.info, h.defaultProps, h.inputProps, Option.map, Option.toList,
        List.cons_append, List.nil_append, List.forall_mem_cons]
    · exact ⟨hinfo, trivial, hdefault.keys, hinput.keys, List.forall_mem_nil _⟩
    · exact ⟨hinfo, trivial, hdefault.keys, hinput.keys, trivial, List.forall_mem_nil _⟩

/-- With finite props only the measures of an artifact can fail to be finite. -/
theorem hasFiniteFloats_toValue_iff (h : a.Shows info defaultProps inputProps)
    (hdefault : PlainProps defaultProps) (hinput : PlainProps inputProps) :
    a.toValue.HasFiniteFloats ↔ info.HasFiniteMeasures := by
  have htext : ∀ t : String, (Value.text t).HasFiniteFloats := fun _ => trivial
  have hinfo : (Value.object info.fields).HasFiniteFloats ↔ info.HasFiniteMeasures := by
    simp [Value.hasFiniteFloats_object_iff, Meta.fields, Meta.HasFiniteMeasures, htext,
      Value.hasFiniteFloats_number_iff]
  rw [← hinfo, toValue, Value.hasFiniteFloats_object_iff]
  cases hcompile : a.compileError <;>
    simp [fields, hcompile, h.info, h.defaultProps, h.inputProps, htext, hdefault.floats,
      hinput.floats]

/-- An artifact has a text unless one of its integers has too many digits. -/
theorem exists_text_iff : (∃ text, a.text = .ok text) ↔ a.toValue.isWritable = true := by
  unfold text
  split <;> simp_all

/-- The text of an artifact is read back as the artifact, and it is strict when the measures of the
artifact are finite. -/
theorem text_spec (h : a.Shows info defaultProps inputProps) (hdefault : PlainProps defaultProps)
    (hinput : PlainProps inputProps) {text : String} (htext : a.text = .ok text) :
    Json.decode text = .ok a.toValue ∧ (Json.IsStrict text ↔ info.HasFiniteMeasures) := by
  have hwritable := exists_text_iff.1 ⟨text, htext⟩
  have hkeys := hasDistinctKeys_toValue h hdefault hinput
  have hjson : text = Json.encode a.toValue := by
    rw [Artifact.text, if_pos hwritable] at htext
    exact (Except.ok.inj htext).symm
  rw [hjson, ← hasFiniteFloats_toValue_iff h hdefault hinput]
  exact ⟨Json.decode_encode _ hwritable hkeys, Json.isStrict_encode_iff hwritable hkeys⟩

end Artifact

namespace Call

variable {compile : DocumentCompiler} {c : Call} {s : Sessions} {response : Response}

/-- A call turns a draft away that has a measure which is not finite. -/
def RejectsNonFinite (c : Call) (s : Sessions) : Prop :=
  ∃ request e, Request.ofValue c.payload = .ok request ∧
    (c.draft request s).toDocument = .error e ∧ ¬(c.draft request s).info.HasFiniteMeasures

/-- No measure is rejected as infinite exactly if all measures of the draft are finite. -/
theorem not_rejectsNonFinite_iff {request : Request}
    (hrequest : Request.ofValue c.payload = .ok request) :
    ¬c.RejectsNonFinite s ↔ (c.draft request s).info.HasFiniteMeasures := by
  constructor
  · intro hnot
    cases hdocument : (c.draft request s).toDocument with
    | error e =>
        by_contra hinfinite
        exact hnot ⟨request, e, hrequest, hdocument, hinfinite⟩
    | ok d => exact Draft.hasFiniteMeasures_of_toDocument hdocument
  · rintro hfinite ⟨request', e, hrequest', _, hinfinite⟩
    rw [hrequest] at hrequest'
    cases hrequest'
    exact hinfinite hfinite

/-- The text of the artifact of an answered call.  There is one unless an integer in the artifact has
too many digits.  It is read back as the artifact.  It is strict JSON unless the call has turned away a
draft that has a measure which is not finite. -/
theorem run_text (hpayload : c.payload.HasFiniteProps)
    (hstored : ∀ d, s.find? c.sessionId = some d → d.toValue.HasFiniteProps)
    (hanswer : (c.run compile s).answer = .ok response) :
    ((∃ text, response.artifact.text = .ok text) ↔ response.artifact.toValue.isWritable = true) ∧
      ∀ text, response.artifact.text = .ok text →
        Json.decode text = .ok response.artifact.toValue ∧
          (Json.IsStrict text ↔ ¬c.RejectsNonFinite s) := by
  refine ⟨Artifact.exists_text_iff, fun text htext => ?_⟩
  rcases artifact_of_answer hanswer with ⟨e, hrequest, hshows⟩ | ⟨request, hrequest, hshows⟩
  · obtain ⟨hdecode, hstrict⟩ := Artifact.text_spec hshows plainProps_nil plainProps_nil htext
    have hstandard : Meta.standard.HasFiniteMeasures := by
      simp [Meta.HasFiniteMeasures, Meta.standard]
    have hnone : ¬c.RejectsNonFinite s := by
      rintro ⟨request, _, hok, _⟩
      rw [hrequest] at hok
      cases hok
    exact ⟨hdecode, hstrict.trans (iff_of_true hstandard hnone)⟩
  · obtain ⟨hdefault, hinput⟩ := plainProps_draft hpayload hstored hrequest
    obtain ⟨hdecode, hstrict⟩ := Artifact.text_spec hshows hdefault hinput htext
    exact ⟨hdecode, hstrict.trans (not_rejectsNonFinite_iff hrequest).symm⟩

/-- A call with one file, a width, and a prop. -/
def callOfMeasure (width : Number) : Call where
  payload := .object
    [("files", .object [("/src/Video.tsx", .text "video;")]), ("width", .number width),
     ("defaultProps", .object [("speed", .number (.int 2))])]
  session := none
  tool := "create_video"

theorem hasFiniteProps_callOfMeasure (width : Number) :
    (callOfMeasure width).payload.HasFiniteProps where
  keys := by
    simp [callOfMeasure, Value.HasDistinctKeys, Value.Everywhere, Value.EverywhereEntries]
  floats := by
    intro field hmem props hfield
    rw [propFields, List.mem_cons, List.mem_singleton] at hmem
    rcases hmem with rfl | rfl
    · cases hfield
      exact ⟨trivial, trivial, trivial⟩
    · cases hfield

/-- The text of a served artifact is strict. -/
theorem run_text_served :
    (callOfMeasure (.int 640)).payload.HasFiniteProps ∧
      (∀ d, (Sessions.empty 10).find? (callOfMeasure (.int 640)).sessionId = some d →
        d.toValue.HasFiniteProps) ∧
        ∃ response text,
          ((callOfMeasure (.int 640)).run constantCompiler (Sessions.empty 10)).answer = .ok response ∧
            response.artifact.text = .ok text ∧
              Json.decode text = .ok response.artifact.toValue ∧ Json.IsStrict text := by
  have hpayload := hasFiniteProps_callOfMeasure (.int 640)
  have hstored := Sessions.haveFiniteProps_empty 10 (callOfMeasure (.int 640)).sessionId
  have hserved : (match
      ((callOfMeasure (.int 640)).run constantCompiler (Sessions.empty 10)).answer with
      | .ok response => response.artifact.toValue.isWritable
      | .error _ => false) = true := by
    decide +kernel
  have haccepted : (match Request.ofValue (callOfMeasure (.int 640)).payload with
      | .ok request =>
          ((callOfMeasure (.int 640)).draft request (Sessions.empty 10)).toDocument.toBool
      | .error _ => false) = true := by
    decide +kernel
  split at hserved
  · rename_i response hanswer
    obtain ⟨hexists, hspec⟩ := run_text hpayload hstored hanswer
    obtain ⟨text, htext⟩ := hexists.2 hserved
    obtain ⟨hdecode, hstrict⟩ := hspec text htext
    refine ⟨hpayload, hstored, response, text, hanswer, htext, hdecode, hstrict.2 ?_⟩
    rintro ⟨request, e, hrequest, hrejected, _⟩
    simp only [hrequest, hrejected] at haccepted
    cases haccepted
  · cases hserved

/-- A width that is not a number goes into the artifact that turns it away. -/
theorem run_text_rejected :
    (callOfMeasure (.float .nan)).payload.HasFiniteProps ∧
      (∀ d, (Sessions.empty 10).find? (callOfMeasure (.float .nan)).sessionId = some d →
        d.toValue.HasFiniteProps) ∧
        ∃ response text,
          ((callOfMeasure (.float .nan)).run constantCompiler (Sessions.empty 10)).answer =
              .ok response ∧
            response.artifact.text = .ok text ∧ ¬Json.IsStrict text := by
  have hpayload := hasFiniteProps_callOfMeasure (.float .nan)
  have hstored := Sessions.haveFiniteProps_empty 10 (callOfMeasure (.float .nan)).sessionId
  have hanswered : (match
      ((callOfMeasure (.float .nan)).run constantCompiler (Sessions.empty 10)).answer with
      | .ok response => response.artifact.toValue.isWritable
      | .error _ => false) = true := by
    decide +kernel
  have hwidth : (match Request.ofValue (callOfMeasure (.float .nan)).payload with
      | .ok request => decide
          (((callOfMeasure (.float .nan)).draft request (Sessions.empty 10)).info.width = .float .nan)
      | .error _ => false) = true := by
    decide +kernel
  split at hanswered
  · rename_i response hanswer
    obtain ⟨text, htext⟩ := Artifact.exists_text_iff.2 hanswered
    refine ⟨hpayload, hstored, response, text, hanswer, htext, fun hstrict => ?_⟩
    rcases artifact_of_answer hanswer with ⟨e, hrequest, _⟩ | ⟨request, hrequest, hshows⟩
    · rw [hrequest] at hwidth
      cases hwidth
    · rw [hrequest] at hwidth
      obtain ⟨hdefault, hinput⟩ := plainProps_draft hpayload hstored hrequest
      have hfinite := (Artifact.text_spec hshows hdefault hinput htext).2.1 hstrict
      cases hfinite _ List.mem_cons_self .nan (of_decide_eq_true hwidth)
  · cases hanswered

end Call
end VideoBundle
