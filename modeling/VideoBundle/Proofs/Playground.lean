import VideoBundle.Playground
import VideoBundle.Proofs.Json.RoundTrip

/-!
# The registry of a playground

A host registers packages, closes the registry and loads bundles, in any order, and every script that
it gives to the engine may throw.  The history of the scripts, with what became of each, decides the
state of the playground.

Main results:

- `registerScript_injective`: a registration script names one package.
- `move_perform`: the few things that an operation can do.
- `recorded_performAll`: the state after a run is what the history says.
- `registry_of_hosting`: the registry is closed before the first bundle runs, stays closed, and holds
  the names whose registration went through.
-/

namespace VideoBundle

/-! ## Histories -/

/-- An operation with the answers that the engine will give to its scripts. -/
structure PlaygroundCall where
  operation : PlaygroundOperation
  answers : List EngineAnswer

/-- A script that the engine was given, and whether it went through. -/
structure Evaluation where
  script : String
  succeeded : Bool

/-- A playground with the history of its engine. -/
structure PlaygroundRun where
  playground : Playground
  evaluations : List Evaluation

/-- Whether an operation is one of those that host bundles, which evaluate no other code. -/
def PlaygroundOperation.IsHosting : PlaygroundOperation → Prop
  | .register _ _ | .close | .load _ _ => True
  | .evaluate _ | .evaluateJson _ => False

namespace Evaluation

open Playground (registerScript closeScript loadScript)

/-- Whether the script registers a package under a name. -/
def Registers (e : Evaluation) (name : String) : Prop :=
  ∃ expression, e.script = registerScript name expression

/-- Whether the script closes the registry. -/
def Closes (e : Evaluation) : Prop := e.script = closeScript

/-- Whether the script is one that changes the registry. -/
def ChangesRegistry (e : Evaluation) : Prop := (∃ name, e.Registers name) ∨ e.Closes

/-- Whether the script runs a bundle. -/
def RunsBundle (e : Evaluation) : Prop := ∃ bundle name, e.script = loadScript bundle name

end Evaluation

/-- The evaluation of scripts one after another, each with the next answer of the engine. -/
def evaluated : List String → List EngineAnswer → List Evaluation
  | [], _ => []
  | script :: scripts, answers =>
      ⟨script, (Playground.engineAnswer answers).isOk⟩ :: evaluated scripts answers.tail

/-- The evaluations that an operation causes. -/
def PlaygroundCall.evaluations (call : PlaygroundCall) (p : Playground) : List Evaluation :=
  evaluated (p.perform call.operation call.answers).scripts call.answers

namespace PlaygroundRun

/-- A run that goes on with one more operation. -/
def perform (r : PlaygroundRun) (call : PlaygroundCall) : PlaygroundRun :=
  ⟨(r.playground.perform call.operation call.answers).playground,
    r.evaluations ++ call.evaluations r.playground⟩

/-- A run that goes on with more operations. -/
def performAll (r : PlaygroundRun) (calls : List PlaygroundCall) : PlaygroundRun :=
  calls.foldl perform r

end PlaygroundRun

/-! ## Scripts -/

namespace Playground

/-- A registration script names one package. -/
theorem registerScript_injective {name other expression expression' : String}
    (h : registerScript name expression = registerScript other expression') : name = other := by
  unfold registerScript at h
  have hlists := congrArg String.toList h
  simp only [String.toList_append, List.append_assoc, List.append_cancel_left_eq,
    Json.literal, String.toList_ofList, Json.writeUnits, List.cons_append, List.cons.injEq,
    true_and, List.nil_append] at hlists
  have hread := congrArg (Json.readUnits 0) hlists
  rw [Json.readUnits_writeUnits, Json.readUnits_writeUnits, Except.ok.injEq, Prod.mk.injEq] at hread
  exact UnitText.ofString_injective hread.1

/-- The scripts are told apart by their first characters: one that registers begins with a `g`. -/
theorem head?_registerScript (name expression : String) :
    (registerScript name expression).toList.head? = some 'g' := by
  unfold registerScript
  simp only [String.toList_append, List.head?_append]
  rfl

theorem head?_closeScript : closeScript.toList.head? = some 'O' := by
  unfold closeScript
  simp only [String.toList_append, List.head?_append]
  rfl

theorem head?_loadScript (bundle name : String) :
    (loadScript bundle name).toList.head? = some '(' := by
  unfold loadScript
  simp only [String.toList_append, List.head?_append]
  rfl

end Playground

namespace Evaluation

theorem Registers.head? {e : Evaluation} {name : String} (h : e.Registers name) :
    e.script.toList.head? = some 'g' := by
  obtain ⟨expression, hscript⟩ := h
  rw [hscript, Playground.head?_registerScript]

theorem Closes.head? {e : Evaluation} (h : e.Closes) : e.script.toList.head? = some 'O' := by
  rw [h, Playground.head?_closeScript]

theorem RunsBundle.head? {e : Evaluation} (h : e.RunsBundle) :
    e.script.toList.head? = some '(' := by
  obtain ⟨bundle, name, hscript⟩ := h
  rw [hscript, Playground.head?_loadScript]

/-- A script that closes the registry registers nothing. -/
theorem Closes.not_registers {e : Evaluation} (h : e.Closes) (name : String) : ¬ e.Registers name :=
  fun hregisters => absurd (h.head?.symm.trans hregisters.head?) (by decide)

/-- A script that runs a bundle registers nothing. -/
theorem RunsBundle.not_registers {e : Evaluation} (h : e.RunsBundle) (name : String) :
    ¬ e.Registers name :=
  fun hregisters => absurd (h.head?.symm.trans hregisters.head?) (by decide)

/-- A script that runs a bundle does not close the registry. -/
theorem RunsBundle.not_closes {e : Evaluation} (h : e.RunsBundle) : ¬ e.Closes :=
  fun hcloses => absurd (h.head?.symm.trans hcloses.head?) (by decide)

/-- Running a bundle neither registers nor closes. -/
theorem RunsBundle.not_changesRegistry {e : Evaluation} (h : e.RunsBundle) : ¬ e.ChangesRegistry := by
  rintro (⟨name, hregisters⟩ | hcloses)
  · exact h.not_registers name hregisters
  · exact h.not_closes hcloses

end Evaluation

/-! ## One operation -/

namespace Playground

/-- What an operation that hosts bundles can do to a playground, with the evaluations it causes and its
answer. -/
inductive Move (p : Playground) :
    Playground → List Evaluation → Except PlaygroundError (Value String) → Prop
  | idle (answer : Except PlaygroundError (Value String)) : Move p p [] answer
  | failed (e : Evaluation) (message : String) (hopen : p.closed = false)
      (hfailed : e.succeeded = false) (hkind : e.ChangesRegistry) :
      Move p p [e] (.error (.thrown message))
  | registered (name expression : String) (hopen : p.closed = false) (hnew : name ∉ p.registered) :
      Move p { p with registered := p.registered ++ [name] } [⟨registerScript name expression, true⟩]
        (.ok .null)
  | closed (runs : List Evaluation) (answer : Except PlaygroundError (Value String))
      (hopen : p.closed = false) (hruns : ∀ e ∈ runs, e.RunsBundle) :
      Move p { p with closed := true } (⟨closeScript, true⟩ :: runs) answer
  | ran (runs : List Evaluation) (answer : Except PlaygroundError (Value String))
      (hclosed : p.closed = true) (hruns : ∀ e ∈ runs, e.RunsBundle) : Move p p runs answer

variable {p : Playground}

/-- An engine gives a value or throws, and it throws only where that is among its answers. -/
theorem engineAnswer_cases (answers : List EngineAnswer) :
    (∃ v, engineAnswer answers = .ok v) ∨
      ∃ message, engineAnswer answers = .error (.thrown message) ∧ .throws message ∈ answers := by
  unfold engineAnswer
  split
  · exact .inl ⟨_, rfl⟩
  · exact .inl ⟨_, rfl⟩
  · exact .inr ⟨_, rfl, List.mem_cons_self⟩

/-- An engine that never throws gives a value at each evaluation. -/
theorem exists_engineAnswer_drop {answers : List EngineAnswer}
    (h : ∀ message, .throws message ∉ answers) (n : Nat) :
    ∃ v, engineAnswer (answers.drop n) = .ok v := by
  rcases engineAnswer_cases (answers.drop n) with hvalue | ⟨message, -, hmem⟩
  · exact hvalue
  · exact absurd (List.mem_of_mem_drop hmem) (h message)

/-- An operation makes one of the moves. -/
theorem move_perform {call : PlaygroundCall} (hcall : call.operation.IsHosting) :
    Move p (p.perform call.operation call.answers).playground (call.evaluations p)
      (p.perform call.operation call.answers).answer := by
  obtain ⟨operation, answers⟩ := call
  cases operation with
  | register name expression =>
      simp only [PlaygroundCall.evaluations, perform, register]
      split_ifs with hclosed htaken
      · exact .idle _
      · exact .idle _
      · rw [Bool.not_eq_true] at hclosed
        rcases engineAnswer_cases answers with ⟨v, hengine⟩ | ⟨message, hengine, -⟩ <;>
          simp only [evaluated, hengine, Except.isOk, Except.toBool]
        · exact .registered name expression hclosed (by simpa using htaken)
        · exact .failed _ message hclosed rfl (.inl ⟨name, expression, rfl⟩)
  | close =>
      simp only [PlaygroundCall.evaluations, perform, close]
      split_ifs with hclosed
      · exact .idle _
      · rw [Bool.not_eq_true] at hclosed
        rcases engineAnswer_cases answers with ⟨v, hengine⟩ | ⟨message, hengine, -⟩ <;>
          simp only [evaluated, hengine, Except.isOk, Except.toBool]
        · exact .closed [] _ hclosed (by simp)
        · exact .failed _ message hclosed rfl (.inr rfl)
  | load bundle name =>
      simp only [PlaygroundCall.evaluations, perform, load, close]
      split_ifs with hclosed
      · exact .ran _ _ hclosed (by simpa [evaluated] using ⟨bundle, name, rfl⟩)
      · rw [Bool.not_eq_true] at hclosed
        rcases engineAnswer_cases answers with ⟨v, hengine⟩ | ⟨message, hengine, -⟩ <;>
          simp only [evaluated, hengine, Except.isOk, Except.toBool, List.singleton_append]
        · exact .closed _ _ hclosed (by simpa using ⟨bundle, name, rfl⟩)
        · exact .failed _ message hclosed rfl (.inr rfl)
  | evaluate code => exact hcall.elim
  | evaluateJson expression => exact hcall.elim

/-- A move with a script that throws instead of changing the registry changes nothing. -/
theorem Move.of_thrown {q : Playground} {new : List Evaluation}
    {answer : Except PlaygroundError (Value String)} (h : Move p q new answer) {e : Evaluation}
    (he : e ∈ new) (hthrown : e.succeeded = false) (hkind : e.ChangesRegistry) :
    q = p ∧ p.closed = false ∧ ∃ message, answer = .error (.thrown message) := by
  cases h with
  | idle answer => cases he
  | failed other message hopen hfailed hother => exact ⟨rfl, hopen, message, rfl⟩
  | registered name expression hopen hnew =>
      rw [List.mem_singleton.1 he] at hthrown
      cases hthrown
  | closed runs answer hopen hruns =>
      rcases List.mem_cons.1 he with rfl | he
      · cases hthrown
      · exact absurd hkind (hruns e he).not_changesRegistry
  | ran runs answer hclosed hruns => exact absurd hkind (hruns e he).not_changesRegistry

/-- Once the registry is closed, a move changes nothing and registers nothing. -/
theorem Move.of_closed {q : Playground} {new : List Evaluation}
    {answer : Except PlaygroundError (Value String)} (h : Move p q new answer)
    (hclosed : p.closed = true) : q = p ∧ ∀ e ∈ new, ∀ name, ¬ e.Registers name := by
  cases h with
  | idle answer => exact ⟨rfl, by simp⟩
  | failed e message hopen => simp [hclosed] at hopen
  | registered name expression hopen => simp [hclosed] at hopen
  | closed runs answer hopen => simp [hclosed] at hopen
  | ran runs answer _ hruns => exact ⟨rfl, fun e he => (hruns e he).not_registers⟩

/-- While the registry is open, an operation with an engine that never throws goes through, unless it
registers a name that is taken. -/
theorem answer_of_never_throws {operation : PlaygroundOperation} (hoperation : operation.IsHosting)
    (hopen : p.closed = false)
    (hnew : ∀ name expression, operation = .register name expression → name ∉ p.registered)
    {answers : List EngineAnswer} (hengine : ∀ message, .throws message ∉ answers) :
    (p.perform operation answers).answer = .ok .null := by
  obtain ⟨v, hv⟩ := exists_engineAnswer_drop hengine 0
  obtain ⟨w, hw⟩ := exists_engineAnswer_drop hengine 1
  rw [List.drop_zero] at hv
  cases operation with
  | register name expression =>
      have hfree : p.registered.contains name = false := by
        simpa using hnew name expression rfl
      simp only [perform, register, hopen, hfree, hv, Bool.false_eq_true, if_false]
  | close => simp only [perform, close, hopen, hv, Bool.false_eq_true, if_false]
  | load bundle name =>
      simp only [perform, load, close, hopen, hv, Bool.false_eq_true, if_false,
        List.length_singleton, hw, Except.map]
  | evaluate code => exact hoperation.elim
  | evaluateJson expression => exact hoperation.elim

/-- An operation whose registration or closing script throws leaves the playground as it was, and goes
through as soon as the engine does. -/
theorem perform_of_thrown {call : PlaygroundCall} (hcall : call.operation.IsHosting) {e : Evaluation}
    (he : e ∈ call.evaluations p) (hthrown : e.succeeded = false) (hkind : e.ChangesRegistry) :
    (p.perform call.operation call.answers).playground = p ∧
      (∃ message, (p.perform call.operation call.answers).answer = .error (.thrown message)) ∧
      ∀ again : List EngineAnswer, (∀ message, .throws message ∉ again) →
        (p.perform call.operation again).answer = .ok .null := by
  obtain ⟨hsame, hopen, hmessage⟩ := (move_perform hcall).of_thrown he hthrown hkind
  refine ⟨hsame, hmessage, fun again hagain => answer_of_never_throws hcall hopen ?_ hagain⟩
  -- A script was sent, so that the name was not taken.
  intro name expression hregister htaken
  have hnone : call.evaluations p = [] := by
    simp [PlaygroundCall.evaluations, hregister, perform, register, hopen, htaken, evaluated]
  rw [hnone] at he
  cases he

end Playground

/-! ## What a history says -/

/-- Whether exactly one evaluation of a history registered a name. -/
def RegisteredOnce (past : List Evaluation) (name : String) : Prop :=
  ∃ before e after, past = before ++ e :: after ∧ e.succeeded = true ∧ e.Registers name ∧
    ∀ other ∈ before ++ after, other.succeeded = true → ¬ other.Registers name

/-- A module stays registered once if it is not registered again. -/
theorem RegisteredOnce.append {past new : List Evaluation} {name : String}
    (h : RegisteredOnce past name) (hnew : ∀ e ∈ new, e.succeeded = true → ¬ e.Registers name) :
    RegisteredOnce (past ++ new) name := by
  obtain ⟨before, e, after, rfl, hok, hname, hothers⟩ := h
  refine ⟨before, e, after ++ new, by simp, hok, hname, fun other hother => ?_⟩
  rw [← List.append_assoc, List.mem_append] at hother
  exact hother.elim (hothers other) (hnew other)

namespace Playground

/-- A playground is what the history of its engine says. -/
structure Recorded (p : Playground) (past : List Evaluation) : Prop where
  once : ∀ name ∈ p.registered, RegisteredOnce past name
  complete : ∀ e ∈ past, e.succeeded = true → ∀ name, e.Registers name → name ∈ p.registered
  nodup : p.registered.Nodup
  closed_iff : p.closed = true ↔ ∃ e ∈ past, e.succeeded = true ∧ e.Closes
  /-- Before a bundle runs, the registry was closed. -/
  closed_before : ∀ before e after, past = before ++ e :: after → e.RunsBundle →
    ∃ closing ∈ before, closing.succeeded = true ∧ closing.Closes

namespace Recorded

variable {p : Playground} {past new : List Evaluation}

theorem initial : Recorded Playground.initial [] where
  once := by simp [Playground.initial]
  complete := by simp
  nodup := List.nodup_nil
  closed_iff := by simp [Playground.initial]
  closed_before := by simp

/-- In a longer history, the registry was closed before each bundle if it was closed before the new
ones. -/
theorem closed_before_append (h : Recorded p past)
    (hnew : (∃ e ∈ new, e.RunsBundle) → p.closed = true) :
    ∀ before e after, past ++ new = before ++ e :: after → e.RunsBundle →
      ∃ closing ∈ before, closing.succeeded = true ∧ closing.Closes := by
  intro before e after hsplit hrun
  have hclosing : e ∈ new → ∃ closing ∈ past, closing.succeeded = true ∧ closing.Closes :=
    fun hmem => h.closed_iff.1 (hnew ⟨e, hmem, hrun⟩)
  rcases List.append_eq_append_iff.1 hsplit with ⟨more, rfl, rfl⟩ | ⟨more, rfl, hmore⟩
  · obtain ⟨closing, hpast, hcloses⟩ := hclosing (by simp)
    exact ⟨closing, List.mem_append_left _ hpast, hcloses⟩
  · cases more with
    | nil =>
        rw [List.nil_append] at hmore
        simpa using hclosing (hmore ▸ List.mem_cons_self)
    | cons first more =>
        obtain ⟨rfl, -⟩ := List.cons.inj hmore
        exact h.closed_before before e more rfl hrun

/-- Evaluations that neither register nor close anything change nothing. -/
theorem append (h : Recorded p past)
    (hidle : ∀ e ∈ new, e.succeeded = true → (∀ name, ¬ e.Registers name) ∧ ¬ e.Closes)
    (hruns : (∃ e ∈ new, e.RunsBundle) → p.closed = true) : Recorded p (past ++ new) where
  once name hname := (h.once name hname).append fun e he hok => (hidle e he hok).1 name
  complete e he hok name hregisters := by
    rcases List.mem_append.1 he with he | he
    · exact h.complete e he hok name hregisters
    · exact absurd hregisters ((hidle e he hok).1 name)
  nodup := h.nodup
  closed_iff := by
    rw [h.closed_iff]
    constructor
    · rintro ⟨e, he, hcloses⟩
      exact ⟨e, List.mem_append_left _ he, hcloses⟩
    · rintro ⟨e, he, hok, hcloses⟩
      rcases List.mem_append.1 he with he | he
      · exact ⟨e, he, hok, hcloses⟩
      · exact absurd hcloses (hidle e he hok).2
  closed_before := h.closed_before_append hruns

/-- A registration that goes through adds its name. -/
theorem register (h : Recorded p past) {name : String} (hnew : name ∉ p.registered)
    (expression : String) :
    Recorded { p with registered := p.registered ++ [name] }
      (past ++ [⟨registerScript name expression, true⟩]) where
  once other hother := by
    rcases List.mem_append.1 hother with hother | hother
    · refine (h.once other hother).append ?_
      rintro e he - ⟨expression', hscript⟩
      rw [List.mem_singleton.1 he] at hscript
      exact hnew (registerScript_injective hscript ▸ hother)
    · rw [List.mem_singleton.1 hother]
      refine ⟨past, ⟨registerScript name expression, true⟩, [], rfl, rfl, ⟨expression, rfl⟩, ?_⟩
      intro e he hok hregisters
      rw [List.append_nil] at he
      exact hnew (h.complete e he hok name hregisters)
  complete e he hok other hregisters := by
    rcases List.mem_append.1 he with he | he
    · exact List.mem_append_left _ (h.complete e he hok other hregisters)
    · obtain ⟨expression', hscript⟩ := hregisters
      rw [List.mem_singleton.1 he] at hscript
      exact List.mem_append_right _ (List.mem_singleton.2 (registerScript_injective hscript).symm)
  nodup := by
    refine List.nodup_append.2 ⟨h.nodup, List.nodup_singleton _, fun other hother _ hname heq => ?_⟩
    rw [heq, List.mem_singleton.1 hname] at hother
    exact hnew hother
  closed_iff := by
    have hnot : ¬ (⟨registerScript name expression, true⟩ : Evaluation).Closes :=
      fun hcloses => hcloses.not_registers name ⟨expression, rfl⟩
    simp [h.closed_iff, or_and_right, exists_or, hnot]
  closed_before := by
    refine h.closed_before_append ?_
    rintro ⟨e, he, hrun⟩
    rw [List.mem_singleton.1 he] at hrun
    exact absurd ⟨expression, rfl⟩ (hrun.not_registers name)

/-- A closing that goes through closes the registry. -/
theorem close (h : Recorded p past) :
    Recorded { p with closed := true } (past ++ [⟨closeScript, true⟩]) := by
  have hcloses : (⟨closeScript, true⟩ : Evaluation).Closes := rfl
  have hidle : ∀ e ∈ [(⟨closeScript, true⟩ : Evaluation)], ∀ name, ¬ e.Registers name := by
    intro e he
    rw [List.mem_singleton.1 he]
    exact hcloses.not_registers
  exact
    { once := fun name hname => (h.once name hname).append fun e he _ => hidle e he name
      complete := by
        intro e he hok name hregisters
        rcases List.mem_append.1 he with he | he
        · exact h.complete e he hok name hregisters
        · exact absurd hregisters (hidle e he name)
      nodup := h.nodup
      closed_iff := by simpa using .inr hcloses
      closed_before := by
        refine h.closed_before_append ?_
        rintro ⟨e, he, hrun⟩
        rw [List.mem_singleton.1 he] at hrun
        exact absurd hcloses hrun.not_closes }

/-- A move keeps the playground what the history says. -/
theorem move {q : Playground} {answer : Except PlaygroundError (Value String)}
    (h : Recorded p past) (hmove : Move p q new answer) : Recorded q (past ++ new) := by
  have hidle : ∀ e : Evaluation, e.RunsBundle → (∀ name, ¬ e.Registers name) ∧ ¬ e.Closes :=
    fun e hrun => ⟨hrun.not_registers, hrun.not_closes⟩
  cases hmove with
  | idle answer => simpa using h
  | failed e message hopen hfailed hkind =>
      refine h.append (by simp [hfailed]) ?_
      rintro ⟨other, hother, hrun⟩
      rw [List.mem_singleton.1 hother] at hrun
      exact absurd hkind hrun.not_changesRegistry
  | registered name expression hopen hnew => exact h.register hnew expression
  | closed runs answer hopen hruns =>
      rw [List.append_cons]
      exact h.close.append (fun e he _ => hidle e (hruns e he)) fun _ => rfl
  | ran runs answer hclosed hruns =>
      exact h.append (fun e he _ => hidle e (hruns e he)) fun _ => hclosed

/-- The names of a recorded playground increase strictly. -/
theorem pairwise_names (h : Recorded p past) : p.names.Pairwise (· < ·) := by
  have hsorted := pairwise_sortedSet p.registered
  rwa [sortedSet, distinct_eq_self h.nodup] at hsorted

/-- The names are those whose registration went through, which it did once. -/
theorem mem_names_iff (h : Recorded p past) (name : String) :
    name ∈ p.names ↔ RegisteredOnce past name := by
  rw [names, mem_sortTexts]
  refine ⟨h.once name, ?_⟩
  rintro ⟨before, e, after, rfl, hok, hregisters, -⟩
  exact h.complete e (by simp) hok name hregisters

end Recorded

end Playground

/-! ## Runs -/

namespace PlaygroundRun

open Playground (Recorded)

variable {r : PlaygroundRun} {calls : List PlaygroundCall}

/-- The state after a run is what the history says. -/
theorem recorded_performAll (h : Recorded r.playground r.evaluations)
    (hcalls : ∀ call ∈ calls, call.operation.IsHosting) :
    Recorded (r.performAll calls).playground (r.performAll calls).evaluations := by
  induction calls generalizing r with
  | nil => exact h
  | cons call calls ih =>
      rw [List.forall_mem_cons] at hcalls
      exact ih (r := r.perform call) (h.move (Playground.move_perform hcalls.1)) hcalls.2

/-- Once the registry is closed, a run changes nothing and registers nothing. -/
theorem performAll_of_closed (hclosed : r.playground.closed = true)
    (hcalls : ∀ call ∈ calls, call.operation.IsHosting) :
    (r.performAll calls).playground = r.playground ∧
      ∃ more, (r.performAll calls).evaluations = r.evaluations ++ more ∧
        ∀ e ∈ more, ∀ name, ¬ e.Registers name := by
  induction calls generalizing r with
  | nil => exact ⟨rfl, [], by simp [performAll], by simp⟩
  | cons call calls ih =>
      rw [List.forall_mem_cons] at hcalls
      obtain ⟨hsame, hnone⟩ := (Playground.move_perform hcalls.1).of_closed hclosed
      have hkept : (r.perform call).playground = r.playground := hsame
      obtain ⟨hlast, more, hmore, hnone'⟩ :=
        ih (r := r.perform call) (hkept ▸ hclosed) hcalls.2
      refine ⟨hlast.trans hkept, call.evaluations r.playground ++ more, ?_, ?_⟩
      · rw [← List.append_assoc]
        exact hmore
      · intro e he
        exact (List.mem_append.1 he).elim (hnone e) (hnone' e)

/-- Whatever the engine does, the registry is closed before the first bundle runs, and nothing is
registered from then on.  At every moment it holds, in ascending order, the names whose registration
went through, which it did once, and a script that throws instead of changing the registry leaves it
as it was. -/
theorem registry_of_hosting {installed : Bool} {answers : List EngineAnswer} {p : Playground}
    (hstart : Playground.start installed answers = .ok p)
    (hcalls : ∀ call ∈ calls, call.operation.IsHosting)
    (hr : performAll ⟨p, []⟩ calls = r) :
    (∀ later, (∀ call ∈ later, call.operation.IsHosting) → r.playground.closed = true →
      (r.performAll later).playground = r.playground ∧
        ∃ more, (r.performAll later).evaluations = r.evaluations ++ more ∧
          ∀ e ∈ more, ∀ name, ¬ e.Registers name) ∧
    r.playground.names.Pairwise (· < ·) ∧
    (∀ name, name ∈ r.playground.names ↔
      ∃ e ∈ r.evaluations, e.succeeded = true ∧ e.Registers name) ∧
    (∀ name ∈ r.playground.names, RegisteredOnce r.evaluations name) ∧
    (∀ call : PlaygroundCall, call.operation.IsHosting →
      ∀ e ∈ call.evaluations r.playground, e.succeeded = false → e.ChangesRegistry →
        (r.perform call).playground = r.playground ∧
        (∃ message, (r.playground.perform call.operation call.answers).answer =
          .error (.thrown message)) ∧
        ∀ again : List EngineAnswer, (∀ message, .throws message ∉ again) →
          (r.playground.perform call.operation again).answer = .ok .null) ∧
    (r.playground.closed = true ↔ ∃ e ∈ r.evaluations, e.succeeded = true ∧ e.Closes) ∧
    (∀ before e after, r.evaluations = before ++ e :: after → e.RunsBundle →
      ∃ closing ∈ before, closing.succeeded = true ∧ closing.Closes) := by
  have hinitial : p = Playground.initial := by
    unfold Playground.start at hstart
    split_ifs at hstart
    cases hengine : Playground.engineAnswer answers <;> simp_all [Except.map]
  have hrecorded : Recorded r.playground r.evaluations := by
    rw [← hr]
    exact recorded_performAll (hinitial ▸ .initial) hcalls
  refine ⟨fun later hlater hclosed => performAll_of_closed hclosed hlater,
    hrecorded.pairwise_names, ?names, fun name => (hrecorded.mem_names_iff name).1,
    fun call hcall e he hthrown hkind => Playground.perform_of_thrown hcall he hthrown hkind,
    hrecorded.closed_iff, hrecorded.closed_before⟩
  case names =>
    intro name
    constructor
    · intro hname
      obtain ⟨before, e, after, hsplit, hok, hregisters, -⟩ := (hrecorded.mem_names_iff name).1 hname
      exact ⟨e, by simp [hsplit], hok, hregisters⟩
    · rintro ⟨e, he, hok, hregisters⟩
      exact mem_sortTexts.2 (hrecorded.complete e he hok name hregisters)

/-- A registration that throws and is tried again, then a bundle whose closing throws at first. -/
def retriedCalls : List PlaygroundCall :=
  [⟨.register "remotion" "Remotion", [.throws "not ready"]⟩,
   ⟨.register "remotion" "Remotion", [.value .null]⟩,
   ⟨.load "var bundle;" "main", [.throws "not ready"]⟩,
   ⟨.load "var bundle;" "main", [.value .null, .value .null]⟩]

/-- After `retriedCalls` no other name can be registered. -/
theorem registry_of_retriedCalls :
    (performAll (performAll ⟨Playground.initial, []⟩ retriedCalls)
      [⟨.register "react" "React", [.value .null]⟩]).playground.names = ["remotion"] ∧
      RegisteredOnce (performAll ⟨Playground.initial, []⟩ retriedCalls).evaluations "remotion" := by
  have hcalls : ∀ call ∈ retriedCalls, call.operation.IsHosting := by
    simp [retriedCalls, PlaygroundOperation.IsHosting]
  have hstart : Playground.start true [.value .null] = .ok Playground.initial := rfl
  have hnames : sortTexts ["remotion"] = ["remotion"] := by simp [sortTexts]
  obtain ⟨hstays, -, -, honce, -⟩ := registry_of_hosting hstart hcalls rfl
  constructor
  · rw [(hstays _ (by simp [PlaygroundOperation.IsHosting]) rfl).1]
    exact hnames
  · exact honce "remotion" (List.mem_of_mem_head? (congrArg List.head? hnames))

end PlaygroundRun
end VideoBundle
