import VideoBundle.Bundler.Tool
import VideoBundle.Proofs.Json.RoundTrip
import VideoBundle.Proofs.Outcomes

/-!
# Building a source file

When two runs of the bundler have left their files, whether a build comes of them depends on the
specifiers that the statements of the standard module write: the statements are found with every
escape of the language, and their specifiers are then read as JSON texts.

Main results:

- `exists_readSpecifier_iff`: the specifiers that are read.
- `exists_read_iff`: the code whose bindings are read.
- `transform_iff`: the runs of which a build comes, and what is in it.
-/

namespace VideoBundle

/-! ## Statements -/

namespace Esm

/-- The specifier of a statement is closed by the first quote that no backslash precedes. -/
theorem closedBody_of_specifier? {cs : List Char} {found : List Char × List Char}
    (h : specifier? cs = some found) : Json.ClosedBody found.1 := by
  fun_induction specifier? cs generalizing found with
  | case1 => simp at h
  | case2 rest =>
      cases h
      exact .nil
  | case3 rest => simp at h
  | case4 c rest _ ih =>
      rcases Option.map_eq_some_iff.1 h with ⟨inner, hinner, rfl⟩
      exact .escape (ih hinner)
  | case5 => simp at h
  | case6 c rest hquote hescape hplain ih =>
      rcases Option.map_eq_some_iff.1 h with ⟨inner, hinner, rfl⟩
      exact .plain hquote (fun heq => hplain (.inr heq)) (ih hinner)

/-- The quotes of a statement close a body in which every escape is complete. -/
theorem closedBody_of_statement? {cs : List Char} {found : Statement × List Char}
    (h : statement? cs = some found) : Json.ClosedBody found.1.specifier := by
  unfold statement? at h
  split at h
  · cases h
  · split at h
    · split at h
      · rename_i hspecifier
        rcases Option.map_eq_some_iff.1 h with ⟨rest, _, rfl⟩
        exact closedBody_of_specifier? hspecifier
      · cases h
    · cases h

/-- Every statement of a text has a closed specifier. -/
theorem closedBody_of_mem_statementsFrom {skip : Nat} {lineStart : Bool} {cs : List Char}
    {statement : Statement} (h : statement ∈ statementsFrom skip lineStart cs) :
    Json.ClosedBody statement.specifier := by
  fun_induction statementsFrom skip lineStart cs with
  | case1 => simp at h
  | case2 _ _ _ _ ih => exact ih h
  | case3 _ _ ih => exact ih h
  | case4 c cs found rest hfound ih =>
      rcases List.mem_cons.1 h with rfl | h
      · exact closedBody_of_statement? hfound
      · exact ih h
  | case5 _ _ _ ih => exact ih h

/-- A specifier is read exactly when it is the body of a JSON text. -/
theorem exists_readSpecifier_iff {s : Statement} (h : Json.ClosedBody s.specifier) :
    (∃ specifier, s.readSpecifier = .ok specifier) ↔ Json.TextBody s.specifier := by
  rw [← Json.exists_decode_quoted_iff h]
  unfold Statement.readSpecifier
  generalize Json.decode (String.ofList ('"' :: (s.specifier ++ ['"']))) = result
  cases result with
  | error e => simp
  | ok v => cases v <;> simp

end Esm

/-! ## Bindings -/

namespace Bindings

variable {code : String} {bindings : Bindings}

/-- The bindings of code are read exactly when every specifier in it is the body of a JSON text. -/
theorem exists_read_iff (code : String) :
    (∃ bindings, read code = .ok bindings) ↔
      ∀ s ∈ Esm.statements code.toList, Json.TextBody s.specifier := by
  have hspecifiers : (∀ s ∈ Esm.statements code.toList, Json.TextBody s.specifier) ↔
      ∀ s ∈ Esm.statements code.toList,
        ∃ found, s.readSpecifier.map (·, s) = .ok found := by
    refine forall₂_congr fun s hs => ?_
    rw [← Esm.exists_readSpecifier_iff (Esm.closedBody_of_mem_statementsFrom hs)]
    cases s.readSpecifier <;> simp [Except.map]
  rw [hspecifiers, ← exists_mapM_iff, read]
  cases (Esm.statements code.toList).mapM fun s : Esm.Statement => s.readSpecifier.map (·, s) <;>
    simp [Except.map]

/-- The pairs that are read belong to the statements and their specifiers. -/
theorem mem_pairs_iff {statements : List Esm.Statement} {pairs : List (String × Esm.Statement)}
    (h : statements.mapM (fun s : Esm.Statement => s.readSpecifier.map (·, s)) = .ok pairs)
    {specifier : String} {s : Esm.Statement} :
    (specifier, s) ∈ pairs ↔ s ∈ statements ∧ s.readSpecifier = .ok specifier := by
  rw [mem_mapM_iff h]
  constructor
  · rintro ⟨t, ht, heq⟩
    cases hread : t.readSpecifier with
    | error e => simp [hread, Except.map] at heq
    | ok found =>
        simp only [hread, Except.map, Except.ok.injEq, Prod.mk.injEq] at heq
        rcases heq with ⟨rfl, rfl⟩
        exact ⟨ht, hread⟩
  · rintro ⟨hs, hread⟩
    exact ⟨s, hs, by simp [hread, Except.map]⟩

/-- Bindings that are read come from the statements with all their specifiers read. -/
theorem exists_pairs_of_read (h : read code = .ok bindings) :
    ∃ pairs, (Esm.statements code.toList).mapM
        (fun s : Esm.Statement => s.readSpecifier.map (·, s)) = .ok pairs ∧
      bindings = ofStatements pairs := by
  rw [read] at h
  cases hpairs : (Esm.statements code.toList).mapM
      fun s : Esm.Statement => s.readSpecifier.map (·, s) with
  | error e =>
      rw [hpairs] at h
      cases h
  | ok pairs =>
      rw [hpairs] at h
      cases h
      exact ⟨pairs, rfl, rfl⟩

/-- The bindings that are read are the names in statements under the specifiers that these write. -/
theorem mem_names_read_iff (h : read code = .ok bindings) {binding : Binding} :
    binding ∈ bindings.names ↔ ∃ s ∈ Esm.statements code.toList,
      s.readSpecifier = .ok binding.specifier ∧ binding.name ∈ s.names := by
  rcases exists_pairs_of_read h with ⟨pairs, hpairs, rfl⟩
  simp only [ofStatements, mem_distinct, List.mem_flatMap, List.mem_map, Prod.exists]
  constructor
  · rintro ⟨specifier, s, hmem, name, hname, rfl⟩
    rcases (mem_pairs_iff hpairs).1 hmem with ⟨hs, hread⟩
    exact ⟨s, hs, hread, hname⟩
  · rintro ⟨s, hs, hread, hname⟩
    exact ⟨_, s, (mem_pairs_iff hpairs).2 ⟨hs, hread⟩, _, hname, rfl⟩

/-- The star sources that are read are the specifiers of statements that export everything. -/
theorem mem_starSources_read_iff (h : read code = .ok bindings) {specifier : String} :
    specifier ∈ bindings.starSources ↔ ∃ s ∈ Esm.statements code.toList,
      s.readSpecifier = .ok specifier ∧ s.isStar = true := by
  rcases exists_pairs_of_read h with ⟨pairs, hpairs, rfl⟩
  simp only [ofStatements, mem_distinct, List.mem_map, List.mem_filter, Prod.exists]
  constructor
  · rintro ⟨_, s, ⟨hmem, hstar⟩, rfl⟩
    rcases (mem_pairs_iff hpairs).1 hmem with ⟨hs, hread⟩
    exact ⟨s, hs, hread, hstar⟩
  · rintro ⟨s, hs, hread, hstar⟩
    exact ⟨specifier, s, ⟨(mem_pairs_iff hpairs).2 ⟨hs, hread⟩, hstar⟩, rfl⟩

end Bindings

/-! ## Reports -/

namespace Report

/-- A record of an import: an object with a path, which may say whether the import was left outside. -/
structure IsRecord (record : Value String) : Prop where
  path : ∃ path, record.field? "path" = some (.text path)
  outside : ∀ v, record.field? "external" = some v → ∃ outside, v = .bool outside

/-- An output of a build: an object with records of imports and with exported names. -/
structure IsOutput (output : Value String) : Prop where
  imports : ∃ records, output.field? "imports" = some (.list records) ∧ ∀ r ∈ records, IsRecord r
  exports : ∃ names, output.field? "exports" = some (.list names) ∧ ∀ v ∈ names, ∃ name, v = .text name

/-- An input of a build: an object that may name its module format. -/
structure IsInput (input : Value String) : Prop where
  object : ∃ fields, input = .object fields
  format : ∀ v, input.field? "format" = some v → ∃ name, v = .text name

/-- A report of the form that the bundler gives it. -/
structure IsReport (report : Value String) : Prop where
  outputs : ∃ outputs, report.field? "outputs" = some (.object outputs) ∧
    ∀ entry ∈ outputs, IsOutput entry.2
  inputs : ∃ inputs, report.field? "inputs" = some (.object inputs) ∧
    ∀ entry ∈ inputs, IsInput entry.2

end Report

/-! ## Two runs -/

namespace ToolSettings

variable {s : ToolSettings} {runner : ToolRunner} {source path : String} {loader : Loader}
  {code standardCode : String} {report : Value String}

/-- The code that a run leaves in its output file. -/
def codeOf (output : Option String) : String :=
  String.ofList (Text.unifyNewlines (output.getD "").toList)

/-- Both runs that build a source file have ended well: one has left the code of the older module, the
other that of the standard module and a report. -/
structure BothEnded (s : ToolSettings) (runner : ToolRunner) (source : String) (loader : Loader)
    (path code standardCode : String) (report : Value String) : Prop where
  older : ∃ errors output written, code = codeOf output ∧
    runner (s.invocation (s.transformTask source loader path .older false)) =
      .ended 0 errors output written
  standard : ∃ errors output text, standardCode = codeOf output ∧ Json.decode text = .ok report ∧
    runner (s.invocation (s.transformTask source loader path .standard true)) =
      .ended 0 errors output (some text)
  isReport : Report.IsReport report

/-- The first run leaves its code, and no report is asked of it. -/
theorem BothEnded.run_older (h : s.BothEnded runner source loader path code standardCode report) :
    s.run runner (s.transformTask source loader path .older false) = .ok (code, .object []) := by
  obtain ⟨errors, output, written, rfl, hended⟩ := h.older
  rw [run, hended]
  simp [resultOf, transformTask, codeOf]

/-- The second run leaves its code and the report. -/
theorem BothEnded.run_standard (h : s.BothEnded runner source loader path code standardCode report) :
    s.run runner (s.transformTask source loader path .standard true) = .ok (standardCode, report) := by
  obtain ⟨errors, output, text, rfl, hdecode, hended⟩ := h.standard
  rw [run, hended]
  simp [resultOf, transformTask, hdecode, codeOf]

/-- A build has the older module's code, the imports and exports of the report, and those bindings and
star sources of the standard module's statements that are imports. -/
structure IsBuild (code : String) (report : Value String) (statements : List Esm.Statement)
    (build : BuiltFile) : Prop where
  code_eq : build.code = code
  imports_eq : build.imports = Report.imports report
  exports_eq : build.exports = Report.standardExports? report
  mem_bindings (b : Binding) : b ∈ build.bindings ↔ b.specifier ∈ build.imports ∧
    ∃ s ∈ statements, s.readSpecifier = .ok b.specifier ∧ b.name ∈ s.names
  mem_starSources (specifier : String) : specifier ∈ build.starSources ↔
    specifier ∈ build.imports ∧
      ∃ s ∈ statements, s.readSpecifier = .ok specifier ∧ s.isStar = true

/-- The file that is built of the code of two runs and a report, if the bindings are read. -/
def builtOf (code standardCode : String) (report : Value String) : Except BuildFailure BuiltFile :=
  match Bindings.read standardCode with
  | .error e => .error (.fault (.malformedJson e))
  | .ok bindings => .ok
      { code
        imports := Report.imports report
        exports := Report.standardExports? report
        bindings := bindings.names.filter fun b => (Report.imports report).contains b.specifier
        starSources := bindings.starSources.filter (Report.imports report).contains }

/-- If both runs have ended well, the transformation is what is built from what they left. -/
theorem BothEnded.transform_eq (h : s.BothEnded runner source loader path code standardCode report) :
    s.transform runner source loader path = builtOf code standardCode report := by
  simp only [transform, builtOf, h.run_older, h.run_standard, bind, Except.bind]
  cases Bindings.read standardCode <;> rfl

/-- When both runs have ended well, a build comes of them exactly when every specifier in the standard
module is the body of a JSON text; otherwise building ends in a fault. -/
theorem transform_iff (h : s.BothEnded runner source loader path code standardCode report) :
    ((∃ build, s.transform runner source loader path = .ok build) ↔
        ∀ st ∈ Esm.statements standardCode.toList, Json.TextBody st.specifier) ∧
      (∀ build, s.transform runner source loader path = .ok build →
        IsBuild code report (Esm.statements standardCode.toList) build) ∧
      ∀ failure, s.transform runner source loader path = .error failure →
        ∃ e, failure = .fault (.malformedJson e) := by
  rw [h.transform_eq, ← Bindings.exists_read_iff, builtOf]
  cases hread : Bindings.read standardCode with
  | error e => simp
  | ok bindings =>
      refine ⟨by simp, ?_, by simp⟩
      rintro build ⟨⟩
      refine ⟨rfl, rfl, rfl, fun b => ?_, fun specifier => ?_⟩
      · rw [List.mem_filter, Bindings.mem_names_read_iff hread, List.contains_iff_mem, and_comm]
      · rw [List.mem_filter, Bindings.mem_starSources_read_iff hread, List.contains_iff_mem, and_comm]

/-! ## An escape that is no JSON -/

/-- Runs that leave these files for every source. -/
def leaving (older standard : String) (report : Value String) : ToolRunner := fun call =>
  if call.arguments.contains "--format=cjs" then .ended 0 [] (some older) none
  else .ended 0 [] (some standard) (some (Json.encode report))

/-- A tool with its usual settings. -/
def usualTool : ToolSettings := ⟨"esbuild", "es2020", "/work", "/scratch"⟩

/-- The report on a build with one import. -/
def reportOn (path : String) : Value String :=
  .object
    [("inputs", .object [("/src/A.ts", .object [("format", .text "esm")])]),
     ("outputs", .object [("out.js", .object
       [("imports", .list [.object [("path", .text path), ("external", .bool true)]]),
        ("exports", .list [])])])]

/-- A report on one path has the shape that the reader expects. -/
theorem isReport_reportOn (path : String) : Report.IsReport (reportOn path) where
  outputs := by
    refine ⟨_, rfl, List.forall_mem_singleton.2 ⟨⟨_, rfl, List.forall_mem_singleton.2 ?record⟩,
      ⟨[], rfl, List.forall_mem_nil _⟩⟩⟩
    exact ⟨⟨path, rfl⟩, fun v hv => ⟨true, (Option.some.inj hv).symm⟩⟩
  inputs := by
    refine ⟨_, rfl, List.forall_mem_singleton.2 ⟨⟨_, rfl⟩, fun v hv => ?format⟩⟩
    exact ⟨"esm", (Option.some.inj hv).symm⟩

/-- The report is read back from its text. -/
theorem decode_reportOn (path : String) :
    Json.decode (Json.encode (reportOn path)) = .ok (reportOn path) :=
  Json.decode_encode _ rfl (by simp [reportOn, Value.HasDistinctKeys, Value.Everywhere,
    Value.EverywhereItems, Value.EverywhereEntries])

/-- A module with one import, whose specifier has no escape. -/
def plainImport : String := "import x from \"./b\";\n"

/-- A module with one import, whose specifier writes a character by its code point. -/
def codePointImport : String := "import x from \"./\\u\x7b1F600\x7d\";\n"

/-- A tool that leaves the files it should has ended both runs well. -/
theorem bothEnded_leaving (standard path : String) :
    usualTool.BothEnded (leaving "" standard (reportOn path)) "" .ts "/src/A.ts"
      (codeOf (some "")) (codeOf (some standard)) (reportOn path) where
  older := ⟨[], some "", none, rfl, by
    simp [leaving, invocation, transformTask, commonArguments, Format.name]⟩
  standard := ⟨[], some standard, Json.encode (reportOn path), rfl, decode_reportOn path, by
    simp [leaving, invocation, transformTask, commonArguments, Format.name, Loader.name, usualTool]⟩
  isReport := isReport_reportOn path

/-- A specifier without an escape is built. -/
theorem transform_plainImport :
    usualTool.BothEnded (leaving "" plainImport (reportOn "./b")) "" .ts "/src/A.ts"
        (codeOf (some "")) (codeOf (some plainImport)) (reportOn "./b") ∧
      ∃ build, usualTool.transform (leaving "" plainImport (reportOn "./b")) "" .ts "/src/A.ts" =
        .ok build := by
  have hended := bothEnded_leaving plainImport "./b"
  refine ⟨hended, (transform_iff hended).1.2 ?_⟩
  have hstatements : Esm.statements (codeOf (some plainImport)).toList =
      [⟨.importing, ['x'], ['.', '/', 'b']⟩] := by
    decide +kernel
  rw [hstatements, List.forall_mem_singleton]
  exact .plain (by decide) (.plain (by decide) (.plain (by decide) .nil))

/-- A specifier that writes a character by its code point is a fault, though both runs have ended
well. -/
theorem transform_codePointImport :
    usualTool.BothEnded (leaving "" codePointImport (reportOn "./😀")) "" .ts "/src/A.ts"
        (codeOf (some "")) (codeOf (some codePointImport)) (reportOn "./😀") ∧
      usualTool.transform (leaving "" codePointImport (reportOn "./😀")) "" .ts "/src/A.ts" =
        .error (.fault (.malformedJson (.malformed ⟨.badUnicodeEscape, 4, 1, 5⟩))) := by
  have hended := bothEnded_leaving codePointImport "./😀"
  refine ⟨hended, ?_⟩
  have hread : Bindings.read (codeOf (some codePointImport)) =
      .error (.malformed ⟨.badUnicodeEscape, 4, 1, 5⟩) := by
    decide +kernel
  rw [hended.transform_eq, builtOf, hread]

end ToolSettings
end VideoBundle
