import Mathlib.Tactic.Tauto
import VideoBundle.Proofs.Module.StarExports

/-!
# The search for exported names

The search for the names of a module goes depth first along star edges and cuts every path that comes
back to a module it is working on.  An answer in the middle of a search is therefore partial.
`Settles` says what it still promises: it names only what the module offers, it names all that is
offered along paths that avoid the modules being worked on, and it says that any name may be exported
only when a module without known names is reached.

Main results:

- `exportsOf_settles`: every answer of the search keeps this promise, and the bound on its depth is
  never met.
- `settles_nil_some_iff`, `settles_nil_none_iff`: an answer at the top of a search is exact.
-/

namespace VideoBundle
namespace ExportCheck

open ModuleGraph

variable {graph : ModuleGraph} {table : ExportTable} {sources : SourceTable}
  {avoided : List String}

/-! ## What an answer promises -/

/-- A name is offered along a path that avoids some modules; `default` only without a step. -/
def OffersAvoiding (graph : ModuleGraph) (table : ExportTable) (avoided : List String)
    (id name : String) : Prop :=
  ∃ other names, graph.WaysAvoiding avoided id other ∧ graph.OwnNames table other names ∧
    name ∈ names ∧ (name = "default" → other = id)

/-- What an answer on the names of a module promises while some modules are being worked out. -/
def Settles (graph : ModuleGraph) (table : ExportTable) (avoided : List String) (id : String) :
    Option (List String) → Prop
  | none => ∃ other, graph.Reaches id other ∧ ¬graph.Named table other
  | some names =>
      (∀ other, graph.WaysAvoiding avoided id other → graph.Named table other) ∧
        (∀ name ∈ names, graph.Offers table id name) ∧
          ∀ name, OffersAvoiding graph table avoided id name → name ∈ names

/-- What is offered on ways around some modules is offered. -/
theorem OffersAvoiding.offers {id name : String}
    (h : OffersAvoiding graph table avoided id name) : graph.Offers table id name := by
  obtain ⟨other, names, hways, hown, hmem, hdefault⟩ := h
  by_cases hname : name = "default"
  · exact .inl ⟨names, hdefault hname ▸ hown, hmem⟩
  · exact .inr ⟨hname, other, names, hways.reaches, hown, hmem⟩

/-- With nothing to avoid the two notions are one. -/
theorem offersAvoiding_nil {id name : String} :
    OffersAvoiding graph table [] id name ↔ graph.Offers table id name := by
  constructor
  · exact OffersAvoiding.offers
  · rintro (⟨names, hown, hmem⟩ | ⟨hname, other, names, hreach, hown, hmem⟩)
    · exact ⟨id, names, .here (by simp), hown, hmem, fun _ => rfl⟩
    · exact ⟨other, names, waysAvoiding_nil.2 hreach, hown, hmem, fun h => absurd h hname⟩

/-- An answer with nothing to avoid that gives names is exact. -/
theorem settles_nil_some_iff {id : String} {names : List String} :
    Settles graph table [] id (some names) ↔
      (∀ other, graph.Reaches id other → graph.Named table other) ∧
        ∀ name, name ∈ names ↔ graph.Offers table id name := by
  simp only [Settles, waysAvoiding_nil, offersAvoiding_nil]
  constructor
  · rintro ⟨hnamed, hsound, hcomplete⟩
    exact ⟨hnamed, fun name => ⟨hsound name, hcomplete name⟩⟩
  · rintro ⟨hnamed, hexact⟩
    exact ⟨hnamed, fun name => (hexact name).1, fun name => (hexact name).2⟩

/-- A search is unknown exactly if some module that is reached does not know its names. -/
theorem settles_none_iff {id : String} :
    Settles graph table avoided id none ↔
      ¬∀ other, graph.Reaches id other → graph.Named table other := by
  simp only [Settles, not_forall, exists_prop]

/-- What is promised with nothing to avoid is promised with anything to avoid. -/
theorem Settles.of_nil {id : String} {found : Option (List String)}
    (h : Settles graph table [] id found) : Settles graph table avoided id found := by
  cases found with
  | none => exact h
  | some names =>
      obtain ⟨hnamed, hexact⟩ := settles_nil_some_iff.1 h
      refine ⟨fun other hways => hnamed other hways.reaches, fun name => (hexact name).1, ?_⟩
      intro name hoffers
      exact (hexact name).2 hoffers.offers

/-! ## Modules at which the search ends -/

/-- A module that does not know its names settles as unknown. -/
theorem settles_of_not_named {id : String} (h : ¬graph.Named table id) :
    Settles graph table avoided id none :=
  ⟨id, Relation.ReflTransGen.refl, h⟩

/-- A module that is being worked out is on no path that avoids it. -/
theorem settles_of_mem {id : String} (h : id ∈ avoided) :
    Settles graph table avoided id (some []) := by
  refine ⟨fun other hways => absurd h hways.start_not_mem, by simp, ?_⟩
  rintro name ⟨other, _, hways, _⟩
  exact absurd h hways.start_not_mem

/-- A module that is no file offers exactly the names of its own. -/
theorem settles_of_not_built {id : String} {names : List String}
    (hnone : graph.builds.find? id = none) (hown : graph.OwnNames table id names)
    (hunique : ∀ others, graph.OwnNames table id others → others = names) :
    Settles graph table avoided id (some names) := by
  refine ⟨?_, fun name hmem => .inl ⟨names, hown, hmem⟩, ?_⟩
  · intro other hways
    rw [eq_of_reaches_of_not_built hnone hways.reaches]
    exact ⟨names, hown⟩
  · rintro name ⟨other, others, hways, hothers, hmem, _⟩
    rw [eq_of_reaches_of_not_built hnone hways.reaches] at hothers
    exact hunique others hothers ▸ hmem

/-! ## Own names of the kinds of modules -/

/-- The table's rows in the form of modules: the default export stands first. -/
theorem mem_hostExports {id : String} {names : List String} :
    (id, names) ∈ hostExports table ↔
      ∃ package own, table.find? package = some own ∧
        ModuleId.host package.specifier = id ∧ "default" :: own = names := by
  simp only [hostExports, List.mem_map, Prod.mk.injEq, Prod.exists, OrderedMap.mem_entries_iff]

/-- What the table of forwarding modules says of a module are its only own names. -/
theorem ownNames_iff_of_lookup_host (hgraph : graph.WellFormed sources) {id : String}
    {names : List String} (h : (hostExports table).lookup id = some names) (others : List String) :
    graph.OwnNames table id others ↔ others = names := by
  obtain ⟨_, _, hsplit, _⟩ := List.lookup_eq_some_iff.1 h
  have hmem : (id, names) ∈ hostExports table := by simp [hsplit]
  obtain ⟨package, own, hfind, rfl, rfl⟩ := mem_hostExports.1 hmem
  constructor
  · intro hothers
    generalize hid : ModuleId.host package.specifier = id at hothers
    cases hothers with
    | host hother =>
        cases HostPackage.specifier_injective (ModuleId.host_injective hid)
        rw [hfind] at hother
        cases hother
        rfl
    | package _ => exact absurd hid (ModuleId.host_ne_package _ _)
    | file hbuild _ =>
        exact absurd hid (ModuleId.host_ne_of_absolute (hgraph.isAbsolute hbuild) _)
  · rintro rfl
    exact .host hfind

/-- Only files are built. -/
theorem not_built_host (hgraph : graph.WellFormed sources) {id : String} {names : List String}
    (h : (hostExports table).lookup id = some names) : graph.builds.find? id = none := by
  obtain ⟨_, _, hsplit, _⟩ := List.lookup_eq_some_iff.1 h
  have hmem : (id, names) ∈ hostExports table := by simp [hsplit]
  obtain ⟨package, _, _, rfl, _⟩ := mem_hostExports.1 hmem
  refine Option.eq_none_iff_forall_ne_some.2 fun build hbuild => ?_
  exact ModuleId.host_ne_of_absolute (hgraph.isAbsolute hbuild) _ rfl

/-- A package is no file that was built. -/
theorem not_built_package (hgraph : graph.WellFormed sources) (specifier : String) :
    graph.builds.find? (ModuleId.package specifier) = none := by
  refine Option.eq_none_iff_forall_ne_some.2 fun build hbuild => ?_
  exact ModuleId.package_ne_of_absolute (hgraph.isAbsolute hbuild) _ rfl

/-- Names of a module that is no host package are those of a package or of a built file. -/
theorem ownNames_of_lookup_host_none {id : String} {names : List String}
    (h : (hostExports table).lookup id = none) (hown : graph.OwnNames table id names) :
    (∃ specifier, id = ModuleId.package specifier ∧
        graph.packageExports.find? specifier = some (some names)) ∨
      ∃ build, graph.builds.find? id = some build ∧ build.exports = some names := by
  cases hown with
  | host hfind =>
      have hmem := mem_hostExports.2 ⟨_, _, hfind, rfl, rfl⟩
      exact absurd (List.lookup_eq_none_iff.1 h _ hmem) (by simp)
  | package hfind => exact .inl ⟨_, rfl, hfind⟩
  | file hbuild hnames => exact .inr ⟨_, hbuild, hnames⟩

/-- The own names of an installed package are those that its build reports. -/
theorem ownNames_package_iff (hgraph : graph.WellFormed sources) {specifier : String}
    (h : (hostExports table).lookup (ModuleId.package specifier) = none) (names : List String) :
    graph.OwnNames table (ModuleId.package specifier) names ↔
      graph.packageExports.find? specifier = some (some names) := by
  constructor
  · intro hown
    rcases ownNames_of_lookup_host_none h hown with ⟨other, hid, hfind⟩ | ⟨_, hbuild, _⟩
    · rwa [ModuleId.package_injective hid]
    · exact absurd rfl (ModuleId.package_ne_of_absolute (hgraph.isAbsolute hbuild) specifier)
  · exact .package

/-- The own names of any other module are those that its build reports. -/
theorem ownNames_file_iff {id : String} (hhost : (hostExports table).lookup id = none)
    (hpackage : ModuleId.packageOf? id = none) (names : List String) :
    graph.OwnNames table id names ↔
      ∃ build, graph.builds.find? id = some build ∧ build.exports = some names := by
  constructor
  · intro hown
    rcases ownNames_of_lookup_host_none hhost hown with ⟨specifier, rfl, _⟩ | hfile
    · simp at hpackage
    · exact hfile
  · rintro ⟨build, hbuild, hnames⟩
    exact .file hbuild hnames

/-! ## Answers without a search -/

/-- A host package settles with the names of its row. -/
theorem settles_host (hgraph : graph.WellFormed sources) {id : String} {names : List String}
    (h : (hostExports table).lookup id = some names) :
    Settles graph table avoided id (some names) := by
  have hown := ownNames_iff_of_lookup_host hgraph h
  exact settles_of_not_built (not_built_host hgraph h) ((hown names).2 rfl)
    fun others => (hown others).1

/-- A package settles with the names that the bundler gave, or as unknown. -/
theorem settles_package (hgraph : graph.WellFormed sources) {specifier : String}
    (h : (hostExports table).lookup (ModuleId.package specifier) = none) :
    Settles graph table avoided (ModuleId.package specifier)
      ((graph.packageExports.find? specifier).getD none) := by
  have hown := ownNames_package_iff hgraph h
  cases hfind : (graph.packageExports.find? specifier).getD none with
  | none =>
      refine settles_of_not_named fun ⟨names, hnames⟩ => ?_
      simp [(hown names).1 hnames] at hfind
  | some names =>
      have hnames : graph.packageExports.find? specifier = some (some names) := by
        cases hcase : graph.packageExports.find? specifier <;> simp_all
      refine settles_of_not_built (not_built_package hgraph specifier) ((hown names).2 hnames) ?_
      intro others hothers
      have := hnames.symm.trans ((hown others).1 hothers)
      simpa using this.symm

/-- A module that is no file, or a file whose names are known only at run time, may export any
name. -/
theorem settles_none_of_no_names {id : String} (hhost : (hostExports table).lookup id = none)
    (hpackage : ModuleId.packageOf? id = none)
    (hnames : ∀ build, graph.builds.find? id = some build → build.exports = none) :
    Settles graph table avoided id none := by
  refine settles_of_not_named fun ⟨names, hown⟩ => ?_
  obtain ⟨build, hbuild, hsome⟩ := (ownNames_file_iff hhost hpackage names).1 hown
  rw [hnames build hbuild] at hsome
  exact nomatch hsome

/-! ## Adding the names of star sources -/

/-- The answer on the module to which a star source leads. -/
def StarAnswer (answer : String → Except Fault (Option (List String)))
    (dependencies : OrderedMap String String) (specifier : String)
    (found : Option (List String)) : Prop :=
  ∃ target, dependencies.find? specifier = some target ∧ answer target = .ok found

/-- When every star source has an answer, adding them up fails for none.  The sum is that any name
may be exported as soon as one answer is; otherwise it has the names given, and the names other than
`default` of all answers. -/
theorem addStars_eq (answer : String → Except Fault (Option (List String)))
    (dependencies : OrderedMap String String) (names specifiers : List String)
    (hanswer : ∀ specifier ∈ specifiers, ∃ found, StarAnswer answer dependencies specifier found) :
    (addStars answer dependencies names specifiers = .ok none ∧
        ∃ specifier ∈ specifiers, StarAnswer answer dependencies specifier none) ∨
      ∃ all, addStars answer dependencies names specifiers = .ok (some all) ∧
        (∀ specifier ∈ specifiers,
          ∃ found, StarAnswer answer dependencies specifier (some found)) ∧
          ∀ name, name ∈ all ↔ name ∈ names ∨
            (name ≠ "default" ∧ ∃ specifier ∈ specifiers,
              ∃ found, StarAnswer answer dependencies specifier (some found) ∧ name ∈ found) := by
  induction specifiers generalizing names with
  | nil => exact .inr ⟨names, rfl, by simp, by simp⟩
  | cons specifier specifiers ih =>
      obtain ⟨found, target, htarget, hfound⟩ := hanswer specifier List.mem_cons_self
      cases found with
      | none =>
          refine .inl ⟨by simp [addStars, htarget, hfound], specifier, List.mem_cons_self, ?_⟩
          exact ⟨target, htarget, hfound⟩
      | some starNames =>
          have hrest := ih (names ++ starNames.filter (· != "default"))
            fun s hs => hanswer s (List.mem_cons_of_mem _ hs)
          have hstep : addStars answer dependencies names (specifier :: specifiers) =
              addStars answer dependencies (names ++ starNames.filter (· != "default"))
                specifiers := by
            simp [addStars, htarget, hfound]
          have honly : ∀ others, StarAnswer answer dependencies specifier (some others) ↔
              starNames = others := by
            intro others
            simp [StarAnswer, htarget, hfound]
          rw [hstep]
          rcases hrest with ⟨heq, s, hs, hnone⟩ | ⟨all, heq, hstars, hall⟩
          · exact .inl ⟨heq, s, List.mem_cons_of_mem _ hs, hnone⟩
          · refine .inr ⟨all, heq, ?_, ?_⟩
            · intro s hs
              rcases List.mem_cons.1 hs with rfl | hs
              · exact ⟨starNames, target, htarget, hfound⟩
              · exact hstars s hs
            · intro name
              simp only [hall, List.mem_append, List.mem_filter, bne_iff_ne, List.mem_cons,
                exists_eq_or_imp, honly, exists_eq_left']
              tauto

/-! ## Files -/

/-- The star edges of a file lead to the targets of its star sources. -/
theorem starEdge_iff {id : String} {build : BuiltFile} {names : List String} {m : Module}
    (hbuild : graph.builds.find? id = some build) (hnames : build.exports = some names)
    (hmodule : graph.modules.find? id = some m) (next : String) :
    graph.StarEdge id next ↔
      ∃ specifier ∈ build.starSources, m.dependencies.find? specifier = some next := by
  constructor
  · rintro ⟨build', _, m', specifier, hbuild', _, hmodule', hmem, hfind⟩
    rw [hbuild] at hbuild'
    rw [hmodule] at hmodule'
    cases hbuild'
    cases hmodule'
    exact ⟨specifier, hmem, hfind⟩
  · rintro ⟨specifier, hmem, hfind⟩
    exact ⟨build, names, m, specifier, hbuild, hnames, hmodule, hmem, hfind⟩

/-- What a module offers apart from `default`, a file that exports everything of it offers too. -/
theorem offers_of_starEdge {a b name : String} (hedge : graph.StarEdge a b)
    (hname : name ≠ "default") (h : graph.Offers table b name) : graph.Offers table a name := by
  rcases h with ⟨names, hown, hmem⟩ | ⟨_, other, names, hreach, hown, hmem⟩
  · exact .inr ⟨hname, b, names, .single hedge, hown, hmem⟩
  · exact .inr ⟨hname, other, names, .head hedge hreach, hown, hmem⟩

/-- A file may export any name when a module of which it exports everything may. -/
theorem settles_none_of_starEdge {a b : String} (hedge : graph.StarEdge a b)
    (h : Settles graph table (a :: avoided) b none) : Settles graph table avoided a none := by
  obtain ⟨other, hreach, hother⟩ := h
  exact ⟨other, .head hedge hreach, hother⟩

/-- The sum of a file's own names and of the answers on all modules of which it exports everything
keeps the promise, if these answers keep it while the file itself is being worked out. -/
theorem settles_some_of_starEdges {id : String} {names all : List String}
    (starNames : String → List String → Prop)
    (hown : ∀ others, graph.OwnNames table id others ↔ others = names)
    (hstars : ∀ next, graph.StarEdge id next → ∃ found, starNames next found)
    (hsettles : ∀ next found, starNames next found →
      graph.StarEdge id next ∧ Settles graph table (id :: avoided) next (some found))
    (hall : ∀ name, name ∈ all ↔ name ∈ names ∨
      (name ≠ "default" ∧ ∃ next found, starNames next found ∧ name ∈ found)) :
    Settles graph table avoided id (some all) := by
  refine ⟨?named, ?sound, ?complete⟩
  case named =>
    intro other hways
    rcases hways.eq_or_step with rfl | ⟨next, hedge, hrest⟩
    · exact ⟨names, (hown names).2 rfl⟩
    · obtain ⟨found, hfound⟩ := hstars next hedge
      exact (hsettles next found hfound).2.1 other hrest
  case sound =>
    intro name hmem
    rcases (hall name).1 hmem with hmem | ⟨hname, next, found, hfound, hmem⟩
    · exact .inl ⟨names, (hown names).2 rfl, hmem⟩
    · obtain ⟨hedge, _, hsound, _⟩ := hsettles next found hfound
      exact offers_of_starEdge hedge hname (hsound name hmem)
  case complete =>
    rintro name ⟨other, others, hways, hothers, hmem, hdefault⟩
    refine (hall name).2 ?_
    by_cases hother : other = id
    · rw [hother, hown] at hothers
      exact .inl (hothers ▸ hmem)
    · have hname : name ≠ "default" := fun h => hother (hdefault h)
      rcases hways.eq_or_step with h | ⟨next, hedge, hrest⟩
      · exact absurd h hother
      · obtain ⟨found, hfound⟩ := hstars next hedge
        obtain ⟨_, _, _, hcomplete⟩ := hsettles next found hfound
        refine .inr ⟨hname, next, found, hfound, hcomplete name ?_⟩
        exact ⟨other, others, hrest, hothers, hmem, fun h => absurd h hname⟩

/-- A file settles when the search settles every module of which it exports everything. -/
theorem addStars_settles {answer : String → Except Fault (Option (List String))} {id : String}
    {build : BuiltFile} {names : List String} {m : Module}
    (hbuild : graph.builds.find? id = some build) (hnames : build.exports = some names)
    (hmodule : graph.modules.find? id = some m)
    (hdependencies : ∀ specifier ∈ build.starSources, m.dependencies.contains specifier = true)
    (hown : ∀ others, graph.OwnNames table id others ↔ others = names)
    (hanswer : ∀ next, graph.StarEdge id next →
      ∃ found, answer next = .ok found ∧ Settles graph table (id :: avoided) next found) :
    ∃ found, addStars answer m.dependencies names build.starSources = .ok found ∧
      Settles graph table avoided id found := by
  have hedge := starEdge_iff hbuild hnames hmodule
  -- An answer on a star source is an answer on the end of a star edge, and keeps its promise.
  have hpromise : ∀ specifier ∈ build.starSources, ∀ found,
      StarAnswer answer m.dependencies specifier found →
        ∃ next, graph.StarEdge id next ∧ answer next = .ok found ∧
          Settles graph table (id :: avoided) next found := by
    rintro specifier hmem found ⟨next, hfind, hfound⟩
    have hnext := (hedge next).2 ⟨specifier, hmem, hfind⟩
    obtain ⟨found', hfound', hsettles⟩ := hanswer next hnext
    rw [hfound] at hfound'
    cases hfound'
    exact ⟨next, hnext, hfound, hsettles⟩
  have hall : ∀ specifier ∈ build.starSources,
      ∃ found, StarAnswer answer m.dependencies specifier found := by
    intro specifier hmem
    obtain ⟨next, hfind⟩ := OrderedMap.contains_eq_true_iff.1 (hdependencies specifier hmem)
    obtain ⟨found, hfound, _⟩ := hanswer next ((hedge next).2 ⟨specifier, hmem, hfind⟩)
    exact ⟨found, next, hfind, hfound⟩
  rcases addStars_eq answer m.dependencies names build.starSources hall with
    ⟨heq, specifier, hmem, hnone⟩ | ⟨all, heq, hstars, hmem⟩
  · obtain ⟨next, hnext, _, hsettles⟩ := hpromise specifier hmem none hnone
    exact ⟨none, heq, settles_none_of_starEdge hnext hsettles⟩
  · refine ⟨some all, heq, settles_some_of_starEdges
      (fun next found => graph.StarEdge id next ∧ answer next = .ok (some found)) hown ?_ ?_ ?_⟩
    · intro next hnext
      obtain ⟨specifier, hs, hfind⟩ := (hedge next).1 hnext
      obtain ⟨found, target, htarget, hfound⟩ := hstars specifier hs
      rw [hfind] at htarget
      cases htarget
      exact ⟨found, hnext, hfound⟩
    · rintro next found ⟨hnext, hfound⟩
      obtain ⟨found', hfound', hsettles⟩ := hanswer next hnext
      rw [hfound] at hfound'
      cases hfound'
      exact ⟨hnext, hsettles⟩
    · intro name
      rw [hmem name]
      refine or_congr_right (and_congr_right fun _ => ?_)
      constructor
      · rintro ⟨specifier, hs, found, ⟨next, hfind, hfound⟩, hin⟩
        exact ⟨next, found, ⟨(hedge next).2 ⟨specifier, hs, hfind⟩, hfound⟩, hin⟩
      · rintro ⟨next, found, ⟨hnext, hfound⟩, hin⟩
        obtain ⟨specifier, hs, hfind⟩ := (hedge next).1 hnext
        exact ⟨specifier, hs, found, ⟨next, hfind, hfound⟩, hin⟩

/-! ## The search -/

/-- Every answer that is kept is exact. -/
def KnownExact (graph : ModuleGraph) (table : ExportTable) (known : Known) : Prop :=
  ∀ id found, known.lookup id = some found → Settles graph table [] id found

/-- The modules being worked out are built files, so that there is always room for one more step. -/
theorem length_visiting_le {visiting : List String} (hnodup : visiting.Nodup)
    (hbuilt : ∀ id ∈ visiting, id ∈ graph.builds.keys) :
    visiting.length ≤ graph.builds.size := by
  have := hnodup.length_le_of_subset hbuilt
  simpa [OrderedMap.keys, OrderedMap.size] using this

/-- A file that is not being worked out settles when all steps from it do. -/
theorem exportsOf_file_settles (hgraph : graph.WellFormed sources) {known : Known} {fuel : Nat}
    {visiting : List String} {id : String} {build : BuiltFile} {names : List String}
    (hhost : (hostExports table).lookup id = none) (hpackage : ModuleId.packageOf? id = none)
    (hmemo : known.lookup id = none) (hbuild : graph.builds.find? id = some build)
    (hnames : build.exports = some names) (hvisited : id ∉ visiting)
    (hsteps : ∀ next, ∃ found, exportsOf graph table known fuel (id :: visiting) next = .ok found ∧
      Settles graph table (id :: visiting) next found) :
    ∃ found, exportsOf graph table known (fuel + 1) visiting id = .ok found ∧
      Settles graph table visiting id found := by
  obtain ⟨_, _, m, hmodule, hdependencies⟩ := hgraph id build hbuild
  have hsearch : exportsOf graph table known (fuel + 1) visiting id =
      addStars (exportsOf graph table known fuel (id :: visiting)) m.dependencies names
        build.starSources := by
    simp [exportsOf, hhost, hpackage, hmemo, hbuild, hnames, hvisited, hmodule]
  rw [hsearch]
  refine addStars_settles hbuild hnames hmodule hdependencies ?_ fun next _ => hsteps next
  intro others
  rw [ownNames_file_iff hhost hpackage]
  simp [hbuild, hnames, eq_comm]

/-- The search answers on every module and keeps its promise. -/
theorem exportsOf_settles (hgraph : graph.WellFormed sources) {known : Known}
    (hknown : KnownExact graph table known) (fuel : Nat) (visiting : List String) (id : String)
    (hnodup : visiting.Nodup) (hbuilt : ∀ v ∈ visiting, v ∈ graph.builds.keys)
    (hfuel : visiting.length + fuel = fuelFor graph) :
    ∃ found, exportsOf graph table known fuel visiting id = .ok found ∧
      Settles graph table visiting id found := by
  -- The induction is on the fuel; what carries it is that fuel and work in hand add up.
  induction fuel generalizing visiting id with
  | zero =>
      have := length_visiting_le hnodup hbuilt
      simp only [fuelFor] at hfuel
      omega
  | succ fuel ih =>
      cases hhost : (hostExports table).lookup id with
      | some names => exact ⟨some names, by simp [exportsOf, hhost], settles_host hgraph hhost⟩
      | none =>
      cases hpackage : ModuleId.packageOf? id with
      | some specifier =>
          obtain rfl := ModuleId.packageOf?_eq_some_iff.1 hpackage
          exact ⟨_, by simp only [exportsOf, hhost, hpackage], settles_package hgraph hhost⟩
      | none =>
      cases hmemo : known.lookup id with
      | some found =>
          exact ⟨found, by simp only [exportsOf, hhost, hpackage, hmemo],
            (hknown id found hmemo).of_nil⟩
      | none =>
      cases hbuild : graph.builds.find? id with
      | none =>
          exact ⟨none, by simp only [exportsOf, hhost, hpackage, hmemo, hbuild],
            settles_none_of_no_names hhost hpackage (by simp [hbuild])⟩
      | some build =>
      cases hnames : build.exports with
      | none =>
          exact ⟨none, by simp only [exportsOf, hhost, hpackage, hmemo, hbuild, hnames],
            settles_none_of_no_names hhost hpackage (by simp [hbuild, hnames])⟩
      | some names =>
      by_cases hvisited : id ∈ visiting
      · exact ⟨some [], by simp [exportsOf, hhost, hpackage, hmemo, hbuild, hnames, hvisited],
          settles_of_mem hvisited⟩
      · refine exportsOf_file_settles hgraph hhost hpackage hmemo hbuild hnames hvisited ?_
        intro next
        refine ih (id :: visiting) next (List.nodup_cons.2 ⟨hvisited, hnodup⟩) ?_ ?_
        · intro v hv
          rcases List.mem_cons.1 hv with rfl | hv
          · exact OrderedMap.mem_keys_iff.2
              (OrderedMap.contains_of_find? hbuild)
          · exact hbuilt v hv
        · simp only [List.length_cons]
          omega

/-- A search from the top is exact, and keeping its answer keeps all answers exact. -/
theorem exportsOf_exact (hgraph : graph.WellFormed sources) {known : Known}
    (hknown : KnownExact graph table known) (id : String) :
    ∃ found, exportsOf graph table known (fuelFor graph) [] id = .ok found ∧
      Settles graph table [] id found ∧ KnownExact graph table ((id, found) :: known) := by
  obtain ⟨found, heq, hsettles⟩ :=
    exportsOf_settles hgraph hknown (fuelFor graph) [] id List.nodup_nil (by simp) (by simp)
  refine ⟨found, heq, hsettles, ?_⟩
  intro other others hlookup
  rw [List.lookup_cons] at hlookup
  split at hlookup
  · rename_i hother
    rw [beq_iff_eq] at hother
    cases hlookup
    rwa [hother]
  · exact hknown other others hlookup

end ExportCheck
end VideoBundle
