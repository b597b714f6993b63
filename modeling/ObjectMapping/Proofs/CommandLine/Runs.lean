import ObjectMapping.CommandLine.Run
import ObjectMapping.Proofs.Manifest.Catalog
import ObjectMapping.Proofs.Manifest.Generation
import ObjectMapping.Proofs.Report.Contents

/-!
Runs over a manifest account for all of its mappings. Nothing is planned if a type is missing or
the workers cannot be started, and the run tells the first type that is missing. Otherwise it writes
the units of all mappers, and ends in an error exactly if a mapping failed.
-/

namespace ObjectMapping

/-- What a text has to hold to show units: their documents one by one, or their lines. -/
def PlanFormat.Shows (format : PlanFormat) (units : List PlanUnit) (text : String) : Prop :=
  match format with
  | .json =>
    let document := (Json.array (units.map PlanUnit.toDocument)).sortKeys
    text = document.indented ++ "\n" ∧
      (document.fits Json.Reader.maxDepth = true →
        Json.read .anything text = .ok (.array (units.map fun u => u.toDocument.sortKeys)))
  | .summary => text = Text.unlines ([""].intercalate (units.map PlanUnit.lines))

namespace CommandLine

/-! ### What is written -/

/-- Whatever the format, the text that is written shows all units in order. -/
theorem render_shows (format : PlanFormat) (units : List PlanUnit) :
    format.Shows units (render format units) := by
  cases format with
  | json => exact ⟨rfl, PlanUnit.read_documentText⟩
  | summary => exact PlanUnit.summaryText_eq units

structure Ending.Reports (ending : Ending) (g : Generation) (stdout : String) : Prop where
  stdout : ending.stdout = stdout
  failures : ending.failures = failureReport g.failures
  exitCode : ending.exitCode ≠ 0 ↔ g.failures ≠ []

/-- A run that has written its plans reports all failures, and fails if there are any. -/
theorem endingOf_reports (g : Generation) (stdout : String) :
    (endingOf stdout g.failures).Reports g stdout := by
  refine ⟨rfl, rfl, ?_⟩
  unfold endingOf Ending.exitCode
  cases g.failures <;> simp

/-! ### Files -/

namespace Directory

variable {d d' : Directory} {path text : String}

def Holds (d : Directory) (path : String) (m : Manifest) : Prop :=
  ∃ text, d.textAt path = .ok text ∧ Manifest.read text = .ok m

/-- The text is put where the path leads, and nothing else changes. The null device takes it and
stays as it is. -/
def Keeps (d d' : Directory) (path text : String) : Prop :=
  ∃ spot, d.placeFor path = .ok spot ∧ (spot ≠ nullDevice → d'.textOf? spot = some text) ∧
    ∀ other : Spot, other.path ≠ spot.path → d'.textOf? other = d.textOf? other

/-- A text that is put into a directory is found there. -/
theorem keeps_of_put (h : d.put path text = .ok d') : d.Keeps d' path text := by
  obtain ⟨spot, hspot, hd'⟩ := bind_eq_ok_iff.mp h
  refine ⟨spot, hspot, ?_⟩
  cases hd'
  by_cases hnull : spot = nullDevice
  · rw [if_pos hnull]
    exact ⟨fun hne => absurd hnull hne, fun _ _ => rfl⟩
  · rw [if_neg hnull]
    refine ⟨fun _ => ?_, fun other hother => ?_⟩
    · rw [textOf?, if_neg hnull, SortedTable.find?_insert, if_pos rfl]
    · rw [textOf?, textOf?, SortedTable.find?_insert, if_neg hother]

end Directory

/-! ### Runs -/

variable {d d' : Directory} {path : String} {m : Manifest} {workers : Workers}
  {assignments : List String} {format : PlanFormat} {g : Generation}

theorem run_bind_of_run {σ α β : Type} {x : StateM σ α} {f : α → StateM σ β} {s s' : σ} {a : α}
    (h : x.run s = (a, s')) : (x >>= f).run s = (f a).run s' := by
  rw [StateT.run_bind, h]
  rfl

/-- Loading a manifest gives what its document holds, and changes no file. -/
theorem run_loadManifest (hm : d.Holds path m) :
    (loadManifest Directory.access path).run d = (.ok m, d) := by
  obtain ⟨text, htext, hread⟩ := hm
  have haccess : (Directory.access.read path).run d = (.ok text, d) := by
    rw [← htext]
    rfl
  rw [loadManifest, run_bind_of_run haccess]
  simp only [hread]
  rfl

/-- A run that plans nothing leaves all files as they are. -/
theorem run_runPlan_of_error {error : Generation.Error} (hm : d.Holds path m)
    (h : m.generate workers assignments = .error error) (output : Option String) :
    (runPlan Directory.access workers path assignments format output).run d =
      (.ofError error.chain, d) := by
  rw [runPlan, run_bind_of_run (run_loadManifest hm)]
  simp only [h]
  rfl

/-- Without a target the plans are shown. -/
theorem run_runPlan_none (hm : d.Holds path m) (h : m.generate workers assignments = .ok g) :
    (runPlan Directory.access workers path assignments format none).run d =
      (endingOf (render format g.units) g.failures, d) := by
  rw [runPlan, run_bind_of_run (run_loadManifest hm)]
  simp only [h]
  rfl

/-- With a target the plans are put there, and nothing is shown but the failures. -/
theorem run_runPlan_some {target : String} (hm : d.Holds path m)
    (h : m.generate workers assignments = .ok g)
    (hput : d.put target (render format g.units) = .ok d') :
    (runPlan Directory.access workers path assignments format (some target)).run d =
      (endingOf "" g.failures, d') := by
  have hwrite : (Directory.access.write target (render format g.units)).run d = (.ok (), d') := by
    have hget : (get : StateM Directory Directory).run d = (d, d) := rfl
    rw [Directory.access, run_bind_of_run hget]
    simp only [hput]
    rfl
  rw [runPlan, run_bind_of_run (run_loadManifest hm)]
  simp only [h]
  rw [run_bind_of_run hwrite]
  rfl

/-- A run over a manifest accounts for all of its mappings. If as many workers can be started as it
asks for, it fails exactly if a type that a request names is missing. It tells the first one that is
missing, or else what keeps the workers from being started, and writes nothing. Otherwise it ends
after it has written a unit for each mapper, in an error exactly if a mapping failed. -/
theorem runPlan_accounts (m : Manifest) (workers : Workers) (assignments : List String)
    (c : Config) (e : Engine) (hconfig : m.config assignments = .ok c)
    (hengine : m.engine c = .ok e) :
    (workers.Suffice c.maxParallelJobs →
      ((∃ error, e.resolveAll workers m.requests = .error error) ↔
        ∃ request ∈ m.requests, m.types.describe? request.source = none ∨
          m.types.describe? request.target = none)) ∧
    (∀ name role, e.resolveAll workers m.requests = .error (.typeNotFound name role) ↔
      m.types.FirstMissing m.requests name role) ∧
    (∀ fault, e.resolveAll workers m.requests = .error (.workers fault) ↔
      m.types.Serves m.requests ∧ workers.Lack c.maxParallelJobs fault) ∧
    (∀ error, e.resolveAll workers m.requests = .error error →
      m.generate workers assignments = .error (.generation error) ∧
      ∀ (d : Directory) path format output, d.Holds path m →
        (runPlan Directory.access workers path assignments format output).run d =
          (.ofError (error.message :: error.causes), d)) ∧
    (∀ outcomes, e.resolveAll workers m.requests = .ok outcomes →
      ∃ g, m.generate workers assignments = .ok g ∧ g.AccountsFor m c e ∧
        ∀ format, ∃ text, format.Shows g.units text ∧
          ∀ (d : Directory) path, d.Holds path m →
            (∃ ending,
              (runPlan Directory.access workers path assignments format none).run d = (ending, d) ∧
              ending.Reports g text) ∧
            ∀ target d', d.put target text = .ok d' → d.Keeps d' target text ∧
              ∃ ending, (runPlan Directory.access workers path assignments format
                (some target)).run d = (ending, d') ∧ ending.Reports g "") := by
  have hcatalog : e.catalog = m.types := Manifest.catalog_of_engine hengine
  have hjobs : e.maxParallelJobs = c.maxParallelJobs := Manifest.maxParallelJobs_of_engine hengine
  -- the engine has the types of the manifest, and the workers that its options ask for
  rw [← hcatalog, ← hjobs]
  refine ⟨Engine.exists_error_iff, fun _ _ => Engine.resolveAll_eq_typeNotFound_iff,
    fun _ => Engine.resolveAll_eq_workers_iff, ?_, ?_⟩
  · intro error herror
    have hgenerate := Manifest.generate_eq_error hconfig hengine herror
    exact ⟨hgenerate, fun _ _ _ output hm => run_runPlan_of_error hm hgenerate output⟩
  · intro outcomes houtcomes
    obtain ⟨g, hgenerate, haccounts⟩ := Manifest.exists_generate hconfig hengine houtcomes
    refine ⟨g, hgenerate, haccounts, fun format => ⟨_, render_shows format g.units, ?_⟩⟩
    intro d path hm
    refine ⟨⟨_, run_runPlan_none hm hgenerate, endingOf_reports g _⟩, ?_⟩
    intro target d' hput
    exact ⟨Directory.keeps_of_put hput, _, run_runPlan_some hm hgenerate hput,
      endingOf_reports g _⟩

end CommandLine

namespace Manifest

def parts (m : Manifest) :
    List (String × OptionValue) × List TypeDescriptor × List ConverterDecl × List Mapper :=
  (m.options.entries, m.types.types, m.converters, m.mappers)

theorem ext_parts {m m' : Manifest} (h : m.parts = m'.parts) : m = m' := by
  obtain ⟨options, types, converters, mappers⟩ := m
  obtain ⟨options', types', converters', mappers'⟩ := m'
  simp only [parts, Prod.mk.injEq] at h
  obtain ⟨hoptions, htypes, rfl, rfl⟩ := h
  rw [SortedTable.ext hoptions, Catalog.ext htypes]

/-- A manifest is read if its parts are, which can be compared by evaluation. -/
theorem read_eq_ok_of_parts {text : String} {m : Manifest}
    (h : (read text).toOption.map parts = some m.parts) : read text = .ok m := by
  obtain ⟨m', hread, hparts⟩ := exists_of_toOption_map h
  rw [hread, ext_parts hparts]

end Manifest

namespace Sample

open CommandLine

def shop : Manifest where
  options := .ofList []
  types := .ofList
    [{ name := "Sale", properties := [{ name := "total", type := { name := "Int" } }],
       constructors := [⟨[{ name := "total", type := { name := "Int" } }]⟩] },
     { name := "Bill" }]
  mappers :=
    [{ name := "Idle" },
     { name := "Till",
       mappings :=
         [{ source := "Sale", target := "Bill" }, { source := "Sale", target := "Sale" }] }]

def refunding : Manifest :=
  let desk : Mapper :=
    { name := "Desk", mappings := [{ source := "Sale", target := "Refund" }] }
  { shop with mappers := shop.mappers ++ [desk] }

def busyText : String := "Resource temporarily unavailable (os error 11)"

def fewWorkers : Workers := fun count =>
  if count ≤ 8 then .ok () else .error ⟨busyText, [busyText]⟩

def shopEngine (jobs : Nat) : Engine := ⟨⟨.standard, false⟩, shop.types, some jobs⟩

def shopText : String :=
  let mapping (target : String) := Json.object [("source", .text "Sale"), ("target", .text target)]
  let total := Json.array [.object [("name", .text "total"), ("type", .text "Int")]]
  let sale := Json.object
    [("name", .text "Sale"), ("properties", total),
     ("constructors", .array [.object [("parameters", total)]])]
  (Json.object
    [("types", .array [sale, .object [("name", .text "Bill")]]),
     ("mappers", .array
       [.object [("name", .text "Idle")],
        .object [("name", .text "Till"), ("mappings", .array [mapping "Bill", mapping "Sale"])]
       ])]).compact

theorem read_shopText : Manifest.read shopText = .ok shop := by
  apply Manifest.read_eq_ok_of_parts
  decide +kernel

def folderOf (text : String) : Directory :=
  SortedTable.ofList [("m", text)]

theorem textAt_folderOf (text : String) : (folderOf text).textAt "m" = .ok text := by
  have hspot : (pathNames "m").foldlM (folderOf text).follow (pathStart "m") = .ok ["m"] := by
    have hnames : pathNames "m" = ["m"] := by decide +kernel
    have hstart : pathStart "m" = [] := by decide +kernel
    rw [hnames, hstart]
    rfl
  have htext : (folderOf text).textOf? ["m"] = some text := rfl
  have hend : "m".endsWith "/" = false := by decide +kernel
  refine bind_eq_ok_iff.mpr ⟨(), rfl, bind_eq_ok_iff.mpr ⟨["m"], hspot, ?_⟩⟩
  simp only [htext, hend]
  rfl

theorem folderOf_holds {text : String} {m : Manifest} (h : Manifest.read text = .ok m) :
    (folderOf text).Holds "m" m :=
  ⟨text, textAt_folderOf text, h⟩

theorem placeFor_folderOf (text : String) : (folderOf text).placeFor "p" = .ok ["p"] := by
  have hnames : pathNames "p" = ["p"] := by decide +kernel
  have hstart : pathStart "p" = [] := by decide +kernel
  have hend : "p".endsWith "/" = false := by decide +kernel
  have hspot : (folderOf text).follow [] "p" = .ok ["p"] := rfl
  have hfolder : (folderOf text).isFolder ["p"] = false := by
    have hkeys : (folderOf text).keys = ["m"] := rfl
    rw [Directory.isFolder, hkeys]
    decide +kernel
  refine bind_eq_ok_iff.mpr ⟨(), rfl, ?_⟩
  simp only [hnames, hstart, hend]
  refine bind_eq_ok_iff.mpr ⟨[], rfl, bind_eq_ok_iff.mpr ⟨["p"], hspot, ?_⟩⟩
  rw [hfolder]
  rfl

def saleResult : MappingResult where
  sourceType := "Sale"
  targetType := "Sale"
  constructor := ⟨[{ name := "Int" }]⟩
  constructorIndex := 0
  properties :=
    [{ target := "total", targetType := { name := "Int" },
       resolution := .matchedByName "total" (.direct { name := "Int" } { name := "Int" } .none) }]
  unresolved := []

def shopUnits : List PlanUnit :=
  [{ name := "IdleKonverter", outputNamespace := "", results := [] },
   { name := "TillKonverter", outputNamespace := "", results := [saleResult] }]

def shopSummary : String :=
  "IdleKonverter\n\nTillKonverter\n  Sale -> Sale (Int)\n    total            total\n"

def shopFailures : String :=
  "\nFailed mappings (1):\n  Sale -> Bill\n" ++
    "    - no constructor of Bill can be satisfied; blocked by: \n"

def shopDocument : String :=
  Text.unlines
    ["[",
     "  \x7b",
     "    \"mappings\": [],",
     "    \"namespace\": \"\",",
     "    \"unit\": \"IdleKonverter\"",
     "  \x7d,",
     "  \x7b",
     "    \"mappings\": [",
     "      \x7b",
     "        \"constructor\": [",
     "          \"Int\"",
     "        ],",
     "        \"constructor_index\": 0,",
     "        \"properties\": [",
     "          \x7b",
     "            \"phase\": \"constructor\",",
     "            \"resolution\": \x7b",
     "              \"kind\": \"matched_by_name\",",
     "              \"source\": \"total\",",
     "              \"step\": \x7b",
     "                \"null_handling\": \"none\",",
     "                \"source\": \"Int\",",
     "                \"target\": \"Int\"",
     "              \x7d",
     "            \x7d,",
     "            \"target\": \"total\",",
     "            \"target_type\": \"Int\"",
     "          \x7d",
     "        ],",
     "        \"source_type\": \"Sale\",",
     "        \"target_type\": \"Sale\",",
     "        \"unsafe_unwrap\": false",
     "      \x7d",
     "    ],",
     "    \"namespace\": \"\",",
     "    \"unit\": \"TillKonverter\"",
     "  \x7d",
     "]"]

theorem eq_shopSummary {text : String} (h : PlanFormat.summary.Shows shopUnits text) :
    text = shopSummary := by
  have htext : text = Text.unlines ([""].intercalate (shopUnits.map PlanUnit.lines)) := h
  rw [htext]
  decide +kernel

theorem eq_shopDocument {text : String} (h : PlanFormat.json.Shows shopUnits text) :
    text = shopDocument ∧ Json.read .anything text =
      .ok (.array (shopUnits.map fun u => u.toDocument.sortKeys)) := by
  obtain ⟨htext, hread⟩ := h
  refine ⟨?_, hread (by decide +kernel)⟩
  rw [htext]
  decide +kernel

/-- Four workers plan one sale of the shop, and the bill is reported as a failure. With the mapping
of a refund nothing would be planned, and neither if sixty-four workers were asked for. -/
theorem shop_accounted :
    (∃ g, shop.generate fewWorkers ["maxParallelJobs=4"] = .ok g ∧
      g.AccountsFor shop { maxParallelJobs := some 4 } (shopEngine 4) ∧
      g.units.map (·.results.length) = [0, 1] ∧
      (∃ ending, (runPlan Directory.access fewWorkers "m" ["maxParallelJobs=4"] .summary none).run
          (folderOf shopText) = (ending, folderOf shopText) ∧
        ending.stdout = shopSummary ∧ ending.failures = shopFailures ∧ ending.exitCode ≠ 0) ∧
      ∃ ending d', (runPlan Directory.access fewWorkers "m" ["maxParallelJobs=4"] .json
          (some "p")).run (folderOf shopText) = (ending, d') ∧
        d'.textOf? ["p"] = some shopDocument ∧ d'.textOf? ["m"] = some shopText ∧
        ending.exitCode ≠ 0 ∧
        Json.read .anything shopDocument =
          .ok (.array (shopUnits.map fun u => u.toDocument.sortKeys))) ∧
    (fewWorkers.Suffice (some 4) ∧
      (∃ error, (shopEngine 4).resolveAll fewWorkers refunding.requests = .error error) ∧
      refunding.generate fewWorkers ["maxParallelJobs=4"] =
        .error (.generation (.typeNotFound "Refund" .target))) ∧
    (runPlan Directory.access fewWorkers "m" ["maxParallelJobs=64"] .summary none).run
        (folderOf shopText) =
      (.ofError ["failed to build worker pool: Resource temporarily unavailable (os error 11)",
        busyText, busyText], folderOf shopText) := by
  have hfour : shop.config ["maxParallelJobs=4"] = .ok { maxParallelJobs := some 4 } := by
    decide +kernel
  have hmany : shop.config ["maxParallelJobs=64"] = .ok { maxParallelJobs := some 64 } := by
    decide +kernel
  have hholds := folderOf_holds read_shopText
  refine ⟨?_, ?_, ?_⟩
  · obtain ⟨_, _, _, _, hplans⟩ := runPlan_accounts shop fewWorkers _ _ (shopEngine 4) hfour rfl
    obtain ⟨g, hgenerate, haccounts, htexts⟩ := hplans _ rfl
    have hunits : g.units = shopUnits := haccounts.units.trans rfl
    have hfailures : g.failures = [⟨"Sale", "Bill", [.noMatchingConstructor "Bill" []]⟩] :=
      haccounts.failures.trans rfl
    have hfailed : g.failures ≠ [] := by
      rw [hfailures]
      exact List.cons_ne_nil _ _
    refine ⟨g, hgenerate, haccounts, by rw [hunits]; rfl, ?_, ?_⟩
    · obtain ⟨text, htext, hruns⟩ := htexts .summary
      rw [hunits] at htext
      obtain ⟨⟨ending, hrun, hreports⟩, _⟩ := hruns _ "m" hholds
      refine ⟨ending, hrun, ?_, ?_, hreports.exitCode.mpr hfailed⟩
      · rw [hreports.stdout]
        exact eq_shopSummary htext
      · rw [hreports.failures, hfailures]
        decide +kernel
    · obtain ⟨text, htext, hruns⟩ := htexts .json
      rw [hunits] at htext
      obtain ⟨rfl, hread⟩ := eq_shopDocument htext
      obtain ⟨_, hputs⟩ := hruns _ "m" hholds
      obtain ⟨⟨spot, hspot, hstored, hothers⟩, ending, hrun, hreports⟩ := hputs "p" _
        (bind_eq_ok_iff.mpr ⟨_, placeFor_folderOf shopText, rfl⟩)
      -- the plans stand in a file of their own, next to the manifest
      cases (placeFor_folderOf shopText).symm.trans hspot
      refine ⟨ending, _, hrun, hstored (by decide), ?_, hreports.exitCode.mpr hfailed, hread⟩
      rw [hothers ["m"] (by decide +kernel)]
      rfl
  · obtain ⟨hfails, _, _, hnothing, _⟩ :=
      runPlan_accounts refunding fewWorkers _ _ (shopEngine 4) hfour rfl
    -- the sale and the bill come first, but it is the refund that decides
    have hstart : fewWorkers.Suffice (some 4) := by
      intro jobs hjobs
      cases hjobs
      rfl
    have hrefund : ⟨"Sale", "Refund", [], none⟩ ∈ refunding.requests := by decide
    exact ⟨hstart, (hfails hstart).mpr ⟨_, hrefund, .inr rfl⟩, (hnothing _ rfl).1⟩
  · obtain ⟨_, _, _, hnothing, _⟩ :=
      runPlan_accounts shop fewWorkers _ _ (shopEngine 64) hmany rfl
    have hmessage : (GenerationError.workers ⟨busyText, [busyText]⟩).message =
        "failed to build worker pool: Resource temporarily unavailable (os error 11)" := by
      decide +kernel
    rw [(hnothing (.workers ⟨busyText, [busyText]⟩) rfl).2 _ "m" .summary none hholds, hmessage]
    rfl

end Sample

end ObjectMapping
